import Mathlib.Logic.Basic

/-!
# State and exceptions

`Effect S E α` is a computation on a state `S` that returns an `α` or raises an
`E`; unlike in `StateT S (Except E)`, what it did to the state before it raised
stays done.

`wp m Q s` says that `m`, run from `s`, ends with a result and a state that
satisfy `Q`. Each construct has an equation (`wp_pure`, `wp_bind`, …), and a call
is replaced by its specification with `wp_mono`. `Returns P m` is about the
results alone, `Raises P m` about the exceptions. `Decreases r m` is the frame rule for a preorder `r`: whatever
happens, the state after `m` is below the state before it.
-/

namespace Framework

def Effect (S E α : Type) : Type := S → Except E α × S

namespace Effect

variable {S E α β : Type}

def pure (a : α) : Effect S E α := fun s => (.ok a, s)

def bind (m : Effect S E α) (f : α → Effect S E β) : Effect S E β := fun s =>
  match m s with
  | (.ok a, s') => f a s'
  | (.error e, s') => (.error e, s')

def throw (e : E) : Effect S E α := fun s => (.error e, s)

/-- Runs `handle` on an exception. -/
def tryCatch (m : Effect S E α) (handle : E → Effect S E α) : Effect S E α := fun s =>
  match m s with
  | (.ok a, s') => (.ok a, s')
  | (.error e, s') => handle e s'

instance : Monad (Effect S E) where
  pure := Effect.pure
  bind := Effect.bind

instance : MonadExcept E (Effect S E) where
  throw := Effect.throw
  tryCatch := Effect.tryCatch

/-! ## Weakest preconditions -/

/-- The result of `m` and the state that it leaves satisfy `Q`. -/
def wp (m : Effect S E α) (Q : Except E α → S → Prop) (s : S) : Prop := Q (m s).1 (m s).2

/-- The postcondition of the first part of a sequence. -/
def Seq (f : α → Effect S E β) (Q : Except E β → S → Prop) : Except E α → S → Prop
  | .ok a, s => wp (f a) Q s
  | .error e, s => Q (.error e) s

variable {Q R : Except E α → S → Prop} {s : S}

theorem wp_mono {m : Effect S E α} (h : wp m Q s) (hQR : ∀ r s', Q r s' → R r s') : wp m R s := hQR _ _ h

theorem wp_mp {m : Effect S E α} (h : wp m Q s) (h' : wp m (fun r s' => Q r s' → R r s') s) : wp m R s := h' h

theorem wp_and {m : Effect S E α} (h : wp m Q s) (h' : wp m R s) : wp m (fun r s' => Q r s' ∧ R r s') s := ⟨h, h'⟩

@[simp] theorem wp_pure (a : α) : wp (Pure.pure a : Effect S E α) Q s ↔ Q (.ok a) s := Iff.rfl

@[simp] theorem wp_throw (e : E) : wp (MonadExcept.throw e : Effect S E α) Q s ↔ Q (.error e) s := Iff.rfl

@[simp] theorem seq_ok {f : β → Effect S E α} {b : β} : Seq f Q (.ok b) s ↔ wp (f b) Q s := Iff.rfl

@[simp] theorem seq_error {f : β → Effect S E α} {e : E} : Seq f Q (.error e) s ↔ Q (.error e) s := Iff.rfl

theorem wp_bind {m : Effect S E β} {f : β → Effect S E α} : wp (m >>= f) Q s ↔ wp m (Seq f Q) s := by
  show wp (Effect.bind m f) Q s ↔ _
  unfold wp Effect.bind
  rcases m s with ⟨_ | a, s'⟩ <;> exact Iff.rfl

theorem wp_map {m : Effect S E β} {f : β → α} : wp (f <$> m) Q s ↔ wp m (fun r => Q (r.map f)) s := by
  show wp (Effect.bind m fun b => Effect.pure (f b)) Q s ↔ _
  unfold wp Effect.bind
  rcases m s with ⟨_ | b, s'⟩ <;> exact Iff.rfl

theorem wp_tryCatch {m : Effect S E α} {handle : E → Effect S E α} :
    wp (MonadExcept.tryCatch m handle) Q s ↔
      wp m (fun r s' => match r with
        | .ok a => Q (.ok a) s'
        | .error e => wp (handle e) Q s') s := by
  show wp (Effect.tryCatch m handle) Q s ↔ _
  unfold wp Effect.tryCatch
  rcases m s with ⟨_ | a, s'⟩ <;> exact Iff.rfl

theorem wp_ite {p : Prop} [Decidable p] {m m' : Effect S E α} :
    wp (if p then m else m') Q s ↔ if p then wp m Q s else wp m' Q s := by
  split <;> exact Iff.rfl

/-! ## Runs -/

section Runs

variable {s s' : S} {a : α} {e : E} {m : Effect S E α} {f : α → Effect S E β}

theorem bind_of_ok (h : m s = (.ok a, s')) : (m >>= f) s = f a s' := by
  show Effect.bind m f s = _
  unfold Effect.bind
  rw [h]

theorem bind_of_error (h : m s = (.error e, s')) : (m >>= f) s = (.error e, s') := by
  show Effect.bind m f s = _
  unfold Effect.bind
  rw [h]

theorem map_of_ok {g : α → β} (h : m s = (.ok a, s')) : (g <$> m) s = (.ok (g a), s') := bind_of_ok h

theorem map_of_error {g : α → β} (h : m s = (.error e, s')) : (g <$> m) s = (.error e, s') := bind_of_error h

theorem tryCatch_of_ok {handle : E → Effect S E α} (h : m s = (.ok a, s')) :
    (MonadExcept.tryCatch m handle : Effect S E α) s = (.ok a, s') := by
  show Effect.tryCatch m handle s = _
  unfold Effect.tryCatch
  rw [h]

theorem tryCatch_of_error {handle : E → Effect S E α} (h : m s = (.error e, s')) :
    (MonadExcept.tryCatch m handle : Effect S E α) s = handle e s' := by
  show Effect.tryCatch m handle s = _
  unfold Effect.tryCatch
  rw [h]

end Runs

/-! ## Results -/

section Returns

variable {P : α → Prop}

/-- What `m` returns satisfies `P`. -/
def Returns (P : α → Prop) (m : Effect S E α) : Prop := ∀ s, wp m (fun r _ => ∀ a, r = .ok a → P a) s

theorem Returns.pure {a : α} (h : P a) : Returns P (Pure.pure a : Effect S E α) := by
  intro s b hb
  cases hb
  exact h

theorem Returns.throw (e : E) : Returns P (MonadExcept.throw e : Effect S E α) := fun _ => nofun

theorem Returns.bind {m : Effect S E β} {f : β → Effect S E α} (hf : ∀ b, Returns P (f b)) : Returns P (m >>= f) := by
  intro s
  rw [wp_bind]
  show Seq f _ (m s).1 (m s).2
  cases (m s).1 with
  | ok b => exact hf b _
  | error e => exact nofun

/-- What the first part returns is known in the second. -/
theorem Returns.bind_of {P' : β → Prop} {m : Effect S E β} {f : β → Effect S E α} (hm : Returns P' m)
    (hf : ∀ b, P' b → Returns P (f b)) : Returns P (m >>= f) := by
  intro s
  rw [wp_bind]
  refine wp_mono (hm s) fun r s' h => ?_
  cases r with
  | ok b => exact hf b (h b rfl) s'
  | error e => exact nofun

theorem Returns.ite {p : Prop} [Decidable p] {m m' : Effect S E α} (hm : Returns P m) (hm' : Returns P m') :
    Returns P (if p then m else m') := by
  split
  · exact hm
  · exact hm'

end Returns

section Raises

variable {P : E → Prop}

/-- What `m` raises satisfies `P`. -/
def Raises (P : E → Prop) (m : Effect S E α) : Prop := ∀ s, wp m (fun r _ => ∀ e, r = .error e → P e) s

theorem Raises.pure (a : α) : Raises P (Pure.pure a : Effect S E α) := fun _ => nofun

theorem Raises.throw {e : E} (h : P e) : Raises P (MonadExcept.throw e : Effect S E α) := by
  intro s e' he
  cases he
  exact h

/-- A computation that always returns. -/
theorem Raises.of_ok {m : Effect S E α} (h : ∀ s, ∃ a, (m s).1 = .ok a) : Raises P m := by
  intro s e he
  obtain ⟨a, ha⟩ := h s
  rw [ha] at he
  cases he

theorem Raises.bind {m : Effect S E β} {f : β → Effect S E α} (hm : Raises P m) (hf : ∀ b, Raises P (f b)) :
    Raises P (m >>= f) := by
  intro s
  rw [wp_bind]
  refine wp_mono (hm s) fun r s' h => ?_
  cases r with
  | ok b => exact hf b s'
  | error e =>
    intro e' he
    cases he
    exact h e rfl

/-- The exception that is handled is one of the first part. -/
theorem Raises.tryCatch {m : Effect S E α} {handle : E → Effect S E α} (hm : Raises P m)
    (hh : ∀ e, P e → Raises P (handle e)) : Raises P (MonadExcept.tryCatch m handle) := by
  intro s
  rw [wp_tryCatch]
  refine wp_mono (hm s) fun r s' h => ?_
  cases r with
  | ok a => nofun
  | error e => exact hh e (h e rfl) s'

theorem Raises.ite {p : Prop} [Decidable p] {m m' : Effect S E α} (hm : p → Raises P m) (hm' : ¬p → Raises P m') :
    Raises P (if p then m else m') := by
  split
  · rename_i h
    exact hm h
  · rename_i h
    exact hm' h

end Raises

/-! ## Frames -/

section Decreases

variable {r : S → S → Prop}

/-- The state after `m` is below the state before it. -/
def Decreases (r : S → S → Prop) (m : Effect S E α) : Prop := ∀ s, r (m s).2 s

theorem Decreases.to_wp {m : Effect S E α} (h : Decreases r m) (s : S) : wp m (fun _ s' => r s' s) s := h s

theorem Decreases.pure (hrefl : ∀ s, r s s) (a : α) : Decreases r (Pure.pure a : Effect S E α) := fun s => hrefl s

theorem Decreases.throw (hrefl : ∀ s, r s s) (e : E) : Decreases r (MonadExcept.throw e : Effect S E α) :=
  fun s => hrefl s

theorem Decreases.bind (htrans : ∀ {a b c}, r a b → r b c → r a c) {m : Effect S E β} {f : β → Effect S E α}
    (hm : Decreases r m) (hf : ∀ b, Decreases r (f b)) : Decreases r (m >>= f) := by
  intro s
  show r (Effect.bind m f s).2 s
  have h := hm s
  unfold Effect.bind
  rcases hms : m s with ⟨_ | b, s'⟩ <;> rw [hms] at h
  · exact h
  · exact htrans (hf b s') h

theorem Decreases.map {m : Effect S E β} (f : β → α) (hm : Decreases r m) : Decreases r (f <$> m) := by
  intro s
  show wp (f <$> m) (fun _ s' => r s' s) s
  exact wp_map.mpr (hm s)

theorem Decreases.tryCatch (htrans : ∀ {a b c}, r a b → r b c → r a c) {m : Effect S E α}
    {handle : E → Effect S E α} (hm : Decreases r m) (hh : ∀ e, Decreases r (handle e)) :
    Decreases r (MonadExcept.tryCatch m handle) := by
  intro s
  show r (Effect.tryCatch m handle s).2 s
  have h := hm s
  unfold Effect.tryCatch
  rcases hms : m s with ⟨e | a, s'⟩ <;> rw [hms] at h
  · exact htrans (hh e s') h
  · exact h

theorem Decreases.ite {p : Prop} [Decidable p] {m m' : Effect S E α} (hm : Decreases r m) (hm' : Decreases r m') :
    Decreases r (if p then m else m') := by
  split
  · exact hm
  · exact hm'

end Decreases

end Effect

end Framework
