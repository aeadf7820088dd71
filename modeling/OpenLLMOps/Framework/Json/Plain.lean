import OpenLLMOps.Framework.Except
import OpenLLMOps.Framework.Json.Loads

/-!
# Decoding without hooks

`json.loads` as it is called without hooks: `NaN` and the infinities are floats, and of two entries with
one key the last stays. What the strict hooks accept is decoded to the same value without them
(`loads_plain`).
-/

namespace Framework

/-- Whatever `x` returns, `y` returns. -/
def Returned {ε α : Type} (x y : Except ε α) : Prop := ∀ a, x = .ok a → y = .ok a

namespace Returned

variable {ε α β : Type} {x y : Except ε α}

theorem refl (x : Except ε α) : Returned x x := fun _ => id

theorem error (e : ε) (y : Except ε α) : Returned (.error e) y := fun _ h => by cases h

theorem bind {f g : α → Except ε β} (h : Returned x y) (hfg : ∀ a, Returned (f a) (g a)) :
    Returned (x >>= f) (y >>= g) := by
  intro b hb
  obtain ⟨a, ha, hfa⟩ := bind_eq_ok.mp hb
  exact bind_eq_ok.mpr ⟨a, h a ha, hfg a b hfa⟩

theorem map (f : α → β) (h : Returned x y) : Returned (x.map f) (y.map f) := by
  intro b hb
  cases x with
  | error e => cases hb
  | ok a =>
    rw [h a rfl]
    exact hb

end Returned

namespace JsonDecoder

/-- `h'` accepts what `h` accepts, with the same values. -/
structure Below (h h' : JsonDecoder) : Prop where
  float : h.float = h'.float
  parseConstant : ∀ text, Returned (h.parseConstant text) (h'.parseConstant text)
  objectPairs : ∀ kvs, Returned (h.objectPairs kvs) (h'.objectPairs kvs)

/-- `json.loads` without hooks: the entries go into a `dict`. -/
def plain (float : PyStr → PyFloat) : JsonDecoder where
  float := float
  parseConstant text := .ok (.float (if text = py "NaN" then .nan else .inf (text = py "-Infinity")))
  objectPairs kvs := .ok (kvs.foldl set [])
where
  /-- `result[key] = value`. -/
  set (result : List (PyStr × Json)) (kv : PyStr × Json) : List (PyStr × Json) :=
    if kv.1 ∈ result.map Prod.fst then result.map fun entry => if entry.1 = kv.1 then kv else entry
    else result ++ [kv]

/-- Without a repeated key, the entries stay as they are. -/
theorem uniqueKeys_plain {result kvs r : List (PyStr × Json)} (h : strict.uniqueKeys result kvs = .ok r) :
    kvs.foldl plain.set result = r := by
  induction kvs generalizing result with
  | nil => exact Except.ok.inj h
  | cons kv kvs ih =>
    simp only [strict.uniqueKeys] at h
    split at h
    · cases h
    · rename_i hnew
      have hfresh : kv.1 ∉ result.map Prod.fst := by simpa using hnew
      rw [List.foldl_cons, plain.set, if_neg hfresh]
      exact ih h

theorem strict_below_plain (float : PyStr → PyFloat) : (strict float).Below (plain float) where
  float := rfl
  parseConstant _ := .error _ _
  objectPairs kvs r h := by rw [← uniqueKeys_plain h]; rfl

end JsonDecoder

/-! ## The scanner -/

section Scan

variable {h h' : JsonDecoder} {fuel : Nat}

theorem number_below (hh : h.Below h') (neg : Bool) (int rest : PyStr) :
    Returned (h.number neg int rest) (h'.number neg int rest) := by
  unfold JsonDecoder.number
  rw [hh.float]
  exact .refl _

theorem scanOnce_below (hh : h.Below h') (hmembers : ∀ s, Returned (scanMembers h fuel s) (scanMembers h' fuel s))
    (helements : ∀ s, Returned (scanElements h fuel s) (scanElements h' fuel s)) (s : PyStr) :
    Returned (scanOnce h (fuel + 1) s) (scanOnce h' (fuel + 1) s) := by
  unfold scanOnce
  split
  · exact .refl _
  · split
    · exact (hh.objectPairs []).bind fun _ => .refl _
    · exact (hmembers _).bind fun r => (hh.objectPairs r.1).bind fun _ => .refl _
  · split
    · exact .refl _
    · exact (helements _).bind fun _ => .refl _
  · exact .refl _
  · exact .refl _
  · exact .refl _
  · exact (hh.parseConstant _).map _
  · exact (hh.parseConstant _).map _
  · exact (hh.parseConstant _).map _
  · split
    · exact (number_below hh _ _ _).map _
    · exact .refl _

theorem scanMembers_below (honce : ∀ s, Returned (scanOnce h fuel s) (scanOnce h' fuel s))
    (hmembers : ∀ s, Returned (scanMembers h fuel s) (scanMembers h' fuel s)) (s : PyStr) :
    Returned (scanMembers h (fuel + 1) s) (scanMembers h' (fuel + 1) s) := by
  unfold scanMembers
  split
  · split
    · exact .refl _
    · split
      · refine (honce _).bind fun r => ?_
        dsimp only
        split
        · exact .refl _
        · exact (hmembers _).bind fun _ => .refl _
        · exact .refl _
      · exact .refl _
  · exact .refl _

theorem scanElements_below (honce : ∀ s, Returned (scanOnce h fuel s) (scanOnce h' fuel s))
    (helements : ∀ s, Returned (scanElements h fuel s) (scanElements h' fuel s)) (s : PyStr) :
    Returned (scanElements h (fuel + 1) s) (scanElements h' (fuel + 1) s) := by
  unfold scanElements
  refine (honce _).bind fun r => ?_
  dsimp only
  split
  · exact .refl _
  · exact (helements _).bind fun _ => .refl _
  · exact .refl _

/-- The three scanning functions, with the same fuel. -/
theorem scan_below (hh : h.Below h') (fuel : Nat) :
    (∀ s, Returned (scanOnce h fuel s) (scanOnce h' fuel s)) ∧
    (∀ s, Returned (scanMembers h fuel s) (scanMembers h' fuel s)) ∧
    (∀ s, Returned (scanElements h fuel s) (scanElements h' fuel s)) := by
  induction fuel with
  | zero => exact ⟨fun _ => .error _ _, fun _ => .error _ _, fun _ => .error _ _⟩
  | succ fuel ih =>
    obtain ⟨honce, hmembers, helements⟩ := ih
    exact ⟨scanOnce_below hh hmembers helements, scanMembers_below honce hmembers, scanElements_below honce helements⟩

theorem loads_below (hh : h.Below h') (b : Bytes) : Returned (loads h b) (loads h' b) := by
  unfold loads
  split
  · exact .refl _
  · exact ((scan_below hh _).1 _).bind fun _ => .refl _

/-- What the strict hooks accept is decoded to the same value without them. -/
theorem loads_plain {float : PyStr → PyFloat} {b : Bytes} {v : Json} (h : loads (.strict float) b = .ok v) :
    loads (.plain float) b = .ok v :=
  loads_below (JsonDecoder.strict_below_plain float) b v h

end Scan

end Framework
