import Mathlib.Data.List.Basic

/-!
# Results and errors

When a chain of computations that may fail succeeds: each of its parts does, and
each of its checks passes. A list is mapped with `mapM` if every element is
(`mapM_eq_some`).
-/

namespace Framework

variable {ε α β : Type}

theorem bind_eq_ok {x : Except ε α} {f : α → Except ε β} {b : β} :
    x >>= f = .ok b ↔ ∃ a, x = .ok a ∧ f a = .ok b := by
  cases x with
  | error e =>
    constructor
    · intro h
      cases h
    · rintro ⟨a, h, -⟩
      cases h
  | ok a =>
    constructor
    · exact fun h => ⟨a, rfl, h⟩
    · rintro ⟨a', h, hf⟩
      cases h
      exact hf

theorem bind_eq_some {x : Option α} {f : α → Option β} {b : β} : x >>= f = some b ↔ ∃ a, x = some a ∧ f a = some b :=
  Option.bind_eq_some_iff

/-- A result behind a check. -/
theorem ite_error_eq_ok {p : Prop} [Decidable p] {e : ε} {x : Except ε α} {a : α} :
    (if p then .error e else x) = .ok a ↔ ¬p ∧ x = .ok a := by
  split
  · rename_i hp
    simp [hp]
  · rename_i hp
    simp [hp]

theorem exists_ok_ite {p : Prop} [Decidable p] {e : ε} {x : Except ε α} :
    (∃ a, (if p then .error e else x) = .ok a) ↔ ¬p ∧ ∃ a, x = .ok a := by
  simp only [ite_error_eq_ok, exists_and_left]

/-- A result is reached under whatever is made of an error. -/
theorem mapError_eq_ok {ε' : Type} {f : ε → ε'} {x : Except ε α} {a : α} : x.mapError f = .ok a ↔ x = .ok a := by
  cases x with
  | error e =>
    constructor
    · intro h
      cases h
    · intro h
      cases h
  | ok b => rw [Except.mapError, Except.ok.injEq, Except.ok.injEq]

theorem mapM_eq_some {f : α → Option β} {xs : List α} {ys : List β} : xs.mapM f = some ys ↔ xs.map f = ys.map some := by
  induction xs generalizing ys with
  | nil => cases ys <;> simp
  | cons x xs ih =>
    rw [List.mapM_cons, List.map_cons]
    cases hx : f x with
    | none => cases ys <;> simp
    | some y =>
      cases hxs : xs.mapM f with
      | none =>
        cases ys with
        | nil => simp
        | cons z zs =>
          have hne : ¬ xs.map f = zs.map some := fun h => by simpa [hxs] using ih.mpr h
          simp [hne]
      | some ys' =>
        cases ys with
        | nil => simp
        | cons z zs =>
          have htail : ys' = zs ↔ xs.map f = zs.map some := by rw [← ih, hxs, Option.some.injEq]
          simp [htail]

theorem mem_of_mapM {f : α → Option β} {xs : List α} {ys : List β} (h : xs.mapM f = some ys) {y : β} :
    y ∈ ys ↔ ∃ x ∈ xs, f x = some y := by
  have hmem : some y ∈ xs.map f ↔ some y ∈ ys.map some := by rw [mapM_eq_some.mp h]
  simpa using hmem.symm

end Framework
