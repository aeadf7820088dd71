import Mathlib.Data.List.Basic

/-!
# Lines that arrive in chunks

What is emitted up to the first error (`Emitted`), and how the lines of a text follow from those of its first part
(`splitOn_append`).
-/

namespace Framework

/-- What has been emitted, and the error after it. -/
structure Emitted (ε α : Type) where
  emitted : List α
  error : Option ε
  deriving DecidableEq

namespace Emitted

variable {ε α β : Type}

/-- Nothing. -/
def none : Emitted ε α := ⟨[], .none⟩

/-- The second part is not reached after an error. -/
def andThen (first second : Emitted ε α) : Emitted ε α :=
  match first.error with
  | some e => ⟨first.emitted, some e⟩
  | .none => ⟨first.emitted ++ second.emitted, second.error⟩

theorem andThen_assoc (e f g : Emitted ε α) : (e.andThen f).andThen g = e.andThen (f.andThen g) := by
  obtain ⟨emitted, error⟩ := e
  cases error with
  | some e => rfl
  | none =>
    obtain ⟨emitted', error'⟩ := f
    cases error' with
    | some e => rfl
    | none => simp [andThen]

theorem andThen_of_error {e : Emitted ε α} (h : e.error ≠ .none) (f : Emitted ε α) : e.andThen f = e := by
  obtain ⟨emitted, error⟩ := e
  cases error with
  | some e => rfl
  | none => exact absurd rfl h

theorem error_andThen {e f : Emitted ε α} (h : e.error = .none) : (e.andThen f).error = f.error := by
  obtain ⟨emitted, error⟩ := e
  obtain rfl : error = .none := h
  rfl

/-- `forEach`. -/
def each (f : β → Emitted ε α) : List β → Emitted ε α
  | [] => none
  | x :: xs => (f x).andThen (each f xs)

theorem each_append (f : β → Emitted ε α) (xs ys : List β) : each f (xs ++ ys) = (each f xs).andThen (each f ys) := by
  induction xs with
  | nil => rfl
  | cons x xs ih =>
    rw [List.cons_append, each, ih, ← andThen_assoc]
    rfl

end Emitted

section

variable {α : Type} [BEq α] (a : α)

theorem splitOn_cons (x : α) (xs : List α) :
    (x :: xs).splitOn a = if x == a then [] :: xs.splitOn a else (xs.splitOn a).modifyHead (x :: ·) :=
  List.splitOnP_cons_eq_if_modifyHead x xs

theorem splitOn_ne_nil (xs : List α) : xs.splitOn a ≠ [] := List.splitOnP_ne_nil _ xs

/-- The last line of the first part is continued by the second part. -/
theorem splitOn_append (xs ys : List α) :
    (xs ++ ys).splitOn a = (xs.splitOn a).dropLast ++ ((xs.splitOn a).getLastD [] ++ ys).splitOn a := by
  induction xs with
  | nil => simp
  | cons x xs ih =>
    obtain ⟨line, rest, hlines⟩ := List.exists_cons_of_ne_nil (splitOn_ne_nil a xs)
    rw [List.cons_append, splitOn_cons, splitOn_cons a x xs, ih]
    by_cases hx : (x == a) = true
    · rw [if_pos hx, if_pos hx, hlines]
      rfl
    · rw [if_neg hx, if_neg hx, hlines]
      cases rest with
      | nil =>
        have hlast : ((x :: line) ++ ys).splitOn a = ((line ++ ys).splitOn a).modifyHead (x :: ·) := by
          rw [List.cons_append, splitOn_cons, if_neg hx]
        exact hlast.symm
      | cons second rest => rfl

/-- A line does not contain the separator. -/
theorem not_mem_of_mem_splitOn [LawfulBEq α] {xs line : List α} (h : line ∈ xs.splitOn a) : a ∉ line := by
  induction xs generalizing line with
  | nil =>
    rw [List.splitOn_nil, List.mem_singleton] at h
    rw [h]
    exact List.not_mem_nil
  | cons x xs ih =>
    obtain ⟨first, rest, hlines⟩ := List.exists_cons_of_ne_nil (splitOn_ne_nil a xs)
    rw [hlines] at ih
    rw [splitOn_cons, hlines] at h
    split at h
    · rcases List.mem_cons.mp h with rfl | h
      · exact List.not_mem_nil
      · exact ih h
    · rename_i hx
      rcases List.mem_cons.mp h with rfl | h
      · rw [List.mem_cons, not_or]
        exact ⟨fun heq => hx (beq_iff_eq.mpr heq.symm), ih List.mem_cons_self⟩
      · exact ih (List.mem_cons_of_mem _ h)

theorem not_mem_last [LawfulBEq α] (xs : List α) : a ∉ (xs.splitOn a).getLastD [] := by
  refine @not_mem_of_mem_splitOn α _ a _ xs _ ?_
  rw [List.getLastD_eq_getLast?, List.getLast?_eq_some_getLast (splitOn_ne_nil a xs)]
  exact List.getLast_mem _

theorem splitOn_of_not_mem [LawfulBEq α] {xs : List α} (h : a ∉ xs) : xs.splitOn a = [xs] :=
  List.splitOnP_eq_singleton fun _ hx => beq_eq_false_iff_ne.mpr fun heq => h (heq ▸ hx)

end

end Framework
