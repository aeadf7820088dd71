import OpenLLMOps.Framework.PyNumber

/-!
# The strict mode of pydantic

What a field of a type takes from a decoded value, without coercion, and the
entries of a model that forbids others.
-/

namespace Framework

/-- `int` of the strict mode. -/
def strictInt? : Json → Option Int
  | .int n => some n
  | _ => none

/-- `float` of the strict mode, without infinities and NaN. -/
def strictFloat? : Json → Option PyFloat
  | .float x => if x.isFinite then some x else none
  | .int n => some (.finite (n < 0) n.natAbs 0)
  | _ => none

def strictStr? : Json → Option PyStr
  | .str s => some s
  | _ => none

/-- The entries of an object that has no others than those of `names`. -/
def strictFields? (names : List String) : Json → Option (List (PyStr × Json))
  | .obj kvs => if kvs.all fun kv => kv.1 ∈ names.map py then some kvs else none
  | _ => none

/-- A required field. -/
def requiredField {α : Type} (kvs : List (PyStr × Json)) (parse : Json → Option α) (name : String) : Option α :=
  (Json.get? kvs (py name)).bind parse

/-- `list` of items of a type. -/
def strictList? {α : Type} (parse : Json → Option α) : Json → Option (List α)
  | .arr xs => xs.mapM parse
  | _ => none

/-- An integer that is not negative. -/
def strictNat? (v : Json) : Option Nat := (strictInt? v).bind fun n => if 0 ≤ n then some n.toNat else none

/-- `min_length=1` and a `max_length`; a lone surrogate is no text. -/
def isStrictText (s : PyStr) (maxLength : Nat) : Bool := s ≠ [] && s.length ≤ maxLength && s.encodable

theorem requiredField_of_get? {α : Type} {kvs : List (PyStr × Json)} {parse : Json → Option α} {name : String} {v : Json}
    {a : α} (hget : Json.get? kvs (py name) = some v) (hparse : parse v = some a) :
    requiredField kvs parse name = some a := by
  rw [requiredField, hget]
  exact hparse

theorem strictFields?_of_subset {names : List String} {kvs : List (PyStr × Json)}
    (h : kvs.map Prod.fst ⊆ names.map py) : strictFields? names (.obj kvs) = some kvs :=
  if_pos (List.all_eq_true.mpr fun _ hkv => decide_eq_true (h (List.mem_map_of_mem hkv)))

theorem strictFields?_of_keys {names : List String} {kvs : List (PyStr × Json)} (h : kvs.map Prod.fst = names.map py) :
    strictFields? names (.obj kvs) = some kvs :=
  strictFields?_of_subset (h ▸ List.Subset.refl _)

theorem mapM_of_map {α β : Type} {parse : β → Option α} {encode : α → β} {xs : List α}
    (h : ∀ x ∈ xs, parse (encode x) = some x) : (xs.map encode).mapM parse = some xs := by
  induction xs with
  | nil => rfl
  | cons x xs ih =>
    rw [List.map_cons, List.mapM_cons, h x List.mem_cons_self, ih fun y hy => h y (List.mem_cons_of_mem _ hy)]
    rfl

end Framework
