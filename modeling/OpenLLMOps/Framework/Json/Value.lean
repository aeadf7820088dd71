import OpenLLMOps.Framework.PyStr

/-!
# JSON values

The values of Python's `json` module: integers are unbounded, a float is a
double, an object is the insertion-ordered list of its entries (`dict`).

A finite double is determined by its `repr`, the shortest decimal that rounds to
it, and `repr` is strictly increasing. `PyFloat` therefore holds the digits and
the exponent of that decimal, and doubles are compared through it.
-/

namespace Framework

/-- A Python `float`: `finite neg m e` is the double whose `repr` denotes `±m · 10^e`. -/
inductive PyFloat
  | finite (neg : Bool) (mantissa : Nat) (exponent : Int)
  | inf (neg : Bool)
  | nan
  deriving DecidableEq

/-- A decoded JSON value. -/
inductive Json
  | null
  | bool (b : Bool)
  | int (n : Int)
  | float (x : PyFloat)
  | str (s : PyStr)
  | arr (xs : List Json)
  | obj (kvs : List (PyStr × Json))

namespace Json

mutual

/-- Equality of values, along their structure. -/
def beq : Json → Json → Bool
  | .null, .null => true
  | .bool x, .bool y => x == y
  | .int x, .int y => x == y
  | .float x, .float y => x == y
  | .str x, .str y => x == y
  | .arr xs, .arr ys => beqArr xs ys
  | .obj xs, .obj ys => beqObj xs ys
  | _, _ => false

/-- Equality of arrays. -/
def beqArr : List Json → List Json → Bool
  | [], [] => true
  | x :: xs, y :: ys => beq x y && beqArr xs ys
  | _, _ => false

/-- Equality of entries, in order. -/
def beqObj : List (PyStr × Json) → List (PyStr × Json) → Bool
  | [], [] => true
  | (k, x) :: xs, (l, y) :: ys => k == l && beq x y && beqObj xs ys
  | _, _ => false

end

mutual

theorem beq_iff : ∀ a b : Json, beq a b = true ↔ a = b
  | .null, b => by cases b <;> simp [beq]
  | .bool _, b => by cases b <;> simp [beq]
  | .int _, b => by cases b <;> simp [beq]
  | .float _, b => by cases b <;> simp [beq]
  | .str _, b => by cases b <;> simp [beq]
  | .arr xs, b => by cases b <;> simp [beq, beqArr_iff xs]
  | .obj xs, b => by cases b <;> simp [beq, beqObj_iff xs]

theorem beqArr_iff : ∀ xs ys : List Json, beqArr xs ys = true ↔ xs = ys
  | [], ys => by cases ys <;> simp [beqArr]
  | x :: xs, ys => by cases ys <;> simp [beqArr, beq_iff x, beqArr_iff xs]

theorem beqObj_iff : ∀ xs ys : List (PyStr × Json), beqObj xs ys = true ↔ xs = ys
  | [], ys => by cases ys <;> simp [beqObj]
  | (k, x) :: xs, ys => by
    cases ys with
    | nil => simp [beqObj]
    | cons y ys => simp [beqObj, beq_iff x, beqObj_iff xs, Prod.ext_iff, and_assoc]

end

instance : DecidableEq Json := fun a b => decidable_of_iff _ (beq_iff a b)

/-- `dict.get` of an object's entries; keys of a decoded object are distinct. -/
def get? (kvs : List (PyStr × Json)) (k : PyStr) : Option Json :=
  match kvs with
  | [] => none
  | (k', v) :: kvs => if k' = k then some v else get? kvs k

end Json

end Framework
