import OpenLLMOps.Framework.PyNumber

/-!
# Unicode text and `str` of JSON values

The methods of `str` that consult the Unicode database. What they do to ASCII is
fixed, and what they do to the rest is a `UnicodeData`. `Json.toStr` and
`Json.repr` are `str(value)` and `repr(value)` of a decoded value.
-/

namespace Framework

/-- What the Unicode database says about characters, and strings, that are not ASCII. -/
structure UnicodeData where
  upper : Nat → PyStr
  casefold : Nat → PyStr
  nfkc : PyStr → PyStr
  isAlnum : Nat → Bool
  isPrintable : Nat → Bool

/-- A database that leaves what is not ASCII as it is. -/
def plainText : UnicodeData := ⟨fun c => [c], fun c => [c], id, fun _ => true, fun _ => true⟩

/-- A capital letter of ASCII. -/
def isCapital (c : Nat) : Bool := 65 ≤ c && c ≤ 90

/-- Upper case of an ASCII character. -/
def asciiUpper (c : Nat) : Nat := if 97 ≤ c && c ≤ 122 then c - 32 else c

theorem asciiUpper_capital {c : Nat} (h : isCapital c = true) : asciiUpper c = c := by
  simp only [isCapital, Bool.and_eq_true, decide_eq_true_eq] at h
  have : ¬ (97 ≤ c ∧ c ≤ 122) := by omega
  simp [asciiUpper, this]

theorem isSpace_capital {c : Nat} (h : isCapital c = true) : PyStr.isSpace c = false := by
  simp only [isCapital, Bool.and_eq_true, decide_eq_true_eq] at h
  simp only [PyStr.isSpace, Bool.or_eq_false_iff, Bool.and_eq_false_iff, decide_eq_false_iff_not]
  omega

namespace UnicodeData

variable (u : UnicodeData)

/-- A character of a word: `\w`. -/
def isWord (c : Nat) : Bool :=
  if c < 128 then isDigit c || isCapital c || (97 ≤ c && c ≤ 122) || c = 95 else u.isAlnum c

/-- `repr` of a character between quotes `quote`. -/
def reprChar (quote c : Nat) : PyStr :=
  if c = quote ∨ c = 92 then [92, c]
  else if c = 9 then py "\\t"
  else if c = 10 then py "\\n"
  else if c = 13 then py "\\r"
  else if c < 32 ∨ c = 127 then py "\\x" ++ hexDigits 2 c
  else if c < 127 ∨ u.isPrintable c then [c]
  else if c < 0x100 then py "\\x" ++ hexDigits 2 c
  else if c < 0x10000 then py "\\u" ++ hexDigits 4 c
  else py "\\U" ++ hexDigits 8 c

/-- `repr` of a string: between apostrophes, unless it has one and no quotation mark. -/
def reprStr (s : PyStr) : PyStr :=
  let quote := if s.contains 39 && !s.contains 34 then 34 else 39
  quote :: s.flatMap (u.reprChar quote) ++ [quote]

end UnicodeData

namespace PyStr

variable (u : UnicodeData)

/-- `str.upper()`. -/
def upper (s : PyStr) : PyStr := s.flatMap fun c => if c < 128 then [asciiUpper c] else u.upper c

/-- `str.casefold()`. -/
def casefold (s : PyStr) : PyStr := s.flatMap fun c => if c < 128 then [asciiLower c] else u.casefold c

/-- `unicodedata.normalize("NFKC", s)`. -/
def nfkc (s : PyStr) : PyStr := if s.all (· < 128) then s else u.nfkc s

@[simp] theorem strip_nil : strip [] = [] := rfl

theorem strip_singleton {c : Nat} (h : isSpace c = false) : strip [c] = [c] := by
  simp [strip, List.rdropWhile, h]

theorem mem_of_mem_strip {c : Nat} {s : PyStr} (h : c ∈ strip s) : c ∈ s :=
  (List.dropWhile_suffix isSpace).subset ((List.rdropWhile_prefix isSpace _).subset h)

/-- What is stripped has nothing left to strip. -/
@[simp] theorem strip_strip (s : PyStr) : strip (strip s) = strip s := by
  have hpre : strip s <+: s.dropWhile isSpace := List.rdropWhile_prefix isSpace _
  have hstart : (strip s).dropWhile isSpace = strip s := by
    refine List.dropWhile_eq_self_iff.mpr fun hpos => ?_
    rw [hpre.getElem hpos]
    exact List.dropWhile_get_zero_not isSpace s (Nat.lt_of_lt_of_le hpos hpre.length_le)
  show ((strip s).dropWhile isSpace).rdropWhile isSpace = strip s
  rw [hstart]
  exact List.rdropWhile_idempotent isSpace _

theorem strip_of_no_space {s : PyStr} (h : ∀ c ∈ s, isSpace c = false) : strip s = s := by
  have hdrop : s.dropWhile isSpace = s := List.dropWhile_eq_self_iff.mpr fun hpos => by
    rw [h _ (List.getElem_mem hpos)]
    exact Bool.false_ne_true
  rw [strip, hdrop]
  refine List.rdropWhile_eq_self_iff.mpr fun hne => ?_
  rw [h _ (List.getLast_mem hne)]
  exact Bool.false_ne_true

theorem nfkc_capital {c : Nat} (h : isCapital c = true) : nfkc u [c] = [c] := by
  have : c < 128 := by simp only [isCapital, Bool.and_eq_true, decide_eq_true_eq] at h; omega
  simp [nfkc, this]

theorem upper_capital {c : Nat} (h : isCapital c = true) : upper u [c] = [c] := by
  have : c < 128 := by simp only [isCapital, Bool.and_eq_true, decide_eq_true_eq] at h; omega
  simp [upper, this, asciiUpper_capital h]

end PyStr

namespace Json

variable (u : UnicodeData)

mutual

/-- `repr(value)`. -/
def repr : Json → PyStr
  | null => py "None"
  | bool true => py "True"
  | bool false => py "False"
  | int n => strInt n
  | float x => x.repr
  | str s => u.reprStr s
  | arr xs => py "[" ++ (py ", ").intercalate (reprItems xs) ++ py "]"
  | obj kvs => py "\x7b" ++ (py ", ").intercalate (reprEntries kvs) ++ py "\x7d"

def reprItems : List Json → List PyStr
  | [] => []
  | x :: xs => repr x :: reprItems xs

def reprEntries : List (PyStr × Json) → List PyStr
  | [] => []
  | (k, x) :: kvs => (u.reprStr k ++ py ": " ++ repr x) :: reprEntries kvs

end

/-- `str(value)`. -/
def toStr : Json → PyStr
  | str s => s
  | v => v.repr u

end Json

end Framework
