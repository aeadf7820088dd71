import Mathlib.Algebra.Group.Int.Defs
import Mathlib.Algebra.Group.Nat.Defs
import Mathlib.Data.List.DropRight
import Mathlib.Data.List.Infix
import Mathlib.Data.List.Lex
import Mathlib.Data.Nat.Basic

/-!
# Python strings

A Python `str` is a sequence of code points, lone surrogates included, so it is
a list of naturals here and `py "…"` is the string of a literal. `strip`,
`startsWith` and `replace` are the methods of the same name.
-/

namespace Framework

/-- A Python `str`: its code points. -/
abbrev PyStr := List Nat

instance : LawfulBEq PyStr := List.instLawfulBEq

/-- A byte string. -/
abbrev Bytes := List UInt8

/-- The Python string of a literal. -/
def py (s : String) : PyStr := s.toList.map Char.toNat

/-- What `str.lower` makes of a non-ASCII character other than a surrogate, given
the characters before it (nearest first) and after it. Python takes it from the
Unicode database. -/
abbrev Casing := PyStr → Nat → PyStr → PyStr

namespace PyStr

/-- `str.isspace` of one code point. -/
def isSpace (c : Nat) : Bool :=
  (9 ≤ c && c ≤ 13) || (28 ≤ c && c ≤ 32) || c = 0x85 || c = 0xA0 || c = 0x1680 ||
    (0x2000 ≤ c && c ≤ 0x200A) || c = 0x2028 || c = 0x2029 || c = 0x202F || c = 0x205F || c = 0x3000

/-- `str.strip()`. -/
def strip (s : PyStr) : PyStr := (s.dropWhile isSpace).rdropWhile isSpace

/-- `s.replace(a, b)` for single characters. -/
def replaceChar (a b : Nat) (s : PyStr) : PyStr := s.map fun c => if c = a then b else c

/-- Lower case of an ASCII character. -/
def asciiLower (c : Nat) : Nat := if 65 ≤ c && c ≤ 90 then c + 32 else c

/-- A code point that UTF-8 cannot encode. -/
def isSurrogate (c : Nat) : Bool := 0xD800 ≤ c && c ≤ 0xDFFF

/-- `s.encode("utf-8")` succeeds. -/
def encodable (s : PyStr) : Bool := s.all fun c => !isSurrogate c

/-- The UTF-8 bytes of a code point, unless it is a surrogate. -/
def encodeChar (c : Nat) : Option Bytes :=
  if isSurrogate c then none
  else if c < 0x80 then some [.ofNat c]
  else if c < 0x800 then some [.ofNat (0xC0 + c / 0x40), .ofNat (0x80 + c % 0x40)]
  else if c < 0x10000 then
    some [.ofNat (0xE0 + c / 0x1000), .ofNat (0x80 + c / 0x40 % 0x40), .ofNat (0x80 + c % 0x40)]
  else
    some [.ofNat (0xF0 + c / 0x40000), .ofNat (0x80 + c / 0x1000 % 0x40), .ofNat (0x80 + c / 0x40 % 0x40),
      .ofNat (0x80 + c % 0x40)]

/-- `s.encode()`; `none` is a `UnicodeEncodeError`. -/
def encode (s : PyStr) : Option Bytes := (s.mapM encodeChar).map List.flatten

/-- `str.lower` of the characters after `before`. -/
def lowerFrom (casing : Casing) (before : PyStr) : PyStr → PyStr
  | [] => []
  | c :: cs =>
    (if c < 128 then [asciiLower c] else if isSurrogate c then [c] else casing before c cs) ++
      lowerFrom casing (c :: before) cs

/-- `str.lower()`. -/
def lower (casing : Casing) (s : PyStr) : PyStr := lowerFrom casing [] s

theorem mem_lowerFrom_of_surrogate {casing : Casing} {c : Nat} (hc : isSurrogate c = true) {before s : PyStr}
    (h : c ∈ s) : c ∈ lowerFrom casing before s := by
  induction s generalizing before with
  | nil => exact h
  | cons d s ih =>
    rw [lowerFrom, List.mem_append]
    rcases List.mem_cons.mp h with rfl | h
    · have : ¬ c < 128 := by simp only [isSurrogate, Bool.and_eq_true, decide_eq_true_eq] at hc; omega
      rw [if_neg this, if_pos hc]
      exact .inl List.mem_cons_self
    · exact .inr (ih h)

/-- A string is encodable if its lower case is. -/
theorem encodable_of_lower {casing : Casing} {s : PyStr} (h : (s.lower casing).encodable = true) :
    s.encodable = true := by
  simp only [encodable, List.all_eq_true, Bool.not_eq_true'] at h ⊢
  intro c hc
  cases hs : isSurrogate c with
  | false => rfl
  | true => exact (h c (mem_lowerFrom_of_surrogate hs hc)).symm.trans hs |>.symm

end PyStr

end Framework
