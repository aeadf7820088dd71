import OpenLLMOps.Framework.Json.Value

/-!
# Python numbers as text

Decimal numerals (`decimal`, read back by `ofDecimal`), `str` of an integer,
`repr` of a float, and the comparison of numbers with decimal bounds.

`decimal` recurses on a fuel that any number above its argument is enough for
(`digitsAux_fuel`), so it evaluates.
-/

namespace Framework

/-- The decimal digits of `n` in front of `acc`. -/
def digitsAux : Nat → Nat → PyStr → PyStr
  | 0, _, acc => acc
  | fuel + 1, n, acc => if n < 10 then (48 + n) :: acc else digitsAux fuel (n / 10) ((48 + n % 10) :: acc)

/-- `str(n)` of a natural number. -/
def decimal (n : Nat) : PyStr := digitsAux (n + 1) n []

/-- A decimal digit. -/
def isDigit (c : Nat) : Bool := 48 ≤ c && c ≤ 57

/-- The value of a string of digits. -/
def ofDecimal (s : PyStr) : Nat := s.foldl (fun n c => 10 * n + (c - 48)) 0

theorem digitsAux_fuel {f g n : Nat} (h : n < f) (h' : n < g) (acc : PyStr) :
    digitsAux f n acc = digitsAux g n acc := by
  induction f generalizing g n acc with
  | zero => omega
  | succ f ih =>
    obtain ⟨g, rfl⟩ : ∃ k, g = k + 1 := ⟨g - 1, by omega⟩
    simp only [digitsAux]
    split
    · rfl
    · exact ih (by omega) (by omega) _

theorem digitsAux_append (f n : Nat) (acc : PyStr) : digitsAux f n acc = digitsAux f n [] ++ acc := by
  induction f generalizing n acc with
  | zero => rfl
  | succ f ih =>
    simp only [digitsAux]
    split
    · rfl
    · rw [ih, ih _ [48 + n % 10], List.append_assoc]; rfl

theorem decimal_of_lt {n : Nat} (h : n < 10) : decimal n = [48 + n] := by simp [decimal, digitsAux, h]

/-- The last digit is `n % 10`, and the others are those of `n / 10`. -/
theorem decimal_of_ge {n : Nat} (h : 10 ≤ n) : decimal n = decimal (n / 10) ++ [48 + n % 10] := by
  have hlt : ¬ n < 10 := by omega
  simp only [decimal, digitsAux, hlt, ↓reduceIte]
  rw [digitsAux_append, digitsAux_fuel (g := n / 10 + 1) (by omega) (by omega)]
  simp only [digitsAux]

theorem decimal_digits (n : Nat) : ∀ c ∈ decimal n, isDigit c = true := by
  induction n using Nat.strongRecOn with
  | ind n ih =>
    intro c hc
    by_cases h : n < 10
    · rw [decimal_of_lt h, List.mem_singleton] at hc
      subst hc
      simp only [isDigit, Bool.and_eq_true, decide_eq_true_eq]; omega
    · rw [decimal_of_ge (by omega), List.mem_append, List.mem_singleton] at hc
      rcases hc with hc | rfl
      · exact ih _ (by omega) c hc
      · simp only [isDigit, Bool.and_eq_true, decide_eq_true_eq]; omega

theorem decimal_ne_nil (n : Nat) : decimal n ≠ [] := by
  by_cases h : n < 10
  · simp [decimal_of_lt h]
  · simp [decimal_of_ge (show 10 ≤ n by omega)]

theorem ofDecimal_concat (s : PyStr) (c : Nat) : ofDecimal (s ++ [c]) = 10 * ofDecimal s + (c - 48) := by
  simp [ofDecimal]

theorem ofDecimal_decimal (n : Nat) : ofDecimal (decimal n) = n := by
  induction n using Nat.strongRecOn with
  | ind n ih =>
    by_cases h : n < 10
    · rw [decimal_of_lt h]; simp [ofDecimal]
    · rw [decimal_of_ge (by omega), ofDecimal_concat, ih _ (by omega)]; omega

/-- A numeral starts with a digit. -/
theorem head_decimal (n : Nat) : ∃ c s, decimal n = c :: s ∧ isDigit c = true := by
  cases h : decimal n with
  | nil => exact absurd h (decimal_ne_nil n)
  | cons c s => exact ⟨c, s, rfl, decimal_digits n c (h ▸ List.mem_cons_self)⟩

/-- The last `width` hexadecimal digits of `n`. -/
def hexDigits : Nat → Nat → PyStr
  | 0, _ => []
  | width + 1, n => hexDigits width (n / 16) ++ [if n % 16 < 10 then 48 + n % 16 else 87 + n % 16]

/-- `str` of a UUID. -/
def uuidText (u : Nat) : PyStr :=
  (py "-").intercalate
    [hexDigits 8 (u / 2 ^ 96), hexDigits 4 (u / 2 ^ 80), hexDigits 4 (u / 2 ^ 64), hexDigits 4 (u / 2 ^ 48),
      hexDigits 12 u]

/-- `str(n)` of an integer. -/
def strInt : Int → PyStr
  | .ofNat n => decimal n
  | .negSucc n => 45 :: decimal (n + 1)

namespace PyFloat

/-- `math.isfinite`. -/
def isFinite : PyFloat → Bool
  | finite .. => true
  | _ => false

/-- `repr` of the double `±m · 10^e`: fixed notation while the decimal point is
at most 16 digits to the right and 3 zeros to the left, else an exponent of at
least two digits. -/
def reprDecimal (m : Nat) (e : Int) : PyStr :=
  let digits := decimal m
  let n : Int := digits.length
  let point := n + e
  if -4 < point ∧ point ≤ 16 then
    if point ≤ 0 then py "0." ++ List.replicate (-point).toNat 48 ++ digits
    else if n ≤ point then digits ++ List.replicate (point - n).toNat 48 ++ py ".0"
    else digits.take point.toNat ++ py "." ++ digits.drop point.toNat
  else
    let mant := if digits.length = 1 then digits else digits.take 1 ++ py "." ++ digits.drop 1
    let exp := decimal (point - 1).natAbs
    mant ++ py "e" ++ (if point - 1 < 0 then py "-" else py "+") ++ (if exp.length < 2 then 48 :: exp else exp)

/-- `repr(x)`. -/
def repr : PyFloat → PyStr
  | finite neg m e => (if neg then [45] else []) ++ reprDecimal m e
  | inf neg => (if neg then [45] else []) ++ py "inf"
  | nan => py "nan"

/-- `m · 10^e ≤ m' · 10^e'`. -/
def decimalLe (m : Nat) (e : Int) (m' : Nat) (e' : Int) : Bool :=
  if e' ≤ e then m * 10 ^ (e - e').toNat ≤ m' else m ≤ m' * 10 ^ (e' - e).toNat

/-- `m · 10^e ≤ x`, for a bound that is not negative. -/
def ge (m : Nat) (e : Int) : PyFloat → Bool
  | finite neg m' e' => if neg then m = 0 && m' = 0 else decimalLe m e m' e'
  | inf neg => !neg
  | nan => false

/-- `x ≤ m · 10^e`, for a bound that is not negative. -/
def le (m : Nat) (e : Int) : PyFloat → Bool
  | finite neg m' e' => neg || decimalLe m' e' m e
  | inf neg => neg
  | nan => false

/-- `-m · 10^e ≤ x ≤ m · 10^e`. -/
def absLe (m : Nat) (e : Int) : PyFloat → Bool
  | finite _ m' e' => decimalLe m' e' m e
  | _ => false

/-- `x > 0.0`. -/
def gtZero : PyFloat → Bool
  | finite neg m _ => !neg && m ≠ 0
  | inf neg => !neg
  | nan => false

/-- `x < 0`. -/
def ltZero : PyFloat → Bool
  | finite neg m _ => neg && m ≠ 0
  | inf neg => neg
  | nan => false

/-- `x == y`. -/
def eqv : PyFloat → PyFloat → Bool
  | finite neg m e, finite neg' m' e' =>
    (m = 0 && m' = 0) || (neg = neg' && decimalLe m e m' e' && decimalLe m' e' m e)
  | inf neg, inf neg' => neg = neg'
  | _, _ => false

theorem eqv_self {x : PyFloat} (h : x.isFinite = true) : x.eqv x = true := by
  cases x with
  | finite neg m e => simp [eqv, decimalLe]
  | _ => cases h

theorem head_reprDecimal (m : Nat) (e : Int) : ∃ c s, reprDecimal m e = c :: s ∧ isDigit c = true := by
  obtain ⟨c, s, h, hc⟩ := head_decimal m
  simp only [reprDecimal, h, List.length_cons]
  split
  · split
    · exact ⟨48, _, rfl, rfl⟩
    · split
      · exact ⟨c, _, rfl, hc⟩
      · rename_i h₁ h₂
        obtain ⟨k, hk⟩ : ∃ k, (((s.length + 1 : Nat) : Int) + e).toNat = k + 1 :=
          ⟨(((s.length + 1 : Nat) : Int) + e).toNat - 1, by omega⟩
        rw [hk]
        exact ⟨c, _, rfl, hc⟩
  · split
    · exact ⟨c, _, rfl, hc⟩
    · exact ⟨c, _, rfl, hc⟩

end PyFloat

end Framework
