import OpenLLMOps.Framework.Except
import OpenLLMOps.Framework.Json.Dumps
import OpenLLMOps.Framework.Json.Plain
import OpenLLMOps.Framework.Json.Utf8
import OpenLLMOps.Framework.Lists

/-!
# The round trip of JSON

What `json.dumps` makes of a value is scanned to the value, with its keys sorted if the style sorts them
(`dumps_scans`). It follows for texts (`loadsText_dumps`) and for bytes (`loads_dumps`), as a text does not begin
with a byte order mark and has no null character.
-/

namespace Framework

/-! ## Strings -/

theorem joinEscapes_eq {units : List (Nat × Bool)} (h : ∀ u ∈ units, u.2 = true → u.1 < 32) :
    joinEscapes units = units.map Prod.fst := by
  induction units with
  | nil => rfl
  | cons c rest ih =>
    cases rest with
    | nil => rfl
    | cons d rest =>
      have hjoin : ¬ (c.2 = true ∧ d.2 = true ∧ isHigh c.1 = true ∧ isLow d.1 = true) := by
        rintro ⟨hc, -, hhigh, -⟩
        have := h c List.mem_cons_self hc
        simp only [isHigh, Bool.and_eq_true, decide_eq_true_eq] at hhigh
        omega
      rw [joinEscapes, if_neg hjoin, ih fun u hu => h u (List.mem_cons_of_mem _ hu)]
      rfl

section

variable (rest : PyStr)

/-- A simple escape. -/
theorem scanUnits_simple {e c : Nat} (h : escape? e = some c) :
    scanUnits (92 :: e :: rest) = (scanUnits rest).map fun r => ((c, false) :: r.1, r.2) := by
  rw [scanUnits.eq_def]
  split
  · contradiction
  · rename_i heq
    cases (List.cons.inj heq).1
  · rename_i heq
    obtain ⟨rfl, -⟩ := List.cons.inj (List.cons.inj heq).2
    cases h
  · rename_i heq
    obtain ⟨rfl, rfl⟩ := List.cons.inj (List.cons.inj heq).2
    rw [h]
    cases scanUnits rest <;> rfl
  · rename_i hno heq
    obtain ⟨rfl, rfl⟩ := List.cons.inj heq
    exact absurd rfl (hno _ _ rfl)

/-- The escape of a control character. -/
theorem scanUnits_hex {n : Nat} (h : n < 32) :
    scanUnits (py "\\u" ++ hexDigits 4 n ++ rest) = (scanUnits rest).map fun r => ((n, true) :: r.1, r.2) := by
  have hhex : ∀ n, n < 32 → hexDigits 4 n = [48, 48, 48 + n / 16, if n % 16 < 10 then 48 + n % 16 else 87 + n % 16] ∧
      hex4? 48 48 (48 + n / 16) (if n % 16 < 10 then 48 + n % 16 else 87 + n % 16) = some n := by decide
  obtain ⟨htext, hvalue⟩ := hhex n h
  rw [htext]
  show scanUnits (92 :: 117 :: 48 :: 48 :: (48 + n / 16) :: _ :: rest) = _
  rw [scanUnits, hvalue]
  cases scanUnits rest <;> rfl

/-- A character that is not escaped. -/
theorem scanUnits_literal {c : Nat} (hquote : c ≠ 34) (hslash : c ≠ 92) (hc : ¬ c < 32) :
    scanUnits (c :: rest) = (scanUnits rest).map fun r => ((c, false) :: r.1, r.2) := by
  rw [scanUnits.eq_def]
  split
  · contradiction
  · rename_i heq
    exact absurd (List.cons.inj heq).1 hquote
  · rename_i heq
    exact absurd (List.cons.inj heq).1 hslash
  · rename_i heq
    exact absurd (List.cons.inj heq).1 hslash
  · rename_i heq
    obtain ⟨rfl, rfl⟩ := List.cons.inj heq
    rw [if_neg (not_or.mpr ⟨hc, hslash⟩)]
    cases scanUnits rest <;> rfl

end

/-- A character is read back; only a control character is escaped by its code. -/
theorem scanUnits_escapeChar (c : Nat) : ∃ escaped, (escaped = true → c < 32) ∧ ∀ rest,
    scanUnits (escapeChar c ++ rest) = (scanUnits rest).map fun r => ((c, escaped) :: r.1, r.2) := by
  unfold escapeChar
  split
  · subst c
    exact ⟨false, nofun, fun rest => scanUnits_simple rest rfl⟩
  · split
    · subst c
      exact ⟨false, nofun, fun rest => scanUnits_simple rest rfl⟩
    · split
      · subst c
        exact ⟨false, nofun, fun rest => scanUnits_simple rest rfl⟩
      · split
        · subst c
          exact ⟨false, nofun, fun rest => scanUnits_simple rest rfl⟩
        · split
          · subst c
            exact ⟨false, nofun, fun rest => scanUnits_simple rest rfl⟩
          · split
            · subst c
              exact ⟨false, nofun, fun rest => scanUnits_simple rest rfl⟩
            · split
              · subst c
                exact ⟨false, nofun, fun rest => scanUnits_simple rest rfl⟩
              · split
                · exact ⟨true, fun _ => ‹_›, fun rest => scanUnits_hex rest ‹_›⟩
                · exact ⟨false, nofun, fun rest => scanUnits_literal rest ‹_› ‹_› ‹_›⟩

theorem scanUnits_escape (s rest : PyStr) :
    ∃ units, scanUnits (s.flatMap escapeChar ++ 34 :: rest) = some (units, rest) ∧
    units.map Prod.fst = s ∧ ∀ u ∈ units, u.2 = true → u.1 < 32 := by
  induction s with
  | nil => exact ⟨[], rfl, rfl, nofun⟩
  | cons c s ih =>
    obtain ⟨units, hscan, hunits, hescaped⟩ := ih
    obtain ⟨escaped, hc, hchar⟩ := scanUnits_escapeChar c
    refine ⟨(c, escaped) :: units, ?_, by rw [List.map_cons, hunits], List.forall_mem_cons.mpr ⟨hc, hescaped⟩⟩
    rw [List.flatMap_cons, List.append_assoc, hchar, hscan]
    rfl

/-- An escaped string is read back. -/
theorem scanString_escape (s rest : PyStr) : scanString (s.flatMap escapeChar ++ 34 :: rest) = some (s, rest) := by
  obtain ⟨units, hscan, hunits, hescaped⟩ := scanUnits_escape s rest
  rw [scanString, hscan, Option.map_some, joinEscapes_eq hescaped, hunits]

theorem dumpsStr_append (s rest : PyStr) : dumpsStr s ++ rest = 34 :: (s.flatMap escapeChar ++ 34 :: rest) := by
  simp [dumpsStr]

/-! ## Numbers -/

/-- No character that would continue a numeral. -/
def Stops (rest : PyStr) : Prop := ∀ c s, rest = c :: s → isDigit c = false ∧ c ≠ 46 ∧ c ≠ 69 ∧ c ≠ 101

theorem Stops.nil : Stops [] := nofun

theorem Stops.cons {c : Nat} (h : isDigit c = false ∧ c ≠ 46 ∧ c ≠ 69 ∧ c ≠ 101) (s : PyStr) : Stops (c :: s) := by
  intro d t heq
  obtain ⟨rfl, rfl⟩ := List.cons.inj heq
  exact h

/-- Digits, and at least one. -/
def Digits (s : PyStr) : Prop := s ≠ [] ∧ ∀ c ∈ s, isDigit c = true

theorem digits_decimal (n : Nat) : Digits (decimal n) := ⟨decimal_ne_nil n, decimal_digits n⟩

theorem takeWhile_digits {s rest : PyStr} (hs : ∀ c ∈ s, isDigit c = true)
    (hrest : ∀ c t, rest = c :: t → isDigit c = false) : (s ++ rest).takeWhile isDigit = s ∧
      (s ++ rest).dropWhile isDigit = rest := by
  rw [List.takeWhile_append_of_pos hs, List.dropWhile_append_of_pos hs]
  cases rest with
  | nil => simp
  | cons c t => simp [hrest c t rfl]

theorem length_decimal_le {n k : Nat} (h : n < 10 ^ (k + 1)) : (decimal n).length ≤ k + 1 := by
  induction k generalizing n with
  | zero =>
    rw [decimal_of_lt (by omega)]
    exact Nat.le_refl 1
  | succ k ih =>
    by_cases hsmall : n < 10
    · rw [decimal_of_lt hsmall]
      exact Nat.succ_le_succ (Nat.zero_le _)
    · have hdiv : n / 10 < 10 ^ (k + 1) := by
        rw [Nat.pow_succ] at h
        exact Nat.div_lt_of_lt_mul (by omega)
      rw [decimal_of_ge (by omega), List.length_append, List.length_singleton]
      exact Nat.succ_le_succ (ih hdiv)

/-- A numeral begins with a zero only if it is one. -/
theorem decimal_head {n c : Nat} {s : PyStr} (h : decimal n = c :: s) (hc : c = 48) : n = 0 ∧ s = [] := by
  induction n using Nat.strongRecOn generalizing s with
  | ind n ih =>
    by_cases hn : n < 10
    · rw [decimal_of_lt hn] at h
      obtain ⟨rfl, rfl⟩ := List.cons.inj h
      exact ⟨by omega, rfl⟩
    · rw [decimal_of_ge (by omega)] at h
      obtain ⟨d, t, ht, -⟩ := head_decimal (n / 10)
      rw [ht, List.cons_append] at h
      obtain ⟨rfl, rfl⟩ := List.cons.inj h
      have := ih (n / 10) (by omega) ht
      omega

/-- The digits before the point. -/
def IntPart (s : PyStr) : Prop := Digits s ∧ ∀ t, s = 48 :: t → t = []

theorem intPart_decimal (n : Nat) : IntPart (decimal n) :=
  ⟨digits_decimal n, fun _ h => (decimal_head h rfl).2⟩

/-- The digits behind the point, with it, or nothing. -/
def FracPart (s : PyStr) : Prop := s = [] ∨ ∃ t, s = 46 :: t ∧ Digits t

/-- An exponent, or nothing. -/
def ExpPart (s : PyStr) : Prop := s = [] ∨ ∃ sign t, s = 101 :: sign :: t ∧ (sign = 43 ∨ sign = 45) ∧ Digits t

theorem scanExponent_stops {rest : PyStr} (h : Stops rest) : scanNumber.scanExponent rest = ([], rest) := by
  cases rest with
  | nil => rfl
  | cons c s =>
    obtain ⟨-, -, h69, h101⟩ := h c s rfl
    simp [scanNumber.scanExponent, h69, h101]

theorem scanExponent_exp {exp rest : PyStr} (hexp : ExpPart exp) (hrest : Stops rest) :
    scanNumber.scanExponent (exp ++ rest) = (exp, rest) := by
  rcases hexp with rfl | ⟨sign, t, rfl, hsign, hnil, hdigits⟩
  · exact scanExponent_stops hrest
  · obtain ⟨htake, hdrop⟩ := takeWhile_digits hdigits fun c s h => (hrest c s h).1
    obtain ⟨d, u, rfl⟩ := List.exists_cons_of_ne_nil hnil
    have hd := hdigits d List.mem_cons_self
    rw [List.cons_append] at htake hdrop
    rcases hsign with rfl | rfl
    · simp [scanNumber.scanExponent, hd, htake, hdrop]
    · simp [scanNumber.scanExponent, hd, htake, hdrop]

/-- What is behind the digits before the point does not continue them. -/
theorem head_expPart {exp rest : PyStr} (hexp : ExpPart exp) (hrest : Stops rest) (c : Nat) (t : PyStr)
    (h : exp ++ rest = c :: t) : isDigit c = false ∧ c ≠ 46 := by
  rcases hexp with rfl | ⟨sign, t, rfl, -⟩
  · exact ⟨(hrest c t h).1, (hrest c t h).2.1⟩
  · obtain ⟨rfl, -⟩ := List.cons.inj h
    exact ⟨rfl, by decide⟩

theorem head_fracPart {frac exp rest : PyStr} (hfrac : FracPart frac) (hexp : ExpPart exp)
    (hrest : Stops rest) (c : Nat)
    (t : PyStr) (h : frac ++ (exp ++ rest) = c :: t) : isDigit c = false := by
  rcases hfrac with rfl | ⟨t, rfl, -⟩
  · exact (head_expPart hexp hrest c t h).1
  · obtain ⟨rfl, -⟩ := List.cons.inj h
    rfl

/-- What `scanNumber` takes as the digits behind the point, and the text behind. -/
def scanFraction : PyStr → PyStr × PyStr
  | 46 :: d :: rest =>
    if isDigit d then (46 :: d :: rest.takeWhile isDigit, rest.dropWhile isDigit) else ([], 46 :: d :: rest)
  | rest => ([], rest)

theorem scanFraction_append {frac exp rest : PyStr} (hfrac : FracPart frac) (hexp : ExpPart exp) (hrest : Stops rest) :
    scanFraction (frac ++ (exp ++ rest)) = (frac, exp ++ rest) := by
  rcases hfrac with rfl | ⟨t, rfl, hnil, hdigits⟩
  · have hhead := head_expPart hexp hrest
    rw [List.nil_append]
    unfold scanFraction
    split
    · rename_i heq
      exact absurd rfl (hhead _ _ heq).2
    · rfl
  · obtain ⟨d, u, rfl⟩ := List.exists_cons_of_ne_nil hnil
    have hd := hdigits d List.mem_cons_self
    obtain ⟨htake, hdrop⟩ := @takeWhile_digits u (exp ++ rest) (fun c hc => hdigits c (List.mem_cons_of_mem _ hc))
      fun c s h => (head_expPart hexp hrest c s h).1
    simp [scanFraction, hd, htake, hdrop]

/-- A numeral is taken apart. -/
theorem scanNumber_numeral {int frac exp rest : PyStr} (hint : IntPart int) (hfrac : FracPart frac) (hexp : ExpPart exp)
    (hrest : Stops rest) (neg : Bool) :
    scanNumber ((if neg then [45] else []) ++ (int ++ (frac ++ (exp ++ rest)))) =
      some (neg, int, frac ++ exp, rest) := by
  obtain ⟨⟨hnil, hdigits⟩, hzero⟩ := hint
  obtain ⟨c, s, rfl⟩ := List.exists_cons_of_ne_nil hnil
  have hc := hdigits c List.mem_cons_self
  have hminus : c ≠ 45 := by
    rintro rfl
    cases hc
  have hstop := head_fracPart hfrac hexp hrest
  obtain ⟨htake, hdrop⟩ := @takeWhile_digits s (frac ++ (exp ++ rest))
    (fun d hd => hdigits d (List.mem_cons_of_mem _ hd)) hstop
  have hsplit : (if c = 48 then ([c], s ++ (frac ++ (exp ++ rest)))
      else (c :: (s ++ (frac ++ (exp ++ rest))).takeWhile isDigit, (s ++ (frac ++ (exp ++ rest))).dropWhile isDigit)) =
      (c :: s, frac ++ (exp ++ rest)) := by
    split
    · rename_i hc0
      obtain rfl := hzero s (by rw [hc0])
      rfl
    · rw [htake, hdrop]
  have hrestScan : scanNumber (c :: (s ++ (frac ++ (exp ++ rest)))) = some (false, c :: s, frac ++ exp, rest) ∧
      scanNumber (45 :: c :: (s ++ (frac ++ (exp ++ rest)))) = some (true, c :: s, frac ++ exp, rest) := by
    have hfraction := scanFraction_append hfrac hexp hrest
    have hexponent := scanExponent_exp hexp hrest
    constructor
    · simp only [scanNumber, List.cons.injEq, hminus, false_and, imp_false, not_false_eq_true, implies_true, hc,
        if_true, hsplit]
      show some (false, c :: s, (scanFraction _).1 ++ (scanNumber.scanExponent (scanFraction _).2).1,
        (scanNumber.scanExponent (scanFraction _).2).2) = _
      rw [hfraction, hexponent]
    · simp only [scanNumber, hc, if_true, hsplit]
      show some (true, c :: s, (scanFraction _).1 ++ (scanNumber.scanExponent (scanFraction _).2).1,
        (scanNumber.scanExponent (scanFraction _).2).2) = _
      rw [hfraction, hexponent]
  cases neg with
  | false => exact hrestScan.1
  | true => exact hrestScan.2

/-- An integer is read back. -/
theorem scanNumber_strInt (n : Int) {rest : PyStr} (hrest : Stops rest) :
    scanNumber (strInt n ++ rest) = some (decide (n < 0), decimal n.natAbs, [], rest) := by
  have hscan (m : Nat) (neg : Bool) := scanNumber_numeral (intPart_decimal m) (.inl rfl) (.inl rfl) hrest neg
  cases n with
  | ofNat n => exact hscan n false
  | negSucc n =>
    rw [decide_eq_true (Int.negSucc_lt_zero n)]
    exact hscan (n + 1) true

theorem Digits.append_replicate {s : PyStr} (h : Digits s) (n : Nat) : Digits (s ++ List.replicate n 48) := by
  refine ⟨fun hnil => h.1 (List.append_eq_nil_iff.mp hnil).1, fun c hc => ?_⟩
  rcases List.mem_append.mp hc with hc | hc
  · exact h.2 c hc
  · rw [List.eq_of_mem_replicate hc]
    rfl

theorem Digits.take {s : PyStr} (h : Digits s) {n : Nat} (hn : 0 < n) : Digits (s.take n) := by
  refine ⟨fun hnil => ?_, fun c hc => h.2 c (List.mem_of_mem_take hc)⟩
  rcases List.take_eq_nil_iff.mp hnil with hzero | hnil
  · omega
  · exact h.1 hnil

theorem Digits.drop {s : PyStr} (h : Digits s) {n : Nat} (hn : n < s.length) : Digits (s.drop n) := by
  refine ⟨fun hnil => ?_, fun c hc => h.2 c (List.mem_of_mem_drop hc)⟩
  have := List.drop_eq_nil_iff.mp hnil
  omega

/-- The first digits of a numeral. -/
theorem IntPart.take {s : PyStr} (h : IntPart s) {n : Nat} (hn : 0 < n) : IntPart (s.take n) := by
  refine ⟨h.1.take hn, fun t ht => ?_⟩
  obtain ⟨c, u, rfl⟩ := List.exists_cons_of_ne_nil h.1.1
  obtain ⟨n, rfl⟩ := Nat.exists_eq_succ_of_ne_zero (Nat.ne_of_gt hn)
  obtain ⟨rfl, rfl⟩ := List.cons.inj ht
  rw [h.2 u rfl, List.take_nil]

/-- The digits of a double, and where its point is, are those of a `repr`: zero has no zeros in front of the point. -/
def PyFloat.Proper : PyFloat → Prop
  | .finite _ m e => m = 0 → e ≤ 0
  | _ => False

theorem reprDecimal_parts {m : Nat} {e : Int} (h : m = 0 → e ≤ 0) :
    ∃ int frac exp, PyFloat.reprDecimal m e = int ++ (frac ++ exp) ∧ IntPart int ∧ FracPart frac ∧ ExpPart exp ∧
      frac ++ exp ≠ [] := by
  have hint := intPart_decimal m
  have hdigits := digits_decimal m
  have hlength : 0 < (decimal m).length := List.length_pos_iff.mpr hdigits.1
  have hzero : Digits [48] := ⟨List.cons_ne_nil _ _, fun c hc => by rw [List.mem_singleton.mp hc]; rfl⟩
  simp only [PyFloat.reprDecimal]
  split
  · split
    · generalize (-(((decimal m).length : Int) + e)).toNat = zeros
      refine ⟨[48], 46 :: (List.replicate zeros 48 ++ decimal m), [], by simp [py], ⟨hzero, fun t ht => ?_⟩,
        .inr ⟨_, rfl, ?_⟩, .inl rfl, List.cons_ne_nil _ _⟩
      · exact (List.cons.inj ht).2.symm
      · refine ⟨fun hnil => hdigits.1 (List.append_eq_nil_iff.mp hnil).2, fun c hc => ?_⟩
        rcases List.mem_append.mp hc with hc | hc
        · rw [List.eq_of_mem_replicate hc]
          rfl
        · exact hdigits.2 c hc
    · split
      · generalize hzeros : (((decimal m).length : Int) + e - ((decimal m).length : Int)).toNat = zeros
        refine ⟨decimal m ++ List.replicate zeros 48, [46, 48], [],
          by simp [py], ⟨hdigits.append_replicate _, fun t ht => ?_⟩,
          .inr ⟨[48], rfl, hzero⟩, .inl rfl, List.cons_ne_nil _ _⟩
        obtain ⟨c, s, hc, -⟩ := head_decimal m
        rw [hc, List.cons_append] at ht
        obtain ⟨rfl, rfl⟩ := List.cons.inj ht
        obtain ⟨rfl, rfl⟩ := decimal_head hc rfl
        have he := h rfl
        rw [List.nil_append, List.replicate_eq_nil_iff]
        omega
      · generalize hpoint : (((decimal m).length : Int) + e).toNat = point
        refine ⟨(decimal m).take point, 46 :: (decimal m).drop point, [], by simp [py], hint.take (by omega),
          .inr ⟨_, rfl, hdigits.drop (by omega)⟩, .inl rfl, List.cons_ne_nil _ _⟩
  · have hexp (p : Int) : ExpPart (101 :: (if p < 0 then py "-" else py "+") ++
        (if (decimal p.natAbs).length < 2 then 48 :: decimal p.natAbs else decimal p.natAbs)) := by
      have hdigits' := digits_decimal p.natAbs
      have htwo : Digits (if (decimal p.natAbs).length < 2 then 48 :: decimal p.natAbs else decimal p.natAbs) := by
        split
        · exact ⟨List.cons_ne_nil _ _, List.forall_mem_cons.mpr ⟨rfl, hdigits'.2⟩⟩
        · exact hdigits'
      rw [List.cons_append]
      split
      · exact .inr ⟨45, _, rfl, .inr rfl, htwo⟩
      · exact .inr ⟨43, _, rfl, .inl rfl, htwo⟩
    generalize ((decimal m).length : Int) + e - 1 = p
    split
    · exact ⟨decimal m, [], _, by simp [py], hint, .inl rfl, hexp p, by simp⟩
    · exact ⟨(decimal m).take 1, 46 :: (decimal m).drop 1, _, by simp [py], hint.take (by omega),
        .inr ⟨_, rfl, hdigits.drop (by omega)⟩, hexp p, by simp⟩

/-! ## Spaces -/

/-- White space of JSON. -/
def Spaces (s : PyStr) : Prop := ∀ c ∈ s, isJsonSpace c = true

theorem Spaces.append {s t : PyStr} (hs : Spaces s) (ht : Spaces t) : Spaces (s ++ t) := fun c hc =>
  (List.mem_append.mp hc).elim (hs c) (ht c)

theorem Spaces.skip {s : PyStr} (h : Spaces s) (t : PyStr) : skipSpace (s ++ t) = skipSpace t :=
  List.dropWhile_append_of_pos h

theorem skipSpace_cons {c : Nat} (h : isJsonSpace c = false) (s : PyStr) : skipSpace (c :: s) = c :: s := by
  rw [skipSpace, List.dropWhile_cons_of_neg (by rw [h]; exact Bool.false_ne_true)]

/-- White space ends a numeral. -/
theorem Spaces.stops {s t : PyStr} (h : Spaces s) (ht : Stops t) : Stops (s ++ t) := by
  cases s with
  | nil => exact ht
  | cons c s =>
    have hc := h c List.mem_cons_self
    simp only [isJsonSpace, Bool.or_eq_true, decide_eq_true_eq] at hc
    refine Stops.cons ?_ _
    rcases hc with ((rfl | rfl) | rfl) | rfl <;> decide

/-- The separators are a comma and a colon, with white space behind. -/
structure JsonStyle.Spaced (style : JsonStyle) : Prop where
  item : ∃ s, style.itemSeparator = 44 :: s ∧ Spaces s
  key : ∃ s, style.keySeparator = 58 :: s ∧ Spaces s

theorem JsonStyle.spaced_canonical : canonical.Spaced :=
  ⟨⟨[], rfl, fun _ hc => absurd hc List.not_mem_nil⟩, ⟨[], rfl, fun _ hc => absurd hc List.not_mem_nil⟩⟩

theorem JsonStyle.newline_spaces (style : JsonStyle) (depth : Nat) : Spaces (style.newline depth) := by
  unfold JsonStyle.newline
  split
  · exact fun c hc => absurd hc List.not_mem_nil
  · intro c hc
    rcases List.mem_cons.mp hc with rfl | hc
    · rfl
    · rw [List.eq_of_mem_replicate hc]
      rfl

/-! ## Values -/

/-- A digit comes first, or behind a minus. -/
def StartsNumeral (s : PyStr) : Prop :=
  (∃ c u, s = c :: u ∧ isDigit c = true) ∨ ∃ c u, s = 45 :: c :: u ∧ isDigit c = true

theorem StartsNumeral.append {s : PyStr} (h : StartsNumeral s) (rest : PyStr) : StartsNumeral (s ++ rest) := by
  rcases h with ⟨c, u, rfl, hc⟩ | ⟨c, u, rfl, hc⟩
  · exact .inl ⟨c, u ++ rest, rfl, hc⟩
  · exact .inr ⟨c, u ++ rest, rfl, hc⟩

theorem StartsNumeral.head {s : PyStr} (h : StartsNumeral s) : ∃ c t, s = c :: t ∧ (32 < c ∧ c < 127) ∧ c ≠ 93 := by
  rcases h with ⟨c, u, rfl, hc⟩ | ⟨c, u, rfl, -⟩
  · simp only [isDigit, Bool.and_eq_true, decide_eq_true_eq] at hc
    exact ⟨c, u, rfl, by omega, by omega⟩
  · exact ⟨45, c :: u, rfl, by decide, by decide⟩

section

variable {h : JsonDecoder} {fuel : Nat} {s t rest : PyStr}

/-- A numeral is scanned as one. -/
theorem scanOnce_number (hs : StartsNumeral s) {neg : Bool} {int numeral : PyStr}
    (hscan : scanNumber s = some (neg, int, numeral, rest)) :
    scanOnce h (fuel + 1) s = (h.number neg int numeral).map fun v => (v, rest) := by
  rcases hs with ⟨c, u, rfl, hc⟩ | ⟨c, u, rfl, hc⟩
  · rw [scanOnce, hscan]
    all_goals
      intro rest heq
      obtain ⟨rfl, -⟩ := List.cons.inj heq
      cases hc
  · rw [scanOnce, hscan]
    all_goals
      intro rest heq
      obtain ⟨hminus, heq⟩ := List.cons.inj heq
      first
        | exact absurd hminus (by decide)
        | obtain ⟨rfl, -⟩ := List.cons.inj heq
          cases hc

theorem scanOnce_empty_array (hs : skipSpace s = 93 :: rest) : scanOnce h (fuel + 1) (91 :: s) =
    .ok (.arr [], rest) := by
  rw [scanOnce, hs]
  rfl

theorem scanOnce_array (hs : skipSpace s = t) (ht : ∀ u, t ≠ 93 :: u) {xs : List Json}
    (hscan : scanElements h fuel t = .ok (xs, rest)) : scanOnce h (fuel + 1) (91 :: s) = .ok (.arr xs, rest) := by
  rw [scanOnce, hs]
  split
  · exact absurd rfl (ht _)
  · rw [hscan]
    rfl

theorem scanOnce_empty_object (hs : skipSpace s = 125 :: rest) (hpairs : h.objectPairs [] = .ok []) :
    scanOnce h (fuel + 1) (123 :: s) = .ok (.obj [], rest) := by
  rw [scanOnce, hs]
  simp only [hpairs]
  rfl

theorem scanOnce_object (hs : skipSpace s = t) (ht : ∀ u, t ≠ 125 :: u) {kvs : List (PyStr × Json)}
    (hscan : scanMembers h fuel t = .ok (kvs, rest)) (hpairs : h.objectPairs kvs = .ok kvs) :
    scanOnce h (fuel + 1) (123 :: s) = .ok (.obj kvs, rest) := by
  rw [scanOnce, hs]
  split
  · exact absurd rfl (ht _)
  · rw [hscan]
    show (h.objectPairs kvs >>= _) = _
    rw [hpairs]
    rfl

theorem scanElements_last {v : Json} (hv : scanOnce h fuel s = .ok (v, t)) (ht : skipSpace t = 93 :: rest) :
    scanElements h (fuel + 1) s = .ok ([v], rest) := by
  rw [scanElements]
  refine bind_eq_ok.mpr ⟨(v, t), hv, ?_⟩
  simp only [ht]

theorem scanElements_next {v : Json} {xs : List Json} {u : PyStr} (hv : scanOnce h fuel s = .ok (v, t))
    (ht : skipSpace t = 44 :: u) (hrest : scanElements h fuel (skipSpace u) = .ok (xs, rest)) :
    scanElements h (fuel + 1) s = .ok (v :: xs, rest) := by
  rw [scanElements]
  refine bind_eq_ok.mpr ⟨(v, t), hv, ?_⟩
  simp only [ht]
  exact bind_eq_ok.mpr ⟨(xs, rest), hrest, rfl⟩

theorem scanMembers_last {k : PyStr} {v : Json} {u : PyStr} (hk : scanString s = some (k, t))
    (ht : skipSpace t = 58 :: u) {w : PyStr} (hv : scanOnce h fuel (skipSpace u) = .ok (v, w))
    (hw : skipSpace w = 125 :: rest) : scanMembers h (fuel + 1) (34 :: s) = .ok ([(k, v)], rest) := by
  rw [scanMembers, hk]
  simp only [ht]
  refine bind_eq_ok.mpr ⟨(v, w), hv, ?_⟩
  simp only [hw]

theorem scanMembers_next {k : PyStr} {v : Json} {u : PyStr} (hk : scanString s = some (k, t))
    (ht : skipSpace t = 58 :: u) {w : PyStr} (hv : scanOnce h fuel (skipSpace u) = .ok (v, w)) {x : PyStr}
    (hw : skipSpace w = 44 :: x) {kvs : List (PyStr × Json)}
    (hrest : scanMembers h fuel (skipSpace x) = .ok (kvs, rest)) :
    scanMembers h (fuel + 1) (34 :: s) = .ok ((k, v) :: kvs, rest) := by
  rw [scanMembers, hk]
  simp only [ht]
  refine bind_eq_ok.mpr ⟨(v, w), hv, ?_⟩
  simp only [hw]
  exact bind_eq_ok.mpr ⟨(kvs, rest), hrest, rfl⟩

end

/-! ## The items between brackets -/

/-- The text of a value is scanned to it. -/
structure Scans (h : JsonDecoder) (v : Json) (text : PyStr) : Prop where
  head : ∃ c t, text = c :: t ∧ (32 < c ∧ c < 127) ∧ c ≠ 93
  scan : ∀ rest, Stops rest → ∀ fuel, 2 * text.length ≤ fuel → scanOnce h fuel (text ++ rest) = .ok (v, rest)

section

variable {h : JsonDecoder}

theorem Scans.skipSpace_append {v : Json} {text : PyStr} (hv : Scans h v text) (rest : PyStr) :
    skipSpace (text ++ rest) = text ++ rest := by
  obtain ⟨c, t, rfl, hc, -⟩ := hv.head
  refine skipSpace_cons ?_ (t ++ rest)
  simp only [isJsonSpace, Bool.or_eq_false_iff, decide_eq_false_iff_not]
  omega

theorem stops_comma (s : PyStr) : Stops (44 :: s) := .cons (by decide) s

theorem intercalate_starts (separator first : PyStr) (items : List PyStr) :
    ∃ u, separator.intercalate (first :: items) = first ++ u := by
  cases items with
  | nil => exact ⟨[], by rw [intercalate_singleton, List.append_nil]⟩
  | cons second items => exact ⟨_, (intercalate_cons_cons separator first second items).trans (List.append_assoc ..)⟩

/-- The elements of an array are scanned one after the other. -/
theorem scanElements_ok {separator closing : PyStr} (hseparator : Spaces separator)
    (hclosing : Spaces closing) {xs : List Json}
    {texts : List PyStr} (hx : List.Forall₂ (Scans h) xs texts) (hne : texts ≠ []) (rest : PyStr) {fuel : Nat}
    (hf : 2 * ((44 :: separator).intercalate texts).length + 1 ≤ fuel) :
    scanElements h fuel ((44 :: separator).intercalate texts ++ (closing ++ 93 :: rest)) = .ok (xs, rest) := by
  induction hx generalizing fuel with
  | nil => exact absurd rfl hne
  | @cons v text xs texts hv hx ih =>
    obtain ⟨fuel, rfl⟩ : ∃ n, fuel = n + 1 := ⟨fuel - 1, by omega⟩
    cases hx with
    | nil =>
      rw [intercalate_singleton] at hf ⊢
      refine scanElements_last (hv.scan _ (hclosing.stops (.cons (by decide) rest)) fuel (by omega)) ?_
      rw [hclosing.skip, skipSpace_cons (by decide)]
    | @cons w second xs texts hw hx =>
      rw [intercalate_cons_cons] at hf ⊢
      simp only [List.length_append, List.length_cons] at hf
      have hrest : scanElements h fuel ((44 :: separator).intercalate (second :: texts) ++ (closing ++ 93 :: rest)) =
          .ok (w :: xs, rest) := ih (List.cons_ne_nil _ _) (by omega)
      obtain ⟨u, hu⟩ := intercalate_starts (44 :: separator) second texts
      rw [List.append_assoc, List.append_assoc]
      refine scanElements_next (hv.scan _ (stops_comma _) fuel (by omega)) (skipSpace_cons (by decide) _) ?_
      show scanElements h fuel (skipSpace (separator ++ _)) = _
      rw [hseparator.skip, hu, List.append_assoc, hw.skipSpace_append, ← List.append_assoc, ← hu, hrest]

/-- The keys are the same, and the texts are scanned to the values. -/
def EntryScans (h : JsonDecoder) (kv : PyStr × Json) (entry : PyStr × PyStr) : Prop :=
    kv.1 = entry.1 ∧ Scans h kv.2 entry.2

/-- The members of an object are scanned one after the other. -/
theorem scanMembers_ok {style : JsonStyle} {space separator closing : PyStr} (hkey : style.keySeparator = 58 :: space)
    (hspace : Spaces space) (hseparator : Spaces separator) (hclosing : Spaces closing) {kvs : List (PyStr × Json)}
    {entries : List (PyStr × PyStr)} (hx : List.Forall₂ (EntryScans h) kvs entries) (hne : entries ≠ []) (rest : PyStr)
    {fuel : Nat} (hf : 2 * ((44 :: separator).intercalate (entries.map (dumpsEntry style))).length + 1 ≤ fuel) :
    scanMembers h fuel ((44 :: separator).intercalate (entries.map (dumpsEntry style)) ++ (closing ++ 125 :: rest)) =
      .ok (kvs, rest) := by
  have hentry (k text tail : PyStr) : dumpsEntry style (k, text) ++ tail =
      34 :: (k.flatMap escapeChar ++ 34 :: 58 :: (space ++ (text ++ tail))) := by
    rw [dumpsEntry, hkey, List.append_assoc, List.append_assoc, dumpsStr_append]
    rfl
  induction hx generalizing fuel with
  | nil => exact absurd rfl hne
  | @cons kv entry kvs entries hkv hx ih =>
    obtain ⟨fuel, rfl⟩ : ∃ n, fuel = n + 1 := ⟨fuel - 1, by omega⟩
    obtain ⟨k, v⟩ := kv
    obtain ⟨k', text⟩ := entry
    obtain ⟨rfl, hv⟩ : k = k' ∧ Scans h v text := hkv
    have hlength : text.length ≤ (dumpsEntry style (k, text)).length := by
      show text.length ≤ (dumpsStr k ++ style.keySeparator ++ text).length
      rw [List.length_append]
      omega
    have hvalue (tail : PyStr) : skipSpace (space ++ (text ++ tail)) = text ++ tail := by
      rw [hspace.skip, hv.skipSpace_append]
    cases hx with
    | nil =>
      rw [List.map_singleton, intercalate_singleton] at hf ⊢
      rw [hentry]
      have hscan : scanOnce h fuel (skipSpace (space ++ (text ++ (closing ++ 125 :: rest)))) =
          .ok (v, closing ++ 125 :: rest) := by
        rw [hvalue]
        exact hv.scan _ (hclosing.stops (.cons (by decide) rest)) fuel (by omega)
      refine scanMembers_last (scanString_escape k _) (skipSpace_cons (by decide) _) hscan ?_
      rw [hclosing.skip, skipSpace_cons (by decide)]
    | @cons kv' second kvs entries hkv' hx =>
      rw [List.map_cons, List.map_cons, intercalate_cons_cons] at hf ⊢
      simp only [List.length_append, List.length_cons] at hf
      have hrest : scanMembers h fuel ((44 :: separator).intercalate ((second :: entries).map (dumpsEntry style)) ++
          (closing ++ 125 :: rest)) = .ok (kv' :: kvs, rest) := ih (List.cons_ne_nil _ _) (by rw [List.map_cons]; omega)
      obtain ⟨u, hu⟩ := intercalate_starts (44 :: separator) (dumpsEntry style second) (entries.map (dumpsEntry style))
      obtain ⟨t, ht⟩ : ∃ t, dumpsEntry style second = 34 :: t := ⟨_, rfl⟩
      generalize htail : (44 :: separator).intercalate (dumpsEntry style second :: entries.map (dumpsEntry style)) ++
          (closing ++ 125 :: rest) = tail
      have hskip : skipSpace (separator ++ tail) = tail := by
        rw [← htail, hseparator.skip, hu, ht]
        exact skipSpace_cons (by decide) _
      have hscan : scanOnce h fuel (skipSpace (space ++ (text ++ 44 :: (separator ++ tail)))) =
          .ok (v, 44 :: (separator ++ tail)) := by
        rw [hvalue]
        exact hv.scan _ (stops_comma _) fuel (by omega)
      rw [List.append_assoc, List.append_assoc, htail, hentry]
      refine scanMembers_next (scanString_escape k _) (skipSpace_cons (by decide) _) hscan
        (skipSpace_cons (by decide) _) ?_
      rw [hskip, ← htail, ← List.map_cons, hrest]

theorem scans_array {style : JsonStyle} (hstyle : style.Spaced) (depth : Nat) {xs : List Json} {texts : List PyStr}
    (hx : List.Forall₂ (Scans h) xs texts) : Scans h (.arr xs) (style.bracket depth 91 93 texts) := by
  obtain ⟨space, hitem, hspace⟩ := hstyle.item
  cases hx with
  | nil =>
    refine ⟨⟨91, [93], rfl, by decide, by decide⟩, fun rest _ fuel hf => ?_⟩
    obtain ⟨fuel, rfl⟩ : ∃ n, fuel = n + 1 := ⟨fuel - 1, by simp [JsonStyle.bracket] at hf; omega⟩
    exact scanOnce_empty_array (skipSpace_cons (by decide) rest)
  | @cons v text xs texts hv hx =>
    have hbracket : style.bracket depth 91 93 (text :: texts) = 91 :: (style.newline (depth + 1) ++
        ((44 :: (space ++ style.newline (depth + 1))).intercalate (text :: texts) ++
          (style.newline depth ++ [93]))) := by
      simp [JsonStyle.bracket, hitem]
    rw [hbracket]
    refine ⟨⟨91, _, rfl, by decide, by decide⟩, fun rest _ fuel hf => ?_⟩
    simp only [List.length_cons, List.length_append] at hf
    obtain ⟨fuel, rfl⟩ : ∃ n, fuel = n + 1 := ⟨fuel - 1, by omega⟩
    obtain ⟨u, hu⟩ := intercalate_starts (44 :: (space ++ style.newline (depth + 1))) text texts
    obtain ⟨c, t, htext, -, hbracket⟩ := hv.head
    have hscan := scanElements_ok (hspace.append (style.newline_spaces (depth + 1))) (style.newline_spaces depth)
      (.cons hv hx) (List.cons_ne_nil _ _) rest (show _ ≤ fuel by omega)
    simp only [List.cons_append, List.append_assoc, List.nil_append] at hscan ⊢
    refine scanOnce_array ?_ ?_ hscan
    · rw [(style.newline_spaces (depth + 1)).skip, hu, List.append_assoc, hv.skipSpace_append]
    · intro w heq
      rw [hu, htext] at heq
      exact hbracket (List.cons.inj heq).1

theorem scans_object {style : JsonStyle} (hstyle : style.Spaced) (depth : Nat) {kvs : List (PyStr × Json)}
    {entries : List (PyStr × PyStr)} (hx : List.Forall₂ (EntryScans h) kvs entries)
    (hpairs : h.objectPairs kvs = .ok kvs) :
    Scans h (.obj kvs) (style.bracket depth 123 125 (entries.map (dumpsEntry style))) := by
  obtain ⟨space, hitem, hspace⟩ := hstyle.item
  obtain ⟨keySpace, hkey, hkeySpace⟩ := hstyle.key
  cases hx with
  | nil =>
    refine ⟨⟨123, [125], rfl, by decide, by decide⟩, fun rest _ fuel hf => ?_⟩
    obtain ⟨fuel, rfl⟩ : ∃ n, fuel = n + 1 := ⟨fuel - 1, by simp [JsonStyle.bracket] at hf; omega⟩
    exact scanOnce_empty_object (skipSpace_cons (by decide) rest) hpairs
  | @cons kv entry kvs entries hkv hx =>
    have hbracket : style.bracket depth 123 125 ((entry :: entries).map (dumpsEntry style)) =
        123 :: (style.newline (depth + 1) ++ ((44 :: (space ++ style.newline (depth + 1))).intercalate
          ((entry :: entries).map (dumpsEntry style)) ++ (style.newline depth ++ [125]))) := by
      simp [JsonStyle.bracket, hitem]
    rw [hbracket]
    refine ⟨⟨123, _, rfl, by decide, by decide⟩, fun rest _ fuel hf => ?_⟩
    simp only [List.length_cons, List.length_append] at hf
    obtain ⟨fuel, rfl⟩ : ∃ n, fuel = n + 1 := ⟨fuel - 1, by omega⟩
    obtain ⟨u, hu⟩ := intercalate_starts (44 :: (space ++ style.newline (depth + 1))) (dumpsEntry style entry)
      (entries.map (dumpsEntry style))
    obtain ⟨t, ht⟩ : ∃ t, dumpsEntry style entry = 34 :: t := ⟨_, rfl⟩
    have hscan := scanMembers_ok hkey hkeySpace (hspace.append (style.newline_spaces (depth + 1)))
      (style.newline_spaces depth)
      (.cons hkv hx) (List.cons_ne_nil _ _) rest (show _ ≤ fuel by omega)
    simp only [List.cons_append, List.append_assoc, List.nil_append] at hscan ⊢
    refine scanOnce_object ?_ ?_ hscan hpairs
    · rw [(style.newline_spaces (depth + 1)).skip, List.map_cons, hu, ht]
      exact skipSpace_cons (by decide) _
    · intro w heq
      rw [List.map_cons, hu, ht] at heq
      exact absurd (List.cons.inj heq).1 (by decide)

end

/-! ## The round trip -/

/-- The entries in the order of the style. -/
def JsonStyle.sortKvs (style : JsonStyle) (kvs : List (PyStr × Json)) : List (PyStr × Json) :=
  if style.sortKeys then kvs.insertionSort fun a b => a.1 ≤ b.1 else kvs

mutual

/-- The value with its entries in the order of the style. -/
def Json.sorted (style : JsonStyle) : Json → Json
  | .arr xs => .arr (Json.sortedItems style xs)
  | .obj kvs => .obj (style.sortKvs (Json.sortedEntries style kvs))
  | .null => .null
  | .bool b => .bool b
  | .int n => .int n
  | .float x => .float x
  | .str s => .str s

def Json.sortedItems (style : JsonStyle) : List Json → List Json
  | [] => []
  | x :: xs => x.sorted style :: Json.sortedItems style xs

def Json.sortedEntries (style : JsonStyle) : List (PyStr × Json) → List (PyStr × Json)
  | [] => []
  | (k, v) :: kvs => (k, v.sorted style) :: Json.sortedEntries style kvs

end

mutual

/-- The keys of objects are distinct, integers are within the limit of `int`, and `float` reads the `repr` of floats. -/
def Json.Readable (h : JsonDecoder) : Json → Prop
  | .int n => (decimal n.natAbs).length ≤ 4300
  | .float x => x.Proper ∧ h.float x.repr = x
  | .arr xs => Json.readableItems h xs
  | .obj kvs => (kvs.map Prod.fst).Nodup ∧ Json.readableEntries h kvs
  | _ => True

def Json.readableItems (h : JsonDecoder) : List Json → Prop
  | [] => True
  | x :: xs => x.Readable h ∧ Json.readableItems h xs

def Json.readableEntries (h : JsonDecoder) : List (PyStr × Json) → Prop
  | [] => True
  | (_, v) :: kvs => v.Readable h ∧ Json.readableEntries h kvs

end

/-- Entries with distinct keys are left as they are. -/
def JsonDecoder.KeepsDistinct (h : JsonDecoder) : Prop := ∀ kvs, (kvs.map Prod.fst).Nodup → h.objectPairs kvs = .ok kvs

section

variable {h : JsonDecoder} {style : JsonStyle}

theorem uniqueKeys_distinct {result kvs : List (PyStr × Json)} (hn : ((result ++ kvs).map Prod.fst).Nodup) :
    JsonDecoder.strict.uniqueKeys result kvs = .ok (result ++ kvs) := by
  induction kvs generalizing result with
  | nil => exact congrArg Except.ok (List.append_nil result).symm
  | cons kv kvs ih =>
    have hnew : ¬(result.map Prod.fst).contains kv.1 = true := by
      rw [List.map_append, List.nodup_append] at hn
      rw [List.contains_iff_mem]
      exact fun hmem => hn.2.2 kv.1 hmem kv.1 List.mem_cons_self rfl
    rw [JsonDecoder.strict.uniqueKeys, if_neg hnew, ih (by rwa [List.append_assoc]), List.append_assoc]
    rfl

theorem JsonDecoder.strict_keepsDistinct (float : PyStr → PyFloat) : (JsonDecoder.strict float).KeepsDistinct :=
  fun _ hn => uniqueKeys_distinct hn

theorem JsonDecoder.plain_keepsDistinct (float : PyStr → PyFloat) : (JsonDecoder.plain float).KeepsDistinct :=
  fun kvs hn => (strict_below_plain float).objectPairs kvs kvs (strict_keepsDistinct float kvs hn)

theorem Json.keys_sortedEntries (kvs : List (PyStr × Json)) :
    (Json.sortedEntries style kvs).map Prod.fst = kvs.map Prod.fst := by
  induction kvs with
  | nil => rfl
  | cons kv kvs ih => rw [Json.sortedEntries, List.map_cons, List.map_cons, ih]

theorem JsonStyle.sortKvs_perm (kvs : List (PyStr × Json)) : (style.sortKvs kvs).Perm kvs := by
  unfold sortKvs
  split
  · exact List.perm_insertionSort _ _
  · exact .refl _

theorem scans_number {v : Json} {text int numeral : PyStr} {neg : Bool} (hstart : StartsNumeral text)
    (hscan : ∀ rest, Stops rest → scanNumber (text ++ rest) = some (neg, int, numeral, rest))
    (hv : h.number neg int numeral = .ok v) : Scans h v text := by
  refine ⟨hstart.head, fun rest hrest fuel hf => ?_⟩
  obtain ⟨c, t, rfl, -⟩ := hstart.head
  obtain ⟨fuel, rfl⟩ : ∃ n, fuel = n + 1 := ⟨fuel - 1, by rw [List.length_cons] at hf; omega⟩
  rw [scanOnce_number (hstart.append rest) (hscan rest hrest), hv]
  rfl

theorem scans_int {n : Int} (hn : (decimal n.natAbs).length ≤ 4300) : Scans h (.int n) (strInt n) := by
  have hstart : StartsNumeral (strInt n) := by
    cases n with
    | ofNat n => exact .inl (head_decimal n)
    | negSucc n =>
      obtain ⟨c, u, hu, hc⟩ := head_decimal (n + 1)
      exact .inr ⟨c, u, congrArg (45 :: ·) hu, hc⟩
  refine scans_number hstart (fun rest hrest => scanNumber_strInt n hrest) ?_
  rw [JsonDecoder.number, if_neg (not_not_intro rfl), if_neg (by omega), ofDecimal_decimal]
  cases n with
  | ofNat n => rfl
  | negSucc n => rw [decide_eq_true (Int.negSucc_lt_zero n)]; rfl

theorem scans_float {x : PyFloat} (hx : x.Proper) (hread : h.float x.repr = x) {text : PyStr}
    (ht : dumpsFloat style x = some text) : Scans h (.float x) text := by
  cases x with
  | inf | nan => exact hx.elim
  | finite neg m e =>
    obtain rfl := Option.some.inj ht
    obtain ⟨int, frac, exp, hparts, hint, hfrac, hexp, hne⟩ := reprDecimal_parts hx
    have hrepr : (PyFloat.finite neg m e).repr = (if neg then [45] else []) ++ (int ++ (frac ++ exp)) := by
      rw [PyFloat.repr, hparts]
    have hstart : StartsNumeral (PyFloat.finite neg m e).repr := by
      obtain ⟨c, u, hu, hc⟩ := PyFloat.head_reprDecimal m e
      rw [PyFloat.repr, hu]
      cases neg with
      | false => exact .inl ⟨c, u, rfl, hc⟩
      | true => exact .inr ⟨c, u, rfl, hc⟩
    have hscan (rest : PyStr) (hrest : Stops rest) :
        scanNumber ((PyFloat.finite neg m e).repr ++ rest) = some (neg, int, frac ++ exp, rest) := by
      rw [hrepr]
      simp only [List.append_assoc]
      exact scanNumber_numeral hint hfrac hexp hrest neg
    refine scans_number hstart hscan ?_
    rw [JsonDecoder.number, if_pos hne, List.append_assoc, ← hrepr, hread]

/-- A value that is one word. -/
theorem scans_word {v : Json} {c : Nat} {word : PyStr} (hc : (32 < c ∧ c < 127) ∧ c ≠ 93)
    (hscan : ∀ rest fuel, scanOnce h (fuel + 1) (c :: word ++ rest) = .ok (v, rest)) : Scans h v (c :: word) := by
  refine ⟨⟨c, word, rfl, hc⟩, fun rest _ fuel hf => ?_⟩
  obtain ⟨fuel, rfl⟩ : ∃ n, fuel = n + 1 := ⟨fuel - 1, by rw [List.length_cons] at hf; omega⟩
  exact hscan rest fuel

mutual

/-- What is dumped of a value is scanned to it. -/
theorem dumps_scans (hstyle : style.Spaced) (hh : h.KeepsDistinct) (depth : Nat) (v : Json) (hv : v.Readable h)
    {text : PyStr} (ht : dumps style depth v = some text) : Scans h (v.sorted style) text := by
  cases v with
  | null =>
    obtain rfl := Option.some.inj ht
    exact scans_word (by decide) fun rest fuel => by rw [scanOnce.eq_def]; rfl
  | bool b =>
    cases b with
    | false =>
      obtain rfl := Option.some.inj ht
      exact scans_word (by decide) fun rest fuel => by rw [scanOnce.eq_def]; rfl
    | true =>
      obtain rfl := Option.some.inj ht
      exact scans_word (by decide) fun rest fuel => by rw [scanOnce.eq_def]; rfl
  | int n =>
    obtain rfl := Option.some.inj ht
    exact scans_int hv
  | float x => exact scans_float hv.1 hv.2 ht
  | str s =>
    obtain rfl := Option.some.inj ht
    refine scans_word (by decide) fun rest fuel => ?_
    show scanOnce h (fuel + 1) (dumpsStr s ++ rest) = _
    rw [dumpsStr_append, scanOnce, scanString_escape]
    rfl
  | arr xs =>
    obtain ⟨texts, htexts, rfl⟩ := Option.map_eq_some_iff.mp ht
    exact scans_array hstyle depth (dumpsItems_scans hstyle hh (depth + 1) xs hv htexts)
  | obj kvs =>
    obtain ⟨entries, hentries, rfl⟩ := Option.map_eq_some_iff.mp ht
    refine scans_object hstyle depth ?_ (hh _ ?_)
    · have hscans := dumpsEntries_scans hstyle hh (depth + 1) kvs hv.2 hentries
      unfold JsonStyle.sortKvs sortEntries
      split
      · exact forall₂_insertionSort (fun _ _ hscan => hscan.1) hscans
      · exact hscans
    · rw [((JsonStyle.sortKvs_perm _).map Prod.fst).nodup_iff, Json.keys_sortedEntries]
      exact hv.1

theorem dumpsItems_scans (hstyle : style.Spaced) (hh : h.KeepsDistinct) (depth : Nat) (xs : List Json)
    (hxs : Json.readableItems h xs) {texts : List PyStr} (ht : dumpsItems style depth xs = some texts) :
    List.Forall₂ (Scans h) (Json.sortedItems style xs) texts := by
  cases xs with
  | nil =>
    obtain rfl := Option.some.inj ht
    exact .nil
  | cons x xs =>
    obtain ⟨text, htext, ht⟩ := Option.bind_eq_some_iff.mp ht
    obtain ⟨rest, hrest, ht⟩ := Option.bind_eq_some_iff.mp ht
    obtain rfl := Option.some.inj ht
    exact .cons (dumps_scans hstyle hh depth x hxs.1 htext) (dumpsItems_scans hstyle hh depth xs hxs.2 hrest)

theorem dumpsEntries_scans (hstyle : style.Spaced) (hh : h.KeepsDistinct) (depth : Nat) (kvs : List (PyStr × Json))
    (hkvs : Json.readableEntries h kvs) {entries : List (PyStr × PyStr)}
    (ht : dumpsEntries style depth kvs = some entries) :
    List.Forall₂ (EntryScans h) (Json.sortedEntries style kvs) entries := by
  cases kvs with
  | nil =>
    obtain rfl := Option.some.inj ht
    exact .nil
  | cons kv kvs =>
    obtain ⟨text, htext, ht⟩ := Option.bind_eq_some_iff.mp ht
    obtain ⟨rest, hrest, ht⟩ := Option.bind_eq_some_iff.mp ht
    obtain rfl := Option.some.inj ht
    exact .cons ⟨rfl, dumps_scans hstyle hh depth kv.2 hkvs.1 htext⟩
      (dumpsEntries_scans hstyle hh depth kvs hkvs.2 hrest)

end

/-- `json.loads(json.dumps(v))`, with white space behind. -/
theorem loadsText_dumps (hstyle : style.Spaced) (hh : h.KeepsDistinct) {v : Json} (hv : v.Readable h) {text : PyStr}
    (ht : dumps style 0 v = some text) {space : PyStr} (hspace : Spaces space) :
    loadsText h (text ++ space) = .ok (v.sorted style) := by
  have hscans := dumps_scans hstyle hh 0 v hv ht
  have hstops : Stops space := by simpa using hspace.stops Stops.nil
  have hskip : skipSpace space = [] := by
    rw [← List.append_nil space, hspace.skip]
    rfl
  refine bind_eq_ok.mpr ⟨(v.sorted style, space), ?_, if_pos hskip⟩
  rw [hscans.skipSpace_append]
  exact hscans.scan space hstops _ (by rw [List.length_append]; omega)

/-! ## Bytes -/

mutual

theorem Json.eachString_mono {P Q : PyStr → Prop} (h : ∀ s, P s → Q s) (v : Json)
    (hv : v.EachString P) : v.EachString Q := by
  cases v with
  | str s => exact h s hv
  | arr xs => exact Json.eachItem_mono h xs hv
  | obj kvs => exact Json.eachEntry_mono h kvs hv
  | _ => trivial

theorem Json.eachItem_mono {P Q : PyStr → Prop} (h : ∀ s, P s → Q s) (xs : List Json) (hxs : Json.eachItem P xs) :
    Json.eachItem Q xs := by
  cases xs with
  | nil => trivial
  | cons x xs => exact ⟨Json.eachString_mono h x hxs.1, Json.eachItem_mono h xs hxs.2⟩

theorem Json.eachEntry_mono {P Q : PyStr → Prop} (h : ∀ s, P s → Q s) (kvs : List (PyStr × Json))
    (hkvs : Json.eachEntry P kvs) : Json.eachEntry Q kvs := by
  cases kvs with
  | nil => trivial
  | cons kv kvs => exact ⟨h kv.1 hkvs.1, Json.eachString_mono h kv.2 hkvs.2.1, Json.eachEntry_mono h kvs hkvs.2.2⟩

end

/-- Bytes without a mark, and with no zero among the first two, are UTF-8. -/
theorem detectEncoding_unmarked {b₀ : UInt8} {rest : Bytes}
    (hmark : ∀ mark ∈ byteOrderMarks, mark.1.isPrefixOf (b₀ :: rest) = false) (h00 : b₀ ≠ 0)
    (hsecond : ∀ b₁ tail, rest = b₁ :: tail → b₁ ≠ 0) : detectEncoding (b₀ :: rest) = (.utf8, b₀ :: rest) := by
  have hnone : byteOrderMarks.find? (fun mark => mark.1.isPrefixOf (b₀ :: rest)) = none :=
    List.find?_eq_none.mpr fun mark hmem => Bool.eq_false_iff.mp (hmark mark hmem)
  have hencoding : unmarkedEncoding (b₀ :: rest) = .utf8 := by
    rcases rest with _ | ⟨b₁, _ | ⟨b₂, _ | ⟨b₃, rest⟩⟩⟩
    · rfl
    · rw [unmarkedEncoding, if_neg h00, if_neg (hsecond _ _ rfl)]
    · rfl
    · rw [unmarkedEncoding, if_neg h00, if_neg (hsecond _ _ rfl)]
  rw [detectEncoding, hnone, hencoding]

/-- Bytes that begin with no byte of a mark have none. -/
theorem detectEncoding_utf8 {b₀ : UInt8} {rest : Bytes} (h00 : b₀ ≠ 0x00) (hff : b₀ ≠ 0xFF) (hfe : b₀ ≠ 0xFE)
    (hef : b₀ ≠ 0xEF) (hsecond : ∀ b₁ tail, rest = b₁ :: tail → b₁ ≠ 0) :
    detectEncoding (b₀ :: rest) = (.utf8, b₀ :: rest) := by
  refine detectEncoding_unmarked ?_ h00 hsecond
  have hne {b : UInt8} (h : b₀ ≠ b) (marks : Bytes) : (b :: marks).isPrefixOf (b₀ :: rest) = false := by
    rw [List.isPrefixOf, beq_false_of_ne h.symm, Bool.false_and]
  simp only [byteOrderMarks, List.forall_mem_cons]
  exact ⟨hne h00 _, hne hff _, hne hfe _, hne hff _, hne hef _, List.forall_mem_nil _⟩

/-- Bytes that begin with a printable character and have no zero are UTF-8. -/
theorem detectEncoding_printable {b₀ : UInt8} {rest : Bytes} (h₀ : 32 < b₀.toNat ∧ b₀.toNat < 127) (hzero : 0 ∉ rest) :
    detectEncoding (b₀ :: rest) = (.utf8, b₀ :: rest) := by
  have h00 : b₀ ≠ 0x00 := by rintro rfl; exact Nat.not_lt_zero 32 h₀.1
  have hff : b₀ ≠ 0xFF := by rintro rfl; exact absurd h₀.2 (by decide)
  have hfe : b₀ ≠ 0xFE := by rintro rfl; exact absurd h₀.2 (by decide)
  have hef : b₀ ≠ 0xEF := by rintro rfl; exact absurd h₀.2 (by decide)
  refine detectEncoding_utf8 h00 hff hfe hef ?_
  rintro b₁ tail rfl rfl
  exact hzero List.mem_cons_self

theorem JsonStyle.Spaced.adds {Q : Nat → Prop} (hstyle : style.Spaced) (hascii : HoldsOfAscii Q)
    (hspace : ∀ c, isJsonSpace c = true → Q c) : style.Adds Q := by
  have hspaces {s : PyStr} (hs : Spaces s) : Chars Q s := fun c hc => hspace c (hs c hc)
  obtain ⟨item, hitem, hitemSpaces⟩ := hstyle.item
  obtain ⟨key, hkey, hkeySpaces⟩ := hstyle.key
  refine ⟨?_, ?_, fun depth => hspaces (style.newline_spaces depth)⟩
  · rw [hitem]
    exact .cons (hascii 44 (by decide) (by decide)) (hspaces hitemSpaces)
  · rw [hkey]
    exact .cons (hascii 58 (by decide) (by decide)) (hspaces hkeySpaces)

/-- The characters of a text are code points, and not null. -/
theorem dumps_unicode (hstyle : style.Spaced) {v : Json} (hv : v.EachString IsUnicode) {text : PyStr}
    (ht : dumps style 0 v = some text) : Chars (fun c => c < 0x110000 ∧ c ≠ 0) text := by
  have hascii : HoldsOfAscii fun c => c < 0x110000 ∧ c ≠ 0 := fun c _ _ => ⟨by omega, by omega⟩
  have hspace : ∀ c, isJsonSpace c = true → c < 0x110000 ∧ c ≠ 0 := by
    intro c hc
    simp only [isJsonSpace, Bool.or_eq_true, decide_eq_true_eq] at hc
    omega
  refine dumps_chars hascii (hstyle.adds hascii hspace) 0 v (Json.eachString_mono ?_ v hv) ht
  exact fun s hs c hc hlow => ⟨hs c hc, by omega⟩

/-- `json.loads(json.dumps(v).encode())`, with white space behind. -/
theorem loads_dumps (hstyle : style.Spaced) (hh : h.KeepsDistinct) {v : Json} (hv : v.Readable h)
    (hunicode : v.EachString IsUnicode) {text : PyStr} (ht : dumps style 0 v = some text) {space : PyStr}
    (hspace : Spaces space) {b : Bytes} (hb : (text ++ space).encode = some b) : loads h b = .ok (v.sorted style) := by
  have hchars : Chars (fun c => c < 0x110000 ∧ c ≠ 0) (text ++ space) := by
    refine (dumps_unicode hstyle hunicode ht).append fun c hc => ?_
    have := hspace c hc
    simp only [isJsonSpace, Bool.or_eq_true, decide_eq_true_eq] at this
    omega
  have hunicode : IsUnicode (text ++ space) := fun c hc => (hchars c hc).1
  have hzero : (0 : UInt8) ∉ b := fun hmem => (hchars 0 (ascii_of_encode (by decide) hunicode hb hmem)).2 rfl
  obtain ⟨c, t, htext, hc, -⟩ := (dumps_scans hstyle hh 0 v hv ht).head
  have hb' : PyStr.encode (c :: (t ++ space)) = some b := by rw [← List.cons_append, ← htext, hb]
  obtain ⟨first, rest, hfirst, -, rfl⟩ := encode_cons.mp hb'
  obtain rfl := Option.some.inj ((encodeChar_ascii (by omega)).symm.trans hfirst)
  have hdetect : detectEncoding (UInt8.ofNat c :: rest) = (.utf8, UInt8.ofNat c :: rest) := by
    refine detectEncoding_printable ?_ fun hmem => hzero (List.mem_cons_of_mem _ hmem)
    rw [UInt8.toNat_ofNat_of_lt' (Nat.lt_of_lt_of_le hc.2 (by decide))]
    exact hc
  have hdecode : decodeText (UInt8.ofNat c :: rest) = some (text ++ space) := by
    rw [decodeText, hdetect]
    exact decodeUtf8_encode hunicode hb
  show loads h (UInt8.ofNat c :: rest) = _
  rw [loads, hdecode]
  exact loadsText_dumps hstyle hh hv ht hspace

end

end Framework
