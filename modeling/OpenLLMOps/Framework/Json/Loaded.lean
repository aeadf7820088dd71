import OpenLLMOps.Framework.Json.RoundTrip
import OpenLLMOps.Framework.Text

/-!
# What is decoded

Whatever `json.loads` returns is written by `json.dumps` so that it is read back: its strings are code points, its
integers are within the limit of `int`, the keys of its objects are distinct, and `float` has read its floats
(`loads_loaded`, `Json.Loaded.readable`). Its text is of code points, too (`Json.Loaded.toStr_unicode`).
-/

namespace Framework

/-! ## Results -/

/-- Whatever `x` returns has the property. -/
def Gives {ε α : Type} (x : Except ε α) (P : α → Prop) : Prop := ∀ a, x = .ok a → P a

namespace Gives

variable {ε α β : Type} {x : Except ε α} {P : α → Prop}

theorem ok {a : α} (h : P a) : Gives (.ok a : Except ε α) P := by
  intro b hb
  obtain rfl := Except.ok.inj hb
  exact h

theorem error (e : ε) : Gives (.error e : Except ε α) P := by
  intro a h
  contradiction

theorem bind {f : α → Except ε β} {Q : β → Prop} (h : Gives x P) (hf : ∀ a, P a → Gives (f a) Q) :
    Gives (x >>= f) Q := by
  intro b hb
  obtain ⟨a, ha, hfa⟩ := bind_eq_ok.mp hb
  exact hf a (h a ha) b hfa

theorem map {f : α → β} {Q : β → Prop} (h : Gives x P) (hf : ∀ a, P a → Q (f a)) : Gives (x.map f) Q := by
  intro b hb
  cases x with
  | error e => contradiction
  | ok a =>
    obtain rfl := Except.ok.inj hb
    exact hf a (h a rfl)

end Gives

/-! ## Strings -/

section

variable {s t rest : PyStr}

theorem IsUnicode.mono (h : IsUnicode s) (hsub : t ⊆ s) : IsUnicode t := fun c hc => h c (hsub hc)

theorem IsUnicode.tail {c : Nat} (h : IsUnicode (c :: s)) : IsUnicode s := h.mono (List.subset_cons_self c s)

theorem IsUnicode.drop (h : IsUnicode s) (n : Nat) : IsUnicode (s.drop n) := h.mono (List.drop_subset n s)

theorem IsUnicode.dropWhile (h : IsUnicode s) (p : Nat → Bool) : IsUnicode (s.dropWhile p) :=
  h.mono (List.dropWhile_sublist p).subset

theorem IsUnicode.skipSpace (h : IsUnicode s) : IsUnicode (skipSpace s) := h.dropWhile _

theorem hexDigit?_lt {c n : Nat} (h : hexDigit? c = some n) : n < 16 := by
  unfold hexDigit? at h
  split at h
  · obtain rfl := Option.some.inj h
    omega
  · split at h
    · obtain rfl := Option.some.inj h
      omega
    · split at h
      · obtain rfl := Option.some.inj h
        omega
      · contradiction

theorem hex4?_lt {a b c d n : Nat} (h : hex4? a b c d = some n) : n < 0x10000 := by
  obtain ⟨a', ha, h⟩ := Option.bind_eq_some_iff.mp h
  obtain ⟨b', hb, h⟩ := Option.bind_eq_some_iff.mp h
  obtain ⟨c', hc, h⟩ := Option.bind_eq_some_iff.mp h
  obtain ⟨d', hd, h⟩ := Option.bind_eq_some_iff.mp h
  obtain rfl := Option.some.inj h
  have ha := hexDigit?_lt ha
  have hb := hexDigit?_lt hb
  have hc := hexDigit?_lt hc
  have hd := hexDigit?_lt hd
  omega

theorem escape?_lt {c n : Nat} (hc : c < 0x110000) (h : escape? c = some n) : n < 0x110000 := by
  unfold escape? at h
  split at h
  · obtain rfl := Option.some.inj h
    exact hc
  · grind

/-- The units of a string, and what is behind it. -/
theorem scanUnits_unicode (hs : IsUnicode s) {units : List (Nat × Bool)} (h : scanUnits s = some (units, rest)) :
    (∀ u ∈ units, u.1 < 0x110000) ∧ IsUnicode rest := by
  induction s using scanUnits.induct generalizing units with
  | case1 => contradiction
  | case2 s =>
    obtain ⟨rfl, rfl⟩ := Prod.mk.inj (Option.some.inj h)
    exact ⟨List.forall_mem_nil _, hs.tail⟩
  | case3 a b c d s ih =>
    rw [scanUnits] at h
    obtain ⟨n, hn, h⟩ := Option.bind_eq_some_iff.mp h
    obtain ⟨r, hr, h⟩ := Option.bind_eq_some_iff.mp h
    obtain ⟨rfl, rfl⟩ := Prod.mk.inj (Option.some.inj h)
    obtain ⟨hunits, hrest⟩ := ih (hs.drop 6) hr
    exact ⟨List.forall_mem_cons.mpr ⟨(hex4?_lt hn).trans (by decide), hunits⟩, hrest⟩
  | case4 c s hno ih =>
    rw [scanUnits] at h
    · obtain ⟨n, hn, h⟩ := Option.bind_eq_some_iff.mp h
      obtain ⟨r, hr, h⟩ := Option.bind_eq_some_iff.mp h
      obtain ⟨rfl, rfl⟩ := Prod.mk.inj (Option.some.inj h)
      obtain ⟨hunits, hrest⟩ := ih (hs.drop 2) hr
      have hc := escape?_lt (hs c (List.mem_cons_of_mem _ List.mem_cons_self)) hn
      exact ⟨List.forall_mem_cons.mpr ⟨hc, hunits⟩, hrest⟩
    · exact hno
  | case5 c s hquote hhex hescape hc =>
    rw [scanUnits, if_pos hc] at h
    · contradiction
    · exact hquote
    · exact hhex
    · exact hescape
  | case6 c s hquote hhex hescape hc ih =>
    rw [scanUnits, if_neg hc] at h
    · obtain ⟨r, hr, h⟩ := Option.bind_eq_some_iff.mp h
      obtain ⟨rfl, rfl⟩ := Prod.mk.inj (Option.some.inj h)
      obtain ⟨hunits, hrest⟩ := ih hs.tail hr
      exact ⟨List.forall_mem_cons.mpr ⟨hs c List.mem_cons_self, hunits⟩, hrest⟩
    · exact hquote
    · exact hhex
    · exact hescape

theorem joinSurrogates_lt {high low : Nat} (hhigh : isHigh high = true) (hlow : isLow low = true) :
    joinSurrogates high low < 0x110000 := by
  simp only [isHigh, isLow, Bool.and_eq_true, decide_eq_true_eq] at hhigh hlow
  unfold joinSurrogates
  omega

theorem joinEscapes_unicode {units : List (Nat × Bool)} (h : ∀ u ∈ units, u.1 < 0x110000) :
    IsUnicode (joinEscapes units) := by
  induction units using joinEscapes.induct with
  | case1 => exact List.forall_mem_nil _
  | case2 c => exact List.forall_mem_singleton.mpr (h c (List.mem_singleton_self c))
  | case3 c d rest hpair ih =>
    rw [joinEscapes, if_pos hpair]
    have hjoin := joinSurrogates_lt hpair.2.2.1 hpair.2.2.2
    exact List.forall_mem_cons.mpr ⟨hjoin, ih fun u hu => h u (by simp [hu])⟩
  | case4 c d rest hpair ih =>
    rw [joinEscapes, if_neg hpair]
    exact List.forall_mem_cons.mpr ⟨h c List.mem_cons_self, ih fun u hu => h u (List.mem_cons_of_mem c hu)⟩

theorem joinPairs_unicode (h : IsUnicode s) : IsUnicode (joinPairs s) := by
  induction s using joinPairs.induct with
  | case1 => exact List.forall_mem_nil _
  | case2 c => exact h
  | case3 c d rest hpair ih =>
    rw [joinPairs, if_pos hpair]
    exact List.forall_mem_cons.mpr ⟨joinSurrogates_lt hpair.1 hpair.2, ih h.tail.tail⟩
  | case4 c d rest hpair ih =>
    rw [joinPairs, if_neg hpair]
    exact List.forall_mem_cons.mpr ⟨h c List.mem_cons_self, ih h.tail⟩

/-- A string and what is behind it. -/
theorem scanString_unicode (hs : IsUnicode s) (h : scanString s = some (t, rest)) : IsUnicode t ∧ IsUnicode rest := by
  obtain ⟨r, hr, h⟩ := Option.map_eq_some_iff.mp h
  obtain ⟨rfl, rfl⟩ := Prod.mk.inj h
  obtain ⟨hunits, hrest⟩ := scanUnits_unicode hs hr
  exact ⟨joinEscapes_unicode hunits, hrest⟩

/-! ## Texts -/

theorem units16_lt {bigEndian : Bool} {b : Bytes} (h : units16 bigEndian b = some s) : ∀ c ∈ s, c < 0x10000 := by
  induction b using units16.induct generalizing s with
  | case1 =>
    obtain rfl := Option.some.inj h
    exact List.forall_mem_nil _
  | case2 => contradiction
  | case3 a b rest ih =>
    rw [units16] at h
    obtain ⟨t, ht, rfl⟩ := Option.map_eq_some_iff.mp h
    have ha := a.toNat_lt
    have hb := b.toNat_lt
    refine List.forall_mem_cons.mpr ⟨?_, ih ht⟩
    split <;> omega

theorem decodeUtf32_unicode {bigEndian : Bool} {b : Bytes} (h : decodeUtf32 bigEndian b = some s) : IsUnicode s := by
  induction b using decodeUtf32.induct bigEndian generalizing s with
  | case1 =>
    obtain rfl := Option.some.inj h
    exact List.forall_mem_nil _
  | case2 a b c d rest n hn =>
    rename_i ih
    rw [decodeUtf32] at h
    obtain ⟨t, ht, rfl⟩ := Option.map_eq_some_iff.mp ((if_pos hn).symm.trans h)
    exact List.forall_mem_cons.mpr ⟨hn, ih ht⟩
  | case3 a b c d rest n =>
    rename_i hn
    rw [decodeUtf32] at h
    have hnone := (if_neg hn).symm.trans h
    contradiction
  | case4 b hnil hno =>
    rw [decodeUtf32] at h
    · contradiction
    · exact hnil
    · exact hno

theorem decodeText_unicode {b : Bytes} (h : decodeText b = some s) : IsUnicode s := by
  unfold decodeText at h
  split at h
  · exact (decodeUtf8_unicode h).1
  · obtain ⟨units, hunits, rfl⟩ := Option.map_eq_some_iff.mp h
    exact joinPairs_unicode fun c hc => (units16_lt hunits c hc).trans (by decide)
  · exact decodeUtf32_unicode h

/-! ## Numbers -/

theorem ofDecimal_lt (hs : ∀ c ∈ s, isDigit c = true) : ofDecimal s < 10 ^ s.length := by
  induction s using List.reverseRecOn with
  | nil => decide
  | append_singleton s c ih =>
    have hc := hs c (List.mem_append_right s (List.mem_singleton_self c))
    have hlt := ih fun d hd => hs d (List.mem_append_left [c] hd)
    simp only [isDigit, Bool.and_eq_true, decide_eq_true_eq] at hc
    rw [ofDecimal_concat, List.length_append, List.length_singleton, Nat.pow_succ]
    omega

/-- Digits have a numeral that is no longer. -/
theorem length_decimal_ofDecimal (hs : Digits s) : (decimal (ofDecimal s)).length ≤ s.length := by
  obtain ⟨c, t, rfl⟩ := List.exists_cons_of_ne_nil hs.1
  exact length_decimal_le (ofDecimal_lt hs.2)

theorem scanExponent_unicode (hs : IsUnicode s) (h : scanNumber.scanExponent s = (t, rest)) : IsUnicode rest := by
  unfold scanNumber.scanExponent at h
  split at h
  · rename_i e tail
    split at h
    · split at h
      rename_i sign digits hsign
      have hdigits : IsUnicode digits := by
        split at hsign
        · obtain ⟨-, rfl⟩ := Prod.mk.inj hsign
          exact hs.tail.tail
        · obtain ⟨-, rfl⟩ := Prod.mk.inj hsign
          exact hs.tail.tail
        · obtain ⟨-, rfl⟩ := Prod.mk.inj hsign
          exact hs.tail
      split at h
      · split at h
        · obtain ⟨-, rfl⟩ := Prod.mk.inj h
          exact hdigits.dropWhile _
        · obtain ⟨-, rfl⟩ := Prod.mk.inj h
          exact hs
      · obtain ⟨-, rfl⟩ := Prod.mk.inj h
        exact hs
    · obtain ⟨-, rfl⟩ := Prod.mk.inj h
      exact hs
  · obtain ⟨-, rfl⟩ := Prod.mk.inj h
    exact hs

/-- The digits before the point, and what is behind the numeral. -/
theorem scanNumber_unicode (hs : IsUnicode s) {neg : Bool} {int numeral : PyStr}
    (h : scanNumber s = some (neg, int, numeral, rest)) : Digits int ∧ IsUnicode rest := by
  unfold scanNumber at h
  split at h
  rename_i neg' s' hsign
  have hs' : IsUnicode s' := by
    split at hsign
    · obtain ⟨-, rfl⟩ := Prod.mk.inj hsign
      exact hs.tail
    · obtain ⟨-, rfl⟩ := Prod.mk.inj hsign
      exact hs
  split at h
  · rename_i c tail
    split at h
    · rename_i hc
      split at h
      rename_i int' behind hint
      have hbehind : Digits int' ∧ IsUnicode behind := by
        split at hint
        · obtain ⟨rfl, rfl⟩ := Prod.mk.inj hint
          exact ⟨⟨List.cons_ne_nil _ _, List.forall_mem_singleton.mpr hc⟩, hs'.tail⟩
        · obtain ⟨rfl, rfl⟩ := Prod.mk.inj hint
          refine ⟨⟨List.cons_ne_nil _ _, List.forall_mem_cons.mpr ⟨hc, fun d hd => ?_⟩⟩,
            hs'.tail.dropWhile _⟩
          exact List.mem_takeWhile_imp hd
      split at h
      rename_i frac fraction hfrac
      have hfraction : IsUnicode fraction := by
        split at hfrac
        · split at hfrac
          · obtain ⟨-, rfl⟩ := Prod.mk.inj hfrac
            exact hbehind.2.tail.tail.dropWhile _
          · obtain ⟨-, rfl⟩ := Prod.mk.inj hfrac
            exact hbehind.2
        · obtain ⟨-, rfl⟩ := Prod.mk.inj hfrac
          exact hbehind.2
      split at h
      rename_i exp exponent hexp
      obtain ⟨-, rfl, -, rfl⟩ : neg' = neg ∧ int' = int ∧ frac ++ exp = numeral ∧ exponent = rest := by
        simpa using h
      exact ⟨hbehind.1, scanExponent_unicode hfraction hexp⟩
    · contradiction
  · contradiction

end

/-! ## Values -/

mutual

/-- A value as a decoder makes it. -/
def Json.Loaded (h : JsonDecoder) : Json → Prop
  | .int n => (decimal n.natAbs).length ≤ 4300
  | .float x => x.isFinite = true → ∃ numeral, h.float numeral = x
  | .str s => IsUnicode s
  | .arr xs => Json.loadedItems h xs
  | .obj kvs => (kvs.map Prod.fst).Nodup ∧ Json.loadedEntries h kvs
  | _ => True

def Json.loadedItems (h : JsonDecoder) : List Json → Prop
  | [] => True
  | x :: xs => x.Loaded h ∧ Json.loadedItems h xs

def Json.loadedEntries (h : JsonDecoder) : List (PyStr × Json) → Prop
  | [] => True
  | kv :: kvs => (IsUnicode kv.1 ∧ kv.2.Loaded h) ∧ Json.loadedEntries h kvs

end

theorem Json.loadedEntries_iff {h : JsonDecoder} {kvs : List (PyStr × Json)} :
    Json.loadedEntries h kvs ↔ ∀ kv ∈ kvs, IsUnicode kv.1 ∧ kv.2.Loaded h := by
  induction kvs with
  | nil => exact iff_of_true trivial (List.forall_mem_nil _)
  | cons kv kvs ih => rw [Json.loadedEntries, List.forall_mem_cons, ih]

theorem loadedEntries_nil {h : JsonDecoder} : Json.loadedEntries h [] := by
  unfold Json.loadedEntries
  trivial

theorem loadedItems_nil {h : JsonDecoder} : Json.loadedItems h [] := by
  unfold Json.loadedItems
  trivial

namespace JsonDecoder

/-- The hooks make dictionaries of the entries, and of constants floats that are not finite. -/
structure MakesDicts (h : JsonDecoder) : Prop where
  constant : ∀ text, Gives (h.parseConstant text) fun v => ∃ x : PyFloat, v = .float x ∧ x.isFinite = false
  keys : ∀ kvs, Gives (h.objectPairs kvs) fun r => (r.map Prod.fst).Nodup
  entries : ∀ kvs, Gives (h.objectPairs kvs) fun r => r ⊆ kvs

theorem uniqueKeys_makes {result kvs r : List (PyStr × Json)} (hn : (result.map Prod.fst).Nodup)
    (h : strict.uniqueKeys result kvs = .ok r) : (r.map Prod.fst).Nodup ∧ r ⊆ result ++ kvs := by
  induction kvs generalizing result with
  | nil =>
    obtain rfl := Except.ok.inj h
    exact ⟨hn, List.subset_append_left _ _⟩
  | cons kv kvs ih =>
    simp only [strict.uniqueKeys] at h
    split at h
    · contradiction
    · rename_i hnew
      have hfresh : kv.1 ∉ result.map Prod.fst := by simpa using hnew
      have hn' : ((result ++ [kv]).map Prod.fst).Nodup := by
        rw [List.map_append, List.map_singleton]
        exact hn.append (List.nodup_singleton _) (by simpa using hfresh)
      obtain ⟨hkeys, hsub⟩ := ih hn' h
      rw [List.append_assoc] at hsub
      exact ⟨hkeys, hsub⟩

theorem strict_makesDicts (float : PyStr → PyFloat) : (strict float).MakesDicts where
  constant _ := .error _
  keys kvs r h := (@uniqueKeys_makes [] kvs r List.nodup_nil h).1
  entries kvs r h := (@uniqueKeys_makes [] kvs r List.nodup_nil h).2

/-- `float` reads the `repr` of what it has read. -/
def ReadsFloats (h : JsonDecoder) : Prop :=
  ∀ s, (h.float s).isFinite = true → (h.float s).Proper ∧ h.float (h.float s).repr = h.float s

end JsonDecoder

section

variable {h : JsonDecoder} {style : JsonStyle}

theorem number_loaded {neg : Bool} {int numeral : PyStr} (hint : Digits int) :
    Gives (h.number neg int numeral) fun v => v.Loaded h := by
  unfold JsonDecoder.number
  split
  · exact .ok fun _ => ⟨_, rfl⟩
  · split
    · exact .error _
    · rename_i hlength
      have hle := length_decimal_ofDecimal hint
      have habs : (if neg then -(ofDecimal int : Int) else ofDecimal int).natAbs = ofDecimal int := by
        split <;> omega
      refine .ok ?_
      show (decimal (Int.natAbs _)).length ≤ 4300
      rw [habs]
      omega

variable {fuel : Nat}

/-- What the scanner of a value gives. -/
def LoadedValue (h : JsonDecoder) (r : Json × PyStr) : Prop := r.1.Loaded h ∧ IsUnicode r.2

def LoadedEntries (h : JsonDecoder) (r : List (PyStr × Json) × PyStr) : Prop :=
  Json.loadedEntries h r.1 ∧ IsUnicode r.2

def LoadedItems (h : JsonDecoder) (r : List Json × PyStr) : Prop := Json.loadedItems h r.1 ∧ IsUnicode r.2

theorem objectPairs_loaded (hh : h.MakesDicts) {kvs : List (PyStr × Json)} (hkvs : Json.loadedEntries h kvs) :
    Gives (h.objectPairs kvs) fun r => (Json.obj r).Loaded h := by
  intro r hr
  refine ⟨hh.keys kvs r hr, Json.loadedEntries_iff.mpr fun kv hkv => ?_⟩
  exact Json.loadedEntries_iff.mp hkvs kv (hh.entries kvs r hr hkv)

theorem scanOnce_loaded (hh : h.MakesDicts)
    (hmembers : ∀ s, IsUnicode s → Gives (scanMembers h fuel s) (LoadedEntries h))
    (helements : ∀ s, IsUnicode s → Gives (scanElements h fuel s) (LoadedItems h)) {s : PyStr} (hs : IsUnicode s) :
    Gives (scanOnce h (fuel + 1) s) (LoadedValue h) := by
  have hconstant (text : PyStr) {rest : PyStr} (hrest : IsUnicode rest) :
      Gives ((h.parseConstant text).map fun v => (v, rest)) (LoadedValue h) := by
    refine (hh.constant text).map fun v hv => ⟨?_, hrest⟩
    obtain ⟨x, rfl, hx⟩ := hv
    intro hfinite
    rw [hx] at hfinite
    contradiction
  unfold scanOnce
  split
  · rename_i rest
    intro r hr
    cases hstring : scanString rest with
    | none =>
      rw [hstring] at hr
      contradiction
    | some found =>
      rw [hstring] at hr
      obtain rfl := Except.ok.inj hr
      exact scanString_unicode hs.tail hstring
  · split
    · rename_i hskip
      have hrest := hs.tail.skipSpace
      rw [hskip] at hrest
      exact (objectPairs_loaded hh loadedEntries_nil).bind fun kvs hkvs => .ok ⟨hkvs, hrest.tail⟩
    · exact (hmembers _ hs.tail.skipSpace).bind fun r hr => (objectPairs_loaded hh hr.1).bind fun kvs hkvs =>
        .ok ⟨hkvs, hr.2⟩
  · split
    · rename_i hskip
      have hrest := hs.tail.skipSpace
      rw [hskip] at hrest
      exact .ok ⟨@loadedItems_nil h, hrest.tail⟩
    · exact (helements _ hs.tail.skipSpace).bind fun r hr => .ok hr
  · exact .ok ⟨trivial, hs.drop 4⟩
  · exact .ok ⟨trivial, hs.drop 4⟩
  · exact .ok ⟨trivial, hs.drop 5⟩
  · exact hconstant _ (hs.drop 3)
  · exact hconstant _ (hs.drop 8)
  · exact hconstant _ (hs.drop 9)
  · split
    · rename_i hnumber
      obtain ⟨hint, hrest⟩ := scanNumber_unicode hs hnumber
      exact (number_loaded hint).map fun v hv => ⟨hv, hrest⟩
    · exact .error _

theorem scanMembers_loaded (honce : ∀ s, IsUnicode s → Gives (scanOnce h fuel s) (LoadedValue h))
    (hmembers : ∀ s, IsUnicode s → Gives (scanMembers h fuel s) (LoadedEntries h)) {s : PyStr} (hs : IsUnicode s) :
    Gives (scanMembers h (fuel + 1) s) (LoadedEntries h) := by
  unfold scanMembers
  split
  · split
    · exact .error _
    · rename_i k rest hstring
      obtain ⟨hk, hrest⟩ := scanString_unicode hs.tail hstring
      split
      · rename_i hcolon
        have hvalue := hrest.skipSpace
        rw [hcolon] at hvalue
        refine (honce _ hvalue.tail.skipSpace).bind ?_
        rintro ⟨v, behind⟩ hr
        have hbehind := hr.2.skipSpace
        dsimp only at hbehind ⊢
        split
        · rename_i hclose
          rw [hclose] at hbehind
          exact .ok ⟨⟨⟨hk, hr.1⟩, loadedEntries_nil⟩, hbehind.tail⟩
        · rename_i hcomma
          rw [hcomma] at hbehind
          exact (hmembers _ hbehind.tail.skipSpace).bind fun r' hr' => .ok ⟨⟨⟨hk, hr.1⟩, hr'.1⟩, hr'.2⟩
        · exact .error _
      · exact .error _
  · exact .error _

theorem scanElements_loaded (honce : ∀ s, IsUnicode s → Gives (scanOnce h fuel s) (LoadedValue h))
    (helements : ∀ s, IsUnicode s → Gives (scanElements h fuel s) (LoadedItems h)) {s : PyStr} (hs : IsUnicode s) :
    Gives (scanElements h (fuel + 1) s) (LoadedItems h) := by
  unfold scanElements
  refine (honce _ hs).bind ?_
  rintro ⟨v, behind⟩ hr
  have hbehind := hr.2.skipSpace
  dsimp only at hbehind ⊢
  split
  · rename_i hclose
    rw [hclose] at hbehind
    exact .ok ⟨⟨hr.1, loadedItems_nil⟩, hbehind.tail⟩
  · rename_i hcomma
    rw [hcomma] at hbehind
    exact (helements _ hbehind.tail.skipSpace).bind fun r' hr' => .ok ⟨⟨hr.1, hr'.1⟩, hr'.2⟩
  · exact .error _

/-- The three scanners, by their fuel. -/
theorem scan_loaded (hh : h.MakesDicts) (fuel : Nat) :
    (∀ s, IsUnicode s → Gives (scanOnce h fuel s) (LoadedValue h)) ∧
      (∀ s, IsUnicode s → Gives (scanMembers h fuel s) (LoadedEntries h)) ∧
      ∀ s, IsUnicode s → Gives (scanElements h fuel s) (LoadedItems h) := by
  induction fuel with
  | zero => exact ⟨fun _ _ => .error _, fun _ _ => .error _, fun _ _ => .error _⟩
  | succ fuel ih =>
    obtain ⟨honce, hmembers, helements⟩ := ih
    exact ⟨fun _ hs => scanOnce_loaded hh hmembers helements hs, fun _ hs => scanMembers_loaded honce hmembers hs,
      fun _ hs => scanElements_loaded honce helements hs⟩

/-- What is decoded is as a decoder makes it. -/
theorem loads_loaded (hh : h.MakesDicts) {b : Bytes} {v : Json} (hv : loads h b = .ok v) : v.Loaded h := by
  unfold loads at hv
  split at hv
  · contradiction
  · rename_i s hdecode
    obtain ⟨⟨w, rest⟩, hr, hv⟩ := bind_eq_ok.mp hv
    have hloaded := (scan_loaded hh _).1 _ (decodeText_unicode hdecode).skipSpace _ hr
    dsimp only at hv
    split at hv
    · obtain rfl := Except.ok.inj hv
      exact hloaded.1
    · contradiction

/-! ## It is written and read back -/

mutual

theorem Json.Loaded.readable (hfloat : h.ReadsFloats) (hstyle : style.allowNan = false) {depth : Nat} {v : Json}
    (hv : v.Loaded h) {text : PyStr} (ht : dumps style depth v = some text) : v.Readable h := by
  cases v with
  | int n => exact hv
  | float x =>
    have hfinite : x.isFinite = true := by
      by_contra hx
      have hwritten : dumpsFloat style x = some text := ht
      simp [dumpsFloat, hx, hstyle] at hwritten
    obtain ⟨numeral, rfl⟩ := hv hfinite
    exact hfloat numeral hfinite
  | arr xs =>
    obtain ⟨texts, htexts, -⟩ := Option.map_eq_some_iff.mp ht
    exact Json.Loaded.readableItems hfloat hstyle hv htexts
  | obj kvs =>
    obtain ⟨entries, hentries, -⟩ := Option.map_eq_some_iff.mp ht
    exact ⟨hv.1, Json.Loaded.readableEntries hfloat hstyle hv.2 hentries⟩
  | _ => trivial

theorem Json.Loaded.readableItems (hfloat : h.ReadsFloats) (hstyle : style.allowNan = false) {depth : Nat}
    {xs : List Json} (hxs : Json.loadedItems h xs) {texts : List PyStr} (ht : dumpsItems style depth xs = some texts) :
    Json.readableItems h xs := by
  cases xs with
  | nil => trivial
  | cons x xs =>
    obtain ⟨text, htext, ht⟩ := Option.bind_eq_some_iff.mp ht
    obtain ⟨rest, hrest, -⟩ := Option.bind_eq_some_iff.mp ht
    exact ⟨Json.Loaded.readable hfloat hstyle hxs.1 htext, Json.Loaded.readableItems hfloat hstyle hxs.2 hrest⟩

theorem Json.Loaded.readableEntries (hfloat : h.ReadsFloats) (hstyle : style.allowNan = false) {depth : Nat}
    {kvs : List (PyStr × Json)} (hkvs : Json.loadedEntries h kvs) {entries : List (PyStr × PyStr)}
    (ht : dumpsEntries style depth kvs = some entries) : Json.readableEntries h kvs := by
  cases kvs with
  | nil => trivial
  | cons kv kvs =>
    obtain ⟨text, htext, ht⟩ := Option.bind_eq_some_iff.mp ht
    obtain ⟨rest, hrest, -⟩ := Option.bind_eq_some_iff.mp ht
    exact ⟨Json.Loaded.readable hfloat hstyle hkvs.1.2 htext,
      Json.Loaded.readableEntries hfloat hstyle hkvs.2 hrest⟩

end

mutual

theorem Json.Loaded.unicode {v : Json} (hv : v.Loaded h) : v.EachString IsUnicode := by
  cases v with
  | str s => exact hv
  | arr xs => exact Json.Loaded.unicodeItems hv
  | obj kvs => exact Json.Loaded.unicodeEntries hv.2
  | _ => trivial

theorem Json.Loaded.unicodeItems {xs : List Json} (hxs : Json.loadedItems h xs) : Json.eachItem IsUnicode xs := by
  cases xs with
  | nil => trivial
  | cons x xs => exact ⟨Json.Loaded.unicode hxs.1, Json.Loaded.unicodeItems hxs.2⟩

theorem Json.Loaded.unicodeEntries {kvs : List (PyStr × Json)} (hkvs : Json.loadedEntries h kvs) :
    Json.eachEntry IsUnicode kvs := by
  cases kvs with
  | nil => trivial
  | cons kv kvs => exact ⟨hkvs.1.1, Json.Loaded.unicode hkvs.1.2, Json.Loaded.unicodeEntries hkvs.2⟩

end

/-! ## Its text -/

theorem unicode_of_ascii : HoldsOfAscii (· < 0x110000) := fun c _ hc => by omega

variable (u : UnicodeData)

theorem reprChar_unicode {quote c : Nat} (hc : c < 0x110000) : IsUnicode (u.reprChar quote c) := by
  have hword {s : PyStr} (hs : s.all (fun c => 32 ≤ c && c < 127) = true) : IsUnicode s := unicode_of_ascii.chars hs
  have hhex {s : PyStr} (hs : s.all (fun c => 32 ≤ c && c < 127) = true) (n m : Nat) :
      IsUnicode (s ++ hexDigits n m) :=
    Chars.append (hword hs) (chars_hexDigits unicode_of_ascii n m)
  unfold UnicodeData.reprChar
  split
  · exact Chars.cons (by omega) (Chars.cons hc .nil)
  · repeat' split
    all_goals first
      | exact hword (by decide)
      | exact hhex (by decide) _ _
      | exact Chars.cons hc .nil

theorem reprStr_unicode {s : PyStr} (hs : IsUnicode s) : IsUnicode (u.reprStr s) := by
  have hquote : (if s.contains 39 && !s.contains 34 then 34 else 39) < 0x110000 := by
    split <;> omega
  refine Chars.append (Chars.cons hquote ?_) (Chars.cons hquote .nil)
  intro c hc
  obtain ⟨d, hd, hc⟩ := List.mem_flatMap.mp hc
  exact reprChar_unicode u (hs d hd) c hc

theorem floatRepr_unicode (x : PyFloat) : IsUnicode x.repr := by
  have hword {s : PyStr} (hs : s.all (fun c => 32 ≤ c && c < 127) = true) : IsUnicode s := unicode_of_ascii.chars hs
  have hsign (neg : Bool) : IsUnicode (if neg then [45] else []) := by
    cases neg with
    | false => exact Chars.nil
    | true => exact hword (by decide)
  cases x with
  | finite neg m e => exact Chars.append (hsign neg) (chars_reprDecimal unicode_of_ascii m e)
  | inf neg => exact Chars.append (hsign neg) (hword (by decide))
  | nan => exact hword (by decide)

mutual

theorem Json.Loaded.repr_unicode {v : Json} (hv : v.Loaded h) : IsUnicode (v.repr u) := by
  cases v with
  | null =>
    show IsUnicode (py "None")
    exact unicode_of_ascii.chars (by decide)
  | bool b =>
    have hword : (py "True").all (fun c => 32 ≤ c && c < 127) = true ∧
        (py "False").all (fun c => 32 ≤ c && c < 127) = true := by decide
    cases b with
    | false => exact unicode_of_ascii.chars hword.2
    | true => exact unicode_of_ascii.chars hword.1
  | int n => exact chars_strInt unicode_of_ascii n
  | float x => exact floatRepr_unicode x
  | str s => exact reprStr_unicode u hv
  | arr xs =>
    refine Chars.append (Chars.append (unicode_of_ascii.chars (by decide)) ?_) (unicode_of_ascii.chars (by decide))
    exact Chars.intercalate (unicode_of_ascii.chars (by decide)) (Json.Loaded.reprItems_unicode hv)
  | obj kvs =>
    refine Chars.append (Chars.append (unicode_of_ascii.chars (by decide)) ?_) (unicode_of_ascii.chars (by decide))
    exact Chars.intercalate (unicode_of_ascii.chars (by decide)) (Json.Loaded.reprEntries_unicode hv.2)

theorem Json.Loaded.reprItems_unicode {xs : List Json} (hxs : Json.loadedItems h xs) :
    ∀ item ∈ Json.reprItems u xs, IsUnicode item := by
  cases xs with
  | nil => exact List.forall_mem_nil _
  | cons x xs =>
    exact List.forall_mem_cons.mpr ⟨Json.Loaded.repr_unicode hxs.1, Json.Loaded.reprItems_unicode hxs.2⟩

theorem Json.Loaded.reprEntries_unicode {kvs : List (PyStr × Json)} (hkvs : Json.loadedEntries h kvs) :
    ∀ item ∈ Json.reprEntries u kvs, IsUnicode item := by
  cases kvs with
  | nil => exact List.forall_mem_nil _
  | cons kv kvs =>
    refine List.forall_mem_cons.mpr ⟨?_, Json.Loaded.reprEntries_unicode hkvs.2⟩
    refine Chars.append (Chars.append (reprStr_unicode u hkvs.1.1) (unicode_of_ascii.chars (by decide))) ?_
    exact Json.Loaded.repr_unicode hkvs.1.2

end

theorem Json.Loaded.toStr_unicode {v : Json} (hv : v.Loaded h) : IsUnicode (v.toStr u) := by
  cases v with
  | str s => exact hv
  | _ => exact Json.Loaded.repr_unicode u hv

end

end Framework
