import OpenLLMOps.Framework.Json.Loads

/-!
# UTF-8

What `encode` makes of a string is decoded to it (`decodeUtf8_encode`): first for the characters of one to four
bytes (`decode_one` to `decode_four`), then for strings.

An ASCII byte is that of its character (`ascii_of_encode`).
-/

namespace Framework

/-- A string of code points. -/
def IsUnicode (s : PyStr) : Prop := ∀ c ∈ s, c < 0x110000

/-! ## Bytes -/

theorem toNat_byte {n : Nat} (h : n < 256) : (UInt8.ofNat n).toNat = n := by
  rw [UInt8.toNat_ofNat']
  omega

theorem byte_le {m n : Nat} (hm : m < 256) (hn : n < 256) : UInt8.ofNat m ≤ UInt8.ofNat n ↔ m ≤ n := by
  rw [UInt8.le_iff_toNat_le, toNat_byte hm, toNat_byte hn]

theorem byte_lt {m n : Nat} (hm : m < 256) (hn : n < 256) : UInt8.ofNat m < UInt8.ofNat n ↔ m < n := by
  rw [UInt8.lt_iff_toNat_lt, toNat_byte hm, toNat_byte hn]

theorem byte_eq {m n : Nat} (hm : m < 256) (hn : n < 256) : UInt8.ofNat m = UInt8.ofNat n ↔ m = n := by
  rw [← UInt8.toNat_inj, toNat_byte hm, toNat_byte hn]

/-- The bounds of a continuation byte. -/
def TailByte (n : Nat) : Prop := 0x80 ≤ n ∧ n ≤ 0xBF

theorem isTail_byte {n : Nat} (h : TailByte n) : isTail (UInt8.ofNat n) = true := by
  have hn : n < 256 := by
    have := h.2
    omega
  have hle : (0x80 : UInt8) ≤ UInt8.ofNat n := (@byte_le 0x80 n (by decide) hn).mpr h.1
  have hge : UInt8.ofNat n ≤ (0xBF : UInt8) := (@byte_le n 0xBF hn (by decide)).mpr h.2
  rw [isTail, decide_eq_true hle, decide_eq_true hge]
  rfl

/-! ## Characters -/

section

variable {a b c d : Nat} {rest : Bytes}

theorem decode_one (ha : a < 0x80) : decodeUtf8 (.ofNat a :: rest) = (decodeUtf8 rest).map (a :: ·) := by
  have hone : UInt8.ofNat a < (0x80 : UInt8) := (@byte_lt a 0x80 (by omega) (by decide)).mpr ha
  rw [decodeUtf8.eq_def]
  dsimp only
  rw [if_pos hone, toNat_byte (by omega)]

theorem not_one (ha : 0x80 ≤ a) (ha' : a < 256) : ¬ UInt8.ofNat a < (0x80 : UInt8) := by
  rw [show (0x80 : UInt8) = UInt8.ofNat 0x80 from rfl, byte_lt ha' (by decide)]
  omega

theorem decode_two (ha : 0xC2 ≤ a) (ha' : a ≤ 0xDF) (hb : TailByte b) :
    decodeUtf8 (.ofNat a :: .ofNat b :: rest) =
      (decodeUtf8 rest).map (((a - 0xC0) * 0x40 + (b - 0x80)) :: ·) := by
  have hb' := hb.2
  have htwo : (0xC2 : UInt8) ≤ UInt8.ofNat a ∧ UInt8.ofNat a ≤ (0xDF : UInt8) :=
    ⟨(@byte_le 0xC2 a (by decide) (by omega)).mpr ha, (@byte_le a 0xDF (by omega) (by decide)).mpr ha'⟩
  rw [decodeUtf8.eq_def]
  dsimp only
  rw [if_neg (not_one (by omega) (by omega)), if_pos htwo, if_pos (isTail_byte hb),
    toNat_byte (by omega), toNat_byte (by omega)]

theorem not_two (ha : 0xE0 ≤ a) (ha' : a < 256) :
    ¬ ((0xC2 : UInt8) ≤ UInt8.ofNat a ∧ UInt8.ofNat a ≤ (0xDF : UInt8)) := by
  rintro ⟨-, h⟩
  have := (@byte_le a 0xDF ha' (by decide)).mp h
  omega

theorem decode_three (ha : 0xE0 ≤ a) (ha' : a ≤ 0xEF) (hb : TailByte b) (hc : TailByte c) (hlow : a = 0xE0 → 0xA0 ≤ b) :
    decodeUtf8 (.ofNat a :: .ofNat b :: .ofNat c :: rest) =
      (decodeUtf8 rest).map (((a - 0xE0) * 0x1000 + (b - 0x80) * 0x40 + (c - 0x80)) :: ·) := by
  have hb' := hb.2
  have hc' := hc.2
  have hthree : (0xE0 : UInt8) ≤ UInt8.ofNat a ∧ UInt8.ofNat a ≤ (0xEF : UInt8) :=
    ⟨(@byte_le 0xE0 a (by decide) (by omega)).mpr ha, (@byte_le a 0xEF (by omega) (by decide)).mpr ha'⟩
  have htails : isTail (.ofNat b) = true ∧ isTail (.ofNat c) = true ∧
      (UInt8.ofNat a = 0xE0 → (0xA0 : UInt8) ≤ UInt8.ofNat b) := by
    refine ⟨isTail_byte hb, isTail_byte hc, fun h => ?_⟩
    have := hlow ((@byte_eq a 0xE0 (by omega) (by decide)).mp h)
    exact (@byte_le 0xA0 b (by decide) (by omega)).mpr this
  rw [decodeUtf8.eq_def]
  dsimp only
  rw [if_neg (not_one (by omega) (by omega)), if_neg (not_two ha (by omega)), if_pos hthree, if_pos htails,
    toNat_byte (by omega), toNat_byte (by omega), toNat_byte (by omega)]

theorem decode_four (ha : 0xF0 ≤ a) (ha' : a ≤ 0xF4) (hb : TailByte b) (hc : TailByte c) (hd : TailByte d)
    (hlow : a = 0xF0 → 0x90 ≤ b) (hhigh : a = 0xF4 → b ≤ 0x8F) :
    decodeUtf8 (.ofNat a :: .ofNat b :: .ofNat c :: .ofNat d :: rest) =
      (decodeUtf8 rest).map
        (((a - 0xF0) * 0x40000 + (b - 0x80) * 0x1000 + (c - 0x80) * 0x40 + (d - 0x80)) :: ·) := by
  have hb' := hb.2
  have hc' := hc.2
  have hd' := hd.2
  have hthree : ¬ ((0xE0 : UInt8) ≤ UInt8.ofNat a ∧ UInt8.ofNat a ≤ (0xEF : UInt8)) := by
    rintro ⟨-, h⟩
    have := (@byte_le a 0xEF (by omega) (by decide)).mp h
    omega
  have hfour : (0xF0 : UInt8) ≤ UInt8.ofNat a ∧ UInt8.ofNat a ≤ (0xF4 : UInt8) ∧ isTail (.ofNat b) = true ∧
      isTail (.ofNat c) = true ∧ isTail (.ofNat d) = true ∧ (UInt8.ofNat a = 0xF0 → (0x90 : UInt8) ≤ UInt8.ofNat b) ∧
      (UInt8.ofNat a = 0xF4 → UInt8.ofNat b ≤ (0x8F : UInt8)) := by
    refine ⟨(@byte_le 0xF0 a (by decide) (by omega)).mpr ha, (@byte_le a 0xF4 (by omega) (by decide)).mpr ha',
      isTail_byte hb, isTail_byte hc, isTail_byte hd, fun h => ?_, fun h => ?_⟩
    · have := hlow ((@byte_eq a 0xF0 (by omega) (by decide)).mp h)
      exact (@byte_le 0x90 b (by decide) (by omega)).mpr this
    · have := hhigh ((@byte_eq a 0xF4 (by omega) (by decide)).mp h)
      exact (@byte_le b 0x8F (by omega) (by decide)).mpr this
  rw [decodeUtf8.eq_def]
  dsimp only
  rw [if_neg (not_one (by omega) (by omega)), if_neg (not_two (by omega) (by omega)), if_neg hthree, if_pos hfour,
    toNat_byte (by omega), toNat_byte (by omega), toNat_byte (by omega), toNat_byte (by omega)]

end

/-- The bytes of a character are decoded to it. -/
theorem decodeUtf8_encodeChar {c : Nat} {b : Bytes} (hc : c < 0x110000)
    (h : PyStr.encodeChar c = some b) (rest : Bytes) :
    decodeUtf8 (b ++ rest) = (decodeUtf8 rest).map (c :: ·) := by
  unfold PyStr.encodeChar at h
  split at h
  · cases h
  · split at h
    · obtain rfl := Option.some.inj h
      exact decode_one ‹_›
    · split at h
      · obtain rfl := Option.some.inj h
        have hvalue : (0xC0 + c / 0x40 - 0xC0) * 0x40 + (0x80 + c % 0x40 - 0x80) = c := by omega
        have hdecode := @decode_two (0xC0 + c / 0x40) (0x80 + c % 0x40) rest (by omega) (by omega) ⟨by omega, by omega⟩
        rw [hvalue] at hdecode
        exact hdecode
      · split at h
        · obtain rfl := Option.some.inj h
          have hvalue : (0xE0 + c / 0x1000 - 0xE0) * 0x1000 + (0x80 + c / 0x40 % 0x40 - 0x80) * 0x40 +
              (0x80 + c % 0x40 - 0x80) = c := by omega
          have hdecode := @decode_three (0xE0 + c / 0x1000) (0x80 + c / 0x40 % 0x40) (0x80 + c % 0x40) rest
            (by omega) (by omega) ⟨by omega, by omega⟩ ⟨by omega, by omega⟩ (by omega)
          rw [hvalue] at hdecode
          exact hdecode
        · obtain rfl := Option.some.inj h
          have hvalue : (0xF0 + c / 0x40000 - 0xF0) * 0x40000 + (0x80 + c / 0x1000 % 0x40 - 0x80) * 0x1000 +
              (0x80 + c / 0x40 % 0x40 - 0x80) * 0x40 + (0x80 + c % 0x40 - 0x80) = c := by omega
          have hdecode := @decode_four (0xF0 + c / 0x40000) (0x80 + c / 0x1000 % 0x40) (0x80 + c / 0x40 % 0x40)
            (0x80 + c % 0x40) rest (by omega) (by omega) ⟨by omega, by omega⟩ ⟨by omega, by omega⟩ ⟨by omega, by omega⟩
            (by omega) (by omega)
          rw [hvalue] at hdecode
          exact hdecode

/-! ## Strings -/

theorem encode_cons {c : Nat} {s : PyStr} {b : Bytes} :
    PyStr.encode (c :: s) = some b ↔ ∃ first rest, PyStr.encodeChar c = some first ∧ PyStr.encode s = some rest ∧
      b = first ++ rest := by
  unfold PyStr.encode
  rw [List.mapM_cons]
  cases hc : PyStr.encodeChar c with
  | none => simp
  | some first =>
    cases hs : s.mapM PyStr.encodeChar with
    | none => simp
    | some rest => simp [eq_comm]

theorem encode_append {s t : PyStr} {b : Bytes} :
    PyStr.encode (s ++ t) = some b ↔ ∃ first rest, PyStr.encode s = some first ∧ PyStr.encode t = some rest ∧
      b = first ++ rest := by
  induction s generalizing b with
  | nil => simp [PyStr.encode, eq_comm]
  | cons c s ih =>
    rw [List.cons_append, encode_cons]
    constructor
    · rintro ⟨first, tail, hc, htail, rfl⟩
      obtain ⟨second, rest, hs, ht, rfl⟩ := ih.mp htail
      exact ⟨first ++ second, rest, encode_cons.mpr ⟨first, second, hc, hs, rfl⟩, ht, (List.append_assoc _ _ _).symm⟩
    · rintro ⟨head, rest, hhead, ht, rfl⟩
      obtain ⟨first, second, hc, hs, rfl⟩ := encode_cons.mp hhead
      exact ⟨first, second ++ rest, hc, ih.mpr ⟨second, rest, hs, ht, rfl⟩, List.append_assoc _ _ _⟩

/-- The bytes of a string are decoded to it. -/
theorem decodeUtf8_encode {s : PyStr} {b : Bytes} (hs : IsUnicode s) (h : s.encode = some b) :
    decodeUtf8 b = some s := by
  induction s generalizing b with
  | nil =>
    obtain rfl := Option.some.inj h
    rfl
  | cons c s ih =>
    obtain ⟨first, rest, hc, hrest, rfl⟩ := encode_cons.mp h
    rw [decodeUtf8_encodeChar (hs c List.mem_cons_self) hc, ih (fun d hd => hs d (List.mem_cons_of_mem _ hd)) hrest]
    rfl

theorem isTail_le {b : UInt8} (h : isTail b = true) : b.toNat ≤ 0xBF := by
  rw [isTail, Bool.and_eq_true, decide_eq_true_eq, decide_eq_true_eq] at h
  exact h.2

/-- What is decoded are code points, no more than there are bytes. -/
theorem decodeUtf8_unicode {b : Bytes} {s : PyStr} (h : decodeUtf8 b = some s) : IsUnicode s ∧ s.length ≤ b.length := by
  have hcons (used : Bytes) (hused : 0 < used.length) {c : Nat} (hc : c < 0x110000) {rest : Bytes} {text : PyStr}
      (hrest : ∀ {t}, decodeUtf8 rest = some t → IsUnicode t ∧ t.length ≤ rest.length)
      (h : (decodeUtf8 rest).map (c :: ·) = some text) : IsUnicode text ∧ text.length ≤ (used ++ rest).length := by
    obtain ⟨t, ht, rfl⟩ := Option.map_eq_some_iff.mp h
    obtain ⟨hunicode, hlength⟩ := hrest ht
    refine ⟨List.forall_mem_cons.mpr ⟨hc, hunicode⟩, ?_⟩
    rw [List.length_append, List.length_cons]
    omega
  fun_induction decodeUtf8 b generalizing s with
  | case1 =>
    obtain rfl := Option.some.inj h
    exact ⟨fun c hc => absurd hc List.not_mem_nil, Nat.le_refl 0⟩
  | case2 a rest _ ih =>
    have := a.toNat_lt
    exact hcons [a] (Nat.succ_pos _) (by omega) ih h
  | case3 a _ b rest _ _ ih =>
    have := a.toNat_lt
    have := b.toNat_lt
    exact hcons [a, b] (Nat.succ_pos _) (by omega) ih h
  | case5 a _ b _ c rest _ _ ih =>
    have := a.toNat_lt
    have := b.toNat_lt
    have := c.toNat_lt
    exact hcons [a, b, c] (Nat.succ_pos _) (by omega) ih h
  | case7 a _ b _ c _ d rest hbytes ih =>
    obtain ⟨-, ha, hb, hc, hd, -, hlast⟩ := hbytes
    have hb := isTail_le hb
    have hc := isTail_le hc
    have hd := isTail_le hd
    have ha : a.toNat ≤ 0xF4 := ha
    have hlast : a.toNat = 0xF4 → b.toNat ≤ 0x8F := fun heq => hlast (UInt8.toNat_inj.mp heq)
    exact hcons [a, b, c, d] (Nat.succ_pos _) (by omega) ih h
  | case4 | case6 | case8 | case9 | case10 | case11 => cases h

/-- A string without surrogates is encoded. -/
theorem encode_of_encodable {s : PyStr} (h : s.encodable = true) : ∃ b, s.encode = some b := by
  induction s with
  | nil => exact ⟨[], rfl⟩
  | cons c s ih =>
    rw [PyStr.encodable, List.all_cons, Bool.and_eq_true] at h
    obtain ⟨rest, hrest⟩ := ih h.2
    have hfirst : ∃ first, PyStr.encodeChar c = some first := by
      have hsurrogate : ¬ PyStr.isSurrogate c = true := by simpa using h.1
      unfold PyStr.encodeChar
      rw [if_neg hsurrogate]
      split
      · exact ⟨_, rfl⟩
      · split
        · exact ⟨_, rfl⟩
        · split
          · exact ⟨_, rfl⟩
          · exact ⟨_, rfl⟩
    obtain ⟨first, hfirst⟩ := hfirst
    exact ⟨first ++ rest, encode_cons.mpr ⟨first, rest, hfirst, hrest, rfl⟩⟩

/-- The bytes of a character that is not ASCII are not ASCII. -/
theorem encodeChar_high {c : Nat} {b : Bytes} (hlow : 0x80 ≤ c) (hc : c < 0x110000) (h : PyStr.encodeChar c = some b) :
    ∀ byte ∈ b, ∃ n, 0x80 ≤ n ∧ n < 256 ∧ byte = UInt8.ofNat n := by
  have hbyte : ∀ n, 0x80 ≤ n → n < 256 → ∃ m, 0x80 ≤ m ∧ m < 256 ∧ UInt8.ofNat n = UInt8.ofNat m :=
    fun n h₁ h₂ => ⟨n, h₁, h₂, rfl⟩
  unfold PyStr.encodeChar at h
  split at h
  · cases h
  · rw [if_neg (by omega)] at h
    split at h
    · obtain rfl := Option.some.inj h
      simp only [List.forall_mem_cons, List.not_mem_nil, false_implies, implies_true, and_true]
      exact ⟨hbyte _ (by omega) (by omega), hbyte _ (by omega) (by omega)⟩
    · split at h
      · obtain rfl := Option.some.inj h
        simp only [List.forall_mem_cons, List.not_mem_nil, false_implies, implies_true, and_true]
        exact ⟨hbyte _ (by omega) (by omega), hbyte _ (by omega) (by omega), hbyte _ (by omega) (by omega)⟩
      · obtain rfl := Option.some.inj h
        simp only [List.forall_mem_cons, List.not_mem_nil, false_implies, implies_true, and_true]
        exact ⟨hbyte _ (by omega) (by omega), hbyte _ (by omega) (by omega), hbyte _ (by omega) (by omega),
          hbyte _ (by omega) (by omega)⟩

theorem encodeChar_ascii {c : Nat} (hc : c < 0x80) : PyStr.encodeChar c = some [.ofNat c] := by
  have hsurrogate : ¬ PyStr.isSurrogate c = true := by
    simp only [PyStr.isSurrogate, Bool.and_eq_true, decide_eq_true_eq]
    omega
  rw [PyStr.encodeChar, if_neg hsurrogate, if_pos hc]

/-- An ASCII byte is that of its character. -/
theorem ascii_of_encodeChar {n c : Nat} {b : Bytes} (hn : n < 0x80) (hc : c < 0x110000)
    (h : PyStr.encodeChar c = some b)
    (hmem : UInt8.ofNat n ∈ b) : c = n := by
  by_cases hlow : c < 0x80
  · obtain rfl := Option.some.inj ((encodeChar_ascii hlow).symm.trans h)
    exact ((byte_eq (by omega) (by omega)).mp (List.mem_singleton.mp hmem)).symm
  · obtain ⟨m, hm, hm', heq⟩ := encodeChar_high (by omega) hc h _ hmem
    have := (byte_eq (by omega) hm').mp heq
    omega

theorem ascii_of_encode {n : Nat} {s : PyStr} {b : Bytes} (hn : n < 0x80) (hs : IsUnicode s) (h : s.encode = some b)
    (hmem : UInt8.ofNat n ∈ b) : n ∈ s := by
  induction s generalizing b with
  | nil =>
    obtain rfl := Option.some.inj h
    cases hmem
  | cons c s ih =>
    obtain ⟨first, rest, hc, hrest, rfl⟩ := encode_cons.mp h
    rcases List.mem_append.mp hmem with hfirst | hmem
    · rw [ascii_of_encodeChar hn (hs c List.mem_cons_self) hc hfirst]
      exact List.mem_cons_self
    · exact List.mem_cons_of_mem _ (ih (fun d hd => hs d (List.mem_cons_of_mem _ hd)) hrest hmem)

/-- The bytes of an ASCII text. -/
theorem encode_ascii {s : PyStr} (h : ∀ c ∈ s, c < 0x80) : s.encode = some (s.map UInt8.ofNat) := by
  induction s with
  | nil => rfl
  | cons c s ih =>
    refine encode_cons.mpr ⟨_, _, encodeChar_ascii (h c List.mem_cons_self), ih fun d hd => ?_, rfl⟩
    exact h d (List.mem_cons_of_mem _ hd)

end Framework
