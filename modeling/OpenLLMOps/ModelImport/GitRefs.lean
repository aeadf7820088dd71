import OpenLLMOps.Framework.Dict
import OpenLLMOps.Framework.Except
import OpenLLMOps.Framework.Json.Utf8
import OpenLLMOps.Framework.Lines
import OpenLLMOps.Framework.PyNumber

/-!
# Git refs

`_parse_git_refs` and `_resolve_modelscope_revision` of `downloaders.py`: a ref advertisement of smart HTTP is read
packet by packet, and a revision is looked up in it.

* `parseGitRefs_ends`: the loop ends for every payload, and no slice is past the end;
* `parseGitRefs_advertisement`: it gives the refs that have been advertised.
-/

namespace OpenLLMOps.Downloaders

open Framework

/-! ## `int(…, 16)` -/

/-- Hexadecimal digits, with single underscores between them. -/
def hexNumber (n : Nat) : Bytes → Option Nat
  | [] => none
  | [c] => (hexDigit? c.toNat).map fun d => 16 * n + d
  | c :: 95 :: rest => (hexDigit? c.toNat).bind fun d => hexNumber (16 * n + d) rest
  | c :: next :: rest => (hexDigit? c.toNat).bind fun d => hexNumber (16 * n + d) (next :: rest)

/-- The text behind `0x`. -/
def behindPrefix : Bytes → Bytes
  | 48 :: 120 :: 95 :: rest | 48 :: 88 :: 95 :: rest => rest
  | 48 :: 120 :: rest | 48 :: 88 :: rest => rest
  | b => b

/-- `int(b, 16)`. -/
def intBase16 (b : Bytes) : Option Int :=
  match (b.dropWhile isByteSpace).rdropWhile isByteSpace with
  | 43 :: rest => (hexNumber 0 (behindPrefix rest)).map Int.ofNat
  | 45 :: rest => (hexNumber 0 (behindPrefix rest)).map fun n : Nat => -(n : Int)
  | rest => (hexNumber 0 (behindPrefix rest)).map Int.ofNat

/-! ## Commits -/

/-- A full match of `COMMIT_PATTERN`. -/
def isCommit (s : PyStr) : Bool := (s.length = 40 || s.length = 64) && s.all fun c => (hexDigit? c).isSome

/-- `_normalize_commit` of a text, without the error. -/
def normalizeCommit (value : PyStr) : Option PyStr := if isCommit value then some (value.map PyStr.asciiLower) else none

/-- `decode("ascii")`. -/
def decodeAscii (b : Bytes) : Option PyStr := if b.all (· < 128) then some (b.map UInt8.toNat) else none

/-- `decode("utf-8")`. -/
def decodeStrict (b : Bytes) : Option PyStr := (decodeUtf8 b).filter PyStr.encodable

/-! ## Packets -/

/-- The ref of a packet and its commit; other packets are ignored. -/
def packetRef (packet : Bytes) : Option (PyStr × PyStr) :=
  let line := (packet.takeWhile (· ≠ 0)).rdropWhile (· = 10)
  if (32 : UInt8) ∉ line then none
  else do
    let commitText ← decodeAscii (line.takeWhile (· ≠ 32))
    let commit ← normalizeCommit commitText
    let ref ← decodeStrict ((line.dropWhile (· ≠ 32)).drop 1)
    if ref ≠ [] ∧ ref.all (32 ≤ ·) then some (ref, commit) else none

/-- `refs[ref] = commit`. -/
def addPacket (refs : List (PyStr × PyStr)) (packet : Bytes) : List (PyStr × PyStr) :=
  match packetRef packet with
  | some (ref, commit) => Dict.set refs ref commit
  | none => refs

/-- How the loop over the packets ends: with the refs, with a `ValueError`, by reading past the end, or without fuel. -/
inductive Parsed
  | refs (refs : List (PyStr × PyStr))
  | raised (text : PyStr)
  | pastEnd
  | outOfFuel
  deriving DecidableEq

/-- `payload[start:stop]`, which is not past the end. -/
def slice? (payload : Bytes) (start stop : Nat) : Option Bytes :=
  if stop ≤ payload.length then some ((payload.drop start).take (stop - start)) else none

section

variable (payload : Bytes)

/-- The loop over the packets. -/
def parsePackets : Nat → Nat → List (PyStr × PyStr) → Parsed
  | 0, _, _ => .outOfFuel
  | fuel + 1, cursor, refs =>
    if payload.length ≤ cursor then .refs refs
    else if payload.length < cursor + 4 then .raised (py "ModelScope Git ref 响应被截断")
    else
      match slice? payload cursor (cursor + 4) with
      | none => .pastEnd
      | some digits =>
        match intBase16 digits with
        | none => .raised (py "ModelScope Git ref 响应格式无效")
        | some packetSize =>
          if packetSize = 0 then parsePackets fuel (cursor + 4) refs
          else if packetSize < 4 ∨ (payload.length : Int) < cursor + 4 + packetSize - 4 then
            .raised (py "ModelScope Git ref 响应长度无效")
          else
            let stop := (cursor + 4 + packetSize - 4 : Int).toNat
            match slice? payload (cursor + 4) stop with
            | none => .pastEnd
            | some packet => parsePackets fuel stop (addPacket refs packet)

/-- `_parse_git_refs`. -/
def parseGitRefs : Parsed := parsePackets payload (payload.length + 1) 0 []

end

/-- The loop ends: with refs or with a `ValueError`. -/
theorem parsePackets_ends (payload : Bytes) {fuel cursor : Nat} (hcursor : cursor ≤ payload.length)
    (hfuel : payload.length < fuel + cursor) (refs : List (PyStr × PyStr)) :
    (∃ refs', parsePackets payload fuel cursor refs = .refs refs') ∨
      ∃ text, parsePackets payload fuel cursor refs = .raised text := by
  induction fuel generalizing cursor refs with
  | zero => omega
  | succ fuel ih =>
    unfold parsePackets
    split
    · exact .inl ⟨refs, rfl⟩
    · split
      · exact .inr ⟨_, rfl⟩
      · rename_i hleft
        rw [slice?, if_pos (by omega)]
        dsimp only
        split
        · exact .inr ⟨_, rfl⟩
        · rename_i packetSize _
          split
          · exact ih (by omega) (by omega) refs
          · split
            · exact .inr ⟨_, rfl⟩
            · rename_i hsize
              have hfits : 4 ≤ packetSize ∧ cursor + 4 + packetSize - 4 ≤ payload.length := by omega
              rw [slice?, if_pos (by omega)]
              exact ih (by omega) (by omega) _

theorem parseGitRefs_ends (payload : Bytes) :
    (∃ refs, parseGitRefs payload = .refs refs) ∨ ∃ text, parseGitRefs payload = .raised text :=
  parsePackets_ends payload (Nat.zero_le _) (by omega) []

/-! ## Advertisements -/

/-- The `n`-th hexadecimal digit. -/
def hexByte (n : Nat) : UInt8 := .ofNat (if n < 10 then 48 + n else 87 + n)

/-- Four hexadecimal digits. -/
def hex4 (n : Nat) : Bytes := [hexByte (n / 4096 % 16), hexByte (n / 256 % 16), hexByte (n / 16 % 16), hexByte (n % 16)]

/-- A packet: its size, and its content. -/
def pktLine (content : Bytes) : Bytes := hex4 (content.length + 4) ++ content

/-- A flush packet. -/
def flushPkt : Bytes := [48, 48, 48, 48]

/-- The bytes of an ASCII text. -/
def asciiBytes (s : PyStr) : Bytes := s.map UInt8.ofNat

/-- An advertised ref; its line may end with a newline. -/
structure GitRef where
  name : PyStr
  commit : PyStr
  newline : Bool
  nonempty : name ≠ []
  printable : ∀ c ∈ name, 32 ≤ c ∧ c < 0x110000
  encodable : name.encodable = true
  length : commit.length = 40
  hex : ∀ c ∈ commit, 48 ≤ c ∧ c ≤ 57 ∨ 97 ≤ c ∧ c ≤ 102

namespace GitRef

/-- The line of a ref, the first one with the capabilities. -/
def line (r : GitRef) (capabilities : Option Bytes) : Bytes :=
  asciiBytes r.commit ++ 32 :: r.name.encode.getD [] ++ (capabilities.map (0 :: ·)).getD [] ++ if r.newline then [10] else []

end GitRef

/-- The lines of the refs. -/
def refLines (capabilities : Bytes) : List GitRef → List Bytes
  | [] => []
  | r :: rest => r.line (some capabilities) :: rest.map fun r => r.line none

/-- The line of the service. -/
def serviceLine (newline : Bool) : Bytes := asciiBytes (py "# service=git-upload-pack") ++ if newline then [10] else []

/-- A ref advertisement: the service and a flush, the refs and a flush. -/
def advertisement (newline : Bool) (capabilities : Bytes) (refs : List GitRef) : Bytes :=
  pktLine (serviceLine newline) ++ flushPkt ++ ((refLines capabilities refs).map pktLine).flatten ++ flushPkt

/-- The map of names to commits. -/
def refMap (refs : List GitRef) : List (PyStr × PyStr) := refs.map fun r => (r.name, r.commit)

example : parseGitRefs (advertisement true [] []) = .refs [] := by decide +kernel

/-! ## Sizes -/

/-- The digits of a size. -/
theorem hexByte_spec : ∀ d < 16, hexDigit? (hexByte d).toNat = some d ∧ isByteSpace (hexByte d) = false ∧
    hexByte d ≠ 43 ∧ hexByte d ≠ 45 ∧ hexByte d ≠ 95 ∧ hexByte d ≠ 88 ∧ hexByte d ≠ 120 := by
  decide

theorem hexNumber_digits {ds : List Nat} (hds : ∀ d ∈ ds, d < 16) (hne : ds ≠ []) (n : Nat) :
    hexNumber n (ds.map hexByte) = some (ds.foldl (fun n d => 16 * n + d) n) := by
  induction ds generalizing n with
  | nil => exact absurd rfl hne
  | cons d ds ih =>
    obtain ⟨hvalue, -, -, -, -⟩ := hexByte_spec d (hds d List.mem_cons_self)
    cases ds with
    | nil =>
      rw [List.map_cons, List.map_nil, hexNumber, hvalue]
      rfl
    | cons e es =>
      have he := (hexByte_spec e (hds e (List.mem_cons_of_mem _ List.mem_cons_self))).2.2.2.2.1
      rw [List.map_cons, List.map_cons, hexNumber.eq_4 _ _ _ _ (fun h => he h), hvalue]
      exact ih (fun d hd => hds d (List.mem_cons_of_mem _ hd)) (List.cons_ne_nil _ _) _

theorem behindPrefix_digits {a b c d : UInt8} (hb : b ≠ 120) (hb' : b ≠ 88) : behindPrefix [a, b, c, d] = [a, b, c, d] := by
  unfold behindPrefix
  split
  · rename_i heq
    exact absurd (List.cons.inj (List.cons.inj heq).2).1 hb
  · rename_i heq
    exact absurd (List.cons.inj (List.cons.inj heq).2).1 hb'
  · rename_i heq
    exact absurd (List.cons.inj (List.cons.inj heq).2).1 hb
  · rename_i heq
    exact absurd (List.cons.inj (List.cons.inj heq).2).1 hb'
  · rfl

/-- The size of a packet is read back. -/
theorem intBase16_hex4 {n : Nat} (h : n < 65536) : intBase16 (hex4 n) = some (n : Int) := by
  have hdigits : ∀ d ∈ [n / 4096 % 16, n / 256 % 16, n / 16 % 16, n % 16], d < 16 := by
    intro d hd
    simp only [List.mem_cons, List.not_mem_nil, or_false] at hd
    omega
  obtain ⟨-, hspace, hplus, hminus, -⟩ := hexByte_spec (n / 4096 % 16) (by omega)
  obtain ⟨-, -, -, -, -, hlarge, hsmall⟩ := hexByte_spec (n / 256 % 16) (by omega)
  obtain ⟨-, hlast, -⟩ := hexByte_spec (n % 16) (by omega)
  have hstrip : ((hex4 n).dropWhile isByteSpace).rdropWhile isByteSpace = hex4 n := by
    simp [hex4, List.rdropWhile, hspace, hlast]
  have hvalue := hexNumber_digits hdigits (List.cons_ne_nil _ _) 0
  have hsum : [n / 4096 % 16, n / 256 % 16, n / 16 % 16, n % 16].foldl (fun n d => 16 * n + d) 0 = n := by
    simp only [List.foldl_cons, List.foldl_nil]
    omega
  rw [hsum] at hvalue
  unfold intBase16
  rw [hstrip]
  split
  · rename_i heq
    exact absurd (List.cons.inj heq).1 hplus
  · rename_i heq
    exact absurd (List.cons.inj heq).1 hminus
  · rw [hex4, behindPrefix_digits hsmall hlarge]
    exact congrArg (Option.map Int.ofNat) hvalue

/-! ## Lines -/

/-- What is in front of a separator that comes first. -/
theorem takeWhile_append_cons {s t : Bytes} {c : UInt8} (h : c ∉ s) :
    (s ++ c :: t).takeWhile (· ≠ c) = s ∧ (s ++ c :: t).dropWhile (· ≠ c) = c :: t := by
  have hs : ∀ d ∈ s, decide (d ≠ c) = true := fun d hd => decide_eq_true fun heq => h (heq ▸ hd)
  rw [List.takeWhile_append_of_pos hs, List.dropWhile_append_of_pos hs]
  simp

namespace GitRef

variable (r : GitRef)

/-- The bytes of the name. -/
def nameBytes : Bytes := r.name.encode.getD []

theorem nameBytes_spec : r.name.encode = some r.nameBytes := by
  obtain ⟨b, hb⟩ := encode_of_encodable r.encodable
  rw [nameBytes, hb]
  rfl

theorem not_mem_nameBytes {n : Nat} (hn : n < 32) : UInt8.ofNat n ∉ r.nameBytes := by
  intro hmem
  have := ascii_of_encode (by omega) (fun c hc => (r.printable c hc).2) r.nameBytes_spec hmem
  have := (r.printable n this).1
  omega

theorem commit_lt {c : Nat} (hc : c ∈ r.commit) : 48 ≤ c ∧ c < 128 := by
  have := r.hex c hc
  omega

theorem not_mem_commitBytes {n : Nat} (hn : n < 48) : UInt8.ofNat n ∉ asciiBytes r.commit := by
  intro hmem
  obtain ⟨c, hc, heq⟩ := List.mem_map.mp hmem
  have hlt := r.commit_lt hc
  have := (byte_eq (by omega) (by omega)).mp heq
  omega

theorem decodeAscii_commit : decodeAscii (asciiBytes r.commit) = some r.commit := by
  have hall : (asciiBytes r.commit).all (· < 128) = true := by
    refine List.all_eq_true.mpr fun b hb => ?_
    obtain ⟨c, hc, rfl⟩ := List.mem_map.mp hb
    have hlt := r.commit_lt hc
    exact decide_eq_true ((@byte_lt c 128 (by omega) (by decide)).mpr hlt.2)
  have hmap : (asciiBytes r.commit).map UInt8.toNat = r.commit := by
    rw [asciiBytes, List.map_map]
    refine (List.map_congr_left fun c hc => ?_).trans (List.map_id _)
    have hlt := r.commit_lt hc
    exact toNat_byte (by omega)
  rw [decodeAscii, if_pos hall, hmap]

theorem normalizeCommit_commit : normalizeCommit r.commit = some r.commit := by
  have hcommit : isCommit r.commit = true := by
    rw [isCommit, r.length, Bool.and_eq_true]
    refine ⟨rfl, List.all_eq_true.mpr fun c hc => ?_⟩
    have := r.hex c hc
    unfold hexDigit?
    grind
  have hlower : r.commit.map PyStr.asciiLower = r.commit := by
    refine (List.map_congr_left fun c hc => ?_).trans (List.map_id _)
    have := r.hex c hc
    simp only [PyStr.asciiLower, id_eq]
    grind
  rw [normalizeCommit, if_pos hcommit, hlower]

theorem decodeStrict_name : decodeStrict r.nameBytes = some r.name := by
  rw [decodeStrict, decodeUtf8_encode (fun c hc => (r.printable c hc).2) r.nameBytes_spec]
  simp [r.encodable]

/-- The line up to the capabilities, without a newline. -/
def text : Bytes := asciiBytes r.commit ++ 32 :: r.nameBytes

theorem not_mem_text {n : Nat} (hn : n < 32) : UInt8.ofNat n ∉ r.text := by
  intro hmem
  rcases List.mem_append.mp hmem with h | h
  · exact r.not_mem_commitBytes (by omega) h
  · rcases List.mem_cons.mp h with heq | h
    · have := (@byte_eq n 32 (by omega) (by decide)).mp heq
      omega
    · exact r.not_mem_nameBytes hn h

theorem line_eq (capabilities : Option Bytes) :
    r.line capabilities = r.text ++ ((capabilities.map (0 :: ·)).getD [] ++ if r.newline then [10] else []) := by
  simp [line, text, nameBytes]

/-- The newline at the end is dropped. -/
theorem rdropWhile_text (newline : Bool) :
    (r.text ++ if newline then [10] else []).rdropWhile (· = 10) = r.text := by
  have htext : r.text.rdropWhile (· = 10) = r.text := by
    rw [List.rdropWhile_eq_self_iff]
    intro hne hlast
    exact r.not_mem_text (by decide) (of_decide_eq_true hlast ▸ List.getLast_mem hne)
  cases newline with
  | true => rw [if_pos rfl, List.rdropWhile_concat_pos _ _ _ (by decide), htext]
  | false => rw [if_neg Bool.false_ne_true, List.append_nil, htext]

/-- The line of a ref is read back. -/
theorem packetRef_line (capabilities : Option Bytes) : packetRef (r.line capabilities) = some (r.name, r.commit) := by
  have htext : ((r.line capabilities).takeWhile (· ≠ 0)).rdropWhile (· = 10) = r.text := by
    have hzero : (0 : UInt8) ∉ r.text := r.not_mem_text (by decide)
    rw [line_eq]
    cases capabilities with
    | some capabilities =>
      rw [Option.map_some, Option.getD_some, List.cons_append, (takeWhile_append_cons hzero).1]
      have hnone := r.rdropWhile_text false
      rwa [if_neg Bool.false_ne_true, List.append_nil] at hnone
    | none =>
      have hline : ∀ b ∈ r.text ++ (if r.newline then [10] else []), decide (b ≠ 0) = true := by
        intro b hb
        refine decide_eq_true fun heq => ?_
        subst heq
        rcases List.mem_append.mp hb with h | h
        · exact hzero h
        · split at h
          · cases List.mem_singleton.mp h
          · cases h
      rw [Option.map_none, Option.getD_none, List.nil_append, List.takeWhile_eq_self_iff.mpr hline]
      exact r.rdropWhile_text r.newline
  have hspace : (32 : UInt8) ∉ asciiBytes r.commit := r.not_mem_commitBytes (by decide)
  obtain ⟨hbefore, hbehind⟩ := @takeWhile_append_cons (asciiBytes r.commit) r.nameBytes 32 hspace
  have hprintable : r.name ≠ [] ∧ r.name.all (32 ≤ ·) = true :=
    ⟨r.nonempty, List.all_eq_true.mpr fun c hc => decide_eq_true (r.printable c hc).1⟩
  have hmem : ¬ (32 : UInt8) ∉ r.text := not_not.mpr (List.mem_append_right _ List.mem_cons_self)
  unfold packetRef
  rw [htext]
  dsimp only
  rw [if_neg hmem, text, hbefore, hbehind, r.decodeAscii_commit]
  refine bind_eq_some.mpr ⟨_, rfl, bind_eq_some.mpr ⟨_, r.normalizeCommit_commit, ?_⟩⟩
  refine bind_eq_some.mpr ⟨_, r.decodeStrict_name, ?_⟩
  rw [if_pos hprintable]

end GitRef

/-! ## Reading an advertisement -/

/-- What is left of a payload at a cursor; the fuel is enough for it. -/
structure At (payload rest : Bytes) (fuel cursor : Nat) : Prop where
  rest : payload.drop cursor = rest
  inBounds : cursor ≤ payload.length
  fuel : payload.length < fuel + cursor

/-- From what is left and some refs, the loop comes to `rest'` and `refs'`. -/
def Continues (payload rest : Bytes) (refs : List (PyStr × PyStr)) (rest' : Bytes) (refs' : List (PyStr × PyStr)) : Prop :=
  ∀ fuel cursor, At payload rest fuel cursor → ∃ fuel' cursor', At payload rest' fuel' cursor' ∧
    parsePackets payload fuel cursor refs = parsePackets payload fuel' cursor' refs'

section

variable {payload rest rest' rest'' : Bytes} {refs refs' refs'' : List (PyStr × PyStr)}

theorem Continues.refl : Continues payload rest refs rest refs := fun fuel cursor h => ⟨fuel, cursor, h, rfl⟩

theorem Continues.trans (h : Continues payload rest refs rest' refs') (h' : Continues payload rest' refs' rest'' refs'') :
    Continues payload rest refs rest'' refs'' := by
  intro fuel cursor hat
  obtain ⟨fuel', cursor', hat', heq⟩ := h fuel cursor hat
  obtain ⟨fuel'', cursor'', hat'', heq'⟩ := h' fuel' cursor' hat'
  exact ⟨fuel'', cursor'', hat'', heq.trans heq'⟩

theorem At.length {fuel cursor : Nat} (h : At payload rest fuel cursor) : cursor + rest.length = payload.length := by
  have := h.inBounds
  rw [← h.rest, List.length_drop]
  omega

/-- The slices of what is left. -/
theorem At.slice {fuel cursor : Nat} (h : At payload rest fuel cursor) (skip n : Nat) (hn : skip + n ≤ rest.length) :
    slice? payload (cursor + skip) (cursor + skip + n) = some ((rest.drop skip).take n) := by
  have := h.length
  rw [slice?, if_pos (by omega), ← h.rest, List.drop_drop, Nat.add_sub_cancel_left]

theorem At.next {fuel cursor : Nat} (h : At payload rest (fuel + 1) cursor) (n : Nat) (hpos : 0 < n) (hn : n ≤ rest.length) :
    At payload (rest.drop n) fuel (cursor + n) := by
  have hlength := h.length
  have hfuel := h.fuel
  refine ⟨?_, by omega, by omega⟩
  rw [← h.rest, List.drop_drop]

/-- A step of the loop. -/
theorem parsePackets_step {fuel cursor size : Nat} (h : At payload rest (fuel + 1) cursor) (hsize : 4 ≤ rest.length)
    (hdigits : intBase16 (rest.take 4) = some (size : Int)) :
    (size = 0 → parsePackets payload (fuel + 1) cursor refs = parsePackets payload fuel (cursor + 4) refs) ∧
      (4 ≤ size → size ≤ rest.length → parsePackets payload (fuel + 1) cursor refs =
        parsePackets payload fuel (cursor + size) (addPacket refs ((rest.drop 4).take (size - 4)))) := by
  have hlength := h.length
  have hslice := h.slice 0 4 (by omega)
  rw [Nat.add_zero, List.drop_zero] at hslice
  constructor
  · rintro rfl
    rw [parsePackets, if_neg (by omega), if_neg (by omega), hslice]
    dsimp only
    rw [hdigits]
    rfl
  · intro hfour hfits
    have hpacket := h.slice 4 (size - 4) (by omega)
    have hstop : (cursor + 4 + (size : Int) - 4 : Int).toNat = cursor + 4 + (size - 4) := by omega
    rw [parsePackets, if_neg (by omega), if_neg (by omega), hslice]
    dsimp only
    rw [hdigits]
    dsimp only
    rw [if_neg (by omega), if_neg (by omega), hstop, hpacket]
    dsimp only
    rw [show cursor + 4 + (size - 4) = cursor + size by omega]

theorem exists_fuel {fuel cursor : Nat} (h : At payload rest fuel cursor) (hpos : 0 < rest.length) : ∃ k, fuel = k + 1 := by
  have := h.length
  have := h.fuel
  exact ⟨fuel - 1, by omega⟩

/-- A packet is read. -/
theorem continues_pktLine {content : Bytes} (hsize : content.length + 4 < 65520) :
    Continues payload (pktLine content ++ rest) refs rest (addPacket refs content) := by
  intro fuel cursor h
  have hlength : (pktLine content ++ rest).length = 4 + content.length + rest.length := by
    simp [pktLine, hex4]
    omega
  obtain ⟨fuel, rfl⟩ := exists_fuel h (by omega)
  have hdigits : intBase16 ((pktLine content ++ rest).take 4) = some ((content.length + 4 : Nat) : Int) :=
    intBase16_hex4 (by omega)
  have hpacket : ((pktLine content ++ rest).drop 4).take (content.length + 4 - 4) = content := by
    rw [Nat.add_sub_cancel]
    show (content ++ rest).take content.length = content
    exact List.take_left
  have hrest : (pktLine content ++ rest).drop (content.length + 4) = rest := by
    show (content ++ rest).drop content.length = rest
    exact List.drop_left
  have hnext := h.next (content.length + 4) (by omega) (by omega)
  rw [hrest] at hnext
  refine ⟨fuel, cursor + (content.length + 4), hnext, ?_⟩
  rw [(parsePackets_step h (by omega) hdigits).2 (by omega) (by omega), hpacket]

/-- A flush is read. -/
theorem continues_flushPkt : Continues payload (flushPkt ++ rest) refs rest refs := by
  intro fuel cursor h
  obtain ⟨fuel, rfl⟩ := exists_fuel h (by simp [flushPkt])
  have hdigits : intBase16 ((flushPkt ++ rest).take 4) = some ((0 : Nat) : Int) := by
    show intBase16 flushPkt = _
    decide
  refine ⟨fuel, cursor + 4, h.next 4 (by decide) (by simp [flushPkt]), ?_⟩
  exact (parsePackets_step h (by simp [flushPkt]) hdigits).1 rfl

/-- Packets are read one after the other. -/
theorem continues_pktLines {contents : List Bytes} (hsizes : ∀ content ∈ contents, content.length + 4 < 65520) :
    Continues payload ((contents.map pktLine).flatten ++ rest) refs rest (contents.foldl addPacket refs) := by
  induction contents generalizing refs with
  | nil => exact .refl
  | cons content contents ih =>
    obtain ⟨hsize, hsizes⟩ := List.forall_mem_cons.mp hsizes
    rw [List.map_cons, List.flatten_cons, List.append_assoc]
    exact (continues_pktLine hsize).trans (ih hsizes)

end

theorem addPacket_line {done : List GitRef} {r : GitRef} {capabilities : Option Bytes}
    (hfresh : r.name ∉ done.map GitRef.name) : addPacket (refMap done) (r.line capabilities) = refMap (done ++ [r]) := by
  have hkeys : Dict.keys (refMap done) = done.map GitRef.name := by simp [Dict.keys, refMap]
  rw [addPacket, r.packetRef_line]
  dsimp only
  rw [Dict.set_of_notMem (by rwa [hkeys]), refMap, refMap, List.map_append]
  rfl

theorem fresh_of_nodup {done rest : List GitRef} {r : GitRef} (h : ((done ++ r :: rest).map GitRef.name).Nodup) :
    r.name ∉ done.map GitRef.name := by
  rw [List.map_append, List.map_cons, List.nodup_append] at h
  exact fun hmem => h.2.2 r.name hmem r.name List.mem_cons_self rfl

/-- The refs of the lines are gathered in order. -/
theorem foldl_refLines {refs : List GitRef} (hnames : (refs.map GitRef.name).Nodup) (capabilities : Bytes) :
    (refLines capabilities refs).foldl addPacket [] = refMap refs := by
  have hrest : ∀ (rest done : List GitRef), ((done ++ rest).map GitRef.name).Nodup →
      (rest.map fun r => r.line none).foldl addPacket (refMap done) = refMap (done ++ rest) := by
    intro rest
    induction rest with
    | nil => exact fun done _ => by rw [List.append_nil]; rfl
    | cons r rest ih =>
      intro done hnodup
      rw [List.map_cons, List.foldl_cons, addPacket_line (fresh_of_nodup hnodup)]
      have := ih (done ++ [r]) (by rwa [List.append_assoc])
      rwa [List.append_assoc] at this
  cases refs with
  | nil => rfl
  | cons r rest =>
    rw [refLines, List.foldl_cons]
    have hfirst : addPacket [] (r.line (some capabilities)) = refMap [r] := @addPacket_line [] r _ List.not_mem_nil
    rw [hfirst]
    exact hrest rest [r] hnames

theorem packetRef_serviceLine (newline : Bool) : packetRef (serviceLine newline) = none := by
  cases newline <;> decide

/-- An advertisement is read back. -/
theorem parseGitRefs_advertisement {newline : Bool} {capabilities : Bytes} {refs : List GitRef}
    (hnames : (refs.map GitRef.name).Nodup)
    (hsizes : ∀ line ∈ refLines capabilities refs, line.length + 4 < 65520) :
    parseGitRefs (advertisement newline capabilities refs) = .refs (refMap refs) := by
  have hservice : (serviceLine newline).length + 4 < 65520 := by cases newline <;> decide
  have hignored : addPacket [] (serviceLine newline) = [] := by rw [addPacket, packetRef_serviceLine]
  have hread : Continues (advertisement newline capabilities refs) (advertisement newline capabilities refs) [] []
      (refMap refs) := by
    have hflush : Continues (advertisement newline capabilities refs) flushPkt (refMap refs) [] (refMap refs) :=
      @continues_flushPkt _ [] _
    have hlines := @continues_pktLines (advertisement newline capabilities refs) flushPkt [] _ hsizes
    rw [foldl_refLines hnames] at hlines
    have hfirst := @continues_pktLine (advertisement newline capabilities refs)
      (flushPkt ++ (((refLines capabilities refs).map pktLine).flatten ++ flushPkt)) [] _ hservice
    rw [hignored] at hfirst
    have hall := ((hfirst.trans continues_flushPkt).trans hlines).trans hflush
    rw [advertisement, List.append_assoc, List.append_assoc] at hall ⊢
    exact hall
  obtain ⟨fuel, cursor, hend, heq⟩ := hread ((advertisement newline capabilities refs).length + 1) 0 ⟨rfl, Nat.zero_le _, by omega⟩
  rw [parseGitRefs, heq]
  have hlength := hend.length
  have hfuel := hend.fuel
  obtain ⟨fuel, rfl⟩ : ∃ k, fuel = k + 1 := ⟨fuel - 1, by omega⟩
  rw [parsePackets, if_pos (by simp at hlength; omega)]

/-! ## Revisions -/

/-- `MAX_GIT_ADVERTISEMENT_BYTES`. -/
def maxGitAdvertisementBytes : Nat := 16 * 1024 * 1024

/-- What `_resolve_modelscope_revision` raises. -/
inductive ResolveError (ε : Type)
  /-- A `ValueError`. -/
  | value (text : PyStr)
  /-- What the request raises. -/
  | request (e : ε)
  /-- The loop over the packets did not end. -/
  | noEnd
  deriving DecidableEq

/-- `part in {"", ".", ".."}`. -/
def isSpecialPart (part : PyStr) : Bool := part = [] || part = py "." || part = py ".."

section

variable {ε : Type} (quote : PyStr → PyStr) (read : PyStr → Except ε Bytes)

/-- `_modelscope_git_url`. -/
def modelscopeGitUrl (repository : PyStr) : Except (ResolveError ε) PyStr :=
  let parts := repository.splitOn 47
  if parts.length ≠ 2 ∨ parts.any isSpecialPart then .error (.value (py "ModelScope repository 必须使用 namespace/model 格式"))
  else
    .ok (py "https://www.modelscope.cn/" ++ (py "/").intercalate (parts.map quote) ++
      py ".git/info/refs?service=git-upload-pack")

/-- A full name of a ref. -/
def isFullRef (revision : PyStr) : Bool := (py "refs/").isPrefixOf revision

/-- `candidates`. -/
def candidates (revision : PyStr) : List PyStr :=
  [py "refs/tags/" ++ revision ++ py "^\x7b\x7d", py "refs/tags/" ++ revision, py "refs/heads/" ++ revision,
    if isFullRef revision then revision else []]

/-- The commit that has been found. -/
def foundOr (revision : PyStr) : Option PyStr → Except (ResolveError ε) PyStr
  | some commit => .ok commit
  | none => .error (.value (py "ModelScope revision 不存在或无法解析为 commit: " ++ revision))

/-- The loop over the candidates. -/
def lookupRevision (refs : List (PyStr × PyStr)) (revision : PyStr) : Except (ResolveError ε) PyStr :=
  foundOr revision
    ((candidates revision).findSome? fun candidate => if candidate = [] then none else Dict.get? refs candidate)

/-- `requested_revision or "master"`. -/
def revisionOf (requested : Option PyStr) : PyStr := if requested.getD [] = [] then py "master" else requested.getD []

/-- `_resolve_modelscope_revision`; `read` gives the response to a request, of which at most 16 MiB and a byte are read. -/
def resolveModelscopeRevision (repository : PyStr) (requested : Option PyStr) : Except (ResolveError ε) PyStr :=
  if isCommit (requested.getD []) then .ok ((requested.getD []).map PyStr.asciiLower)
  else do
    let url ← modelscopeGitUrl quote repository
    let response ← (read url).mapError .request
    let payload := response.take (maxGitAdvertisementBytes + 1)
    if maxGitAdvertisementBytes < payload.length then .error (.value (py "ModelScope Git ref 响应超过 16 MiB 限制"))
    else
      match parseGitRefs payload with
      | .refs refs => lookupRevision refs (revisionOf requested)
      | .raised text => .error (.value text)
      | _ => .error .noEnd

end

/-- The name of a peeled tag. -/
def peeledTag (revision : PyStr) : PyStr := py "refs/tags/" ++ revision ++ py "^\x7b\x7d"

/-- The name of a tag. -/
def tagRef (revision : PyStr) : PyStr := py "refs/tags/" ++ revision

/-- The name of a branch. -/
def branchRef (revision : PyStr) : PyStr := py "refs/heads/" ++ revision

/-- What a revision is resolved to: the peeled tag, else the tag, else the branch, else the ref of that full name. -/
structure Resolved {ε : Type} (refs : List GitRef) (revision : PyStr) (result : Except (ResolveError ε) PyStr) : Prop where
  peeled : ∀ c, (peeledTag revision, c) ∈ refMap refs → result = .ok c
  tag : peeledTag revision ∉ refs.map GitRef.name → ∀ c, (tagRef revision, c) ∈ refMap refs → result = .ok c
  branch : peeledTag revision ∉ refs.map GitRef.name → tagRef revision ∉ refs.map GitRef.name →
    ∀ c, (branchRef revision, c) ∈ refMap refs → result = .ok c
  fullRef : peeledTag revision ∉ refs.map GitRef.name → tagRef revision ∉ refs.map GitRef.name →
    branchRef revision ∉ refs.map GitRef.name → isFullRef revision = true → ∀ c, (revision, c) ∈ refMap refs → result = .ok c
  unknown : peeledTag revision ∉ refs.map GitRef.name → tagRef revision ∉ refs.map GitRef.name →
    branchRef revision ∉ refs.map GitRef.name → ¬ (isFullRef revision = true ∧ revision ∈ refs.map GitRef.name) →
    ∃ text, result = .error (.value text)

section

variable {ε : Type} {refs : List GitRef}

theorem keys_refMap : Dict.keys (refMap refs) = refs.map GitRef.name := by simp [Dict.keys, refMap]

theorem get?_refMap_none {name : PyStr} : Dict.get? (refMap refs) name = none ↔ name ∉ refs.map GitRef.name := by
  rw [Dict.get?_eq_none, keys_refMap]

/-- The candidates are tried one after the other. -/
theorem lookupRevision_eq (refs : List (PyStr × PyStr)) (revision : PyStr) :
    (lookupRevision refs revision : Except (ResolveError ε) PyStr) =
      foundOr revision ((Dict.get? refs (peeledTag revision)).or ((Dict.get? refs (tagRef revision)).or
        ((Dict.get? refs (branchRef revision)).or
          (if isFullRef revision then Dict.get? refs revision else none)))) := by
  have hpeeled : py "refs/tags/" ++ revision ++ py "^\x7b\x7d" ≠ [] := List.cons_ne_nil _ _
  have htag : py "refs/tags/" ++ revision ≠ [] := List.cons_ne_nil _ _
  have hbranch : py "refs/heads/" ++ revision ≠ [] := List.cons_ne_nil _ _
  have hfull : (if (if isFullRef revision then revision else []) = [] then none
      else Dict.get? refs (if isFullRef revision then revision else [])) =
        if isFullRef revision then Dict.get? refs revision else none := by
    by_cases h : isFullRef revision = true
    · have hne : revision ≠ [] := by
        rintro rfl
        cases h
      rw [if_pos h, if_pos h, if_neg hne]
    · rw [if_neg h, if_neg h, if_pos rfl]
  unfold lookupRevision candidates
  simp only [List.findSome?_cons, List.findSome?_nil, if_neg hpeeled, if_neg htag, if_neg hbranch, hfull]
  congr 1
  unfold peeledTag tagRef branchRef
  cases Dict.get? refs (py "refs/tags/" ++ revision ++ py "^\x7b\x7d") with
  | some c => rfl
  | none =>
    cases Dict.get? refs (py "refs/tags/" ++ revision) with
    | some c => rfl
    | none =>
      cases Dict.get? refs (py "refs/heads/" ++ revision) with
      | some c => rfl
      | none => cases (if isFullRef revision then Dict.get? refs revision else none) <;> rfl

theorem lookupRevision_resolved (hnames : (refs.map GitRef.name).Nodup) (revision : PyStr) :
    Resolved refs revision (lookupRevision (refMap refs) revision : Except (ResolveError ε) PyStr) := by
  have hget : ∀ {name c}, (name, c) ∈ refMap refs → Dict.get? (refMap refs) name = some c := fun h =>
    Dict.get?_of_mem (keys_refMap ▸ hnames) h
  refine ⟨fun c h => ?_, fun h₁ c h => ?_, fun h₁ h₂ c h => ?_, fun h₁ h₂ h₃ hfull c h => ?_, fun h₁ h₂ h₃ h₄ => ?_⟩
  · rw [lookupRevision_eq, hget h]
    rfl
  · rw [lookupRevision_eq, get?_refMap_none.mpr h₁, hget h]
    rfl
  · rw [lookupRevision_eq, get?_refMap_none.mpr h₁, get?_refMap_none.mpr h₂, hget h]
    rfl
  · rw [lookupRevision_eq, get?_refMap_none.mpr h₁, get?_refMap_none.mpr h₂, get?_refMap_none.mpr h₃, if_pos hfull, hget h]
    rfl
  · have hnone : (if isFullRef revision then Dict.get? (refMap refs) revision else none) = none := by
      split
      · rename_i hfull
        exact get?_refMap_none.mpr fun hmem => h₄ ⟨hfull, hmem⟩
      · rfl
    refine ⟨py "ModelScope revision 不存在或无法解析为 commit: " ++ revision, ?_⟩
    rw [lookupRevision_eq, get?_refMap_none.mpr h₁, get?_refMap_none.mpr h₂, get?_refMap_none.mpr h₃, hnone]
    rfl

/-- A revision that is no commit id is looked up in the advertisement. -/
theorem resolve_advertised {quote : PyStr → PyStr} {read : PyStr → Except ε Bytes} {repository url : PyStr}
    {requested : Option PyStr} {newline : Bool} {capabilities : Bytes} (hnames : (refs.map GitRef.name).Nodup)
    (hsizes : ∀ line ∈ refLines capabilities refs, line.length + 4 < 65520)
    (hcommit : isCommit (requested.getD []) = false)
    (hurl : modelscopeGitUrl quote repository = (.ok url : Except (ResolveError ε) PyStr))
    (hread : read url = .ok (advertisement newline capabilities refs))
    (hlimit : (advertisement newline capabilities refs).length ≤ maxGitAdvertisementBytes) :
    Resolved refs (revisionOf requested) (resolveModelscopeRevision quote read repository requested) := by
  have hresolve : resolveModelscopeRevision quote read repository requested =
      lookupRevision (refMap refs) (revisionOf requested) := by
    have htake : (advertisement newline capabilities refs).take (maxGitAdvertisementBytes + 1) =
        advertisement newline capabilities refs := List.take_of_length_le (by omega)
    unfold resolveModelscopeRevision
    rw [hcommit, if_neg Bool.false_ne_true, hurl]
    show (Except.mapError _ (read url) >>= _) = _
    rw [hread]
    show (if maxGitAdvertisementBytes < (List.take _ _).length then _ else _) = _
    rw [htake, if_neg (by omega), parseGitRefs_advertisement hnames hsizes]
  rw [hresolve]
  exact lookupRevision_resolved hnames _

end

/-- The loop over the packets always ends and reads no further than the payload. An advertisement is read back, and a
revision that is no commit id is looked up in it. -/
theorem advertisement_read_back :
    (∀ payload, (∃ refs, parseGitRefs payload = .refs refs) ∨ ∃ text, parseGitRefs payload = .raised text) ∧
      ∀ (newline : Bool) (capabilities : Bytes) (refs : List GitRef), (refs.map GitRef.name).Nodup →
        (∀ line ∈ refLines capabilities refs, line.length + 4 < 65520) →
        parseGitRefs (advertisement newline capabilities refs) = .refs (refMap refs) ∧
          ∀ (ε : Type) (quote : PyStr → PyStr) (read : PyStr → Except ε Bytes) (repository url : PyStr)
            (requested : Option PyStr), isCommit (requested.getD []) = false →
            modelscopeGitUrl quote repository = (.ok url : Except (ResolveError ε) PyStr) →
            read url = .ok (advertisement newline capabilities refs) →
            (advertisement newline capabilities refs).length ≤ maxGitAdvertisementBytes →
            Resolved refs (revisionOf requested) (resolveModelscopeRevision quote read repository requested) :=
  ⟨parseGitRefs_ends, fun _ _ _ hnames hsizes => ⟨parseGitRefs_advertisement hnames hsizes,
    fun _ _ _ _ _ _ hcommit hurl hread hlimit => resolve_advertised hnames hsizes hcommit hurl hread hlimit⟩⟩

/-- A ref of the sample. -/
def Sample.ref (name : PyStr) (digit : Nat) (hname : name ≠ []) (hprintable : ∀ c ∈ name, 32 ≤ c ∧ c < 0x110000)
    (hencodable : name.encodable = true) (hdigit : 48 ≤ digit ∧ digit ≤ 57) : GitRef :=
  ⟨name, List.replicate 40 digit, true, hname, hprintable, hencodable, List.length_replicate,
    fun _ hc => .inl (List.eq_of_mem_replicate hc ▸ hdigit)⟩

/-- A tag, its commit and a branch. -/
def Sample.refs : List GitRef :=
  [Sample.ref (py "refs/heads/v1") 49 (by decide) (by decide) (by decide) (by decide),
    Sample.ref (py "refs/tags/v1") 50 (by decide) (by decide) (by decide) (by decide),
    Sample.ref (py "refs/tags/v1^\x7b\x7d") 51 (by decide) (by decide) (by decide) (by decide)]

/-- The commit of an annotated tag is found in an advertisement. -/
theorem annotated_tag_is_peeled :
    parseGitRefs (advertisement true (asciiBytes (py "multi_ack")) Sample.refs) = .refs (refMap Sample.refs) ∧
      resolveModelscopeRevision id
          (fun _ => (.ok (advertisement true (asciiBytes (py "multi_ack")) Sample.refs) : Except Unit Bytes))
          (py "a/b") (some (py "v1")) = .ok (List.replicate 40 51) := by
  have h := advertisement_read_back.2 true (asciiBytes (py "multi_ack")) Sample.refs (by decide +kernel) (by decide +kernel)
  refine ⟨h.1, ?_⟩
  have hresolved := h.2 Unit id (fun _ => .ok (advertisement true (asciiBytes (py "multi_ack")) Sample.refs)) (py "a/b")
    (py "https://www.modelscope.cn/a/b.git/info/refs?service=git-upload-pack") (some (py "v1")) (by decide +kernel) rfl rfl
    (by decide +kernel)
  exact hresolved.peeled _ (by decide +kernel)

end OpenLLMOps.Downloaders
