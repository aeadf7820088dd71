import OpenLLMOps.Framework.Json.RoundTrip
import OpenLLMOps.Framework.Lines

/-!
# JSON Lines

A file of values, one on a line (`jsonLines`). Its lines are those of the values (`lines_jsonLines`), and each
is read back (`LineOf.loads`).
-/

namespace Framework

/-- A line without its newline is in front. -/
theorem lines_append_newline {line : Bytes} (h : 10 ∉ line) (rest : Bytes) :
    lines (line ++ 10 :: rest) = (line ++ [10]) :: lines rest := by
  induction line with
  | nil =>
    show (if (10 : UInt8) = 10 then _ else _) = _
    rw [if_pos rfl]
    rfl
  | cons c line ih =>
    have hc : c ≠ 10 := fun hc => h (hc ▸ List.mem_cons_self)
    rw [List.cons_append, lines, if_neg hc, ih fun hmem => h (List.mem_cons_of_mem _ hmem)]
    rfl

section

variable {h : JsonDecoder} {style : JsonStyle} {v : Json} {raw : Bytes}

/-- The values, each with a newline behind; `none` is an exception of `json.dumps` or of `encode`. -/
def jsonLines (style : JsonStyle) (values : List Json) : Option Bytes := do
  let texts ← values.mapM (dumps style 0)
  PyStr.encode ((py "\n").intercalate texts ++ py "\n")

/-- The line of a value. -/
def LineOf (style : JsonStyle) (v : Json) (raw : Bytes) : Prop :=
  ∃ text, dumps style 0 v = some text ∧ (text ++ [10]).encode = some raw

/-- A style that adds no line breaks. -/
abbrev JsonStyle.Flat (style : JsonStyle) : Prop := style.Adds fun c => 32 ≤ c ∧ c < 0x110000

theorem LineOf.loads (hstyle : style.Spaced) (hh : h.KeepsDistinct) (hv : v.Readable h)
    (hunicode : v.EachString IsUnicode)
    (hraw : LineOf style v raw) : loads h raw = .ok (v.sorted style) := by
  obtain ⟨text, htext, hraw⟩ := hraw
  refine loads_dumps hstyle hh hv hunicode htext (fun c hc => ?_) hraw
  rw [List.mem_singleton.mp hc]
  rfl

theorem LineOf.not_blank (hstyle : style.Spaced) (hh : h.KeepsDistinct) (hv : v.Readable h)
    (hraw : LineOf style v raw) :
    isBlank raw = false := by
  obtain ⟨text, htext, hraw⟩ := hraw
  obtain ⟨c, rest, rfl, hc, -⟩ := (dumps_scans hstyle hh 0 v hv htext).head
  obtain ⟨first, bytes, hfirst, -, rfl⟩ := encode_cons.mp hraw
  obtain rfl := Option.some.inj ((encodeChar_ascii (by omega)).symm.trans hfirst)
  have hspace : isByteSpace (UInt8.ofNat c) = false := by
    have h32 : UInt8.ofNat c ≠ UInt8.ofNat 32 := fun heq => by
      have := (byte_eq (by omega) (by omega)).mp heq
      omega
    have h13 : ¬ UInt8.ofNat c ≤ UInt8.ofNat 13 := fun hle => by
      have := (byte_le (by omega) (by omega)).mp hle
      omega
    simp only [isByteSpace, Bool.or_eq_false_iff, Bool.and_eq_false_iff, decide_eq_false_iff_not]
    exact ⟨h32, .inr h13⟩
  show (isByteSpace _ && _) = false
  rw [hspace, Bool.false_and]

theorem dumps_flat (hstyle : style.Flat) (hv : v.EachString IsUnicode) {text : PyStr}
    (ht : dumps style 0 v = some text) :
    Chars (fun c => 32 ≤ c ∧ c < 0x110000) text := by
  refine dumps_chars (fun c hc _ => ⟨hc, by omega⟩) hstyle 0 v (Json.eachString_mono ?_ v hv) ht
  exact fun s hs c hc hlow => ⟨hlow, hs c hc⟩

theorem intercalate_newline {texts : List PyStr} (hne : texts ≠ []) :
    (py "\n").intercalate texts ++ py "\n" = texts.flatMap fun text => text ++ [10] := by
  induction texts with
  | nil => exact absurd rfl hne
  | cons text texts ih =>
    rcases texts with _ | ⟨next, texts⟩
    · show (py "\n").intercalate [text] ++ py "\n" = text ++ [10] ++ []
      rw [intercalate_singleton, List.append_nil]
      rfl
    · rw [intercalate_cons_cons, List.flatMap_cons, ← ih (List.cons_ne_nil _ _)]
      show text ++ [10] ++ _ ++ _ = _
      rw [List.append_assoc]

/-- The lines of a file of values. -/
theorem lines_flatMap (hstyle : style.Flat) {values : List Json} {texts : List PyStr}
    (hd : values.mapM (dumps style 0) = some texts) (hunicode : ∀ v ∈ values, v.EachString IsUnicode) {b : Bytes}
    (hb : PyStr.encode (texts.flatMap fun text => text ++ [10]) = some b) :
      List.Forall₂ (LineOf style) values (lines b) := by
  induction values generalizing texts b with
  | nil =>
    obtain rfl : [] = texts := Option.some.inj hd
    obtain rfl := Option.some.inj hb
    exact .nil
  | cons v values ih =>
    rw [List.mapM_cons] at hd
    obtain ⟨text, htext, hd⟩ := bind_eq_some.mp hd
    obtain ⟨rest, hrest, hd⟩ := bind_eq_some.mp hd
    obtain rfl := Option.some.inj hd
    rw [List.flatMap_cons, List.append_assoc] at hb
    obtain ⟨first, bytes, hfirst, hbytes, rfl⟩ := encode_append.mp hb
    obtain ⟨newline, tail, hnewline, htail, rfl⟩ := encode_append.mp hbytes
    obtain rfl : [10] = newline := Option.some.inj hnewline
    have hflat := dumps_flat hstyle (hunicode v List.mem_cons_self) htext
    have hline : (10 : UInt8) ∉ first := fun hmem => by
      have := (hflat 10 (ascii_of_encode (by decide) (fun c hc => (hflat c hc).2) hfirst hmem)).1
      omega
    rw [List.singleton_append, lines_append_newline hline]
    refine .cons ⟨text, htext, encode_append.mpr ⟨first, [10], hfirst, rfl, rfl⟩⟩ ?_
    exact ih hrest (fun v hv => hunicode v (List.mem_cons_of_mem _ hv)) htail

/-- The lines of a file of values are those of the values. -/
theorem lines_jsonLines (hstyle : style.Flat) {values : List Json} (hne : values ≠ [])
    (hunicode : ∀ v ∈ values, v.EachString IsUnicode) {b : Bytes} (hb : jsonLines style values = some b) :
    List.Forall₂ (LineOf style) values (lines b) := by
  obtain ⟨texts, htexts, hb⟩ := bind_eq_some.mp hb
  have htexts' : texts ≠ [] := by
    rintro rfl
    cases values with
    | nil => exact hne rfl
    | cons v values =>
      rw [List.mapM_cons] at htexts
      obtain ⟨text, -, htexts⟩ := bind_eq_some.mp htexts
      obtain ⟨rest, -, htexts⟩ := bind_eq_some.mp htexts
      cases htexts
  rw [intercalate_newline htexts'] at hb
  exact lines_flatMap hstyle htexts hunicode hb

end

end Framework
