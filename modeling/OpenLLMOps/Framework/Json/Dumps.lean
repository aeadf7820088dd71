import Mathlib.Data.List.Sort
import OpenLLMOps.Framework.PyNumber

/-!
# Encoding JSON

`json.dumps` with `ensure_ascii=False`; the other arguments are a `JsonStyle`. `none` is the `ValueError` of
`allow_nan=False` for a float that is not finite.

The characters of a text are those of ASCII that can be printed and those of the strings (`dumps_chars`); without
line breaks of its own, it has no control characters (`dumps_printable`), as those of a string are escaped.
-/

namespace Framework

/-- The arguments of `json.dumps`. -/
structure JsonStyle where
  itemSeparator : PyStr
  keySeparator : PyStr
  indent : Option Nat
  sortKeys : Bool
  allowNan : Bool

namespace JsonStyle

/-- `sort_keys=True, separators=(",", ":"), allow_nan=False`. -/
def canonical : JsonStyle := ⟨py ",", py ":", none, true, false⟩

/-- A new line at this depth. -/
def newline (style : JsonStyle) (depth : Nat) : PyStr :=
  match style.indent with
  | none => []
  | some width => 10 :: List.replicate (width * depth) 32

/-- The items between their brackets; `depth` is that of the brackets. -/
def bracket (style : JsonStyle) (depth opening closing : Nat) (items : List PyStr) : PyStr :=
  if items = [] then [opening, closing]
  else
    opening :: style.newline (depth + 1) ++ (style.itemSeparator ++ style.newline (depth + 1)).intercalate items ++
      style.newline depth ++ [closing]

end JsonStyle

/-- A character of a string. -/
def escapeChar (c : Nat) : PyStr :=
  if c = 34 then [92, 34]
  else if c = 92 then [92, 92]
  else if c = 8 then py "\\b"
  else if c = 12 then py "\\f"
  else if c = 10 then py "\\n"
  else if c = 13 then py "\\r"
  else if c = 9 then py "\\t"
  else if c < 32 then py "\\u" ++ hexDigits 4 c
  else [c]

/-- A string. -/
def dumpsStr (s : PyStr) : PyStr := 34 :: s.flatMap escapeChar ++ [34]

section

variable (style : JsonStyle)

/-- A float. -/
def dumpsFloat (x : PyFloat) : Option PyStr :=
  if x.isFinite then some x.repr
  else if style.allowNan then
    some (match x with
      | .inf neg => (if neg then py "-" else []) ++ py "Infinity"
      | _ => py "NaN")
  else none

/-- The entries of an object, sorted by their keys. -/
def sortEntries (entries : List (PyStr × PyStr)) : List (PyStr × PyStr) :=
  if style.sortKeys then entries.insertionSort fun a b => a.1 ≤ b.1 else entries

/-- An entry of an object. -/
def dumpsEntry (entry : PyStr × PyStr) : PyStr := dumpsStr entry.1 ++ style.keySeparator ++ entry.2

mutual

/-- `json.dumps(value)`, at this depth. -/
def dumps (depth : Nat) : Json → Option PyStr
  | .null => some (py "null")
  | .bool true => some (py "true")
  | .bool false => some (py "false")
  | .int n => some (strInt n)
  | .float x => dumpsFloat style x
  | .str s => some (dumpsStr s)
  | .arr xs => (dumpsItems (depth + 1) xs).map (style.bracket depth 91 93)
  | .obj kvs =>
    (dumpsEntries (depth + 1) kvs).map fun entries =>
      style.bracket depth 123 125 ((sortEntries style entries).map (dumpsEntry style))

def dumpsItems (depth : Nat) : List Json → Option (List PyStr)
  | [] => some []
  | x :: xs => do
    let text ← dumps depth x
    let texts ← dumpsItems depth xs
    some (text :: texts)

/-- The keys, with the texts of their values. -/
def dumpsEntries (depth : Nat) : List (PyStr × Json) → Option (List (PyStr × PyStr))
  | [] => some []
  | (k, v) :: kvs => do
    let text ← dumps depth v
    let entries ← dumpsEntries depth kvs
    some ((k, text) :: entries)

end

end

/-! ## The characters of a text -/

/-- Every character satisfies `Q`. -/
def Chars (Q : Nat → Prop) (s : PyStr) : Prop := ∀ c ∈ s, Q c

/-- A text without control characters. -/
abbrev Printable (s : PyStr) : Prop := Chars (32 ≤ ·) s

mutual

/-- Every string of a value, the keys included, satisfies `P`. -/
def Json.EachString (P : PyStr → Prop) : Json → Prop
  | .str s => P s
  | .arr xs => eachItem P xs
  | .obj kvs => eachEntry P kvs
  | _ => True

def Json.eachItem (P : PyStr → Prop) : List Json → Prop
  | [] => True
  | x :: xs => x.EachString P ∧ eachItem P xs

def Json.eachEntry (P : PyStr → Prop) : List (PyStr × Json) → Prop
  | [] => True
  | (k, v) :: kvs => P k ∧ v.EachString P ∧ eachEntry P kvs

end

namespace Chars

variable {Q : Nat → Prop}

theorem nil : Chars Q [] := nofun

theorem append {s t : PyStr} (hs : Chars Q s) (ht : Chars Q t) : Chars Q (s ++ t) := by
  intro c hc
  rcases List.mem_append.mp hc with h | h
  · exact hs c h
  · exact ht c h

theorem cons {c : Nat} {s : PyStr} (hc : Q c) (hs : Chars Q s) : Chars Q (c :: s) := by
  intro d hd
  rcases List.mem_cons.mp hd with rfl | h
  · exact hc
  · exact hs d h

theorem take {s : PyStr} (h : Chars Q s) (n : Nat) : Chars Q (s.take n) := fun c hc => h c (List.mem_of_mem_take hc)

theorem drop {s : PyStr} (h : Chars Q s) (n : Nat) : Chars Q (s.drop n) := fun c hc => h c (List.mem_of_mem_drop hc)

theorem replicate {c : Nat} (h : Q c) (n : Nat) : Chars Q (List.replicate n c) := by
  intro d hd
  rw [List.eq_of_mem_replicate hd]
  exact h

end Chars

theorem intercalate_cons_cons (separator first second : PyStr) (rest : List PyStr) :
    separator.intercalate (first :: second :: rest) = first ++ separator ++ separator.intercalate (second :: rest) := by
  simp [List.intercalate]

theorem intercalate_singleton (separator text : PyStr) : separator.intercalate [text] = text := by
  simp [List.intercalate]

section

variable {Q : Nat → Prop}

theorem Chars.intercalate {separator : PyStr} {items : List PyStr} (hseparator : Chars Q separator)
    (h : ∀ item ∈ items, Chars Q item) : Chars Q (separator.intercalate items) := by
  induction items with
  | nil => exact .nil
  | cons first rest ih =>
    have hfirst := h first List.mem_cons_self
    have hrest := ih fun item hitem => h item (List.mem_cons_of_mem _ hitem)
    cases rest with
    | nil => exact (intercalate_singleton separator first).symm ▸ hfirst
    | cons second rest =>
      rw [intercalate_cons_cons]
      exact (hfirst.append hseparator).append hrest

/-- The printable characters of ASCII satisfy `Q`. -/
def HoldsOfAscii (Q : Nat → Prop) : Prop := ∀ c, 32 ≤ c → c < 127 → Q c

/-- A text of printable ASCII. -/
theorem HoldsOfAscii.chars (hascii : HoldsOfAscii Q) {s : PyStr} (h : s.all (fun c => 32 ≤ c && c < 127) = true) : Chars Q s := by
  intro c hc
  have := List.all_eq_true.mp h c hc
  simp only [Bool.and_eq_true, decide_eq_true_eq] at this
  exact hascii c this.1 this.2

theorem chars_decimal (hascii : HoldsOfAscii Q) (n : Nat) : Chars Q (decimal n) := by
  intro c hc
  have := decimal_digits n c hc
  simp only [isDigit, Bool.and_eq_true, decide_eq_true_eq] at this
  exact hascii c (by omega) (by omega)

theorem chars_strInt (hascii : HoldsOfAscii Q) (n : Int) : Chars Q (strInt n) := by
  cases n with
  | ofNat n => exact chars_decimal hascii n
  | negSucc n => exact .cons (hascii 45 (by decide) (by decide)) (chars_decimal hascii (n + 1))

theorem chars_hexDigits (hascii : HoldsOfAscii Q) (width n : Nat) : Chars Q (hexDigits width n) := by
  induction width generalizing n with
  | zero => exact .nil
  | succ width ih =>
    refine (ih _).append fun c hc => ?_
    rw [List.mem_singleton.mp hc]
    split
    · exact hascii _ (by omega) (by omega)
    · exact hascii _ (by omega) (by omega)

theorem chars_escapeChar (hascii : HoldsOfAscii Q) {c : Nat} (hc : 32 ≤ c → Q c) : Chars Q (escapeChar c) := by
  have hliteral : ∀ s : PyStr, s.all (fun c => 32 ≤ c && c < 127) = true → Chars Q s := fun _ => hascii.chars
  unfold escapeChar
  split
  · exact hliteral _ (by decide)
  · split
    · exact hliteral _ (by decide)
    · split
      · exact hliteral _ (by decide)
      · split
        · exact hliteral _ (by decide)
        · split
          · exact hliteral _ (by decide)
          · split
            · exact hliteral _ (by decide)
            · split
              · exact hliteral _ (by decide)
              · split
                · exact .append (hliteral _ (by decide)) (chars_hexDigits hascii 4 c)
                · exact .cons (hc (by omega)) .nil

theorem chars_dumpsStr (hascii : HoldsOfAscii Q) {s : PyStr} (hs : ∀ c ∈ s, 32 ≤ c → Q c) : Chars Q (dumpsStr s) := by
  have hquote : Q 34 := hascii 34 (by decide) (by decide)
  refine .append (.cons hquote fun c hc => ?_) (.cons hquote .nil)
  obtain ⟨d, hd, hc⟩ := List.mem_flatMap.mp hc
  exact chars_escapeChar hascii (hs d hd) c hc

theorem chars_reprDecimal (hascii : HoldsOfAscii Q) (m : Nat) (e : Int) : Chars Q (PyFloat.reprDecimal m e) := by
  have hliteral : ∀ s : PyStr, s.all (fun c => 32 ≤ c && c < 127) = true → Chars Q s := fun _ => hascii.chars
  have hdigits := chars_decimal hascii
  have hzero : Q 48 := hascii 48 (by decide) (by decide)
  simp only [PyFloat.reprDecimal]
  split
  · split
    · exact ((hliteral _ (by decide)).append (.replicate hzero _)).append (hdigits m)
    · split
      · exact ((hdigits m).append (.replicate hzero _)).append (hliteral _ (by decide))
      · exact (((hdigits m).take _).append (hliteral _ (by decide))).append ((hdigits m).drop _)
  · refine .append (.append (.append ?_ (hliteral _ (by decide))) ?_) ?_
    · split
      · exact hdigits m
      · exact (((hdigits m).take _).append (hliteral _ (by decide))).append ((hdigits m).drop _)
    · split
      · exact hliteral _ (by decide)
      · exact hliteral _ (by decide)
    · split
      · exact .cons hzero (hdigits _)
      · exact hdigits _

theorem chars_dumpsFloat (hascii : HoldsOfAscii Q) {style : JsonStyle} {x : PyFloat} {text : PyStr}
    (h : dumpsFloat style x = some text) : Chars Q text := by
  have hliteral : ∀ s : PyStr, s.all (fun c => 32 ≤ c && c < 127) = true → Chars Q s := fun _ => hascii.chars
  unfold dumpsFloat at h
  split at h
  · rename_i hfinite
    obtain rfl := Option.some.inj h
    cases x with
    | finite neg m e =>
      refine .append ?_ (chars_reprDecimal hascii m e)
      split
      · exact hliteral _ (by decide)
      · exact .nil
    | inf neg => cases hfinite
    | nan => cases hfinite
  · split at h
    · obtain rfl := Option.some.inj h
      split
      · refine .append ?_ (hliteral _ (by decide))
        split
        · exact hliteral _ (by decide)
        · exact .nil
      · exact hliteral _ (by decide)
    · cases h

/-- What a style adds satisfies `Q`. -/
structure JsonStyle.Adds (Q : Nat → Prop) (style : JsonStyle) : Prop where
  itemSeparator : Chars Q style.itemSeparator
  keySeparator : Chars Q style.keySeparator
  newline : ∀ depth, Chars Q (style.newline depth)

variable {style : JsonStyle}

theorem chars_bracket (hstyle : style.Adds Q) {depth opening closing : Nat} {items : List PyStr} (ho : Q opening)
    (hc : Q closing) (h : ∀ item ∈ items, Chars Q item) : Chars Q (style.bracket depth opening closing items) := by
  unfold JsonStyle.bracket
  split
  · exact .cons ho (.cons hc .nil)
  · refine .append (.append (.append (.cons ho (hstyle.newline _)) ?_) (hstyle.newline _)) (.cons hc .nil)
    exact .intercalate (hstyle.itemSeparator.append (hstyle.newline _)) h

theorem mem_sortEntries {entries : List (PyStr × PyStr)} {entry : PyStr × PyStr} :
    entry ∈ sortEntries style entries ↔ entry ∈ entries := by
  unfold sortEntries
  split
  · exact List.mem_insertionSort _
  · exact Iff.rfl

mutual

/-- The characters of a text are printable ones of ASCII, those of the strings, and those of the style. -/
theorem dumps_chars (hascii : HoldsOfAscii Q) (hstyle : style.Adds Q) (depth : Nat) (v : Json) {text : PyStr}
    (hv : v.EachString fun s => ∀ c ∈ s, 32 ≤ c → Q c) (h : dumps style depth v = some text) : Chars Q text := by
  have hliteral : ∀ s : PyStr, s.all (fun c => 32 ≤ c && c < 127) = true → Chars Q s := fun _ => hascii.chars
  cases v with
  | null =>
    obtain rfl := Option.some.inj h
    exact hliteral _ (by decide)
  | bool b => cases b <;> obtain rfl := Option.some.inj h <;> exact hliteral _ (by decide)
  | int n =>
    obtain rfl := Option.some.inj h
    exact chars_strInt hascii n
  | float x => exact chars_dumpsFloat hascii h
  | str s =>
    obtain rfl := Option.some.inj h
    exact chars_dumpsStr hascii hv
  | arr xs =>
    obtain ⟨texts, htexts, rfl⟩ := Option.map_eq_some_iff.mp h
    exact chars_bracket hstyle (hascii 91 (by decide) (by decide)) (hascii 93 (by decide) (by decide))
      (dumpsItems_chars hascii hstyle (depth + 1) xs hv htexts)
  | obj kvs =>
    obtain ⟨entries, hentries, rfl⟩ := Option.map_eq_some_iff.mp h
    refine chars_bracket hstyle (hascii 123 (by decide) (by decide)) (hascii 125 (by decide) (by decide)) fun item hitem => ?_
    obtain ⟨entry, hentry, rfl⟩ := List.mem_map.mp hitem
    have := dumpsEntries_chars hascii hstyle (depth + 1) kvs hv hentries entry (mem_sortEntries.mp hentry)
    exact (this.1.append hstyle.keySeparator).append this.2

theorem dumpsItems_chars (hascii : HoldsOfAscii Q) (hstyle : style.Adds Q) (depth : Nat) (xs : List Json)
    {texts : List PyStr} (hxs : Json.eachItem (fun s => ∀ c ∈ s, 32 ≤ c → Q c) xs)
    (h : dumpsItems style depth xs = some texts) : ∀ text ∈ texts, Chars Q text := by
  cases xs with
  | nil =>
    obtain rfl := Option.some.inj h
    exact nofun
  | cons x xs =>
    obtain ⟨first, hfirst, h⟩ := Option.bind_eq_some_iff.mp h
    obtain ⟨rest, hrest, h⟩ := Option.bind_eq_some_iff.mp h
    obtain rfl := Option.some.inj h
    intro text htext
    rcases List.mem_cons.mp htext with rfl | htext
    · exact dumps_chars hascii hstyle depth x hxs.1 hfirst
    · exact dumpsItems_chars hascii hstyle depth xs hxs.2 hrest text htext

theorem dumpsEntries_chars (hascii : HoldsOfAscii Q) (hstyle : style.Adds Q) (depth : Nat) (kvs : List (PyStr × Json))
    {entries : List (PyStr × PyStr)} (hkvs : Json.eachEntry (fun s => ∀ c ∈ s, 32 ≤ c → Q c) kvs)
    (h : dumpsEntries style depth kvs = some entries) : ∀ entry ∈ entries, Chars Q (dumpsStr entry.1) ∧ Chars Q entry.2 := by
  cases kvs with
  | nil =>
    obtain rfl := Option.some.inj h
    exact nofun
  | cons kv kvs =>
    obtain ⟨text, htext, h⟩ := Option.bind_eq_some_iff.mp h
    obtain ⟨rest, hrest, h⟩ := Option.bind_eq_some_iff.mp h
    obtain rfl := Option.some.inj h
    intro entry hentry
    rcases List.mem_cons.mp hentry with rfl | hentry
    · exact ⟨chars_dumpsStr hascii hkvs.1, dumps_chars hascii hstyle depth kv.2 hkvs.2.1 htext⟩
    · exact dumpsEntries_chars hascii hstyle depth kvs hkvs.2.2 hrest entry hentry

end

end

mutual

/-- What holds of every string. -/
theorem Json.eachString_of_forall {P : PyStr → Prop} (h : ∀ s, P s) (v : Json) : v.EachString P := by
  cases v with
  | str s => exact h s
  | arr xs => exact Json.eachItem_of_forall h xs
  | obj kvs => exact Json.eachEntry_of_forall h kvs
  | _ => trivial

theorem Json.eachItem_of_forall {P : PyStr → Prop} (h : ∀ s, P s) (xs : List Json) : Json.eachItem P xs := by
  cases xs with
  | nil => trivial
  | cons x xs => exact ⟨Json.eachString_of_forall h x, Json.eachItem_of_forall h xs⟩

theorem Json.eachEntry_of_forall {P : PyStr → Prop} (h : ∀ s, P s) (kvs : List (PyStr × Json)) : Json.eachEntry P kvs := by
  cases kvs with
  | nil => trivial
  | cons kv kvs => exact ⟨h kv.1, Json.eachString_of_forall h kv.2, Json.eachEntry_of_forall h kvs⟩

end

theorem JsonStyle.adds_canonical {Q : Nat → Prop} (hascii : HoldsOfAscii Q) : canonical.Adds Q :=
  ⟨hascii.chars (by decide), hascii.chars (by decide), fun _ => .nil⟩

/-- The text of a value has no control characters. -/
theorem dumps_printable {v : Json} {text : PyStr} (h : dumps .canonical 0 v = some text) : Printable text := by
  have hascii : HoldsOfAscii (32 ≤ ·) := fun _ hc _ => hc
  exact dumps_chars hascii (JsonStyle.adds_canonical hascii) 0 v (Json.eachString_of_forall (fun _ _ _ hc => hc) v) h

end Framework
