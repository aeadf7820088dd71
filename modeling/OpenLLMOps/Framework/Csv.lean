import OpenLLMOps.Framework.Dict
import OpenLLMOps.Framework.Json.Loads

/-!
# Reading CSV

`csv.DictReader` with `strict=True` on a text: the lines of `io.StringIO(text, newline="")`,
the reader of the dialect `excel` as the automaton that it is, and the dictionaries of the
rows. The reader is lazy: the rows before an error have been read.
-/

namespace Framework

/-- `decode("utf-8-sig")`; `none` is a `UnicodeDecodeError`. -/
def decodeUtf8Sig (b : Bytes) : Option PyStr :=
  let body := if [0xEF, 0xBB, 0xBF].isPrefixOf b then b.drop 3 else b
  (decodeUtf8 body).filter PyStr.encodable

/-- The lines, each with its end: a line feed, a carriage return, or both. -/
def universalLines : PyStr → List PyStr
  | [] => []
  | 10 :: cs => [10] :: universalLines cs
  | 13 :: 10 :: cs => [13, 10] :: universalLines cs
  | 13 :: cs => [13] :: universalLines cs
  | c :: cs =>
    match universalLines cs with
    | [] => [[c]]
    | line :: lines => (c :: line) :: lines

namespace Csv

inductive State
  | startRecord
  | startField
  | inField
  | inQuotedField
  | quoteInQuotedField
  | eatCrnl
  deriving DecidableEq

/-- The state of the reader, the field so far, and the fields before it. -/
structure Reader where
  state : State
  field : PyStr
  fields : List PyStr

def Reader.fresh : Reader := ⟨.startRecord, [], []⟩

/-- `parse_save_field`. -/
def Reader.saveField (r : Reader) (state : State) : Reader := ⟨state, [], r.fields ++ [r.field]⟩

/-- `field_size_limit()`. -/
def fieldLimit : Nat := 131072

/-- `parse_add_char`; `none` is a `csv.Error`. -/
def Reader.addChar (r : Reader) (c : Nat) (state : State) : Option Reader :=
  if fieldLimit ≤ r.field.length then none else some ⟨state, r.field ++ [c], r.fields⟩

/-- A line feed or a carriage return. -/
def isBreak (c : Nat) : Bool := c = 10 || c = 13

/-- A character where a field starts. -/
def Reader.startField (r : Reader) (c : Nat) : Option Reader :=
  if isBreak c then some (r.saveField .eatCrnl)
  else if c = 34 then some { r with state := .inQuotedField }
  else if c = 44 then some (r.saveField .startField)
  else r.addChar c .inField

/-- `parse_process_char` of a character. -/
def Reader.char (r : Reader) (c : Nat) : Option Reader :=
  match r.state with
  | .startRecord => if isBreak c then some { r with state := .eatCrnl } else r.startField c
  | .startField => r.startField c
  | .inField =>
    if isBreak c then some (r.saveField .eatCrnl)
    else if c = 44 then some (r.saveField .startField)
    else r.addChar c .inField
  | .inQuotedField => if c = 34 then some { r with state := .quoteInQuotedField } else r.addChar c .inQuotedField
  | .quoteInQuotedField =>
    if c = 34 then r.addChar c .inQuotedField
    else if c = 44 then some (r.saveField .startField)
    else if isBreak c then some (r.saveField .eatCrnl)
    else none
  | .eatCrnl => if isBreak c then some r else none

/-- `parse_process_char` of the end of a line. -/
def Reader.endLine (r : Reader) : Reader :=
  match r.state with
  | .startRecord | .inQuotedField => r
  | .startField | .inField | .quoteInQuotedField => r.saveField .startRecord
  | .eatCrnl => { r with state := .startRecord }

/-- The rows, and whether the reader ends with a `csv.Error`. -/
def rows (r : Reader) : List PyStr → List (List PyStr) × Bool
  | [] => ([], r.field ≠ [] || r.state = .inQuotedField)
  | line :: lines =>
    match line.foldlM Reader.char r with
    | none => ([], true)
    | some r =>
      let r := r.endLine
      if r.state = .startRecord then
        let (rest, failed) := rows .fresh lines
        (r.fields :: rest, failed)
      else rows r lines

/-- A row of `DictReader`: its columns, of which some may be missing, and what it has beyond the header. -/
structure DictRow where
  columns : List (PyStr × Option PyStr)
  rest : List PyStr

/-- The dictionary of a row. -/
def dictRow (fieldnames row : List PyStr) : DictRow where
  columns := Dict.update (Dict.update [] ((fieldnames.zip row).map fun column => (column.1, some column.2)))
    ((fieldnames.drop row.length).map fun name => (name, none))
  rest := row.drop fieldnames.length

/-- What `DictReader` gives: its header, the rows that are not empty, and whether it ends with a `csv.Error`. -/
structure DictReader where
  fieldnames : Option (List PyStr)
  rows : List DictRow
  failed : Bool

def dictReader (text : PyStr) : DictReader :=
  match rows .fresh (universalLines text) with
  | ([], failed) => ⟨none, [], failed⟩
  | (header :: rest, failed) => ⟨some header, (rest.filter (· ≠ [])).map (dictRow header), failed⟩

/-! ## Where the fields come from -/

section

variable {Q : Nat → Prop} {text : PyStr}

theorem mem_universalLines (s : PyStr) {line : PyStr} (h : line ∈ universalLines s) : ∀ c ∈ line, c ∈ s := by
  fun_induction universalLines s generalizing line with
  | case1 => exact absurd h List.not_mem_nil
  | case2 cs ih =>
    rcases List.mem_cons.mp h with rfl | h
    · intro c hc
      exact List.mem_singleton.mp hc ▸ List.mem_cons_self
    · exact fun c hc => List.mem_cons_of_mem _ (ih h c hc)
  | case3 cs ih =>
    rcases List.mem_cons.mp h with rfl | h
    · intro c hc
      exact List.mem_append_left cs (show c ∈ [13, 10] from hc)
    · exact fun c hc => List.mem_cons_of_mem _ (List.mem_cons_of_mem _ (ih h c hc))
  | case4 cs _ ih =>
    rcases List.mem_cons.mp h with rfl | h
    · intro c hc
      exact List.mem_singleton.mp hc ▸ List.mem_cons_self
    · exact fun c hc => List.mem_cons_of_mem _ (ih h c hc)
  | case5 c cs =>
    rw [List.mem_singleton.mp h]
    intro d hd
    exact List.mem_singleton.mp hd ▸ List.mem_cons_self
  | case6 c cs _ _ _ first lines hlines ih =>
    rw [hlines] at ih
    rcases List.mem_cons.mp h with rfl | h
    · intro d hd
      rcases List.mem_cons.mp hd with rfl | hd
      · exact List.mem_cons_self
      · exact List.mem_cons_of_mem _ (ih List.mem_cons_self d hd)
    · exact fun d hd => List.mem_cons_of_mem _ (ih (List.mem_cons_of_mem _ h) d hd)

theorem length_universalLines (s : PyStr) : (universalLines s).length ≤ s.length := by
  fun_induction universalLines s with
  | case1 => exact Nat.le_refl 0
  | case2 cs ih => simp only [List.length_cons]; omega
  | case3 cs ih => simp only [List.length_cons]; omega
  | case4 cs _ ih => simp only [List.length_cons]; omega
  | case5 c cs => simp only [List.length_cons, List.length_nil]; omega
  | case6 c cs _ _ _ first lines hlines ih =>
    rw [hlines] at ih
    simp only [List.length_cons] at ih ⊢
    omega

/-- The fields of the reader, the one it reads included, are of such characters. -/
structure Reader.Of (Q : Nat → Prop) (r : Reader) : Prop where
  field : ∀ c ∈ r.field, Q c
  fields : ∀ field ∈ r.fields, ∀ c ∈ field, Q c

theorem Reader.Of.fresh : Reader.fresh.Of Q :=
  ⟨fun _ hc => absurd hc List.not_mem_nil, fun _ hfield => absurd hfield List.not_mem_nil⟩

theorem Reader.Of.saveField {r : Reader} (h : r.Of Q) (state : State) : (r.saveField state).Of Q := by
  refine ⟨fun _ hc => absurd hc List.not_mem_nil, fun field hfield => ?_⟩
  rcases List.mem_append.mp hfield with hfield | hfield
  · exact h.fields field hfield
  · exact List.mem_singleton.mp hfield ▸ h.field

theorem Reader.Of.state {r : Reader} (h : r.Of Q) (state : State) : ({ r with state := state } : Reader).Of Q :=
  ⟨h.field, h.fields⟩

theorem Reader.Of.addChar {r r' : Reader} (h : r.Of Q) {c : Nat} (hc : Q c) {state : State}
    (hadd : r.addChar c state = some r') : r'.Of Q := by
  unfold Reader.addChar at hadd
  split at hadd
  · cases hadd
  · obtain rfl := Option.some.inj hadd
    refine ⟨fun d hd => ?_, h.fields⟩
    rcases List.mem_append.mp hd with hd | hd
    · exact h.field d hd
    · exact List.mem_singleton.mp hd ▸ hc

theorem Reader.Of.startField {r r' : Reader} (h : r.Of Q) {c : Nat} (hc : Q c) (hchar : r.startField c = some r') :
    r'.Of Q := by
  unfold Reader.startField at hchar
  split at hchar
  · exact Option.some.inj hchar ▸ h.saveField _
  · split at hchar
    · exact Option.some.inj hchar ▸ h.state _
    · split at hchar
      · exact Option.some.inj hchar ▸ h.saveField _
      · exact h.addChar hc hchar

/-- A character adds nothing but itself. -/
theorem Reader.Of.char {r r' : Reader} (h : r.Of Q) {c : Nat} (hc : Q c) (hchar : r.char c = some r') : r'.Of Q := by
  unfold Reader.char at hchar
  split at hchar
  · split at hchar
    · exact Option.some.inj hchar ▸ h.state _
    · exact h.startField hc hchar
  · exact h.startField hc hchar
  · split at hchar
    · exact Option.some.inj hchar ▸ h.saveField _
    · split at hchar
      · exact Option.some.inj hchar ▸ h.saveField _
      · exact h.addChar hc hchar
  · split at hchar
    · exact Option.some.inj hchar ▸ h.state _
    · exact h.addChar hc hchar
  · split at hchar
    · exact h.addChar hc hchar
    · split at hchar
      · exact Option.some.inj hchar ▸ h.saveField _
      · split at hchar
        · exact Option.some.inj hchar ▸ h.saveField _
        · cases hchar
  · split at hchar
    · exact Option.some.inj hchar ▸ h
    · cases hchar

theorem Reader.Of.endLine {r : Reader} (h : r.Of Q) : r.endLine.Of Q := by
  unfold Reader.endLine
  split
  · exact h
  · exact h
  · exact h.saveField _
  · exact h.saveField _
  · exact h.saveField _
  · exact h.state _

theorem Reader.Of.line {line : PyStr} {r r' : Reader} (h : r.Of Q) (hline : ∀ c ∈ line, Q c)
    (hrun : line.foldlM Reader.char r = some r') : r'.Of Q := by
  induction line generalizing r with
  | nil => exact Option.some.inj hrun ▸ h
  | cons c line ih =>
    rw [List.foldlM_cons] at hrun
    obtain ⟨next, hnext, hrun⟩ := Option.bind_eq_some_iff.mp hrun
    exact ih (h.char (hline c List.mem_cons_self) hnext) (fun d hd => hline d (List.mem_cons_of_mem _ hd)) hrun

/-- The fields of the rows are of the characters of the lines. -/
theorem rows_of {lines : List PyStr} {r : Reader} (h : r.Of Q) (hlines : ∀ line ∈ lines, ∀ c ∈ line, Q c) :
    ∀ row ∈ (rows r lines).1, ∀ field ∈ row, ∀ c ∈ field, Q c := by
  induction lines generalizing r with
  | nil => exact fun row hrow => absurd hrow List.not_mem_nil
  | cons line lines ih =>
    have hrest : ∀ line ∈ lines, ∀ c ∈ line, Q c := fun line hline => hlines line (List.mem_cons_of_mem _ hline)
    unfold rows
    split
    · exact fun row hrow => absurd hrow List.not_mem_nil
    · rename_i r' hrun
      have hend := (h.line (hlines line List.mem_cons_self) hrun).endLine
      simp only
      split
      · intro row hrow
        rcases List.mem_cons.mp hrow with rfl | hrow
        · exact hend.fields
        · exact ih .fresh hrest row hrow
      · exact ih hend hrest

theorem length_rows (lines : List PyStr) (r : Reader) : (rows r lines).1.length ≤ lines.length := by
  induction lines generalizing r with
  | nil => exact Nat.le_refl 0
  | cons line lines ih =>
    unfold rows
    split
    · exact Nat.zero_le _
    · simp only
      split
      · exact Nat.succ_le_succ (ih _)
      · exact Nat.le_succ_of_le (ih _)

theorem mem_update {K V : Type} [DecidableEq K] {d e : List (K × V)} {kv : K × V} (h : kv ∈ Dict.update d e) :
    kv ∈ d ∨ kv ∈ e := by
  induction e generalizing d with
  | nil => exact .inl h
  | cons first e ih =>
    rcases ih (d := Dict.set d first.1 first.2) h with hset | he
    · rcases Dict.mem_set hset with hd | rfl
      · exact .inl hd
      · exact .inr List.mem_cons_self
    · exact .inr (List.mem_cons_of_mem _ he)

/-- The values of a row are its fields. -/
theorem dictRow_value {fieldnames row : List PyStr} {key value : PyStr}
    (h : (key, some value) ∈ (dictRow fieldnames row).columns) : value ∈ row := by
  rcases mem_update h with h | h
  · rcases mem_update h with h | h
    · cases h
    · obtain ⟨column, hcolumn, heq⟩ := List.mem_map.mp h
      have hvalue : column.2 = value := Option.some.inj (Prod.ext_iff.mp heq).2
      exact hvalue ▸ (List.of_mem_zip hcolumn).2
  · obtain ⟨name, -, heq⟩ := List.mem_map.mp h
    cases (Prod.ext_iff.mp heq).2

/-- The values of a text are of its characters. -/
theorem dictReader_value {raw : DictRow} (hraw : raw ∈ (dictReader text).rows) {key value : PyStr}
    (h : (key, some value) ∈ raw.columns) : ∀ c ∈ value, c ∈ text := by
  have hrows := rows_of (Q := (· ∈ text)) .fresh fun line hline => mem_universalLines text hline
  unfold dictReader at hraw
  split at hraw
  · exact absurd hraw List.not_mem_nil
  · rename_i header rest _ heq
    rw [heq] at hrows
    obtain ⟨row, hrow, rfl⟩ := List.mem_map.mp hraw
    exact hrows row (List.mem_cons_of_mem _ (List.mem_filter.mp hrow).1) value (dictRow_value h)

theorem length_dictReader_rows (text : PyStr) : (dictReader text).rows.length ≤ text.length := by
  have hlength := Nat.le_trans (length_rows (universalLines text) .fresh) (length_universalLines text)
  unfold dictReader
  split
  · exact Nat.zero_le _
  · rename_i header rest _ heq
    rw [heq] at hlength
    have hfilter := List.length_filter_le (· ≠ []) rest
    simp only [List.length_cons, List.length_map] at hlength ⊢
    omega

end

/-- A quoted field may have a line break; the quotation mark is doubled in it. -/
example : rows .fresh (universalLines (py "a,b\r\n\"x\"\"\n\",\n\n")) =
  ([[py "a", py "b"], [py "x\"\n", []], []], false) := by
  decide +kernel

end Csv

end Framework
