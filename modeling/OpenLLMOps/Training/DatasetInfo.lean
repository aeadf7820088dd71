import OpenLLMOps.Datasets.Loaders
import OpenLLMOps.Training.ConfigFile

/-!
# The columns of a training data set

The node looks at the first record of a data set to tell the trainer which columns hold what (`datasetInfo`). The upload
has looked at all records, and decodes them in another way. The node finds the columns of an uploaded data set
exactly if its first line is UTF-8 without a byte order mark and surrogates, and declares those of the recorded format,
with two differences (`declares_uploaded`).
-/

namespace OpenLLMOps.Training

open Framework Datasets

/-! ## `_dataset_info` -/

/-- What `_dataset_info` raises. -/
inductive DatasetInfoError
  | refused (text : PyStr)
  /-- `无法解析训练数据集首条记录`, because of this. -/
  | unreadable (cause : Option PyStr)
  deriving DecidableEq

/-- The first line that is not blank. -/
def firstRecordLine : Nat → Bytes → Except DatasetInfoError (Option Bytes)
  | 0, _ => .ok none
  | fuel + 1, content =>
    let raw := (readline (maxTrainingLineBytes + 1) content).1
    if raw = [] then .ok none
    else if maxTrainingLineBytes < raw.length then .error (.refused (py "训练数据集单行超过 16 MiB 安全上限"))
    else if isBlank raw then firstRecordLine fuel (readline (maxTrainingLineBytes + 1) content).2
    else .ok (some raw)

/-- `decode("utf-8")`. -/
def decodeStrict (raw : Bytes) : Option PyStr := (decodeUtf8 raw).filter PyStr.encodable

/-- `json.loads` of the text of the line; a text with a byte order mark is refused. -/
def loadFirstRecord (float : PyStr → PyFloat) (raw : Bytes) : Except DatasetInfoError Json :=
  match decodeStrict raw with
  | none => .error (.unreadable none)
  | some text =>
    if text.head? = some 0xFEFF then .error (.unreadable none)
    else
      match loadsText (.strict float) text with
      | .error (.constant name) => .error (.unreadable (some (py "非有限数值：" ++ name)))
      | .error (.duplicate key) => .error (.unreadable (some (py "重复字段：" ++ key)))
      | .error _ => .error (.unreadable none)
      | .ok record => .ok record

/-- The description of a data set. -/
structure DatasetInfo where
  fileName : PyStr
  formatting : Option PyStr
  columns : List (PyStr × PyStr)
  tags : List (PyStr × PyStr)
  deriving DecidableEq

/-- The entries of a table. -/
def pairs (entries : List (String × String)) : List (PyStr × PyStr) := entries.map fun e => (py e.1, py e.2)

/-- With the file of the container. -/
def DatasetInfo.ofColumns (columns : List (PyStr × PyStr)) : DatasetInfo :=
  ⟨py "/workspace/data/training.jsonl", none, columns, []⟩

/-- Of conversations. -/
def DatasetInfo.sharegpt (column : String) (tags : List (String × String)) : DatasetInfo :=
  { DatasetInfo.ofColumns (pairs [("messages", column)]) with formatting := some (py "sharegpt"), tags := pairs tags }

/-- What the first record says. -/
def recordInfo (stage : TrainingStage) (record : Evaluation.Row) :
    Except DatasetInfoError (DatasetInfo × DatasetFormat) :=
  let field (name : String) := Json.get? record (py name)
  match stage with
  | .cpt =>
    let prompt := if isString (field "text") then "text" else "content"
    if !isString (field prompt) then .error (.refused (py "CPT 数据集缺少 text/content 字段"))
    else .ok (.ofColumns (pairs [("prompt", prompt)]), .cptText)
  | .sft =>
    if isList (field "messages") then
      .ok (.sharegpt "messages"
        [("role_tag", "role"), ("content_tag", "content"), ("user_tag", "user"), ("assistant_tag", "assistant"),
          ("system_tag", "system")], .messages)
    else if isList (field "conversations") then .ok (.sharegpt "conversations" [], .messages)
    else if isString (field "instruction") && isString (field "output") then
      .ok (.ofColumns (pairs ([("prompt", "instruction"), ("response", "output")] ++
        if isString (field "input") then [("query", "input")] else [])), .alpaca)
    else .error (.refused (py "SFT 数据集字段无法映射到 LLaMAFactory"))

/-- `_dataset_info`; `none` is a file that cannot be read. -/
def datasetInfo (float : PyStr → PyFloat) (stage : TrainingStage) (file : Option Bytes) :
    Except DatasetInfoError (DatasetInfo × DatasetFormat) :=
  match file with
  | none => .error (.unreadable none)
  | some content => do
    let line ← firstRecordLine (content.length + 1) content
    match line with
    | none => .error (.refused (py "训练数据集没有可识别的 JSON 对象记录"))
    | some raw =>
      let record ← loadFirstRecord float raw
      match record with
      | .obj record => recordInfo stage record
      | _ => .error (.refused (py "训练数据集没有可识别的 JSON 对象记录"))

/-! ## The encoding of the first line -/

section

variable {float : PyStr → PyFloat}

theorem number_not_object {neg : Bool} {int numeral rest rest' : PyStr} {kvs : List (PyStr × Json)} {h : JsonDecoder} :
    ((h.number neg int numeral).map fun v => (v, rest)) ≠ Except.ok (Json.obj kvs, rest') := by
  unfold JsonDecoder.number
  intro heq
  split at heq
  · cases heq
  · split at heq <;> cases heq

/-- An object begins with a brace, and then a key or another brace. -/
theorem scanOnce_object_start {fuel : Nat} {s rest : PyStr} {kvs : List (PyStr × Json)}
    (h : scanOnce (.strict float) fuel s = .ok (.obj kvs, rest)) :
    ∃ t c u, s = 123 :: t ∧ skipSpace t = c :: u ∧ (c = 125 ∨ c = 34) := by
  cases fuel with
  | zero => cases h
  | succ fuel =>
    unfold scanOnce at h
    split at h
    · rename_i t
      cases hs : scanString t with
      | none =>
        rw [hs] at h
        cases h
      | some r =>
        rw [hs] at h
        cases h
    · rename_i t
      split at h
      · rename_i u hspace
        exact ⟨t, 125, u, rfl, hspace, .inl rfl⟩
      · obtain ⟨r, hmembers, -⟩ := bind_eq_ok.mp h
        cases hspace : skipSpace t with
        | nil =>
          rw [hspace] at hmembers
          cases fuel <;> cases hmembers
        | cons c u =>
          refine ⟨t, c, u, rfl, hspace, .inr ?_⟩
          rw [hspace] at hmembers
          cases fuel with
          | zero => cases hmembers
          | succ fuel =>
            unfold scanMembers at hmembers
            split at hmembers
            · rename_i heq
              exact (List.cons.inj heq).1
            · cases hmembers
    · split at h
      · cases h
      · obtain ⟨r, -, hr⟩ := bind_eq_ok.mp h
        cases hr
    all_goals try cases h
    split at h
    · exact absurd h number_not_object
    · cases h

theorem scan_of_loadsText {h : JsonDecoder} {text : PyStr} {v : Json} (hload : loadsText h text = .ok v) :
    ∃ rest, scanOnce h (2 * text.length + 2) (skipSpace text) = .ok (v, rest) := by
  obtain ⟨⟨w, rest⟩, hscan, hrest⟩ := bind_eq_ok.mp hload
  dsimp only at hrest
  split at hrest
  · exact ⟨rest, hscan.trans (by rw [Except.ok.inj hrest])⟩
  · cases hrest

/-- The text of an object has no null character at one of the first two places. -/
theorem loadsText_object_start {text : PyStr} {kvs : List (PyStr × Json)}
    (h : loadsText (.strict float) text = .ok (.obj kvs)) :
    text.head? ≠ some 0 ∧ ∀ c t, text ≠ c :: 0 :: t := by
  obtain ⟨rest, hscan⟩ := scan_of_loadsText h
  obtain ⟨t, d, u, hspace, hmember, hd⟩ := scanOnce_object_start hscan
  have hnull (u : PyStr) : skipSpace (0 :: u) = 0 :: u := rfl
  constructor
  · intro hhead
    cases text with
    | nil => cases hhead
    | cons c text =>
      obtain rfl := Option.some.inj hhead
      rw [hnull] at hspace
      cases hspace
  · rintro c text rfl
    by_cases hc : isJsonSpace c = true
    · have hskip : skipSpace (c :: 0 :: text) = 0 :: text := (List.dropWhile_cons_of_pos hc).trans (hnull text)
      rw [hskip] at hspace
      cases hspace
    · have hskip : skipSpace (c :: 0 :: text) = c :: 0 :: text := List.dropWhile_cons_of_neg hc
      rw [hskip] at hspace
      obtain ⟨rfl, rfl⟩ := List.cons.inj hspace
      rw [hnull] at hmember
      obtain ⟨rfl, -⟩ := List.cons.inj hmember
      rcases hd with hd | hd <;> cases hd

theorem decodeUtf8_low {a : UInt8} {rest : Bytes} (ha : a < 0x80) :
    decodeUtf8 (a :: rest) = (decodeUtf8 rest).map (a.toNat :: ·) := by
  rw [decodeUtf8.eq_def]
  exact if_pos ha

theorem decodeUtf8_null {a : UInt8} {rest : Bytes} {text : PyStr} (h : decodeUtf8 (a :: 0 :: rest) = some text) :
    ∃ c t, text = c :: 0 :: t := by
  have hlow : a < 0x80 := by
    by_contra ha
    rw [decodeUtf8.eq_def] at h
    dsimp only at h
    rw [if_neg ha] at h
    have htail : isTail 0 = false := by decide
    simp only [htail, Bool.false_eq_true, false_and, and_false, if_false] at h
    split at h
    · cases h
    · split at h
      · split at h
        · cases h
        · split at h <;> cases h
      · cases h
  rw [decodeUtf8_low hlow, decodeUtf8_low (by decide)] at h
  obtain ⟨t, ht, rfl⟩ := Option.map_eq_some_iff.mp h
  obtain ⟨u, -, rfl⟩ := Option.map_eq_some_iff.mp ht
  exact ⟨_, u, rfl⟩

/-- A byte that begins no character. -/
theorem decodeUtf8_invalid {a : UInt8} {rest : Bytes} (ha : 0xF5 ≤ a) : decodeUtf8 (a :: rest) = none := by
  have ha : 0xF5 ≤ a.toNat := ha
  have hle {b : UInt8} (hb : b.toNat < 0xF5) : ¬ a ≤ b := fun h => by
    have : a.toNat ≤ b.toNat := h
    omega
  have hone : ¬ a < 0x80 := fun h => hle (by decide) (UInt8.le_of_lt h)
  have htwo : ¬(0xC2 ≤ a ∧ a ≤ 0xDF) := fun h => hle (by decide) h.2
  have hthree : ¬(0xE0 ≤ a ∧ a ≤ 0xEF) := fun h => hle (by decide) h.2
  have hfour : ¬(0xF0 ≤ a ∧ a ≤ 0xF4) := fun h => hle (by decide) h.2
  rw [decodeUtf8.eq_def]
  dsimp only
  rw [if_neg hone]
  split
  · rw [if_neg htwo]
    split
    · rw [if_neg hthree]
      split
      · exact if_neg fun h => hfour ⟨h.1, h.2.1⟩
      · rfl
    · rfl
  · rfl

/-- A byte order mark. -/
theorem decodeUtf8_mark {rest : Bytes} {text : PyStr} (h : decodeUtf8 (0xEF :: 0xBB :: 0xBF :: rest) = some text) :
    text.head? = some 0xFEFF := by
  rw [decodeUtf8.eq_def] at h
  dsimp only at h
  rw [if_neg (by decide), if_neg (by decide +kernel), if_pos (by decide +kernel), if_pos (by decide +kernel)] at h
  obtain ⟨t, -, rfl⟩ := Option.map_eq_some_iff.mp h
  rfl

/-- A line that is decoded as UTF-8 to an object, without a mark, has that encoding. -/
theorem detect_of_object {raw : Bytes} {text : PyStr} {kvs : List (PyStr × Json)} (hdecode : decodeUtf8 raw = some text)
    (hmark : text.head? ≠ some 0xFEFF) (hload : loadsText (.strict float) text = .ok (.obj kvs)) :
    detectEncoding raw = (.utf8, raw) := by
  obtain ⟨hfirst, hsecond⟩ := loadsText_object_start hload
  cases raw with
  | nil => rfl
  | cons b₀ rest =>
    have hnull : ∀ b₁ tail, rest = b₁ :: tail → b₁ ≠ 0 := by
      rintro b₁ tail rfl rfl
      obtain ⟨c, t, rfl⟩ := decodeUtf8_null hdecode
      exact hsecond c t rfl
    have hvalid : ¬ 0xF5 ≤ b₀ := by
      intro hb₀
      rw [decodeUtf8_invalid hb₀] at hdecode
      contradiction
    have h00 : b₀ ≠ 0 := by
      rintro rfl
      rw [decodeUtf8_low (by decide)] at hdecode
      obtain ⟨t, -, rfl⟩ := Option.map_eq_some_iff.mp hdecode
      exact hfirst rfl
    by_cases hef : b₀ = 0xEF
    · subst b₀
      refine detectEncoding_unmarked ?_ h00 hnull
      simp only [byteOrderMarks, List.forall_mem_cons]
      refine ⟨rfl, rfl, rfl, rfl, Bool.eq_false_iff.mpr fun hprefix => ?_, List.forall_mem_nil _⟩
      obtain ⟨tail, htail⟩ := List.isPrefixOf_iff_prefix.mp hprefix
      obtain rfl := (List.cons.inj htail).2
      exact hmark (decodeUtf8_mark hdecode)
    · have hff : b₀ ≠ 0xFF := by
        rintro rfl
        exact hvalid (by decide)
      have hfe : b₀ ≠ 0xFE := by
        rintro rfl
        exact hvalid (by decide)
      exact detectEncoding_utf8 h00 hff hfe hef hnull

/-- UTF-8, by its first bytes and as a whole, without surrogates. -/
structure PlainUtf8 (raw : Bytes) : Prop where
  detected : detectEncoding raw = (.utf8, raw)
  decoded : ∃ text, decodeUtf8 raw = some text ∧ text.encodable = true

theorem loadFirstRecord_ok {raw : Bytes} {row : Evaluation.Row} (h : loadFirstRecord float raw = .ok (.obj row)) :
    PlainUtf8 raw := by
  unfold loadFirstRecord at h
  split at h
  · cases h
  rename_i text htext
  split at h
  · cases h
  rename_i hmark
  obtain ⟨hdecode, hencodable⟩ := Option.filter_eq_some_iff.mp htext
  split at h
  · cases h
  · cases h
  · cases h
  rename_i record hload
  obtain rfl := Except.ok.inj h
  exact ⟨detect_of_object hdecode hmark hload, text, hdecode, hencodable⟩

/-- The node decodes such a line as the upload did. -/
theorem loadFirstRecord_of_plain {raw : Bytes} {row : Evaluation.Row}
    (hload : loads (.strict float) raw = .ok (.obj row))
    (hplain : PlainUtf8 raw) : loadFirstRecord float raw = .ok (.obj row) := by
  obtain ⟨text, hdecode, hencodable⟩ := hplain.decoded
  have htext : loadsText (.strict float) text = .ok (.obj row) := by
    rw [loads, decodeText, hplain.detected] at hload
    dsimp only at hload
    rw [hdecode] at hload
    exact hload
  have hmark : text.head? ≠ some 0xFEFF := by
    intro hhead
    obtain ⟨rest, hscan⟩ := scan_of_loadsText htext
    obtain ⟨t, -, -, hspace, -⟩ := scanOnce_object_start hscan
    cases text with
    | nil => cases hhead
    | cons c text =>
      obtain rfl := Option.some.inj hhead
      cases hspace
  rw [loadFirstRecord, decodeStrict, hdecode, Option.filter_some, if_pos hencodable]
  dsimp only
  rw [if_neg hmark, htext]

/-! ## The columns -/

/-- The format that the trainer is told. -/
def datasetFormat : RecordFormat → DatasetFormat
  | .cptText => .cptText
  | .cptContent => .cptText
  | .sftMessages => .messages
  | .sftConversations => .messages
  | .sftAlpaca => .alpaca

/-- The columns of a format. -/
def columnsOf : RecordFormat → List (String × String)
  | .cptText => [("prompt", "text")]
  | .cptContent => [("prompt", "content")]
  | .sftMessages => [("messages", "messages")]
  | .sftConversations => [("messages", "conversations")]
  | .sftAlpaca => [("prompt", "instruction"), ("response", "output")]

/-- The columns that are declared: those of the format, but a blank `text` of the first record is taken for the text of
all records, and `input` is declared if the first record has it. -/
def declaredColumns (first : Evaluation.Row) : RecordFormat → List (PyStr × PyStr)
  | .cptContent => pairs (columnsOf (if isString (Json.get? first (py "text")) then .cptText else .cptContent))
  | .sftAlpaca =>
    pairs (columnsOf .sftAlpaca ++ if (Json.get? first (py "input")).isSome then [("query", "input")] else [])
  | format => pairs (columnsOf format)

/-- What is declared for a format. -/
structure Declares (first : Evaluation.Row) (format : RecordFormat) (info : DatasetInfo × DatasetFormat) : Prop where
  declared : info.2 = datasetFormat format
  columns : info.1.columns = declaredColumns first format

/-- The record has the columns of the format. -/
def HasColumns (row : Evaluation.Row) (format : RecordFormat) : Prop :=
  ∀ column ∈ columnsOf format, (Json.get? row (py column.2)).isSome = true

/-- What holds of a record of the format. -/
structure RecordOf (stage : TrainingStage) (row : Evaluation.Row) (format : RecordFormat)
    (info : DatasetInfo × DatasetFormat) : Prop where
  recorded : recordInfo stage row = .ok info
  declares : Declares row format info
  columns : HasColumns row format
  fits : datasetFormat format = .cptText ↔ stage = .cpt

theorem hasColumns_one {row : Evaluation.Row} {format : RecordFormat} {key column : String}
    (hcolumns : columnsOf format = [(key, column)])
    (h : (Json.get? row (py column)).isSome = true) : HasColumns row format := by
  intro c hc
  rw [hcolumns, List.mem_singleton] at hc
  rw [hc]
  exact h

theorem isSome_of_isString {v : Option Json} (h : isString v = true) : v.isSome = true := by
  cases v with
  | none => cases h
  | some v => rfl

theorem isSome_of_isList {v : Option Json} (h : isList v = true) : v.isSome = true := by
  cases v with
  | none => cases h
  | some v => rfl

theorem isString_of_isText {v : Option Json} (h : isText v = true) : isString v = true := by
  cases v with
  | none => cases h
  | some v =>
    cases v with
    | str s => rfl
    | _ => cases h

theorem recordInfo_cpt {row : Evaluation.Row} {format : RecordFormat} (h : validateCptRecord row = .ok format) :
    ∃ info, RecordOf .cpt row format info := by
  unfold validateCptRecord at h
  dsimp only at h
  split at h
  · cases h
  rename_i hdiffer
  split at h
  · rename_i htext
    obtain rfl := Except.ok.inj h
    have hstring : isString (Json.get? row (py "text")) = true := isString_of_isText htext
    refine ⟨(.ofColumns (pairs (columnsOf .cptText)), .cptText), ?_, ⟨rfl, rfl⟩,
      hasColumns_one rfl (isSome_of_isString hstring),
      iff_of_true rfl rfl⟩
    simp [recordInfo, hstring, columnsOf]
  · rename_i htext
    obtain rfl := Except.ok.inj h
    have hcontent : isText (Json.get? row (py "content")) = true := by
      rw [Bool.not_eq_true] at htext
      rw [htext] at hdiffer
      exact (Bool.eq_true_of_not_eq_false fun h => hdiffer h.symm)
    have hstring := isString_of_isText hcontent
    refine ⟨(.ofColumns (declaredColumns row .cptContent), .cptText), ?_, ⟨rfl, rfl⟩,
      hasColumns_one rfl (isSome_of_isString hstring), iff_of_true rfl rfl⟩
    by_cases hblank : isString (Json.get? row (py "text")) = true
    · simp [recordInfo, hblank, declaredColumns, columnsOf]
    · simp [recordInfo, hblank, hstring, declaredColumns, columnsOf]

theorem validateMessages_ok {field roleKey contentKey : String} {format f : RecordFormat} {row : Evaluation.Row}
    (h : validateMessages field roleKey contentKey format row = .ok f) : f = format := by
  unfold validateMessages at h
  split at h
  · split at h
    · exact (Except.ok.inj h).symm
    · cases h
  · cases h

theorem validateAlpaca_ok {row : Evaluation.Row} {f : RecordFormat} (h : validateAlpaca row = .ok f) :
    f = .sftAlpaca ∧ isString (Json.get? row (py "input")) = (Json.get? row (py "input")).isSome := by
  unfold validateAlpaca at h
  split at h
  · cases h
  split at h
  · cases h
  rename_i hinput
  refine ⟨(Except.ok.inj h).symm, ?_⟩
  cases hget : Json.get? row (py "input") with
  | none => rfl
  | some v =>
    rw [hget] at hinput
    simpa using hinput

theorem recordInfo_sft {row : Evaluation.Row} {format : RecordFormat} (h : validateSftRecord row = .ok format) :
    ∃ info, RecordOf .sft row format info := by
  unfold validateSftRecord sftFormats at h
  by_cases hmessages : isList (Json.get? row (py "messages")) = true
  · by_cases hconversations : isList (Json.get? row (py "conversations")) = true
    · rw [if_pos hmessages, if_pos hconversations] at h
      cases h
    by_cases halpaca : (isString (Json.get? row (py "instruction")) && isString (Json.get? row (py "output"))) = true
    · rw [if_pos hmessages, if_neg hconversations, if_pos halpaca] at h
      cases h
    · rw [if_pos hmessages, if_neg hconversations, if_neg halpaca] at h
      obtain rfl := validateMessages_ok h
      exact ⟨_, if_pos hmessages, ⟨rfl, rfl⟩, hasColumns_one rfl (isSome_of_isList hmessages), by decide⟩
  · by_cases hconversations : isList (Json.get? row (py "conversations")) = true
    · by_cases halpaca : (isString (Json.get? row (py "instruction")) && isString (Json.get? row (py "output"))) = true
      · rw [if_neg hmessages, if_pos hconversations, if_pos halpaca] at h
        cases h
      · rw [if_neg hmessages, if_pos hconversations, if_neg halpaca] at h
        obtain rfl := validateMessages_ok h
        exact ⟨_, (if_neg hmessages).trans (if_pos hconversations), ⟨rfl, rfl⟩,
          hasColumns_one rfl (isSome_of_isList hconversations), by decide⟩
    · by_cases halpaca : (isString (Json.get? row (py "instruction")) && isString (Json.get? row (py "output"))) = true
      · rw [if_neg hmessages, if_neg hconversations, if_pos halpaca] at h
        obtain ⟨rfl, hinput⟩ := validateAlpaca_ok h
        have hcolumns : HasColumns row .sftAlpaca := by
          obtain ⟨hinstruction, houtput⟩ := Bool.and_eq_true_iff.mp halpaca
          have hboth : ∀ column ∈ [("prompt", "instruction"), ("response", "output")],
              (Json.get? row (py column.2)).isSome = true :=
            List.forall_mem_cons.mpr ⟨isSome_of_isString hinstruction,
              List.forall_mem_cons.mpr ⟨isSome_of_isString houtput, fun c hc => absurd hc List.not_mem_nil⟩⟩
          exact hboth
        refine ⟨_, ((if_neg hmessages).trans (if_neg hconversations)).trans (if_pos halpaca), ⟨rfl, ?_⟩, hcolumns,
          by decide⟩
        rw [hinput]
        rfl
      · rw [if_neg hmessages, if_neg hconversations, if_neg halpaca] at h
        cases h

theorem ok_of_map_some {x : Except PyStr RecordFormat} {format : RecordFormat} (h : x.map some = .ok (some format)) :
    x = .ok format := by
  cases x with
  | error message => cases h
  | ok f =>
    cases h
    rfl

/-- The first record declares its format. -/
theorem recordInfo_of_format {stage : TrainingStage} {row : Evaluation.Row} {format : RecordFormat}
    (h : validateTrainingRecord (.obj row) stage.datasetType = .ok (some format)) :
    ∃ info, RecordOf stage row format info := by
  cases stage with
  | cpt => exact recordInfo_cpt (ok_of_map_some h)
  | sft => exact recordInfo_sft (ok_of_map_some h)

/-! ## An upload -/

/-- The first line of a file without blank lines. -/
theorem firstRecordLine_eq {content first : Bytes} {rest : List Bytes} (hlines : lines content = first :: rest)
    (hshort : first.length ≤ maxTrainingLineBytes) (hblank : isBlank first = false) :
    firstRecordLine (content.length + 1) content = .ok (some first) := by
  have hcontent : content ≠ [] := by
    rintro rfl
    cases hlines
  have hfirst : firstLine content = first := by
    rw [lines_eq hcontent] at hlines
    exact (List.cons.inj hlines).1
  have hread : (readline (maxTrainingLineBytes + 1) content).1 = first := by
    rw [readline_of_le (by rw [hfirst]; omega), hfirst]
  have hsome : first ≠ [] := lines_ne_nil (hlines ▸ List.mem_cons_self)
  rw [firstRecordLine, hread, if_neg hsome, if_neg (Nat.not_lt.mpr hshort), hblank]
  rfl

/-- The node finds the columns exactly if it decodes the first line. -/
theorem datasetInfo_iff {stage : TrainingStage} {content first : Bytes} {rest : List Bytes} {row : Evaluation.Row}
    {format : RecordFormat} (hlines : lines content = first :: rest) (hshort : first.length ≤ maxTrainingLineBytes)
    (hblank : isBlank first = false) (hload : loads (.strict float) first = .ok (.obj row))
    (hvalid : validateTrainingRecord (.obj row) stage.datasetType = .ok (some format)) :
    ((∃ info, datasetInfo float stage (some content) = .ok info) ↔ PlainUtf8 first) ∧
      ∀ info, datasetInfo float stage (some content) = .ok info → RecordOf stage row format info := by
  obtain ⟨declared, hrecord⟩ := recordInfo_of_format hvalid
  have hfirst := firstRecordLine_eq hlines hshort hblank
  have hplain {info : DatasetInfo × DatasetFormat}
    (h : datasetInfo float stage (some content) = .ok info) : PlainUtf8 first := by
    obtain ⟨line, hline, h⟩ := bind_eq_ok.mp h
    obtain rfl := Except.ok.inj (hfirst.symm.trans hline)
    obtain ⟨record, hrecord, h⟩ := bind_eq_ok.mp h
    cases record with
    | obj record => exact loadFirstRecord_ok hrecord
    | _ => cases h
  have hok (hp : PlainUtf8 first) : datasetInfo float stage (some content) = .ok declared :=
    bind_eq_ok.mpr ⟨_, hfirst, bind_eq_ok.mpr ⟨_, loadFirstRecord_of_plain hload hp, hrecord.recorded⟩⟩
  refine ⟨⟨fun h => h.elim fun info h => hplain h, fun hp => ⟨declared, hok hp⟩⟩, fun info h => ?_⟩
  obtain rfl := Except.ok.inj ((hok (hplain h)).symm.trans h)
  exact hrecord

end

open Effect (wp)

/-- What the node does with the first line of a stored data set. -/
theorem first_of_uploaded {library : DatasetLibrary} {around : Datasets.Surroundings} {stage : TrainingStage}
    {s s' : UploadState} {r : StoredDataset}
    (h : validateAndStoreJsonl library around stage.datasetType s = (.ok r, s')) :
    ∃ first rest row format, s'.final = some s.source ∧ lines s.source = first :: rest ∧ r.recordFormat = some format ∧
      loads (.strict library.float) first = .ok (.obj row) ∧
      ((∃ info, datasetInfo library.float stage (some s.source) = .ok info) ↔ PlainUtf8 first) ∧
      (∀ info, datasetInfo library.float stage (some s.source) = .ok info → RecordOf stage row format info) ∧
      ∀ raw ∈ lines s.source, HasFormat library stage.datasetType format raw := by
  have houtcome : wp (validateAndStoreJsonl library around stage.datasetType)
      (Datasets.Outcome library around stage.datasetType s) s := wp_validateAndStoreJsonl
  unfold wp at houtcome
  rw [h] at houtcome
  obtain ⟨p, hscan, herrors, rfl, -, hfinal, -⟩ := houtcome
  obtain ⟨hdigested, haccepted⟩ := accepted_of_scan hscan herrors
  rw [hdigested] at hfinal
  have htype : stage.datasetType ≠ .evaluation := by cases stage <;> decide
  have hlimit : lineLimit stage.datasetType = maxTrainingLineBytes := by cases stage <;> rfl
  obtain ⟨format, hformat, hrecords⟩ := haccepted.format htype
  cases hlines : lines s.source with
  | nil =>
    have hcount := haccepted.recordCount
    rw [hlines] at hcount
    exact absurd hcount haccepted.someRecord
  | cons first rest =>
    have hmem : first ∈ lines s.source := hlines ▸ List.mem_cons_self
    obtain ⟨hblank, row, hload, hvalid⟩ := hrecords first hmem
    have hshort : first.length ≤ maxTrainingLineBytes := hlimit ▸ haccepted.lineLimit first hmem
    obtain ⟨hiff, hrecord⟩ := datasetInfo_iff hlines hshort hblank (loadsLine_ok hload) hvalid
    exact ⟨first, rest, row, format, hfinal, rfl, hformat, loadsLine_ok hload, hiff, hrecord, hlines ▸ hrecords⟩

/-- A data set that was stored for a stage has records of one format, each with the columns of it. The node finds its
columns exactly if it decodes the first line, and declares those of the format. -/
theorem declares_uploaded (library : DatasetLibrary) (around : Datasets.Surroundings) (stage : TrainingStage)
    (s s' : UploadState) (r : StoredDataset)
    (h : validateAndStoreJsonl library around stage.datasetType s = (.ok r, s')) :
    ∃ stored first rest row format, s'.final = some stored ∧ lines stored = first :: rest ∧
      r.recordFormat = some format ∧
      loads (.strict library.float) first = .ok (.obj row) ∧
      ((∃ info, datasetInfo library.float stage (some stored) = .ok info) ↔ PlainUtf8 first) ∧
      (∀ info, datasetInfo library.float stage (some stored) = .ok info → Declares row format info) ∧
      ∀ raw ∈ lines stored, ∃ record, loads (.strict library.float) raw = .ok (.obj record) ∧
        HasColumns record format := by
  obtain ⟨first, rest, row, format, hfinal, hlines, hformat, hload, hiff, hrecord, hrecords⟩ := first_of_uploaded h
  refine ⟨s.source, first, rest, row, format, hfinal, hlines, hformat, hload, hiff,
    fun info hinfo => (hrecord info hinfo).declares, fun raw hraw => ?_⟩
  obtain ⟨-, record, hload, hvalid⟩ := hrecords raw hraw
  obtain ⟨_, hrecord⟩ := recordInfo_of_format hvalid
  exact ⟨record, loadsLine_ok hload, hrecord.columns⟩

/-- `{"text":" ","content":"a"}`. -/
def blankText : Bytes :=
  [123, 34, 116, 101, 120, 116, 34, 58, 34, 32, 34, 44, 34, 99, 111, 110, 116, 101, 110, 116, 34, 58, 34, 97, 34, 125]

/-- The blank text is declared as the prompt of a data set of contents. -/
theorem blank_text_is_declared :
    ∃ stored info, (validateAndStoreJsonl plainLibrary undisturbed .cpt
      ⟨blankText, none, none, 0⟩).2.final = some stored ∧
      datasetInfo plainLibrary.float .cpt (some stored) = .ok info ∧ info.1.columns = [(py "prompt", py "text")] := by
  have hstored : (validateAndStoreJsonl plainLibrary undisturbed .cpt ⟨blankText, none, none, 0⟩).1 =
      .ok ⟨1, 26, blankText.map UInt8.toNat, [], [py "content", py "text"], some .cptContent⟩ := by decide +kernel
  have hcontent : (validateAndStoreJsonl plainLibrary undisturbed .cpt
    ⟨blankText, none, none, 0⟩).2.final = some blankText := by
    decide +kernel
  obtain ⟨stored, first, rest, row, format, hfinal, hlines, hformat, hload, hiff, hdeclares, -⟩ :=
    declares_uploaded plainLibrary undisturbed .cpt ⟨blankText, none, none, 0⟩ _ _ (Prod.ext hstored rfl)
  obtain rfl := Option.some.inj (hcontent.symm.trans hfinal)
  obtain rfl := Option.some.inj hformat
  obtain ⟨rfl, rfl⟩ := List.cons.inj (hlines.symm.trans (by decide : lines blankText = [blankText]))
  have hrow : loads (.strict plainLibrary.float) blankText =
      .ok (.obj [(py "text", .str [32]), (py "content", .str [97])]) := by decide +kernel
  obtain rfl := Json.obj.inj (Except.ok.inj (hload.symm.trans hrow))
  have hplain : PlainUtf8 blankText := ⟨by decide, blankText.map UInt8.toNat, by decide +kernel, by decide⟩
  obtain ⟨info, hinfo⟩ := hiff.mpr hplain
  exact ⟨blankText, info, hcontent, hinfo, (hdeclares info hinfo).columns⟩

/-! ## The files of a training -/

/-- Why the node has no files. -/
inductive TrainingFilesError
  | info (e : DatasetInfoError)
  | config (e : ConfigError)
  deriving DecidableEq

/-- What `_materialize_training_files` makes of the data set and the parameters of a command. -/
def materializeTrainingFiles (float : PyStr → PyFloat) (stage : TrainingStage) (algorithm : TrainingAlgorithm)
    (file : Option Bytes) (raw : Json) : Except TrainingFilesError (DatasetInfo × DatasetFormat × Bytes) := do
  let (info, format) ← (datasetInfo float stage file).mapError .info
  let config ← (materializeTrainingConfig (workspaceSpec stage algorithm format) raw).mapError .config
  .ok (info, format, config)

/-- For a stored data set and accepted parameters the node writes its files exactly if it decodes the first line of
the data set, and then the container accepts the configuration and finds in it what was asked for. -/
theorem files_are_accepted (library : DatasetLibrary) (around : Datasets.Surroundings) (stage : TrainingStage)
    (algorithm : TrainingAlgorithm) (s s' : UploadState) (r : StoredDataset) (raw : Json)
    (p : trainingParameters.Instance) (h : validateAndStoreJsonl library around stage.datasetType s = (.ok r, s'))
    (hp : validateTrainingParameters stage algorithm raw = .ok p)
    (hfloats : ∀ name x, p.get name = .float x → ReadBack library.float x) :
    ∃ stored first, s'.final = some stored ∧ (lines stored).head? = some first ∧
      ((∃ files, materializeTrainingFiles library.float stage algorithm (some stored)
        (.obj (Json.sortedFields .canonical p.dumpPresent)) = .ok files) ↔ PlainUtf8 first) ∧
      ∀ info format body, materializeTrainingFiles library.float stage algorithm (some stored)
          (.obj (Json.sortedFields .canonical p.dumpPresent)) = .ok (info, format, body) →
        ∃ config returned, buildTrainingConfig ((workspaceSpec stage algorithm format).with p) = .ok config ∧
          validateTrainingConfig library.float (workspaceSpec stage algorithm format) (some (writtenFile body)) =
            .ok returned ∧ returned.Perm config := by
  obtain ⟨first, rest, row, recordFormat, hfinal, hlines, -, -, hiff, hrecord, -⟩ := first_of_uploaded h
  have hagreed {info : DatasetInfo} {format : DatasetFormat}
      (hinfo : datasetInfo library.float stage (some s.source) = .ok (info, format)) :
      ∃ body, Agreed library.float (workspaceSpec stage algorithm format) p body := by
    have hfits : format = .cptText ↔ stage = .cpt := by
      have hdeclared : format = datasetFormat recordFormat := (hrecord _ hinfo).declares.declared
      rw [hdeclared]
      exact (hrecord _ hinfo).fits
    exact agreed_of_accepted hp hfits hfloats
  refine ⟨s.source, first, hfinal, by rw [hlines]; rfl, ⟨?_, fun hplain => ?_⟩, fun info format body hfiles => ?_⟩
  · rintro ⟨files, hfiles⟩
    obtain ⟨⟨info, format⟩, hinfo, -⟩ := bind_eq_ok.mp hfiles
    exact hiff.mp ⟨_, mapError_eq_ok.mp hinfo⟩
  · obtain ⟨⟨info, format⟩, hinfo⟩ := hiff.mpr hplain
    obtain ⟨body, hbody⟩ := hagreed hinfo
    exact ⟨_, bind_eq_ok.mpr
      ⟨_, mapError_eq_ok.mpr hinfo, bind_eq_ok.mpr ⟨body, mapError_eq_ok.mpr hbody.materialized, rfl⟩⟩⟩
  · obtain ⟨⟨declared, f⟩, hinfo, hfiles⟩ := bind_eq_ok.mp hfiles
    obtain ⟨config, hconfig, hfiles⟩ := bind_eq_ok.mp hfiles
    cases hfiles
    obtain ⟨body', hbody⟩ := hagreed (mapError_eq_ok.mp hinfo)
    obtain rfl := Except.ok.inj (hbody.materialized.symm.trans (mapError_eq_ok.mp hconfig))
    exact ⟨_, _, hbody.built, hbody.validated, Json.sortedFields_scalars hbody.scalar⟩

/-- `{"instruction":"i","output":"o"}`. -/
def instruction : Bytes :=
  [123, 34, 105, 110, 115, 116, 114, 117, 99, 116, 105, 111, 110, 34, 58, 34, 105, 34, 44, 34, 111,
    117, 116, 112, 117, 116, 34, 58, 34, 111, 34, 125]

/-- The adapter of the example is trained on one instruction. -/
theorem instruction_is_trained :
    ∃ info body config returned,
      materializeTrainingFiles Sample.float .sft .qlora (some instruction)
        (.obj (Json.sortedFields .canonical Sample.parameters2.dumpPresent)) = .ok (info, .alpaca, body) ∧
      buildTrainingConfig ((workspaceSpec .sft .qlora .alpaca).with Sample.parameters2) = .ok config ∧
      validateTrainingConfig Sample.float (workspaceSpec .sft .qlora .alpaca) (some (writtenFile body)) = .ok returned ∧
      returned.Perm config := by
  have hstored : (validateAndStoreJsonl { plainLibrary with float := Sample.float } undisturbed .sft
      ⟨instruction, none, none, 0⟩).1 =
      .ok ⟨1, 32, instruction.map UInt8.toNat, [], [py "instruction", py "output"], some .sftAlpaca⟩ := by
        decide +kernel
  have hcontent : (validateAndStoreJsonl { plainLibrary with float := Sample.float } undisturbed .sft
      ⟨instruction, none, none, 0⟩).2.final = some instruction := by decide +kernel
  obtain ⟨stored, first, hfinal, hfirst, hiff, hfiles⟩ := files_are_accepted { plainLibrary with float := Sample.float }
    undisturbed .sft .qlora ⟨instruction, none, none, 0⟩ _ _ (Sample.raw 2) Sample.parameters2 (Prod.ext hstored rfl)
    Sample.accepted2 (Sample.readBack Sample.numbers2)
  obtain rfl := Option.some.inj (hcontent.symm.trans hfinal)
  obtain rfl := Option.some.inj (hfirst.symm.trans (by decide : (lines instruction).head? = some instruction))
  have hplain : PlainUtf8 instruction := ⟨by decide, instruction.map UInt8.toNat, by decide +kernel, by decide⟩
  obtain ⟨⟨info, format, body⟩, hmaterialized⟩ := hiff.mpr hplain
  obtain ⟨config, returned, hbuilt, hvalidated, hperm⟩ := hfiles info format body hmaterialized
  have hformat : format = .alpaca := by
    obtain ⟨⟨declared, f⟩, hinfo, hrest⟩ := bind_eq_ok.mp hmaterialized
    obtain ⟨config, -, hrest⟩ := bind_eq_ok.mp hrest
    cases hrest
    have hknown : (datasetInfo Sample.float .sft (some instruction)).toOption.map Prod.snd =
      some .alpaca := by decide +kernel
    have hinfo : datasetInfo Sample.float .sft (some instruction) = .ok (info, format) := mapError_eq_ok.mp hinfo
    rw [hinfo] at hknown
    exact Option.some.inj hknown
  subst hformat
  exact ⟨info, body, config, returned, hmaterialized, hbuilt, hvalidated, hperm⟩

end OpenLLMOps.Training
