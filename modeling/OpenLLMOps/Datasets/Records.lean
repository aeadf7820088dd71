import OpenLLMOps.Evaluation.Samples
import OpenLLMOps.Framework.Json.Loads
import OpenLLMOps.Framework.Lines

/-!
# Dataset records

The rules for one line of an uploaded dataset: `validate_training_record`, the checks that
`validate_and_store_jsonl` adds to `parse_row`, and the limits on field names. What depends on the lines
before (the names and ids so far, the format of the first record) is a `Context`; a line gives its messages
and the next context (`checkLine`).
-/

namespace OpenLLMOps.Datasets

open Framework Evaluation

inductive DatasetType
  | cpt
  | sft
  | evaluation
  deriving DecidableEq

inductive TrainingStage
  | cpt
  | sft
  deriving DecidableEq

/-- The type of the datasets of a stage. -/
def TrainingStage.datasetType : TrainingStage → DatasetType
  | cpt => .cpt
  | sft => .sft

/-- `record_format`. -/
inductive RecordFormat
  | cptText
  | cptContent
  | sftMessages
  | sftConversations
  | sftAlpaca
  deriving DecidableEq

def RecordFormat.text : RecordFormat → PyStr
  | cptText => py "cpt_text"
  | cptContent => py "cpt_content"
  | sftMessages => py "sft_messages"
  | sftConversations => py "sft_conversations"
  | sftAlpaca => py "sft_alpaca"

/-- What is called of the standard library. -/
structure DatasetLibrary where
  unicode : UnicodeData
  float : PyStr → PyFloat
  /-- `str` of what `json.loads` raises for a line. -/
  describe : JsonError → Bytes → PyStr
  sha256 : Bytes → PyStr

/-! ## Training records -/

/-- A string that is not blank. -/
def isText (v : Option Json) : Bool := (v.bind text?).isSome

def isList : Option Json → Bool
  | some (.arr _) => true
  | _ => false

def isString : Option Json → Bool
  | some (.str _) => true
  | _ => false

/-- `validate_training_record` for CPT. -/
def validateCptRecord (item : Evaluation.Row) : Except PyStr RecordFormat :=
  let hasText := isText (Json.get? item (py "text"))
  let hasContent := isText (Json.get? item (py "content"))
  if hasText = hasContent then .error (py "CPT 每行必须且只能使用非空 text 或 content 之一")
  else if hasText then .ok .cptText
  else .ok .cptContent

/-- The formats that a record could have. -/
def sftFormats (item : Evaluation.Row) : List RecordFormat :=
  (if isList (Json.get? item (py "messages")) then [.sftMessages] else []) ++
    (if isList (Json.get? item (py "conversations")) then [.sftConversations] else []) ++
    (if isString (Json.get? item (py "instruction")) && isString (Json.get? item (py "output")) then [.sftAlpaca] else [])

/-- A message with a role and a content. -/
def isMessage (roleKey contentKey : String) : Json → Bool
  | .obj message => isText (Json.get? message (py roleKey)) && isText (Json.get? message (py contentKey))
  | _ => false

/-- The messages of a record. -/
def validateMessages (field roleKey contentKey : String) (format : RecordFormat) (item : Evaluation.Row) :
    Except PyStr RecordFormat :=
  match Json.get? item (py field) with
  | some (.arr (message :: messages)) =>
    if (message :: messages).all (isMessage roleKey contentKey) then .ok format
    else .error (py "SFT " ++ py field ++ py " 每项必须包含非空 " ++ py roleKey ++ py "/" ++ py contentKey)
  | _ => .error (py "SFT " ++ py field ++ py " 不能为空")

def validateAlpaca (item : Evaluation.Row) : Except PyStr RecordFormat :=
  if !isText (Json.get? item (py "instruction")) || !isText (Json.get? item (py "output")) then
    .error (py "Alpaca instruction/output 必须是非空字符串")
  else if (Json.get? item (py "input")).any fun v => !isString (some v) then .error (py "Alpaca input 如存在必须是字符串")
  else .ok .sftAlpaca

/-- `validate_training_record` for SFT. -/
def validateSftRecord (item : Evaluation.Row) : Except PyStr RecordFormat :=
  match sftFormats item with
  | [.sftMessages] => validateMessages "messages" "role" "content" .sftMessages item
  | [.sftConversations] => validateMessages "conversations" "from" "value" .sftConversations item
  | [.sftAlpaca] => validateAlpaca item
  | _ => .error (py "SFT 每行必须且只能使用 messages、conversations 或 instruction+output 一种格式")

/-- `validate_training_record`: an error, or the format of the record. -/
def validateTrainingRecord (item : Json) (datasetType : DatasetType) : Except PyStr (Option RecordFormat) :=
  match item with
  | .obj item =>
    match datasetType with
    | .cpt => (validateCptRecord item).map some
    | .sft => (validateSftRecord item).map some
    | .evaluation => .ok none
  | _ => .error (py "每行必须是 JSON 对象")

/-! ## One line -/

def maxFieldNameLength : Nat := 128

def maxSchemaFields : Nat := 256

def maxEvaluationSourceFieldLength : Nat := 191

def maxEvaluationRecords : Nat := 200000

def maxTrainingRecords : Nat := 10000000

/-- What is known from the lines before. -/
structure Context where
  recordCount : Nat
  fieldNames : List PyStr
  sampleIds : List PyStr
  recordFormat : Option RecordFormat
  deriving DecidableEq

/-- Before the first line. -/
def Context.empty : Context := ⟨0, [], [], none⟩

/-- The loop over the keys of a record: the messages, and the names known then. -/
def checkFieldNames : List PyStr → List PyStr → List PyStr × List PyStr
  | names, [] => ([], names)
  | names, key :: keys =>
    if maxFieldNameLength < key.length then
      let (messages, names) := checkFieldNames names keys
      (py "字段名超过 128 字符限制" :: messages, names)
    else if key ∉ names ∧ maxSchemaFields ≤ names.length then
      let (messages, names) := checkFieldNames names keys
      (py "全文件字段种类超过 256 限制" :: messages, names)
    else checkFieldNames (if key ∈ names then names else names ++ [key]) keys

/-- `_validate_evaluation_source_text`, unless it returns `None`. -/
def sourceTextError (value : PyStr) (field : String) : List PyStr :=
  if value = [] ∨ maxEvaluationSourceFieldLength < value.length ∨ value.any (· < 32) then
    [py "评测字段 " ++ py field ++ py " 必须非空、不含控制字符且不超过 191 字符"]
  else []

/-- The category of a record is a string. -/
def categoryError (item : Evaluation.Row) : List PyStr :=
  if isString (some ((Json.get? item (py "category")).getD (.str (py "default")))) then []
  else [py "评测字段 category 必须是字符串"]

/-- The metadata of a record has no entry for the source. -/
def metadataError (item : Evaluation.Row) : List PyStr :=
  match (Json.get? item (py "metadata")).getD (.obj []) with
  | .obj metadata =>
    if (Json.get? metadata (py "openllmops_source")).isSome then [py "评测 metadata 不能包含保留字段 openllmops_source"]
    else []
  | _ => []

/-- The messages for an evaluation record, and the ids known then. -/
def checkEvaluationRecord (u : UnicodeData) (ids : List PyStr) (item : Evaluation.Row) (line : Nat) : List PyStr × List PyStr :=
  match parseRow u item line with
  | .error e => ([e.text], ids)
  | .ok sample =>
    (categoryError item ++ metadataError item ++ sourceTextError sample.sampleId "id" ++
        sourceTextError sample.category "category" ++
        (if sample.sampleId ∈ ids then [py "样本 ID 重复: " ++ sample.sampleId] else []),
      if sample.sampleId ∈ ids then ids else ids ++ [sample.sampleId])

/-- The messages for a training record, or for what is no object, and the format known then. -/
def checkTrainingRecord (format : Option RecordFormat) (item : Json) (datasetType : DatasetType) :
    List PyStr × Option RecordFormat :=
  match validateTrainingRecord item datasetType with
  | .error message => ([message], format)
  | .ok none => ([], format)
  | .ok (some recordFormat) =>
    match format with
    | none => ([], some recordFormat)
    | some first =>
      (if first ≠ recordFormat then [py "训练数据格式必须全文件一致，首条为 " ++ first.text] else [], some first)

/-- The keys of a record. -/
def keysOf : Json → List PyStr
  | .obj item => item.map Prod.fst
  | _ => []

section

variable (library : DatasetLibrary) (datasetType : DatasetType)

/-- The messages for a decoded line, and the context behind it. -/
def checkRecord (context : Context) (line : Nat) (item : Json) : List PyStr × Context :=
  let (messages, fieldNames) := checkFieldNames context.fieldNames (keysOf item)
  match datasetType, item with
  | .evaluation, .obj row =>
    let (more, sampleIds) := checkEvaluationRecord library.unicode context.sampleIds row line
    (messages ++ more, { context with fieldNames, sampleIds })
  | _, _ =>
    let (more, recordFormat) := checkTrainingRecord context.recordFormat item datasetType
    (messages ++ more, { context with fieldNames, recordFormat })

/-- `json.loads` with the two hooks, and the text of the exception. -/
def loadsLine (raw : Bytes) : Except PyStr Json :=
  (loads (.strict library.float) raw).mapError (library.describe · raw)

/-- The messages for a line that is not too long, and the context behind it. -/
def checkLine (context : Context) (line : Nat) (raw : Bytes) : List PyStr × Context :=
  if isBlank raw then (if datasetType = .evaluation then [] else [py "不允许空行"], context)
  else
    match loadsLine library raw with
    | .error text => ([py "JSON 解析失败：" ++ text], context)
    | .ok item => checkRecord library datasetType { context with recordCount := context.recordCount + 1 } line item

end

end OpenLLMOps.Datasets
