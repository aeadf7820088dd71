import OpenLLMOps.Datasets.Exact
import OpenLLMOps.Framework.Json.Plain

/-!
# The later loaders

What reads a stored dataset: `load_jsonl` of the evaluation, which iterates over the lines of the file and
decodes them without hooks, and `_verify_training_dataset` of the control plane, which reads with a bound and
with the strict hooks. Both read what the upload has accepted, and find in it what the upload has recorded
(`accepted_evaluation_loads`, `accepted_training_verifies`, `stored_dataset_is_read_back`).
-/

namespace OpenLLMOps.Datasets

open Framework Effect Evaluation

/-! ## `load_jsonl` -/

/-- `MAX_LINE_BYTES` of `openllmops_eval`. -/
def maxEvaluationLineBytes : Nat := 1048576

/-- What `load_jsonl` raises. -/
inductive LoadError
  /-- A `DatasetValidationError`. -/
  | invalid (text : PyStr)
  /-- The `ValueError` of `int` for more than 4300 digits. -/
  | value
  deriving DecidableEq

section

variable (library : DatasetLibrary)

/-- The error of a line. -/
def lineError {α : Type} (line : Nat) (text : PyStr) : Except LoadError α :=
  .error (.invalid (py "第 " ++ decimal line ++ py " 行" ++ text))

/-- The object of a line. -/
def loadRow (line : Nat) (raw : Bytes) : Except LoadError Evaluation.Row :=
  match loads (.plain library.float) raw with
  | .error .digits => .error .value
  | .error _ => lineError line (py "不是有效 UTF-8 JSON")
  | .ok (.obj row) => .ok row
  | .ok _ => lineError line (py "必须是 JSON 对象")

/-- The body of the loop; `samples` are those of the lines before, and `seen_ids` their ids. -/
def loadLine (samples : List Sample) (line : Nat) (raw : Bytes) : Except LoadError (List Sample) :=
  if maxEvaluationLineBytes < raw.length then
    lineError line (py "超过 " ++ decimal maxEvaluationLineBytes ++ py " 字节限制")
  else if isBlank raw then .ok samples
  else do
    let row ← loadRow library line raw
    let sample ← (parseRow library.unicode row line).mapError fun e => LoadError.invalid e.text
    if sample.sampleId ∈ samples.map Sample.sampleId then lineError line (py "样本 ID 重复: " ++ sample.sampleId)
    else .ok (samples ++ [sample])

/-- The loop over the lines from the number `line` on. -/
def loadLines : Nat → List Sample → List Bytes → Except LoadError (List Sample)
  | _, samples, [] => .ok samples
  | line, samples, raw :: rest => do
    let samples ← loadLine library samples line raw
    loadLines (line + 1) samples rest

/-- `load_jsonl` of a file with this content. -/
def loadJsonl (content : Bytes) : Except LoadError (List Sample × PyStr) := do
  let samples ← loadLines library 1 [] (lines content)
  if samples = [] then .error (.invalid (py "数据集不包含有效样本"))
  else .ok (samples, library.sha256 (lines content).flatten)

end

/-! ## `_verify_training_dataset` -/

def maxDatasetBytes : Nat := 5 * 1024 * 1024 * 1024

def maxTrainingLineBytes : Nat := 16 * 1024 * 1024

/-- What `_verify_training_dataset` raises. -/
inductive VerifyError
  /-- A `TrainingControlError`. -/
  | refused (text : PyStr)
  /-- The `ValueError` of `int` for more than 4300 digits. -/
  | value
  deriving DecidableEq

/-- The file, as it is opened and read. -/
structure OpenedFile where
  content : Bytes
  regular : Bool
  sizeBytes : Nat
  /-- The signatures before and after the reading are the same. -/
  unchanged : Bool

/-- The columns of a `Dataset` that are compared; the format is from the schema summary. -/
structure DatasetRecord where
  recordCount : Nat
  sizeBytes : Nat
  sha256 : PyStr
  recordFormat : Option RecordFormat

/-- The variables of the loop. -/
structure Verified where
  lineNumber : Nat
  recordCount : Nat
  recordFormat : Option RecordFormat
  digested : Bytes

section

variable (library : DatasetLibrary)

/-- The error of a line. -/
def trainingLineError {α : Type} (line : Nat) (text : PyStr) : Except VerifyError α :=
  .error (.refused (py "训练数据集第 " ++ decimal line ++ py " 行" ++ text))

/-- `json.loads` with the two hooks, which raise a `TrainingControlError` here. -/
def loadTrainingLine (line : Nat) (raw : Bytes) : Except VerifyError Json :=
  match loads (.strict library.float) raw with
  | .error .digits => .error .value
  | .error (.constant text) => .error (.refused (py "JSON 不允许非有限数值：" ++ text))
  | .error (.duplicate key) => .error (.refused (py "JSON 对象包含重复字段：" ++ key))
  | .error _ => trainingLineError line (py " JSON 无效")
  | .ok item => .ok item

/-- The format of a record of this line. -/
def verifyRecord (datasetType : DatasetType) (line : Nat) (item : Json) : Except VerifyError RecordFormat :=
  match validateTrainingRecord item datasetType with
  | .ok (some format) => .ok format
  | .ok none => trainingLineError line (py "格式无效：未知格式")
  | .error message => trainingLineError line (py "格式无效：" ++ message)

/-- The body of the loop, behind the read. -/
def verifyLine (datasetType : DatasetType) (v : Verified) (raw : Bytes) : Except VerifyError Verified :=
  let line := v.lineNumber + 1
  if maxTrainingLineBytes < raw.length then trainingLineError line (py "超过 16 MiB")
  else if isBlank raw then trainingLineError line (py "为空")
  else do
    let item ← loadTrainingLine library line raw
    let format ← verifyRecord datasetType line item
    if v.recordFormat.any (· ≠ format) then .error (.refused (py "训练数据集混用了多种行格式"))
    else .ok ⟨line, v.recordCount + 1, some format, v.digested ++ raw⟩

/-- The loop over the file. -/
def verifyLines (datasetType : DatasetType) (content : Bytes) : Except VerifyError Verified :=
  readLines maxTrainingLineBytes (verifyLine library datasetType) (content.length + 1) ⟨0, 0, none, []⟩ content

/-- `_verify_training_dataset`; `none` is a file that cannot be opened or read. -/
def verifyTrainingDataset (file : Option OpenedFile) (dataset : DatasetRecord) (stage : TrainingStage) :
    Except VerifyError Unit :=
  match file with
  | none => .error (.refused (py "训练数据集无法安全读取"))
  | some file =>
    if !file.regular || file.sizeBytes = 0 || maxDatasetBytes < file.sizeBytes then
      .error (.refused (py "训练数据集为空或超过 5 GiB"))
    else do
      let v ← verifyLines library stage.datasetType file.content
      if !file.unchanged then .error (.refused (py "训练数据集读取期间发生变化"))
      else if v.recordCount = 0 then .error (.refused (py "训练数据集不含有效记录"))
      else if dataset.sizeBytes ≠ file.sizeBytes ∨ dataset.recordCount ≠ v.recordCount ∨
          dataset.sha256 ≠ library.sha256 v.digested then
        .error (.refused (py "训练数据集与数据库大小、记录数或 SHA-256 不一致"))
      else if dataset.recordFormat ≠ v.recordFormat then
        .error (.refused (py "训练数据集行格式与数据库 schema 摘要不一致"))
      else .ok ()

end

/-! ## The loaders read what was accepted -/

section

variable {library : DatasetLibrary}

theorem loadsLine_ok {raw : Bytes} {v : Json} (h : loadsLine library raw = .ok v) :
    loads (.strict library.float) raw = .ok v := by
  unfold loadsLine at h
  cases hload : loads (.strict library.float) raw with
  | error e =>
    rw [hload] at h
    cases h
  | ok v' =>
    rw [hload] at h
    exact congrArg Except.ok (Except.ok.inj h)

/-- A record is loaded as its sample. -/
theorem loadLine_record {raw : Bytes} {line : Nat} {row : Evaluation.Row} {sample : Sample} {samples : List Sample}
    (hshort : raw.length ≤ maxEvaluationLineBytes) (hblank : isBlank raw = false)
    (h : EvaluationRecord library raw line row sample) (hfresh : sample.sampleId ∉ samples.map Sample.sampleId) :
    loadLine library samples line raw = .ok (samples ++ [sample]) := by
  have hrow : loadRow library line raw = .ok row := by
    rw [loadRow, loads_plain (loadsLine_ok h.decoded)]
  rw [loadLine, if_neg (Nat.not_lt.mpr hshort), hblank, if_neg Bool.false_ne_true]
  refine bind_eq_ok.mpr ⟨row, hrow, bind_eq_ok.mpr ⟨sample, ?_, if_neg hfresh⟩⟩
  rw [h.parsed]
  rfl

/-- The lines with these samples are loaded as them. -/
theorem loadLines_records {lines : List Bytes} {n : Nat} {samples done : List Sample}
    (hshort : ∀ raw ∈ lines, raw.length ≤ maxEvaluationLineBytes) (h : SamplesOf library (recordLines n lines) samples)
    (hdistinct : (done.map Sample.sampleId ++ samples.map Sample.sampleId).Nodup) :
    loadLines library n done lines = .ok (done ++ samples) := by
  induction lines generalizing n samples done with
  | nil =>
    cases h
    rw [List.append_nil]
    rfl
  | cons raw rest ih =>
    have hrest : ∀ line ∈ rest, line.length ≤ maxEvaluationLineBytes := fun line hline =>
      hshort line (List.mem_cons_of_mem _ hline)
    have hraw := hshort raw List.mem_cons_self
    rw [recordLines_cons] at h
    cases hblank : isBlank raw with
    | true =>
      rw [hblank, if_pos rfl] at h
      refine bind_eq_ok.mpr ⟨done, ?_, ih hrest h hdistinct⟩
      rw [loadLine, if_neg (Nat.not_lt.mpr hraw), if_pos hblank]
    | false =>
      rw [hblank, if_neg Bool.false_ne_true] at h
      cases h with
      | @cons _ sample _ samples hrecord hrecords =>
        obtain ⟨row, hrow⟩ := hrecord
        rw [List.map_cons, List.append_cons] at hdistinct
        have hfresh : sample.sampleId ∉ done.map Sample.sampleId := by
          intro hmem
          have hpair := (List.nodup_append.mp (List.nodup_append.mp hdistinct).1).2.2
          exact hpair _ hmem _ (List.mem_singleton_self _) rfl
        refine bind_eq_ok.mpr ⟨done ++ [sample], loadLine_record hraw hblank hrow hfresh, ?_⟩
        rw [List.append_cons done sample samples]
        refine ih hrest hrecords ?_
        rw [List.map_append, List.map_singleton]
        exact hdistinct

/-- What the upload accepts as an evaluation dataset is loaded. -/
theorem accepted_evaluation_loads {stream : Bytes} {r : StoredDataset}
    (h : Accepted library .evaluation stream r) :
    ∃ samples, loadJsonl library stream = .ok (samples, r.sha256) ∧ samples.length = r.recordCount ∧
      SamplesOf library (recordLines 1 (lines stream)) samples := by
  obtain ⟨samples, hsamples, hdistinct⟩ := h.samples rfl
  have hlength : samples.length = r.recordCount := by
    rw [h.recordCount, ← length_recordLines 1, hsamples.length_eq]
  refine ⟨samples, bind_eq_ok.mpr ⟨samples, loadLines_records h.lineLimit hsamples (by simpa using hdistinct), ?_⟩,
    hlength, hsamples⟩
  have hsome : samples ≠ [] := by
    intro hnil
    rw [hnil] at hlength
    exact h.someRecord hlength.symm
  rw [if_neg hsome, lines_flatten, h.sha256]

/-- A record of the format of the records before. -/
theorem verifyLine_record {datasetType : DatasetType} {format : RecordFormat} {v : Verified} {raw : Bytes}
    (hshort : raw.length ≤ maxTrainingLineBytes) (h : HasFormat library datasetType format raw)
    (hv : v.recordFormat = none ∨ v.recordFormat = some format) :
    verifyLine library datasetType v raw =
      .ok ⟨v.lineNumber + 1, v.recordCount + 1, some format, v.digested ++ raw⟩ := by
  obtain ⟨hblank, row, hload, hvalid⟩ := h
  have hitem : loadTrainingLine library (v.lineNumber + 1) raw = .ok (.obj row) := by
    rw [loadTrainingLine, loadsLine_ok hload]
  have hformat : verifyRecord datasetType (v.lineNumber + 1) (.obj row) = .ok format := by
    rw [verifyRecord, hvalid]
  have hsame : ¬ v.recordFormat.any (· ≠ format) = true := by
    rcases hv with hv | hv <;> simp [hv]
  simp only [verifyLine]
  rw [if_neg (Nat.not_lt.mpr hshort), hblank, if_neg Bool.false_ne_true]
  exact bind_eq_ok.mpr ⟨_, hitem, bind_eq_ok.mpr ⟨format, hformat, if_neg hsame⟩⟩

/-- The lines of one format are verified. -/
theorem verifyLine_records {datasetType : DatasetType} {format : RecordFormat} {lines : List Bytes} {v : Verified}
    (hlines : ∀ raw ∈ lines, raw.length ≤ maxTrainingLineBytes ∧ HasFormat library datasetType format raw)
    (hv : v.recordFormat = none ∨ v.recordFormat = some format) :
    lines.foldlM (verifyLine library datasetType) v =
      .ok ⟨v.lineNumber + lines.length, v.recordCount + lines.length,
        if lines = [] then v.recordFormat else some format, v.digested ++ lines.flatten⟩ := by
  induction lines generalizing v with
  | nil => simp [Pure.pure, Except.pure]
  | cons raw rest ih =>
    obtain ⟨hshort, hrecord⟩ := hlines raw List.mem_cons_self
    rw [List.foldlM_cons]
    refine bind_eq_ok.mpr ⟨_, verifyLine_record hshort hrecord hv, ?_⟩
    rw [ih (fun line hline => hlines line (List.mem_cons_of_mem _ hline)) (.inr rfl)]
    simp only [List.length_cons, ite_self, reduceCtorEq, if_false, List.flatten_cons, List.append_assoc,
      Except.ok.injEq, Verified.mk.injEq, and_true]
    omega

/-- A file with lines of one format is verified. -/
theorem verifyLines_records {datasetType : DatasetType} {format : RecordFormat} {content : Bytes}
    (hlines : ∀ raw ∈ lines content, raw.length ≤ maxTrainingLineBytes ∧ HasFormat library datasetType format raw) :
    verifyLines library datasetType content =
      .ok ⟨(lines content).length, (lines content).length, if lines content = [] then none else some format, content⟩ := by
  have hlong : ∀ v, ∃ e, ∀ raw : Bytes, maxTrainingLineBytes < raw.length → verifyLine library datasetType v raw = .error e :=
    fun v => ⟨_, fun raw hraw => if_pos hraw⟩
  rw [verifyLines, readLines_eq hlong _ (Nat.lt_succ_self _), verifyLine_records hlines (.inl rfl), lines_flatten]
  simp

/-- What is recorded of a stored dataset. -/
def StoredDataset.record (r : StoredDataset) : DatasetRecord := ⟨r.recordCount, r.sizeBytes, r.sha256, r.recordFormat⟩

/-- A regular file that nobody changes. -/
def unchangedFile (content : Bytes) : OpenedFile := ⟨content, true, content.length, true⟩

/-- What the upload accepts as a training dataset is verified. -/
theorem accepted_training_verifies {stage : TrainingStage} {stream : Bytes} {r : StoredDataset}
    (h : Accepted library stage.datasetType stream r) :
    verifyTrainingDataset library (some (unchangedFile stream)) r.record stage = .ok () := by
  have htype : stage.datasetType ≠ .evaluation := by cases stage <;> exact nofun
  have hlimits : lineLimit stage.datasetType = maxTrainingLineBytes ∧ byteLimit stage.datasetType = maxDatasetBytes := by
    cases stage <;> exact ⟨rfl, rfl⟩
  obtain ⟨format, hformat, hlines⟩ := h.format htype
  have hcount : r.recordCount = (lines stream).length := by
    rw [h.recordCount, List.countP_eq_length]
    intro raw hraw
    rw [(hlines raw hraw).1]
    rfl
  have hsome : lines stream ≠ [] := by
    intro hnil
    exact h.someRecord (by rw [hcount, hnil]; rfl)
  have hpos : stream.length ≠ 0 := by
    intro hzero
    rw [List.length_eq_zero_iff.mp hzero] at hsome
    exact hsome rfl
  have hverified := verifyLines_records fun raw hraw => ⟨hlimits.1 ▸ h.lineLimit raw hraw, hlines raw hraw⟩
  have hsize : ¬ ((!(unchangedFile stream).regular || (unchangedFile stream).sizeBytes = 0 ||
      maxDatasetBytes < (unchangedFile stream).sizeBytes) = true) := by
    have hle : stream.length ≤ maxDatasetBytes := hlimits.2 ▸ h.withinLimit
    simp only [unchangedFile, Bool.not_true, Bool.false_or, Bool.or_eq_true]
    rintro (hempty | hlarge)
    · exact hpos (of_decide_eq_true hempty)
    · exact Nat.not_lt.mpr hle (of_decide_eq_true hlarge)
  unfold verifyTrainingDataset
  dsimp only
  rw [if_neg hsize]
  refine bind_eq_ok.mpr ⟨_, hverified, ?_⟩
  have hrecords : (lines stream).length ≠ 0 := fun hzero => hsome (List.length_eq_zero_iff.mp hzero)
  simp [unchangedFile, hrecords, hsome, StoredDataset.record, h.sizeBytes, hcount, h.sha256, hformat]

/-- What is stored is read back by the loader of its type. -/
theorem stored_dataset_is_read_back (library : DatasetLibrary) (around : Surroundings) (datasetType : DatasetType)
    (s s' : UploadState) (r : StoredDataset)
    (h : validateAndStoreJsonl library around datasetType s = (.ok r, s')) :
    ∃ stored, s'.final = some stored ∧
      (datasetType = .evaluation → ∃ samples, loadJsonl library stored = .ok (samples, r.sha256) ∧
        samples.length = r.recordCount ∧ SamplesOf library (recordLines 1 (lines s.source)) samples) ∧
      ∀ stage : TrainingStage, stage.datasetType = datasetType →
        verifyTrainingDataset library (some (unchangedFile stored)) r.record stage = .ok () := by
  have houtcome : wp (validateAndStoreJsonl library around datasetType) (Outcome library around datasetType s) s :=
    wp_validateAndStoreJsonl
  unfold wp at houtcome
  rw [h] at houtcome
  obtain ⟨p, hscan, herrors, rfl, -, hfinal, -⟩ := houtcome
  obtain ⟨hdigested, haccepted⟩ := accepted_of_scan hscan herrors
  rw [hdigested] at hfinal
  refine ⟨s.source, hfinal, fun htype => ?_, fun stage hstage => ?_⟩
  · subst htype
    exact accepted_evaluation_loads haccepted
  · subst hstage
    exact accepted_training_verifies haccepted

/-- `{"question":"q","choices":["a","b"],"answer":"A"}` behind a blank line. -/
def oneQuestion : Bytes :=
  [10, 123, 34, 113, 117, 101, 115, 116, 105, 111, 110, 34, 58, 34, 113, 34, 44, 34, 99, 104, 111, 105, 99, 101, 115, 34,
    58, 91, 34, 97, 34, 44, 34, 98, 34, 93, 44, 34, 97, 110, 115, 119, 101, 114, 34, 58, 34, 65, 34, 125]

/-- The question has the number of its line as its id. -/
theorem question_is_read_back :
    ∃ samples, loadJsonl plainLibrary oneQuestion = .ok (samples, oneQuestion.map UInt8.toNat) ∧ samples.length = 1 ∧
      samples.map Sample.sampleId = [py "2"] := by
  have hstored : (validateAndStoreJsonl plainLibrary undisturbed .evaluation ⟨oneQuestion, none, none, 0⟩).1 =
      .ok ⟨1, 50, oneQuestion.map UInt8.toNat, [], [py "answer", py "choices", py "question"], none⟩ := by
    decide +kernel
  have hcontent : (validateAndStoreJsonl plainLibrary undisturbed .evaluation ⟨oneQuestion, none, none, 0⟩).2.final =
      some oneQuestion := by decide +kernel
  obtain ⟨stored, hfinal, hload, -⟩ := stored_dataset_is_read_back plainLibrary undisturbed .evaluation
    ⟨oneQuestion, none, none, 0⟩ _ _ (Prod.ext hstored rfl)
  obtain rfl := Option.some.inj (hcontent.symm.trans hfinal)
  obtain ⟨samples, hsamples, hlength, -⟩ := hload rfl
  refine ⟨samples, hsamples, hlength, ?_⟩
  have hids : (loadJsonl plainLibrary oneQuestion).toOption.map (fun r => r.1.map Sample.sampleId) = some [py "2"] := by
    decide +kernel
  rw [hsamples] at hids
  exact Option.some.inj hids

end

end OpenLLMOps.Datasets
