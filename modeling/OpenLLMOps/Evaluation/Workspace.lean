import Mathlib.Data.Prod.Lex
import OpenLLMOps.Evaluation.Inputs
import OpenLLMOps.Framework.Dict
import OpenLLMOps.Framework.Json.Dumps
import OpenLLMOps.Framework.Lines
import OpenLLMOps.Framework.Text

/-!
# The evaluation workspace

`prepare_evaluation_workspace`: the sources, sorted by their names, are merged into one file. Every record gets
an id and a category that begin with the name of its source, and the origin is kept in its metadata; the record
is written as canonical JSON. A manifest has the digests of the sources and of the merged file.

What the node finds in its file system is a `Node`: the directories it prepares, what a path resolves to, the
files, and whether it can write.
-/

namespace OpenLLMOps.Evaluation

open Framework

def maxDatasetFiles : Nat := 16

def maxDatasetFileBytes : Nat := 256 * 1024 * 1024

def maxDatasetTotalBytes : Nat := 512 * 1024 * 1024

def maxDatasetLineBytes : Nat := 1048576

/-- `MAX_DATASET_RECORDS`. -/
def maxMergedRecords : Nat := 200000

/-- `MAX_REPORT_CATEGORIES`. -/
def maxMergedCategories : Nat := 4096

/-- `MAX_REPORT_SAMPLE_ID_BYTES`. -/
def maxSampleIdBytes : Nat := 32 * 1024 * 1024

def maxPreparedManifestBytes : Nat := 1024 * 1024

/-- `DatasetSource`. -/
structure DatasetSource where
  name : PyStr
  path : PyStr
  deriving DecidableEq

/-- A file, as it is opened and read. -/
structure SourceFile where
  content : Bytes
  regular : Bool
  /-- The signatures before and after the reading are the same. -/
  unchanged : Bool
  /-- No read raises an `OSError`. -/
  readable : Bool

/-- What the functions on the file system give, and the library. -/
structure Node where
  unicode : UnicodeData
  float : PyStr → PyFloat
  sha256 : Bytes → PyStr
  /-- `prepare_output_directory`. -/
  outputDirectory : Checked PyStr
  /-- `_derived_runtime_directory`. -/
  runtimeDirectory : Checked PyStr
  /-- `strict_existing_path`: the resolved path, and whether its root is the one of the evaluation datasets. -/
  existingPath : PyStr → Checked (PyStr × Bool)
  /-- `_source_file`; `none` is an `OSError`. -/
  sourceFile : PyStr → Option SourceFile
  /-- The resolved path of the manifest beside a dataset, and its content. -/
  preparedManifest : PyStr → Checked (PyStr × Bytes)
  /-- No operation on the merged file raises an `OSError`. -/
  writable : Bool

/-- The variables of the loops. -/
structure MergeState where
  totalBytes : Nat
  seenIds : List PyStr
  seenCategories : List PyStr
  sampleIdBytes : Nat
  totalRecords : Nat
  merged : Bytes
  deriving DecidableEq

def MergeState.start : MergeState := ⟨0, [], [], 0, 0, []⟩

/-- The variables of the loop over one source. -/
structure SourceState where
  lineNumber : Nat
  sourceRecords : Nat
  digested : Bytes
  state : MergeState
  deriving DecidableEq

/-- The paths and contents of an `EvaluationWorkspace`. -/
structure EvaluationWorkspace where
  datasetPath : PyStr
  manifestPath : PyStr
  outputPath : PyStr
  dataset : Bytes
  manifest : Bytes
  deriving DecidableEq

/-! ## One record -/

/-- `encode()`; a `UnicodeEncodeError` is a `ValueError`. -/
def encodeText (s : PyStr) : Checked Bytes :=
  match s.encode with
  | some b => .ok b
  | none => .error .value

/-- `json.dumps(…, sort_keys=True, separators=(",", ":"), allow_nan=False).encode()`. -/
def canonicalJson (v : Json) : Checked Bytes :=
  match dumps .canonical 0 v with
  | some text => encodeText text
  | none => .error .value

/-- The id of a record in its source. -/
def originalId (u : UnicodeData) (row : List (PyStr × Json)) (line : Nat) : Checked PyStr :=
  safeShortText (.str (((Json.get? row (py "id")).getD (.int line)).toStr u)) (py "id") 191

/-- The category of a record in its source. -/
def originalCategory (row : List (PyStr × Json)) : Checked PyStr :=
  safeShortText (match field row "category" with
    | .null => .str (py "default")
    | category => category) (py "category") 191

/-- The metadata of a record, without an entry for the source. -/
def originalMetadata (row : List (PyStr × Json)) : Checked (List (PyStr × Json)) :=
  match (Json.get? row (py "metadata")).getD (.obj []) with
  | .obj metadata =>
    if (Json.get? metadata (py "openllmops_source")).isSome then inputError (py "评测数据 metadata 不能覆盖 openllmops_source")
    else .ok metadata
  | _ => inputError (py "评测数据 metadata 必须是对象")

/-- `merged_id`. -/
def mergedId (name originalId : PyStr) : PyStr := name ++ py ":" ++ originalId

/-- `merged_category`. -/
def mergedCategory (name category : PyStr) : PyStr := name ++ py "/" ++ category

/-- The row that is written. -/
def mergedRow (name originalId category : PyStr) (metadata row : List (PyStr × Json)) : List (PyStr × Json) :=
  Dict.set (Dict.set (Dict.set row (py "id") (.str (mergedId name originalId))) (py "category")
    (.str (mergedCategory name category))) (py "metadata")
    (.obj (Dict.set metadata (py "openllmops_source")
      (.obj [(py "name", .str name), (py "original_id", .str originalId)])))

section

variable (node : Node)

/-- The loop over a source, from the decoded line on. -/
def mergeRow (name : PyStr) (state : MergeState) (line : Nat) (row : List (PyStr × Json)) : Checked MergeState := do
  let originalId ← originalId node.unicode row line
  let seenIds := state.seenIds ++ [mergedId name originalId]
  if mergedId name originalId ∈ state.seenIds then inputError (py "评测样本 ID 重复：" ++ mergedId name originalId)
  else do
    let idBytes ← encodeText (mergedId name originalId)
    let sampleIdBytes := state.sampleIdBytes + idBytes.length
    if maxSampleIdBytes < sampleIdBytes then inputError (py "评测样本 ID 总字节数超过报告安全上限")
    else do
      let category ← originalCategory row
      let metadata ← originalMetadata row
      let seenCategories :=
        if mergedCategory name category ∈ state.seenCategories then state.seenCategories
        else state.seenCategories ++ [mergedCategory name category]
      if maxMergedCategories < seenCategories.length then
        inputError (py "评测分类数量超过报告上限 " ++ decimal maxMergedCategories)
      else do
        let body ← canonicalJson (.obj (mergedRow name originalId category metadata row))
        if maxMergedRecords < state.totalRecords + 1 then
          inputError (py "评测数据集记录数超过 " ++ decimal maxMergedRecords)
        else
          .ok { state with seenIds, seenCategories, sampleIdBytes, totalRecords := state.totalRecords + 1,
                           merged := state.merged ++ (body ++ [10]) }

/-- The body of the loop over a source. -/
def mergeLine (name : PyStr) (s : SourceState) (raw : Bytes) : Checked SourceState :=
  if maxDatasetLineBytes < raw.length then
    inputError (py "评测数据 " ++ name ++ py " 第 " ++ decimal (s.lineNumber + 1) ++ py " 行超过 1 MiB")
  else if isBlank raw then .ok { s with lineNumber := s.lineNumber + 1, digested := s.digested ++ raw }
  else do
    let value ← loadsJson (loads (.strict node.float)) raw
    match value with
    | .obj row => do
      let state ← mergeRow node name s.state (s.lineNumber + 1) row
      .ok ⟨s.lineNumber + 1, s.sourceRecords + 1, s.digested ++ raw, state⟩
    | _ => inputError (py "评测 JSONL 每行必须是对象")

/-! ## One source -/

/-- `value == n` of a decoded value and an integer. -/
def equalsNat (value : Json) (n : Nat) : Bool :=
  match value with
  | .int m => m = n
  | .bool b => (if b then 1 else 0) = n
  | .float x => x.ge n 0 && x.le n 0
  | _ => false

/-- `_validate_prepared_manifest`. -/
def validatePreparedManifest (path sha256 : PyStr) (recordCount : Nat) : Checked PyStr := do
  let (resolved, content) ← node.preparedManifest path
  if content = [] ∨ maxPreparedManifestBytes < content.length then inputError (py "内置评测集 manifest 大小异常")
  else do
    let manifest ← loadsJson (loads (.strict node.float)) content
    match manifest with
    | .obj manifest =>
      match field manifest "output" with
      | .obj output =>
        if field output "sha256" ≠ .str sha256 ∨ ¬ equalsNat (field output "record_count") recordCount then
          inputError (py "内置评测集 JSONL 与 manifest 指纹或记录数不一致")
        else .ok resolved
      | _ => inputError (py "内置评测集 manifest 结构无效")
    | _ => inputError (py "内置评测集 manifest 结构无效")

/-- The manifest beside a dataset of the evaluation root. -/
def preparedManifestOf (path : PyStr) (inEvaluationRoot : Bool) (sha256 : PyStr) (recordCount : Nat) :
    Checked (Option PyStr) :=
  if inEvaluationRoot then (validatePreparedManifest node path sha256 recordCount).map some else .ok none

/-- A source and what its path resolves to. -/
structure ResolvedSource where
  source : DatasetSource
  path : PyStr
  inEvaluationRoot : Bool

/-- An entry of `source_manifests`. -/
structure SourceManifest where
  name : PyStr
  path : PyStr
  sha256 : PyStr
  sizeBytes : Nat
  recordCount : Nat
  preparedManifestPath : Option PyStr
  deriving DecidableEq

def SourceManifest.asDict (m : SourceManifest) : Json :=
  .obj [(py "name", .str m.name), (py "path", .str m.path), (py "sha256", .str m.sha256),
    (py "size_bytes", .int m.sizeBytes), (py "record_count", .int m.recordCount),
    (py "prepared_manifest_path", (m.preparedManifestPath.map Json.str).getD .null)]

/-- The loop over the lines of a source. -/
def mergeLines (name : PyStr) (content : Bytes) (state : MergeState) : Checked SourceState :=
  readLines maxDatasetLineBytes (mergeLine node name) (content.length + 1) ⟨0, 0, [], state⟩ content

/-- The body of the loop over the sources. -/
def mergeSource (state : MergeState) (s : ResolvedSource) : Checked (MergeState × SourceManifest) :=
  match node.sourceFile s.path with
  | none => inputError (py "无法安全打开评测数据文件：" ++ s.path)
  | some file =>
    let totalBytes := state.totalBytes + file.content.length
    if ¬ file.regular then inputError (py "评测数据必须是普通文件")
    else if file.content = [] ∨ maxDatasetFileBytes < file.content.length then
      inputError (py "单个评测数据集为空或超过 256 MiB")
    else if maxDatasetTotalBytes < totalBytes then inputError (py "评测数据集总大小超过 512 MiB")
    else if ¬ file.readable then inputError (py "无法生成确定性评测数据集")
    else do
      let merged ← mergeLines node s.source.name file.content { state with totalBytes }
      if ¬ file.unchanged then inputError (py "读取期间评测数据文件发生变化")
      else if merged.sourceRecords = 0 then inputError (py "评测数据集 " ++ s.source.name ++ py " 不含有效记录")
      else do
        let prepared ← preparedManifestOf node s.path s.inEvaluationRoot (node.sha256 merged.digested) merged.sourceRecords
        .ok (merged.state, ⟨s.source.name, s.path, node.sha256 merged.digested, file.content.length,
          merged.sourceRecords, prepared⟩)

/-- The loop over the sources. -/
def mergeSources : MergeState → List ResolvedSource → Checked (MergeState × List SourceManifest)
  | state, [] => .ok (state, [])
  | state, s :: rest => do
    let (state, manifest) ← mergeSource node state s
    let (state, manifests) ← mergeSources state rest
    .ok (state, manifest :: manifests)

/-! ## The workspace -/

/-- `resolved.suffix.lower() == ".jsonl"`. -/
def isJsonlPath (path : PyStr) : Bool :=
  (py ".jsonl").isSuffixOf (path.map PyStr.asciiLower) && (path.reverse.takeWhile (· ≠ 47)).length ≠ 6

/-- The loop that resolves the paths; `seenPaths` are those of the sources before. -/
def resolveSources : List PyStr → List DatasetSource → Checked (List ResolvedSource)
  | _, [] => .ok []
  | seenPaths, source :: rest => do
    let (resolved, inEvaluationRoot) ← node.existingPath source.path
    if ¬ isJsonlPath resolved then inputError (py "评测数据必须是 .jsonl 文件：" ++ source.path)
    else if resolved ∈ seenPaths then inputError (py "同一评测 JSONL 不能以多个 name 重复计权")
    else do
      let rest ← resolveSources (resolved :: seenPaths) rest
      .ok (⟨source, resolved, inEvaluationRoot⟩ :: rest)

/-- The key of `sorted`. -/
def DatasetSource.key (s : DatasetSource) : Lex (PyStr × PyStr) := toLex (s.name, s.path)

/-- `sorted(sources, key=lambda item: (item.name, str(item.path)))`. -/
def sortSources (sources : List DatasetSource) : List DatasetSource := sources.insertionSort fun a b => a.key ≤ b.key

/-- `except (OSError, TypeError, ValueError)`. -/
def onlyInputError {α : Type} (r : Checked α) : Checked α :=
  match r with
  | .error (.input text) => .error (.input text)
  | .error _ => inputError (py "无法生成确定性评测数据集")
  | .ok a => .ok a

/-- The body of the `try`. -/
def mergeDatasets (sources : List ResolvedSource) : Checked (MergeState × List SourceManifest) := do
  let (state, manifests) ← mergeSources node .start sources
  if state.totalRecords = 0 then inputError (py "评测数据集不包含有效记录")
  else if ¬ node.writable then inputError (py "无法生成确定性评测数据集")
  else .ok (state, manifests)

/-- The manifest of the workspace. -/
def workspaceManifest (mergedPath : PyStr) (state : MergeState) (manifests : List SourceManifest) : Json :=
  .obj [(py "schema_version", .int 1),
    (py "combined", .obj [(py "path", .str mergedPath), (py "record_count", .int state.totalRecords),
      (py "sha256", .str (node.sha256 state.merged)), (py "size_bytes", .int state.merged.length)]),
    (py "sources", .arr (manifests.map SourceManifest.asDict))]

/-- `prepare_evaluation_workspace`. -/
def prepareEvaluationWorkspace (sources : List DatasetSource) : Checked EvaluationWorkspace :=
  if sources = [] ∨ maxDatasetFiles < sources.length then
    inputError (py "评测数据集数量必须位于 1.." ++ decimal maxDatasetFiles)
  else if ¬ (sources.map DatasetSource.name).Nodup then inputError (py "评测数据集 name 不能重复")
  else do
    let outputPath ← node.outputDirectory
    let workspace ← node.runtimeDirectory
    let resolved ← resolveSources node [] (sortSources sources)
    let (state, manifests) ← onlyInputError (mergeDatasets node resolved)
    let manifest ← canonicalJson (workspaceManifest node (workspace ++ py "/evaluation.jsonl") state manifests)
    .ok ⟨workspace ++ py "/evaluation.jsonl", workspace ++ py "/dataset-manifest.json", outputPath, state.merged, manifest⟩

end

end OpenLLMOps.Evaluation
