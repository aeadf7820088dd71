import Mathlib.Data.List.Sort
import OpenLLMOps.Datasets.Records
import OpenLLMOps.Framework.Effect

/-!
# Storing an uploaded dataset

`validate_and_store_jsonl`: the upload is read line by line with a bound on every read, checked, written to
the temporary file and hashed; if nothing is wrong with it, the temporary file is renamed to the final one. A
line that is too long is drained in blocks and not written.

Every operation on a file may raise (`Surroundings`), and so may the removal of the temporary file.
-/

namespace OpenLLMOps.Datasets

open Framework

/-- An operation on the files, or on the upload; a repeated one is numbered. -/
inductive FileOperation
  | makeParent
  | openTemporary
  | read (n : Nat)
  | write (n : Nat)
  | closeTemporary
  | replace
  | removeTemporary

/-- Which operations raise. -/
abbrev Surroundings : Type := FileOperation → Bool

structure LineError where
  line : Nat
  message : PyStr
  deriving DecidableEq

/-- The exceptions of an upload. -/
inductive UploadError
  /-- `ValueError`: more bytes than the limit. -/
  | tooLarge (limit : Nat)
  /-- `ValueError`: more records than the limit. -/
  | tooManyRecords (limit : Nat)
  /-- `ValueError` with the errors of the lines. -/
  | invalid (errors : List LineError)
  /-- What an operation raises. -/
  | operation
  deriving DecidableEq

/-- The upload that is left to read, and the files. -/
structure UploadState where
  source : Bytes
  temporary : Option Bytes
  final : Option Bytes
  operations : Nat

abbrev Uploading (α : Type) : Type := Effect UploadState UploadError α

/-- The variables of `validate_and_store_jsonl`. -/
structure Progress where
  totalBytes : Nat
  lineNumber : Nat
  errors : List LineError
  digested : Bytes
  context : Context
  deriving DecidableEq

def Progress.start : Progress := ⟨0, 0, [], [], .empty⟩

/-- What is returned. -/
structure StoredDataset where
  recordCount : Nat
  sizeBytes : Nat
  sha256 : PyStr
  errors : List LineError
  fields : List PyStr
  recordFormat : Option RecordFormat
  deriving DecidableEq

def maxReportedErrors : Nat := 20

/-- `_record_error`. -/
def recordError (errors : List LineError) (line : Nat) (message : PyStr) : List LineError :=
  if errors.length < maxReportedErrors then errors ++ [⟨line, message⟩] else errors

/-- `_record_error` for each of the messages. -/
def recordErrors (errors : List LineError) (line : Nat) (messages : List PyStr) : List LineError :=
  messages.foldl (recordError · line ·) errors

/-- `byte_limit`. -/
def byteLimit : DatasetType → Nat
  | .evaluation => 256 * 1024 * 1024
  | _ => 5 * 1024 * 1024 * 1024

/-- `line_limit`. -/
def lineLimit : DatasetType → Nat
  | .evaluation => 1048576
  | _ => 16 * 1024 * 1024

/-- The limit on the records. -/
def recordLimit : DatasetType → Nat
  | .evaluation => maxEvaluationRecords
  | _ => maxTrainingRecords

/-- `单行超过 … 字节限制`. -/
def longLineMessage (datasetType : DatasetType) : PyStr :=
  py "单行超过 " ++ decimal (lineLimit datasetType) ++ py " 字节限制"

section

variable (library : DatasetLibrary) (around : Surroundings) (datasetType : DatasetType)

def operation (op : FileOperation) : Uploading Unit :=
  if around op then throw .operation else pure ()

/-- The number of an operation that is repeated. -/
def numberOperation : Uploading Nat := fun s => (.ok s.operations, { s with operations := s.operations + 1 })

/-- What `readline(limit)` takes from the upload. -/
def takeLine (limit : Nat) : Uploading Bytes := fun s =>
  (.ok (readline limit s.source).1, { s with source := (readline limit s.source).2 })

/-- `source.readline(limit)`. -/
def readUpload (limit : Nat) : Uploading Bytes := do
  operation around (.read (← numberOperation))
  takeLine limit

def appendTemporary (raw : Bytes) : Uploading Unit := fun s =>
  (.ok (), { s with temporary := s.temporary.map (· ++ raw) })

/-- `target.write(raw_line)`. -/
def writeTemporary (raw : Bytes) : Uploading Unit := do
  operation around (.write (← numberOperation))
  appendTemporary raw

/-- The bytes so far, unless there are too many. -/
def countBytes (total : Nat) (raw : Bytes) : Uploading Nat :=
  if byteLimit datasetType < total + raw.length then throw (.tooLarge (byteLimit datasetType))
  else pure (total + raw.length)

/-- The loop that drains a line that is too long: `raw` is the last block read, `total` the bytes so far. -/
def drainLine : Nat → Bytes → Nat → Uploading Nat
  | 0, _, total => pure total
  | fuel + 1, raw, total =>
    if endsLine raw then pure total
    else do
      let drained ← readUpload around (min (1024 * 1024) (lineLimit datasetType + 1))
      if drained = [] then pure total
      else do
        let total ← countBytes datasetType total drained
        drainLine fuel drained total

/-- The progress behind a line that has been written. -/
def Progress.checked (p : Progress) (total : Nat) (raw : Bytes) : Progress :=
  let line := p.lineNumber + 1
  let (messages, context) := checkLine library datasetType p.context line raw
  ⟨total, line, recordErrors p.errors line messages, p.digested ++ raw, context⟩

/-- The progress behind a line that is too long. -/
def Progress.tooLong (p : Progress) (total : Nat) : Progress :=
  { p with totalBytes := total, lineNumber := p.lineNumber + 1,
           errors := recordError p.errors (p.lineNumber + 1) (longLineMessage datasetType) }

/-- How much of the upload is left: no loop over it takes more rounds. -/
def sourceLength : Uploading Nat := fun s => (.ok s.source.length, s)

/-- The records so far are within the limit. -/
def countRecords (p : Progress) : Uploading Progress :=
  if recordLimit datasetType < p.context.recordCount then throw (.tooManyRecords (recordLimit datasetType)) else pure p

/-- The body of the loop, behind the first read of a line. -/
def storeLine (p : Progress) (raw : Bytes) : Uploading Progress := do
  let total ← countBytes datasetType p.totalBytes raw
  if lineLimit datasetType < raw.length then do
    let total ← drainLine around datasetType ((← sourceLength) + 1) raw total
    pure (p.tooLong datasetType total)
  else do
    writeTemporary around raw
    countRecords datasetType (p.checked library datasetType total raw)

/-- The loop over the lines of the upload. -/
def storeLines : Nat → Progress → Uploading Progress
  | 0, p => pure p
  | fuel + 1, p => do
    let raw ← readUpload around (lineLimit datasetType + 1)
    if raw = [] then pure p
    else do
      let p ← storeLine library around datasetType p raw
      storeLines fuel p

def setTemporary (content : Option Bytes) : Uploading Unit := fun s => (.ok (), { s with temporary := content })

/-- `os.replace(temporary_path, final_path)`. -/
def renameTemporary : Uploading Unit := fun s => (.ok (), { s with final := s.temporary, temporary := none })

/-- `with temporary_path.open("wb") as target`: the file is closed however the loop ends. -/
def writeTemporaryFile : Uploading Progress := do
  operation around .openTemporary
  setTemporary (some [])
  let p ← tryCatch (do storeLines library around datasetType ((← sourceLength) + 1) .start) fun e => do
    operation around .closeTemporary
    throw e
  operation around .closeTemporary
  pure p

/-- The errors, at the end of the upload. -/
def Progress.finalErrors (p : Progress) : List LineError :=
  if p.context.recordCount = 0 then recordError p.errors 0 (py "数据集没有有效记录") else p.errors

/-- What is returned for the progress at the end. -/
def Progress.stored (p : Progress) : StoredDataset where
  recordCount := p.context.recordCount
  sizeBytes := p.totalBytes
  sha256 := library.sha256 p.digested
  errors := p.finalErrors
  fields := p.context.fieldNames.insertionSort (· ≤ ·)
  recordFormat := p.context.recordFormat

/-- The body of the `try`. -/
def storeUpload : Uploading StoredDataset := do
  let p ← writeTemporaryFile library around datasetType
  if p.finalErrors ≠ [] then throw (.invalid p.finalErrors)
  else do
    operation around .replace
    renameTemporary
    pure (p.stored library)

/-- `temporary_path.unlink(missing_ok=True)`. -/
def removeTemporary : Uploading Unit := do
  operation around .removeTemporary
  setTemporary none

/-- `validate_and_store_jsonl`. -/
def validateAndStoreJsonl : Uploading StoredDataset := do
  operation around .makeParent
  tryCatch (storeUpload library around datasetType) fun e => do
    removeTemporary around
    throw e

end

end OpenLLMOps.Datasets
