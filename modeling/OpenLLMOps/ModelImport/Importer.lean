import OpenLLMOps.Framework.Effect
import OpenLLMOps.ModelImport.Directory
import OpenLLMOps.ModelImport.Jobs
import OpenLLMOps.ModelImport.Validation

/-!
# Importing a model

`ModelImporter.run`: a model is copied or downloaded into the staging directory of the import,
validated, and renamed to the directory of the import in the store. What happens outside
(callbacks, file operations, the download) is in `Surroundings`: it says for every call
whether it raises, and which. `stage` is the part up to the rename, `publish` the one after it.
-/

namespace OpenLLMOps.Importer

open Framework ModelImport

/-! ## Calls -/

/-- The exceptions that an import tells apart. -/
inductive ImportException
  /-- `DownloadCancelledError`. -/
  | downloadCancelled (message : PyStr)
  /-- `ModelValidationCancelled`. -/
  | validationCancelled (message : PyStr)
  /-- `ImportCancelledError`. -/
  | importCancelled (message : PyStr)
  /-- `FileExistsError`. -/
  | fileExists
  /-- An error of `_validate_model_files`. -/
  | modelValidation (error : ModelFileError)
  /-- Another `Exception`. -/
  | other (message : PyStr)
  /-- An exception that is no `Exception`, such as `SystemExit`. -/
  | exit
  deriving DecidableEq

/-- A call that may raise. Where a call is made repeatedly, it is numbered. -/
inductive Call
  | stagingExists
  | finalExists
  | makeStaging
  /-- `cancelled()`. -/
  | cancelled (n : Nat)
  /-- `progress(stage, done, total)`. -/
  | progress (n : Nat) (stage : PyStr) (done : Nat) (total : Option Nat)
  /-- The source is resolved, listed and measured. -/
  | listSource
  | diskUsage
  /-- The target of a file and the directories above it are created. -/
  | createTarget (n : Nat)
  | readSource (n : Nat)
  | writeTarget (n : Nat)
  /-- The staging directory is resolved, listed and measured. -/
  | listStaging
  /-- A call within `_validate_model_files`. -/
  | validateFiles
  | readStaged (n : Nat)
  | writeManifest
  | openManifest
  | syncManifest
  | closeManifest
  | replace
  | openStore
  | syncStore
  | closeStore
  /-- `progress("ready", …)`, after the rename. -/
  | ready
  /-- `staging.exists()` of a handler. -/
  | cleanupExists
  | removeStaging

/-- `DownloadResult`. -/
structure DownloadResult where
  resolvedRevision : PyStr
  totalBytes : Option Nat

/-- What an import finds outside. -/
structure Surroundings where
  raises : Call → Option ImportException
  /-- What the calls of `cancelled` return; `none` if there is no callback. -/
  cancelled : Option (Nat → Bool)
  /-- There is a callback for the progress. -/
  progress : Bool
  /-- The files of the source, or why it is refused. -/
  source : Except ImportException (List (FilePath × Bytes))
  /-- The free space of the staging directory's disk. -/
  free : Nat
  /-- How the download ends, and what it leaves in the staging directory. -/
  download : Except ImportException DownloadResult × FileTree
  /-- The directories that `os.walk` cannot list. -/
  unreadable : RelativePath → Bool
  /-- What a `shutil.rmtree` leaves that raises. -/
  leftover : FileTree

/-- What the importer calls of the standard library. -/
structure Library where
  float : PyStr → PyFloat
  /-- `str` of a decoded value. -/
  str : Json → PyStr
  sha256 : Bytes → PyStr
  /-- `json.dumps` of the digests, as UTF-8; `none` is a `UnicodeEncodeError`. -/
  dumpsDigests : List FileDigest → Option Bytes
  /-- `json.dumps` of the manifest, as UTF-8. -/
  dumpsManifest : ModelManifest → Option Bytes

/-- `ImportRequest`, without the id, of which the directories are named. -/
structure ImportRequest where
  source : ModelImportSource
  repository : Option PyStr
  revision : Option PyStr
  sourceDirectory : Option PyStr

/-- The directories of the import, and the number of calls so far. -/
structure ImportState where
  staging : Option FileTree
  final : Option FileTree
  calls : Nat

/-- Before the import neither directory exists. -/
def ImportState.fresh : ImportState := ⟨none, none, 0⟩

abbrev Import (α : Type) : Type := Effect ImportState ImportException α

namespace Import

def getState : Import ImportState := fun s => (.ok s, s)

def setState (s : ImportState) : Import Unit := fun _ => (.ok (), s)

/-- The staging directory, which exists while this is called. -/
def getStaging : Import FileTree := fun s => (.ok (s.staging.getD ∅), s)

def setStaging (d : FileTree) : Import Unit := fun s => (.ok (), { s with staging := some d })

/-- The number of a call that is made repeatedly. -/
def number : Import Nat := fun s => (.ok s.calls, { s with calls := s.calls + 1 })

end Import

open Import

section Importer

variable (library : Library) (around : Surroundings) (request : ImportRequest)

/-- A call that returns nothing, or raises. -/
def outside (call : Call) : Import Unit :=
  match around.raises call with
  | some e => throw e
  | none => pure ()

/-- `_notify`. -/
def notify (stage : PyStr) (done : Nat) (total : Option Nat) : Import Unit :=
  if around.progress then do
    let n ← number
    outside around (.progress n stage done total)
  else pure ()

/-- `if cancelled and cancelled(): raise`. -/
def checkCancelled (e : ImportException) : Import Unit :=
  match around.cancelled with
  | none => pure ()
  | some answer => do
    let n ← number
    outside around (.cancelled n)
    if answer n then throw e else pure ()

/-- `_check_cancelled` of the importer. -/
def checkImport : Import Unit := checkCancelled around (.importCancelled (py "模型导入已取消"))

/-- `_check_cancelled` of the validation. -/
def checkValidation : Import Unit := checkCancelled around (.validationCancelled (py "模型校验已取消"))

/-- The size of the chunks of a file. -/
def chunkBytes : Nat := 8 * 1024 * 1024

/-! ## Copying -/

/-- The loop over the chunks of a file; it returns the number of bytes copied so far. -/
def copyChunks (p : FilePath) (total : Nat) : List Bytes → Nat → Import Nat
  | [], done => do
    outside around (.readSource (← number))
    pure done
  | chunk :: chunks, done => do
    outside around (.readSource (← number))
    checkImport around
    outside around (.writeTarget (← number))
    setStaging ((← getStaging).append p chunk)
    notify around (py "transferring") (done + chunk.length) (some total)
    copyChunks p total chunks (done + chunk.length)

/-- The loop over the files. -/
def copyFiles (total : Nat) : List (FilePath × Bytes) → Nat → Import Unit
  | [], _ => pure ()
  | (p, content) :: files, done => do
    checkImport around
    outside around (.createTarget (← number))
    if ((← getStaging).lookup p).isSome then throw .fileExists
    else
      setStaging ((← getStaging).create p)
      let done ← copyChunks around p total (content.toChunks chunkBytes) done
      copyFiles total files done

/-- `_copy_controlled_directory`. -/
def copyControlledDirectory : Import Unit := do
  outside around .listSource
  match around.source with
  | .error e => throw e
  | .ok files =>
    let total := (files.map fun file => file.2.length).sum
    outside around .diskUsage
    let needed := total + max (1024 ^ 3) (total / 10)
    if around.free < needed then
      throw (.other (py "模型导入空间不足：需要 " ++ decimal needed ++ py " 字节（含安全余量）"))
    else copyFiles around total files 0

/-- `download_huggingface` and `download_modelscope`. -/
def download : Import DownloadResult := do
  setStaging around.download.2
  match around.download.1 with
  | .error e => throw e
  | .ok result => pure result

/-! ## Validating -/

/-- `_sha256` of a file, with the chunks that are reported. -/
def digestChunks (total : Nat) : List Bytes → Nat → Import Nat
  | [], completed => do
    outside around (.readStaged (← number))
    checkValidation around
    pure completed
  | chunk :: chunks, completed => do
    outside around (.readStaged (← number))
    checkValidation around
    notify around (py "validating") (completed + chunk.length) (some total)
    checkValidation around
    digestChunks total chunks (completed + chunk.length)

/-- The digest of a file. -/
def digestOf (file : FilePath × Bytes) : FileDigest :=
  ⟨file.1.parts.posix, file.2.length, library.sha256 file.2⟩

/-- The loop over the files. -/
def digestFiles (total : Nat) : List (FilePath × Bytes) → Nat → Import (List FileDigest)
  | [], _ => pure []
  | file :: files, completed => do
    outside around (.readStaged (← number))
    let completed ← digestChunks around total (file.2.toChunks chunkBytes) completed
    let digests ← digestFiles total files completed
    pure (digestOf library file :: digests)

/-- `validate_model_directory`. -/
def validateModelDirectory (resolvedRevision : Option PyStr) : Import ModelManifest := do
  outside around .listStaging
  let d ← getStaging
  if (d.walk around.unreadable).any fun e => e.2 = .symlink ∨ e.2 = .special then
    throw (.other (py "模型目录不允许软链接或非普通文件"))
  else
    let files := d.walkFiles around.unreadable
    let total := (files.map fun file => file.2.length).sum
    notify around (py "validating") 0 (some total)
    checkValidation around
    outside around .validateFiles
    match validateModelFiles library.float (files.map fun file => (file.1.parts, file.2)) with
    | .error e => throw (.modelValidation e)
    | .ok (config, parameterCount, weightDtypes) =>
      let sorted := files.insertionSort fun a b => decide (a.1.parts.posix ≤ b.1.parts.posix)
      let digests ← digestFiles library around total sorted 0
      match library.dumpsDigests digests with
      | none => throw (.other (py "UnicodeEncodeError"))
      | some payload =>
        pure
          { modelType := ((Dict.get? config (py "model_type")).map library.str).getD (py "unknown")
            architecture :=
              match Dict.get? config (py "architectures") with
              | some (.arr (first :: _)) => some (library.str first)
              | _ => none
            totalSizeBytes := total
            fileCount := digests.length
            files := digests
            parameterCount := some parameterCount
            weightDtypes := weightDtypes
            checksum := some (library.sha256 payload)
            requestedRevision := if request.source = .controlledDirectory then none else request.revision
            resolvedRevision := resolvedRevision }

/-! ## The import -/

/-- `os.open`, `os.fsync` and, in any case, `os.close`. -/
def flush (open_ sync close : Call) : Import Unit := do
  outside around open_
  tryCatch (outside around sync) fun e => do
    outside around close
    throw e
  outside around close

theorem manifest_name : generatedManifestName ≠ [] ∧ 47 ∉ generatedManifestName := by decide

/-- The path of the generated manifest. -/
def manifestPath : FilePath := .top generatedManifestName manifest_name

/-- `write_text` of the manifest. -/
def writeManifest (manifest : ModelManifest) : Import Unit := do
  let d ← getStaging
  if d.lookup manifestPath = some .directory then throw (.other (py "IsADirectoryError"))
  else
    match library.dumpsManifest manifest with
    | none => throw (.other (py "UnicodeEncodeError"))
    | some text =>
      setStaging (d.insert manifestPath (.file []))
      outside around .writeManifest
      setStaging (d.insert manifestPath (.file text))

/-- `os.replace(staging, final)`: a directory that is not empty is not replaced. -/
def replaceFinal : Import Unit := do
  outside around .replace
  let s ← getState
  match s.final with
  | some ⟨_ :: _, _⟩ => throw (.other (py "Directory not empty"))
  | _ => setState { s with staging := none, final := s.staging }

/-- The model is brought into the staging directory. -/
def transfer : Import (Option DownloadResult) := do
  checkImport around
  match request.source with
  | .controlledDirectory =>
    match request.sourceDirectory with
    | none => throw (.other (py "受控目录导入必须提供 source_directory"))
    | some _ => do
      copyControlledDirectory around
      pure none
  | .huggingface =>
    if request.repository.getD [] = [] then throw (.other (py "Hugging Face 导入必须提供 repository"))
    else some <$> download around
  | .modelscope =>
    if request.repository.getD [] = [] then throw (.other (py "ModelScope 导入必须提供 repository"))
    else some <$> download around

/-- The part of the `try` block up to `os.replace`. -/
def stage : Import ModelManifest := do
  let downloadResult ← transfer around request
  checkImport around
  let manifest ← validateModelDirectory library around request (downloadResult.map (·.resolvedRevision))
  checkImport around
  writeManifest library around manifest
  flush around .openManifest .syncManifest .closeManifest
  checkImport around
  replaceFinal around
  pure manifest

/-- The rest of the block; the report that the model is ready is made once. -/
def publish : Import Unit := do
  flush around .openStore .syncStore .closeStore
  if around.progress then outside around .ready else pure ()

/-- The handlers remove the staging directory. -/
def cleanup : Import Unit := do
  outside around .cleanupExists
  let s ← getState
  if s.staging.isSome then
    match around.raises .removeStaging with
    | some e => do
      setStaging around.leftover
      throw e
    | none => setState { s with staging := none }
  else pure ()

/-- The handlers. -/
def handle (e : ImportException) : Import ModelManifest :=
  match e with
  | .exit => throw .exit
  | .downloadCancelled message | .validationCancelled message => do
    cleanup around
    throw (.importCancelled message)
  | e => do
    cleanup around
    throw e

/-- `run`; the final directory that it returns is the one of the state. -/
def run : Import ModelManifest := do
  outside around .stagingExists
  if (← getState).staging.isSome then throw .fileExists
  else
    outside around .finalExists
    if (← getState).final.isSome then throw .fileExists
    else
      outside around .makeStaging
      setStaging ∅
      tryCatch
        (do
          let manifest ← stage library around request
          publish around
          pure manifest)
        (handle around)

end Importer

end OpenLLMOps.Importer
