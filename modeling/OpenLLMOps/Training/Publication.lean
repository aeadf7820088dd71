import OpenLLMOps.ControlPlane.Entities
import OpenLLMOps.Framework.Effect
import OpenLLMOps.Training.Copying

/-!
# Publishing a trained model

`publish_training_model_files`: the model of a job is copied into a staging directory in
the model root, checked there, and renamed to the directory of the job. Every call that
may raise is a `Step`, and `Surroundings` say which of them do.
-/

namespace OpenLLMOps.TrainingControl

open Framework

/-- The exceptions of a publication. -/
inductive PublicationError
  /-- `TrainingControlError`, with the names that its text ends with. -/
  | control (text : PyStr) (names : List PyStr)
  /-- The `TrainingControlError` with the causes for which the kinds of artifacts are not published. -/
  | noModel (causes : List (ArtifactKind × PyStr × List PyStr))
  /-- `OSError`. -/
  | os
  /-- Another exception. -/
  | other
  deriving DecidableEq

/-- What a call raises. -/
inductive Fault
  | control (text : PyStr)
  | os
  | other
  deriving DecidableEq

def PublicationError.ofFault : Fault → PublicationError
  | .control text => .control text []
  | .os => .os
  | .other => .other

def PublicationError.ofCheck : ModelFileError → PublicationError
  | .refused text names => .control text names
  | .valueError | .typeError => .other

/-- A call that may raise. -/
inductive Step
  /-- `inspect_training_artifact`. -/
  | inspect (kind : ArtifactKind)
  /-- `validate_deployable_model` of an artifact. -/
  | check (kind : ArtifactKind)
  | fingerprintSource
  | configuredRoot
  | rejectSymlinks
  | lock
  | statTarget
  /-- `_strict_existing_path`. -/
  | existingPath
  | scanExisting
  | checkExisting
  | fingerprintExisting
  /-- `mkdtemp`. -/
  | makeTemporary
  /-- `staging.rmdir()`. -/
  | removeEmpty
  | makeStaging
  /-- `_verify_node`. -/
  | verifyNode (path : RelativePath)
  | makeDirectory (path : RelativePath)
  /-- The parent of a file is made, and both files are opened. -/
  | openFiles (path : RelativePath)
  /-- The content is copied, flushed and synced. -/
  | copyFile (path : RelativePath)
  | verifyRoot
  | scanStaged
  | checkStaged
  | fingerprintStaged
  | targetExists
  | rename
  | openRoot
  | syncRoot
  | closeRoot

/-- The step is the inspection of an artifact. -/
def Step.inspects : Step → Bool
  | .inspect _ => true
  | _ => false

/-- What a publication meets. -/
structure Surroundings where
  raises : Step → Option Fault
  /-- How much of a file has been written when its copying raises. -/
  written : RelativePath → Nat

/-- What is at the path of the published model. -/
inductive Target
  | directory (entries : Forest)
  | symlink
  | other
  deriving DecidableEq

/-- The published model and the staging directory. -/
structure Store where
  target : Option Target
  staging : Option Forest
  deriving DecidableEq

/-- The columns of a job that are read, and for each kind of artifact what `_artifact_path` leads to. -/
structure PublicationJob where
  id : Nat
  actualState : JobState
  artifact : ArtifactKind → FileCheck (Option Directory)

/-- The settings, and what is called of the standard library. -/
structure PublicationSettings (D : Type) where
  limits : TreeLimits
  float : PyStr → PyFloat
  hash : Bytes → D
  /-- The parts of the path of the model root, and of the path that it resolves to. -/
  root : RelativePath
  resolvedRoot : RelativePath

structure PublishedModelFiles (D : Type) where
  path : RelativePath
  sizeBytes : Nat
  checksum : D
  created : Bool
  artifactKind : ArtifactKind
  deriving DecidableEq

abbrev Publish (α : Type) : Type := Effect Store PublicationError α

namespace Publish

def getState : Publish Store := fun s => (.ok s, s)

def setState (s : Store) : Publish Unit := fun _ => (.ok (), s)

/-- The staging directory, which exists while this is called. -/
def getStaging : Publish Forest := fun s => (.ok (s.staging.getD .nil), s)

def setStaging (f : Option Forest) : Publish Unit := fun s => (.ok (), { s with staging := f })

/-- `finally` the staging directory is removed. -/
def cleanly {α : Type} (m : Publish α) : Publish α := fun s => ((m s).1, { (m s).2 with staging := none })

end Publish

open Publish

section Publication

variable {D : Type} [DecidableEq D] (settings : PublicationSettings D) (around : Surroundings) (job : PublicationJob)

def outside (step : Step) : Publish Unit :=
  match around.raises step with
  | some fault => throw (.ofFault fault)
  | none => pure ()

/-- An `OSError` becomes a `TrainingControlError`. -/
def outsideAs (step : Step) (text : PyStr) : Publish Unit :=
  tryCatch (outside around step) fun e => throw (if e = .os then .control text [] else e)

def checked {α : Type} (result : FileCheck α) : Publish α :=
  match result with
  | .ok a => pure a
  | .error e => throw (.ofCheck e)

/-- `_tree_content_fingerprint`. -/
def fingerprint (tree : ArtifactTree) : Publish D :=
  match treeContentFingerprint settings.hash tree with
  | some checksum => pure checksum
  | none => throw .other

/-! ## The source -/

def inspectTrainingArtifact (kind : ArtifactKind) : Publish (Option ArtifactTree) := do
  outside around (.inspect kind)
  match ← checked (job.artifact kind) with
  | none => pure none
  | some d => do
    let tree ← checked (scanTree settings.limits kind d.entries)
    checked (rejectUnsafeExportFiles tree)
    pure (some tree)

/-- The artifact of a kind, if there is one, as a model that can be deployed. -/
def deployableArtifact (kind : ArtifactKind) : Publish (Option ArtifactTree) := do
  match ← inspectTrainingArtifact settings around job kind with
  | none => pure none
  | some tree => do
    outside around (.check kind)
    checked (validateDeployableModel settings.float (filesOf tree.nodes))
    pure (some tree)

/-- `except TrainingControlError`. -/
def asCause (e : PublicationError) : Publish (Option ArtifactTree ⊕ PyStr × List PyStr) :=
  match e with
  | .control text names => pure (.inr (text, names))
  | e => throw e

/-- The loop of `_publication_source`. -/
def publicationSourceOf : List ArtifactKind → List (ArtifactKind × PyStr × List PyStr) →
    Publish (ArtifactKind × ArtifactTree)
  | [], causes => throw (.noModel causes)
  | kind :: kinds, causes => do
    match ← tryCatch (Sum.inl <$> deployableArtifact settings around job kind) asCause with
    | .inl (some tree) => pure (kind, tree)
    | .inl none => publicationSourceOf kinds causes
    | .inr cause => publicationSourceOf kinds (causes ++ [(kind, cause)])

/-- `_publication_source`: the candidates do not depend on the algorithm. -/
def publicationSource : Publish (ArtifactKind × ArtifactTree) := publicationSourceOf settings around job [.merged, .full] []

/-! ## The copy -/

def setPlaced : Option Forest → Publish Unit
  | some f => setStaging (some f)
  | none => throw .os

/-- A node is made in the staging directory. -/
def makeNode (node : TreeNode) : Publish Unit := do setPlaced (Forest.placeNode (← getStaging) node)

/-- The body of the loop of `_copy_tree`. -/
def copyNode (node : TreeNode) : Publish Unit := do
  outsideAs around (.verifyNode node.path) (py "训练产物在读取期间被删除或替换")
  match node.content with
  | none => do
    outside around (.makeDirectory node.path)
    makeNode node
  | some content => do
    outside around (.openFiles node.path)
    match around.raises (.copyFile node.path) with
    | some fault => do
      makeNode ⟨node.path, some (content.take (around.written node.path))⟩
      throw (.ofFault fault)
    | none => makeNode node

def copyNodes : List TreeNode → Publish Unit
  | [] => pure ()
  | node :: nodes => do
    copyNode around node
    copyNodes nodes

/-- `_copy_tree`. -/
def copyTree (source : ArtifactTree) : Publish Unit := do
  outside around .makeStaging
  setStaging (some .nil)
  copyNodes around source.nodes
  outside around .verifyRoot

/-! ## The publication -/

/-- The source is copied and the copy is checked. -/
def stage (source : ArtifactTree) (sourceChecksum : D) : Publish ArtifactTree := do
  outside around .removeEmpty
  setStaging none
  copyTree around source
  outside around .scanStaged
  let staged ← checked (scanTree settings.limits .full (← getStaging))
  outside around .checkStaged
  checked (validateDeployableModel settings.float (filesOf staged.nodes))
  outside around .fingerprintStaged
  if (← fingerprint settings staged) ≠ sourceChecksum then throw (.control (py "训练模型 staging 内容校验不一致") [])
  else pure staged

/-- `os.rename` of the staging directory. -/
def renameStaging : Publish Unit := do
  outside around .targetExists
  let s ← getState
  if s.target.isSome then throw (.control (py "训练模型发布目录被并发创建，请重试") [])
  else
    outsideAs around .rename (py "训练模型发布目录原子落盘失败且未覆盖现有目录")
    setState ⟨s.staging.map .directory, none⟩

/-- The model root is synced. -/
def syncRoot : Publish Unit := do
  outside around .openRoot
  tryCatch (outside around .syncRoot) fun e => do
    outside around .closeRoot
    throw e
  outside around .closeRoot

/-- The name of the published model. -/
def publishedName : PyStr := py "trained-" ++ uuidText job.id

def publishNew (kind : ArtifactKind) (source : ArtifactTree) (sourceChecksum : D) : Publish (PublishedModelFiles D) := do
  outside around .makeTemporary
  setStaging (some .nil)
  cleanly do
    let staged ← stage settings around source sourceChecksum
    renameStaging around
    syncRoot around
    pure ⟨settings.root ++ [publishedName job], staged.sizeBytes, sourceChecksum, true, kind⟩

def publishExisting (target : Target) (kind : ArtifactKind) (sourceChecksum : D) : Publish (PublishedModelFiles D) := do
  outside around .existingPath
  match target with
  | .symlink | .other => throw (.control (py "已发布训练模型必须是非软链接目录") [])
  | .directory entries => do
    outside around .scanExisting
    let existing ← checked (scanTree settings.limits .full entries)
    outside around .checkExisting
    checked (validateDeployableModel settings.float (filesOf existing.nodes))
    outside around .fingerprintExisting
    if (← fingerprint settings existing) ≠ sourceChecksum then
      throw (.control (py "训练模型目标目录已存在但内容与本任务产物不一致") [])
    else pure ⟨settings.resolvedRoot ++ [publishedName job], existing.sizeBytes, sourceChecksum, false, kind⟩

/-- What `_publication_lock` makes of an `OSError`. -/
def lockError (e : PublicationError) : PublicationError :=
  if e = .os then .control (py "无法获取训练模型发布锁") [] else e

/-- `publish_training_model_files`, from the source on. -/
def publishArtifact (kind : ArtifactKind) (source : ArtifactTree) : Publish (PublishedModelFiles D) := do
  outside around .fingerprintSource
  let sourceChecksum ← fingerprint settings source
  outside around .configuredRoot
  outsideAs around .rejectSymlinks (py "无法检查训练模型发布目录")
  let s ← getState
  if s.target = some .symlink then throw (.control (py "训练模型发布目录不能包含软链接") [])
  else
    tryCatch (do
      outside around .lock
      outsideAs around .statTarget (py "无法检查训练模型发布目录")
      match s.target with
      | none => publishNew settings around job kind source sourceChecksum
      | some target => publishExisting settings around job target kind sourceChecksum) fun e => throw (lockError e)

/-- `publish_training_model_files`. -/
def publishTrainingModelFiles : Publish (PublishedModelFiles D) := do
  if job.actualState ≠ .succeeded then throw (.control (py "只有 succeeded 训练任务可以发布模型") [])
  else
    let source ← publicationSource settings around job
    publishArtifact settings around job source.1 source.2

end Publication

end OpenLLMOps.TrainingControl
