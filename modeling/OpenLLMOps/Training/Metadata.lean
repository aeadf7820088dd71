import OpenLLMOps.Agent.Docker
import OpenLLMOps.Training.Artifacts

/-!
# The metadata of a training job

`DockerRunner.training_metadata` on the output directory of a job: the progress is that of the newest
`trainer_state.json` (`newestState`), and for a job that has completed the artifacts are checked and
their paths reported. The directory can be read; its content is arbitrary.

What the training code has written is only filtered by type (`reportProgress`): the bounds of the
control plane are in `Observation.lean`.
-/

namespace OpenLLMOps.Training

open Framework

/-- How `training_metadata` fails. -/
inductive MetadataError
  /-- `InvalidWorkload`. -/
  | invalidWorkload (message : PyStr)
  /-- `InvalidWorkload` for an artifact that does not pass its check. -/
  | invalidArtifacts (error : ModelFileError)
  /-- The `OverflowError` of the progress, or a `ValueError` of a check that is not handled. -/
  | other
  deriving DecidableEq

/-- What is called of the standard library. -/
structure TrainingLibrary where
  float : PyStr → PyFloat
  /-- `current_step * 100.0 / total_steps`; `none` is an `OverflowError`. -/
  percentage : Int → Int → Option PyFloat

/-- The output directory of a job. -/
structure TrainingOutput where
  /-- The resolved checkpoint root. -/
  checkpointRoot : AbsolutePath
  job : Uuid
  tree : FileTree
  /-- Where `merged` leads if it is a symbolic link. -/
  mergedTarget : Option ResolvedDirectory

namespace TrainingOutput

/-- Its resolved path. -/
def path (output : TrainingOutput) : RelativePath := output.checkpointRoot.parts ++ [uuidText output.job]

/-- The directory itself. -/
def root (output : TrainingOutput) : ResolvedDirectory := ⟨output.path, output.tree.listing⟩

/-- An entry below the directory. -/
def entry (output : TrainingOutput) (path : RelativePath) : Option DirectoryEntry := Dict.get? output.tree.listing path

/-- Where the path `merged` leads, if it is that of a directory. -/
def merged (output : TrainingOutput) : Option ResolvedDirectory :=
  match output.entry [py "merged"] with
  | some .directory => some (output.root.below (py "merged"))
  | some .symlink => output.mergedTarget
  | _ => none

end TrainingOutput

/-- What `training_metadata` returns: each field is an entry of the dictionary if it is present. -/
structure TrainingMetadata where
  currentStep : Option Int
  totalSteps : Option Int
  progress : Option PyFloat
  metrics : Option (List (PyStr × Json))
  checkpointPath : Option PyStr
  adapterPath : Option PyStr
  mergedModelPath : Option PyStr
  deriving DecidableEq

/-- The entries that the dictionary may have. -/
def TrainingMetadata.entries (m : TrainingMetadata) : List (PyStr × Option Json) :=
  [(py "current_step", m.currentStep.map Json.int), (py "total_steps", m.totalSteps.map Json.int),
    (py "progress", m.progress.map Json.float), (py "metrics", m.metrics.map Json.obj),
    (py "checkpoint_path", m.checkpointPath.map Json.str), (py "adapter_path", m.adapterPath.map Json.str),
    (py "merged_model_path", m.mergedModelPath.map Json.str)]

/-- The dictionary. -/
def TrainingMetadata.toDict (m : TrainingMetadata) : List (PyStr × Json) :=
  m.entries.filterMap fun entry => entry.2.map (entry.1, ·)

/-! ## States -/

/-- `_safe_training_json` with a limit of 2 MiB; `none` is a file that does not exist. -/
def safeTrainingJson (float : PyStr → PyFloat) (entry : Option DirectoryEntry) : Except PyStr (Option (List (PyStr × Json))) :=
  match entry with
  | none => .ok none
  | some (.file content) =>
    if ¬ (1 ≤ content.length ∧ content.length ≤ 2 * 1024 * 1024) then .error (py "训练状态文件大小无效")
    else
      match loads (.strict float) content with
      | .error _ => .error (py "训练状态不是有效的有限 UTF-8 JSON")
      | .ok (.obj kvs) => .ok (some kvs)
      | .ok _ => .error (py "训练状态必须是有界 JSON 对象")
  | some _ => .error (py "训练状态必须是非软链接普通文件")

/-- The step of a full match of `checkpoint-([1-9][0-9]*)`. -/
def checkpointStep? (name : PyStr) : Option Nat := do
  let digits ← dropPrefix? (py "checkpoint-") name
  match digits with
  | first :: _ => if first ≠ 48 ∧ digits.all isDigit then some (ofDecimal digits) else none
  | [] => none

/-- The directories of the checkpoints, with their steps. -/
def checkpointDirectories (output : TrainingOutput) : List (Nat × PyStr) :=
  output.tree.listing.filterMap fun e =>
    match e with
    | ([name], .directory) => (checkpointStep? name).map (·, name)
    | _ => none

/-- The states of the job: that of the directory itself, then those of the checkpoints, the last one first. -/
def stateSources (output : TrainingOutput) : List (Option DirectoryEntry) :=
  output.entry [py "trainer_state.json"] ::
    ((checkpointDirectories output).insertionSort fun a b => b.1 ≤ a.1).map fun c =>
      output.entry [c.2, py "trainer_state.json"]

/-- The loop over the states: those that can be read, and the last error. A broken state of the directory
itself is raised if the job has completed. -/
def collectStates (float : PyStr → PyFloat) (completed : Bool) :
    Nat → List (Option DirectoryEntry) → Except PyStr (List (List (PyStr × Json)) × Option PyStr)
  | _, [] => .ok ([], none)
  | index, source :: sources =>
    match safeTrainingJson float source with
    | .error message =>
      if completed ∧ index = 0 then .error message
      else (collectStates float completed (index + 1) sources).map fun r => (r.1, r.2.or (some message))
    | .ok state => (collectStates float completed (index + 1) sources).map fun r => (state.toList ++ r.1, r.2)

/-- An integer that is no `bool`. -/
def int? : Option Json → Option Int
  | some (.int n) => some n
  | _ => none

/-- The key by which states are compared. -/
def stateStep (state : List (PyStr × Json)) : Int := (int? (Dict.get? state (py "global_step"))).getD (-1)

/-- `max` by a key: the first of the greatest. -/
def maxBy {α : Type} (key : α → Int) (xs : List α) : Option α :=
  xs.foldl (fun best x =>
    match best with
    | none => some x
    | some b => if key b < key x then some x else some b) none

/-- The newest state. -/
def newestState (states : List (List (PyStr × Json))) : Option (List (PyStr × Json)) := maxBy stateStep states

/-! ## Progress -/

/-- `min(100.0, max(0.0, x))`. -/
def clampPercentage (x : PyFloat) : PyFloat :=
  let atLeastZero := if x.gtZero then x else .finite false 0 0
  if ¬ atLeastZero.ge 1 2 then atLeastZero else .finite false 1 2

/-- A value that is reported as a metric. -/
def isMetric : Json → Bool
  | .str _ | .int _ | .bool _ => true
  | .float x => x.isFinite
  | _ => false

/-- The last entry of `log_history` that is an object. -/
def lastMetrics (state : List (PyStr × Json)) : Option (List (PyStr × Json)) :=
  match Dict.get? state (py "log_history") with
  | some (.arr history) => history.reverse.findSome? fun item =>
    match item with
    | .obj kvs => some kvs
    | _ => none
  | _ => none

/-- The metrics that are reported. -/
def reportedMetrics (metrics : List (PyStr × Json)) : List (PyStr × Json) := metrics.filter fun kv => isMetric kv.2

/-- The progress, if both steps are known. -/
def reportedPercentage (library : TrainingLibrary) (currentStep totalSteps : Option Int) :
    Except MetadataError (Option PyFloat) :=
  match currentStep, totalSteps with
  | some currentStep, some totalSteps =>
    match library.percentage currentStep totalSteps with
    | some x => .ok (some (clampPercentage x))
    | none => .error .other
  | _, _ => .ok none

/-- What is reported of the newest state. -/
def reportProgress (library : TrainingLibrary) (state : Option (List (PyStr × Json))) : Except MetadataError TrainingMetadata :=
  match state with
  | none => .ok ⟨none, none, none, none, none, none, none⟩
  | some state => do
    let currentStep := int? (Dict.get? state (py "global_step"))
    let totalSteps := (int? (Dict.get? state (py "max_steps"))).filter (0 < ·)
    let progress ← reportedPercentage library currentStep totalSteps
    .ok
      { currentStep := currentStep.filter (0 ≤ ·), totalSteps := totalSteps, progress := progress,
        metrics := (lastMetrics state).map reportedMetrics,
        checkpointPath := none, adapterPath := none, mergedModelPath := none }

/-! ## Artifacts -/

/-- An exception of a check is handled if it is a `TrainingArtifactError`. -/
def handled {α : Type} : FileCheck α → Except MetadataError (Option α)
  | .ok a => .ok (some a)
  | .error (.refused _ _) => .ok none
  | .error _ => .error .other

/-- The checkpoints that pass their check. -/
def validCheckpoints (float : PyStr → PyFloat) (output : TrainingOutput) :
    List (Nat × PyStr) → Except MetadataError (List (Nat × RelativePath))
  | [] => .ok []
  | (step, name) :: candidates => do
    let valid ← handled (validateCheckpointDirectory float (output.root.below name))
    let rest ← validCheckpoints float output candidates
    .ok ((valid.map (step, ·)).toList ++ rest)

/-- A check whose failure is an `InvalidWorkload`. -/
def required {α : Type} : FileCheck α → Except MetadataError α
  | .ok a => .ok a
  | .error (.refused text names) => .error (.invalidArtifacts (.refused text names))
  | .error _ => .error .other

/-- `validate_full_model_directory` of the path `merged`, which is resolved first. -/
def validateMerged (float : PyStr → PyFloat) (output : TrainingOutput) : FileCheck RelativePath :=
  match output.merged with
  | some directory => validateFullModelDirectory float directory
  | none =>
    match output.entry [py "merged"] with
    | some (.file _) | some .special => refuse (py "训练产物必须是非软链接目录")
    | _ => refuse (py "[Errno 2] No such file or directory")

/-- `training_metadata` of a job whose output directory is found. -/
def trainingMetadata (library : TrainingLibrary) (algorithm : TrainingAlgorithm) (output : TrainingOutput)
    (completed : Bool) : Except MetadataError TrainingMetadata :=
  match collectStates library.float completed 0 (stateSources output) with
  | .error message => .error (.invalidWorkload message)
  | .ok (states, stateError) =>
    match (if completed ∧ states = [] then stateError else none) with
    | some message => .error (.invalidWorkload message)
    | none => do
      let metadata ← reportProgress library (newestState states)
      if ¬ completed then .ok metadata
      else
        let valid ← validCheckpoints library.float output (checkpointDirectories output)
        let checkpointPath := (maxBy (fun c => (c.1 : Int)) valid).map fun c => c.2.absolute
        match algorithm with
        | .lora | .qlora =>
          let adapter ← required (validateAdapterDirectory library.float output.root)
          let merged ← required (validateMerged library.float output)
          .ok { metadata with
            checkpointPath := checkpointPath
            adapterPath := some adapter.absolute
            mergedModelPath := some merged.absolute }
        | .freeze =>
          let deployable ← required (validateFullModelDirectory library.float output.root)
          .ok { metadata with checkpointPath := checkpointPath, mergedModelPath := some deployable.absolute }

/-! ## What is returned -/

section Returned

variable {library : TrainingLibrary} {algorithm : TrainingAlgorithm} {output : TrainingOutput} {completed : Bool}
  {metadata : TrainingMetadata}

/-- The states that can be read. -/
def readableStates (float : PyStr → PyFloat) (sources : List (Option DirectoryEntry)) : List (List (PyStr × Json)) :=
  sources.filterMap fun source => (safeTrainingJson float source).toOption.join

/-- The newest state of a job. -/
def TrainingOutput.state (output : TrainingOutput) (float : PyStr → PyFloat) : Option (List (PyStr × Json)) :=
  newestState (readableStates float (stateSources output))

/-- The checkpoint that is reported, of those that pass their check. -/
def TrainingOutput.checkpoint (output : TrainingOutput) (float : PyStr → PyFloat) : Option (Nat × PyStr) :=
  maxBy (fun c => (c.1 : Int)) ((checkpointDirectories output).filter fun c =>
    (validateCheckpointDirectory float (output.root.below c.2)).toOption.isSome)

theorem collectStates_eq_ok {float : PyStr → PyFloat} {index : Nat} {sources : List (Option DirectoryEntry)}
    {states : List (List (PyStr × Json))} {stateError : Option PyStr}
    (h : collectStates float completed index sources = .ok (states, stateError)) : states = readableStates float sources := by
  induction sources generalizing index states stateError with
  | nil =>
    cases h
    rfl
  | cons source sources ih =>
    unfold collectStates at h
    rw [readableStates, List.filterMap_cons]
    split at h
    · rename_i message hsource
      split at h
      · cases h
      cases hrest : collectStates float completed (index + 1) sources with
      | error e =>
        rw [hrest] at h
        cases h
      | ok r =>
        rw [hrest] at h
        cases h
        rw [hsource]
        exact ih hrest
    · rename_i state hsource
      cases hrest : collectStates float completed (index + 1) sources with
      | error e =>
        rw [hrest] at h
        cases h
      | ok r =>
        rw [hrest] at h
        cases h
        rw [hsource, ih hrest]
        cases state <;> rfl

theorem foldl_maxBy_map {α β : Type} (key : β → Int) (f : α → β) (xs : List α) (best : Option α) :
    (xs.map f).foldl (fun best x =>
      match best with
      | none => some x
      | some b => if key b < key x then some x else some b) (best.map f) =
    (xs.foldl (fun best x =>
      match best with
      | none => some x
      | some b => if key (f b) < key (f x) then some x else some b) best).map f := by
  induction xs generalizing best with
  | nil => rfl
  | cons x xs ih =>
    rw [List.map_cons, List.foldl_cons, List.foldl_cons, ← ih]
    congr 1
    cases best with
    | none => rfl
    | some b =>
      simp only [Option.map_some]
      split <;> rfl

theorem maxBy_map {α β : Type} (key : β → Int) (f : α → β) (xs : List α) :
    maxBy key (xs.map f) = (maxBy (fun a => key (f a)) xs).map f := foldl_maxBy_map key f xs none

theorem validCheckpoints_eq_ok {float : PyStr → PyFloat} {candidates : List (Nat × PyStr)} {valid : List (Nat × RelativePath)}
    (h : validCheckpoints float output candidates = .ok valid) :
    valid = (candidates.filter fun c => (validateCheckpointDirectory float (output.root.below c.2)).toOption.isSome).map
      fun c => (c.1, output.path ++ [c.2]) := by
  induction candidates generalizing valid with
  | nil =>
    cases h
    rfl
  | cons candidate candidates ih =>
    obtain ⟨step, name⟩ := candidate
    unfold validCheckpoints at h
    obtain ⟨checked, hchecked, h⟩ := bind_eq_ok.mp h
    obtain ⟨rest, hrest, h⟩ := bind_eq_ok.mp h
    cases h
    rw [ih hrest, List.filter_cons]
    cases hcheck : validateCheckpointDirectory float (output.root.below name) with
    | ok path =>
      rw [hcheck] at hchecked
      cases hchecked
      have hpath : path = output.path ++ [name] := validateCheckpointDirectory_eq_ok hcheck
      simp [Except.toOption, hpath]
    | error e =>
      rw [hcheck] at hchecked
      cases e <;> cases hchecked
      simp [Except.toOption]

/-- A check whose failure is an `InvalidWorkload`. -/
theorem required_eq_ok {α : Type} {check : FileCheck α} {a : α} (h : required check = .ok a) : check = .ok a := by
  unfold required at h
  split at h <;> cases h
  rfl

/-- In an output directory without links, `merged` is the directory of that name. -/
theorem validateMerged_eq_ok {float : PyStr → PyFloat} {path : RelativePath} (h : validateMerged float output = .ok path)
    (hregular : ∀ e ∈ output.tree.listing, e.2 ≠ .symlink) : path = output.path ++ [py "merged"] := by
  unfold validateMerged at h
  split at h
  · rename_i directory hdirectory
    rw [validateFullModelDirectory_eq_ok h]
    unfold TrainingOutput.merged at hdirectory
    split at hdirectory
    · cases hdirectory
      rfl
    · rename_i hentry
      exact absurd rfl (hregular _ (Dict.mem_of_get? hentry))
    · cases hdirectory
  · split at h <;> cases h

/-- What is reported of a state: only the progress is computed. -/
theorem reportProgress_eq_ok {state : Option (List (PyStr × Json))} (h : reportProgress library state = .ok metadata) :
    (∀ x ∈ metadata.progress, ∃ y, x = clampPercentage y) ∧
      metadata.currentStep = (state.bind fun s => int? (Dict.get? s (py "global_step"))).filter (0 ≤ ·) ∧
      metadata.totalSteps = (state.bind fun s => int? (Dict.get? s (py "max_steps"))).filter (0 < ·) ∧
      metadata.metrics = (state.bind lastMetrics).map reportedMetrics ∧
      metadata.checkpointPath = none ∧ metadata.adapterPath = none ∧ metadata.mergedModelPath = none := by
  unfold reportProgress at h
  cases state with
  | none =>
    cases h
    refine ⟨fun x hx => ?_, rfl, rfl, rfl, rfl, rfl, rfl⟩
    cases hx
  | some state =>
    obtain ⟨progress, hprogress, h⟩ := bind_eq_ok.mp h
    cases h
    refine ⟨fun x hx => ?_, rfl, rfl, rfl, rfl, rfl, rfl⟩
    unfold reportedPercentage at hprogress
    split at hprogress
    · split at hprogress <;> cases hprogress
      exact ⟨_, (Option.mem_some.mp hx).symm⟩
    · cases hprogress
      cases hx

/-- What is returned: the progress of the newest state, and the paths of the artifacts. -/
theorem trainingMetadata_eq_ok (h : trainingMetadata library algorithm output completed = .ok metadata) :
    ∃ progress, reportProgress library (output.state library.float) = .ok progress ∧
      if completed then
        ∃ merged, metadata = { progress with
            checkpointPath := (output.checkpoint library.float).map fun c => RelativePath.absolute (output.path ++ [c.2])
            adapterPath := if algorithm = .freeze then none else some output.path.absolute
            mergedModelPath := some merged.absolute } ∧
          merged = if algorithm = .freeze then output.path else output.path ++ [py "merged"]
      else metadata = progress := by
  unfold trainingMetadata at h
  split at h
  · cases h
  rename_i states stateError hstates
  split at h
  · cases h
  obtain ⟨progress, hprogress, h⟩ := bind_eq_ok.mp h
  rw [collectStates_eq_ok hstates] at hprogress
  refine ⟨progress, hprogress, ?_⟩
  by_cases hcompleted : completed = true
  · rw [if_neg (not_not.mpr hcompleted)] at h
    rw [if_pos hcompleted]
    obtain ⟨valid, hvalid, h⟩ := bind_eq_ok.mp h
    have hcheckpoint : (maxBy (fun c => (c.1 : Int)) valid).map (fun c => c.2.absolute) =
        (output.checkpoint library.float).map fun c => RelativePath.absolute (output.path ++ [c.2]) := by
      rw [validCheckpoints_eq_ok hvalid, maxBy_map, Option.map_map]
      rfl
    simp only [hcheckpoint] at h
    cases algorithm with
    | freeze =>
      obtain ⟨deployable, hdeployable, h⟩ := bind_eq_ok.mp h
      cases h
      refine ⟨deployable, ?_, validateFullModelDirectory_eq_ok (required_eq_ok hdeployable)⟩
      rw [← (reportProgress_eq_ok hprogress).2.2.2.2.2.1]
      rfl
    | lora | qlora =>
      obtain ⟨adapter, hadapter, h⟩ := bind_eq_ok.mp h
      obtain ⟨merged, hmerged, h⟩ := bind_eq_ok.mp h
      cases h
      obtain ⟨hpath, hregular⟩ := validateAdapterDirectory_eq_ok (required_eq_ok hadapter)
      have hpath : adapter = output.path := hpath
      refine ⟨merged, ?_, validateMerged_eq_ok (required_eq_ok hmerged) hregular⟩
      rw [hpath]
      rfl
  · rw [if_pos hcompleted] at h
    rw [if_neg hcompleted]
    cases h
    rfl

end Returned

end OpenLLMOps.Training
