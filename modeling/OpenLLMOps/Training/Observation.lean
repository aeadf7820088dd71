import OpenLLMOps.Framework.Strict
import OpenLLMOps.ModelImport.Validation
import OpenLLMOps.Training.Metadata

/-!
# What the control plane accepts of a training job

`TrainingObservationMetadata` and `validate_training_observation_metadata`, and when they accept what
the agent reports. The agent filters what the training code has written by type; the control plane also
bounds the number of metrics, the length of their names and of the paths, and asks that the steps are in
order.

* `modelValidate_toDict`: the agent's dictionary has the types of the schema;
* `observation_accepted_iff`: it is accepted if and only if the state of the job is within the bounds and
  the artifacts are where they are expected.
-/

namespace OpenLLMOps.Training

open Framework

/-! ## The schema -/

/-- `dict[str, str | int | float | bool]`. -/
def strictMetrics? : Json → Option (List (PyStr × Json))
  | .obj kvs => if kvs.all fun kv => isMetric kv.2 then some kvs else none
  | _ => none

/-- A field that may be absent or null. -/
def optionalField {α : Type} (raw : List (PyStr × Json)) (parse : Json → Option α) (name : PyStr) : Option (Option α) :=
  match Dict.get? raw name with
  | none | some .null => some none
  | some value => (parse value).map some

/-- The types of the fields. -/
def parseFields (raw : List (PyStr × Json)) : Option TrainingMetadata := do
  let progress ← optionalField raw strictFloat? (py "progress")
  let currentStep ← optionalField raw strictInt? (py "current_step")
  let totalSteps ← optionalField raw strictInt? (py "total_steps")
  let metrics ← optionalField raw strictMetrics? (py "metrics")
  let checkpointPath ← optionalField raw strictStr? (py "checkpoint_path")
  let adapterPath ← optionalField raw strictStr? (py "adapter_path")
  let mergedModelPath ← optionalField raw strictStr? (py "merged_model_path")
  some ⟨currentStep, totalSteps, progress, metrics, checkpointPath, adapterPath, mergedModelPath⟩

/-- The names of the fields. -/
def fieldNames : List PyStr :=
  [py "progress", py "current_step", py "total_steps", py "metrics", py "checkpoint_path", py "adapter_path",
    py "merged_model_path"]

/-- A path of 1 to 1024 characters, that is encodable as UTF-8. -/
def isStorablePath (path : PyStr) : Bool :=
  decide (1 ≤ path.length ∧ path.length ≤ 1024) && path.all fun c => !(0xD800 ≤ c && c ≤ 0xDFFF)

/-- `validate_metrics`. -/
def validateMetrics (metrics : List (PyStr × Json)) : Bool :=
  metrics.length ≤ 128 && metrics.all fun kv => kv.1 ≠ [] && kv.1.length ≤ 128

/-- `validate_progress`. -/
def validateProgress (m : TrainingMetadata) : Bool :=
  match m.currentStep, m.totalSteps with
  | some currentStep, some totalSteps => currentStep ≤ totalSteps
  | _, _ => true

/-- The bounds of the fields, and the validators. -/
def TrainingMetadata.bounded (m : TrainingMetadata) : Bool :=
  (m.progress.all fun x => x.ge 0 0 && x.le 1 2) && m.currentStep.all (0 ≤ ·) && m.totalSteps.all (1 ≤ ·) &&
    m.metrics.all validateMetrics && m.checkpointPath.all isStorablePath && m.adapterPath.all isStorablePath &&
    m.mergedModelPath.all isStorablePath && validateProgress m

/-- `TrainingObservationMetadata`. -/
def TrainingObservationMetadata : Type := { m : TrainingMetadata // m.bounded = true }

instance : DecidableEq TrainingObservationMetadata :=
  inferInstanceAs (DecidableEq { m : TrainingMetadata // m.bounded = true })

/-- `TrainingObservationMetadata.model_validate`; `none` is a `ValidationError`. -/
def TrainingObservationMetadata.modelValidate (raw : List (PyStr × Json)) : Option TrainingObservationMetadata :=
  if raw.all fun kv => kv.1 ∈ fieldNames then
    match parseFields raw with
    | some m => if h : m.bounded = true then some ⟨m, h⟩ else none
    | none => none
  else none

/-! ## The check of a job -/

/-- What is read of a row of `training_jobs`. -/
structure TrainingJobRow where
  id : Uuid
  algorithm : TrainingAlgorithm
  outputDir : PyStr

/-- `derive_training_output_dir`, for an output directory that is no symbolic link. -/
def deriveTrainingOutputDir (checkpointRoot : AbsolutePath) (id : Uuid) : RelativePath :=
  checkpointRoot.parts ++ [uuidText id]

/-- A full match of `CHECKPOINT_NAME`. -/
def isCheckpointName (name : PyStr) : Bool :=
  match dropPrefix? (py "checkpoint-") name with
  | some digits => digits ≠ [] && digits.all isDigit
  | none => false

/-- `validate_training_observation_metadata`; an error is the text of a `TrainingControlError`. -/
def validateTrainingObservationMetadata (job : TrainingJobRow) (raw : List (PyStr × Json)) (checkpointRoot : AbsolutePath)
    (requireSuccessArtifacts : Bool) : Except PyStr TrainingObservationMetadata :=
  match TrainingObservationMetadata.modelValidate raw with
  | none => .error (py "node-agent 返回的训练 metadata 结构无效")
  | some metadata =>
    let output := deriveTrainingOutputDir checkpointRoot job.id
    if pathParts? job.outputDir ≠ some output then .error (py "训练任务 output_dir 与 job UUID 不一致")
    else if metadata.1.checkpointPath.any fun path =>
        (pathParts? path).all fun parts => parts.dropLast ≠ output || !isCheckpointName (RelativePath.name parts) then
      .error (py "node-agent 返回的 checkpoint_path 不符合受控合同")
    else
      match job.algorithm with
      | .lora | .qlora =>
        if metadata.1.adapterPath.any fun path => pathParts? path ≠ some output then
          .error (py "node-agent 返回的 adapter_path 不符合受控合同")
        else if metadata.1.mergedModelPath.any fun path => pathParts? path ≠ some (output ++ [py "merged"]) then
          .error (py "node-agent 返回的 merged_model_path 不符合受控合同")
        else if requireSuccessArtifacts ∧ (metadata.1.adapterPath = none ∨ metadata.1.mergedModelPath = none) then
          .error (py "LoRA/QLoRA 成功响应必须包含 adapter 与 merged 模型路径")
        else .ok metadata
      | .freeze =>
        if metadata.1.adapterPath ≠ none then .error (py "Freeze 成功响应不能包含 adapter_path")
        else if metadata.1.mergedModelPath.any fun path => pathParts? path ≠ some output then
          .error (py "node-agent 返回的 Freeze 完整模型路径不符合受控合同")
        else if requireSuccessArtifacts ∧ metadata.1.mergedModelPath = none then
          .error (py "Freeze 成功响应必须包含完整模型路径")
        else .ok metadata

/-! ## The agent's dictionary -/

theorem get?_filterMap {entries : List (PyStr × Option Json)} (hnodup : (Dict.keys entries).Nodup) {name : PyStr}
    {value : Option Json} (h : (name, value) ∈ entries) :
    Dict.get? (entries.filterMap fun entry => entry.2.map (entry.1, ·)) name = value := by
  induction entries with
  | nil => cases h
  | cons entry entries ih =>
    obtain ⟨name', value'⟩ := entry
    rw [Dict.keys, List.map_cons, List.nodup_cons] at hnodup
    have habsent : name ∉ Dict.keys entries →
        Dict.get? (entries.filterMap fun entry => entry.2.map (entry.1, ·)) name = none := by
      refine fun hname => Dict.get?_eq_none.mpr fun hmem => hname ?_
      obtain ⟨⟨_, v⟩, hv, rfl⟩ := List.mem_map.mp hmem
      obtain ⟨⟨name', value'⟩, hentry, he⟩ := List.mem_filterMap.mp hv
      obtain ⟨v', hv', hpair⟩ := Option.map_eq_some_iff.mp he
      cases hpair
      exact List.mem_map_of_mem hentry
    rcases List.mem_cons.mp h with he | hmem
    · cases he
      cases value with
      | none => exact habsent hnodup.1
      | some value => exact (Dict.get?_cons _ _ _ _).trans (if_pos rfl)
    · have hne : name' ≠ name := fun he => hnodup.1 (List.mem_map.mpr ⟨_, hmem, he.symm⟩)
      cases value' with
      | none => exact ih hnodup.2 hmem
      | some value' => exact (Dict.get?_cons _ _ _ _).trans ((if_neg hne).trans (ih hnodup.2 hmem))

theorem optionalField_of_get? {α : Type} {raw : List (PyStr × Json)} {parse : Json → Option α} {name : PyStr}
    {encode : α → Json} {field : Option α} (hget : Dict.get? raw name = field.map encode)
    (hparse : ∀ a ∈ field, parse (encode a) = some a) (hnull : ∀ a, encode a ≠ .null) :
    optionalField raw parse name = some field := by
  unfold optionalField
  rw [hget]
  cases field with
  | none => rfl
  | some a =>
    have ha := hparse a rfl
    rw [Option.map_some]
    split
    · rename_i he
      cases he
    · rename_i he
      exact absurd (Option.some.inj he) (hnull a)
    · rename_i he
      cases he
      rw [ha, Option.map_some]

/-- The values have the types of the schema. -/
structure TrainingMetadata.WellTyped (m : TrainingMetadata) : Prop where
  progress : ∀ x ∈ m.progress, x.isFinite = true
  metrics : ∀ kvs ∈ m.metrics, ∀ kv ∈ kvs, isMetric kv.2 = true

theorem nodup_entries (m : TrainingMetadata) : (Dict.keys m.entries).Nodup := by
  show List.Nodup [py "current_step", py "total_steps", py "progress", py "metrics", py "checkpoint_path",
    py "adapter_path", py "merged_model_path"]
  decide

/-- The agent's dictionary has the types of the schema. -/
theorem parseFields_toDict {m : TrainingMetadata} (h : m.WellTyped) : parseFields m.toDict = some m := by
  have hget {name : PyStr} {value : Option Json} (hmem : (name, value) ∈ m.entries) : Dict.get? m.toDict name = value :=
    get?_filterMap (nodup_entries m) hmem
  have hprogress : Dict.get? m.toDict (py "progress") = m.progress.map Json.float := hget (by simp [TrainingMetadata.entries])
  have hcurrent : Dict.get? m.toDict (py "current_step") = m.currentStep.map Json.int := hget (by simp [TrainingMetadata.entries])
  have htotal : Dict.get? m.toDict (py "total_steps") = m.totalSteps.map Json.int := hget (by simp [TrainingMetadata.entries])
  have hmetrics : Dict.get? m.toDict (py "metrics") = m.metrics.map Json.obj := hget (by simp [TrainingMetadata.entries])
  have hcheckpoint : Dict.get? m.toDict (py "checkpoint_path") = m.checkpointPath.map Json.str :=
    hget (by simp [TrainingMetadata.entries])
  have hadapter : Dict.get? m.toDict (py "adapter_path") = m.adapterPath.map Json.str := hget (by simp [TrainingMetadata.entries])
  have hmerged : Dict.get? m.toDict (py "merged_model_path") = m.mergedModelPath.map Json.str :=
    hget (by simp [TrainingMetadata.entries])
  have hfinite : ∀ x ∈ m.progress, strictFloat? (.float x) = some x := fun x hx => if_pos (h.progress x hx)
  have hscalars : ∀ kvs ∈ m.metrics, strictMetrics? (.obj kvs) = some kvs := fun kvs hkvs =>
    if_pos (List.all_eq_true.mpr (h.metrics kvs hkvs))
  rw [parseFields, optionalField_of_get? hprogress hfinite (fun _ h => by cases h),
    optionalField_of_get? hcurrent (fun _ _ => rfl) (fun _ h => by cases h),
    optionalField_of_get? htotal (fun _ _ => rfl) (fun _ h => by cases h),
    optionalField_of_get? hmetrics hscalars (fun _ h => by cases h),
    optionalField_of_get? hcheckpoint (fun _ _ => rfl) (fun _ h => by cases h),
    optionalField_of_get? hadapter (fun _ _ => rfl) (fun _ h => by cases h),
    optionalField_of_get? hmerged (fun _ _ => rfl) (fun _ h => by cases h)]
  rfl

theorem modelValidate_toDict {m : TrainingMetadata} (h : m.WellTyped) :
    TrainingObservationMetadata.modelValidate m.toDict = if h : m.bounded = true then some ⟨m, h⟩ else none := by
  have hnames : (m.toDict.all fun kv => kv.1 ∈ fieldNames) = true := by
    refine List.all_eq_true.mpr fun kv hkv => decide_eq_true ?_
    obtain ⟨⟨name, value⟩, hentry, he⟩ := List.mem_filterMap.mp hkv
    obtain ⟨v, -, rfl⟩ := Option.map_eq_some_iff.mp he
    have hkey : name ∈ Dict.keys m.entries := List.mem_map_of_mem hentry
    have hsubset : ∀ name ∈ [py "current_step", py "total_steps", py "progress", py "metrics", py "checkpoint_path",
        py "adapter_path", py "merged_model_path"], name ∈ fieldNames := by decide
    exact hsubset name hkey
  rw [TrainingObservationMetadata.modelValidate, if_pos hnames, parseFields_toDict h]

/-! ## The progress -/

theorem decimalLe_of_not {m m' : Nat} {e e' : Int} (h : ¬PyFloat.decimalLe m e m' e' = true) :
    PyFloat.decimalLe m' e' m e = true := by
  unfold PyFloat.decimalLe at h ⊢
  rcases lt_trichotomy e e' with hlt | rfl | hlt
  · rw [if_neg (by omega)] at h
    rw [if_pos (by omega)]
    simp only [decide_eq_true_eq] at h ⊢
    omega
  · simp only [le_refl, if_true, sub_self, Int.toNat_zero, pow_zero, mul_one, decide_eq_true_eq] at h ⊢
    omega
  · rw [if_pos (by omega)] at h
    rw [if_neg (by omega)]
    simp only [decide_eq_true_eq] at h ⊢
    omega

/-- Whatever the quotient is, the percentage is finite and between 0 and 100. -/
theorem clampPercentage_range (x : PyFloat) :
    (clampPercentage x).isFinite = true ∧ (clampPercentage x).ge 0 0 = true ∧ (clampPercentage x).le 1 2 = true := by
  unfold clampPercentage
  simp only
  split
  · rename_i hpos
    split
    · rename_i hge
      cases x with
      | finite neg m e =>
        have hneg : neg = false := by simpa [PyFloat.gtZero] using And.left (Bool.and_eq_true_iff.mp hpos)
        subst hneg
        refine ⟨rfl, ?_, ?_⟩
        · simp [PyFloat.ge, PyFloat.decimalLe]
        · exact (Bool.false_or _).trans (decimalLe_of_not hge)
      | inf neg => exact absurd hpos hge
      | nan => cases hpos
    · decide
  · decide

/-! ## When the metadata is accepted -/

/-- The steps of a state are in order, if both are reported. -/
def StepsInOrder (state : List (PyStr × Json)) : Prop :=
  ∀ currentStep totalSteps, int? (Dict.get? state (py "global_step")) = some currentStep →
    int? (Dict.get? state (py "max_steps")) = some totalSteps → 0 < totalSteps → currentStep ≤ totalSteps

/-- The metrics of a state, of which those of other types are left out, are at most 128, and have names
of 1 to 128 characters. -/
def MetricsFit (state : List (PyStr × Json)) : Prop :=
  ∀ kvs, lastMetrics state = some kvs → (reportedMetrics kvs).length ≤ 128 ∧
    ∀ kv ∈ reportedMetrics kvs, kv.1 ≠ [] ∧ kv.1.length ≤ 128

theorem metrics_all_iff {state : Option (List (PyStr × Json))} :
    ((state.bind lastMetrics).map reportedMetrics).all validateMetrics = true ↔ ∀ s ∈ state, MetricsFit s := by
  have hfit : ∀ kvs, validateMetrics kvs = true ↔ kvs.length ≤ 128 ∧ ∀ kv ∈ kvs, kv.1 ≠ [] ∧ kv.1.length ≤ 128 := by
    simp [validateMetrics]
  cases state with
  | none => simp
  | some state =>
    rw [Option.bind_some, Option.all_eq_true]
    constructor
    · intro h s hs kvs hkvs
      cases hs
      exact (hfit _).mp (h _ (by rw [hkvs, Option.map_some]))
    · intro h kvs hkvs
      obtain ⟨last, hlast, rfl⟩ := Option.map_eq_some_iff.mp hkvs
      exact (hfit _).mpr (h state rfl last hlast)

theorem validateProgress_iff {state : Option (List (PyStr × Json))} {m : TrainingMetadata}
    (hcurrent : m.currentStep = (state.bind fun s => int? (Dict.get? s (py "global_step"))).filter (0 ≤ ·))
    (htotal : m.totalSteps = (state.bind fun s => int? (Dict.get? s (py "max_steps"))).filter (0 < ·)) :
    validateProgress m = true ↔ ∀ s ∈ state, StepsInOrder s := by
  unfold validateProgress
  rw [hcurrent, htotal]
  cases state with
  | none => simp
  | some state =>
    simp only [Option.bind_some, Option.mem_some, forall_eq', StepsInOrder]
    cases hstep : int? (Dict.get? state (py "global_step")) with
    | none => simp
    | some currentStep =>
    cases hsteps : int? (Dict.get? state (py "max_steps")) with
    | none => simp
    | some totalSteps =>
    by_cases hpos : 0 < totalSteps
    · by_cases hnonneg : 0 ≤ currentStep
      · simp [Option.filter, hpos, hnonneg]
      · simp [Option.filter, hpos, hnonneg]
        omega
    · simp [Option.filter, hpos]

/-- What is reported of a state has the types of the schema, and is within the bounds if the state is. -/
theorem reportProgress_bounded {library : TrainingLibrary} {state : Option (List (PyStr × Json))} {m : TrainingMetadata}
    (h : reportProgress library state = .ok m) :
    m.WellTyped ∧ (m.bounded = true ↔ ∀ s ∈ state, StepsInOrder s ∧ MetricsFit s) := by
  obtain ⟨hprogress, hcurrent, htotal, hmetrics, hcheckpoint, hadapter, hmerged⟩ := reportProgress_eq_ok h
  have hrange : (m.progress.all fun x => x.ge 0 0 && x.le 1 2) = true := by
    refine (Option.all_eq_true _ _).mpr fun x hx => ?_
    obtain ⟨y, rfl⟩ := hprogress x hx
    exact Bool.and_eq_true_iff.mpr (clampPercentage_range y).2
  have hnonneg : m.currentStep.all (0 ≤ ·) = true := by
    rw [hcurrent]
    exact (Option.all_eq_true _ _).mpr fun n hn => (Option.mem_filter_iff.mp hn).2
  have hpos : m.totalSteps.all (1 ≤ ·) = true := by
    rw [htotal]
    refine (Option.all_eq_true _ _).mpr fun n hn => ?_
    have hn : 0 < n := of_decide_eq_true (Option.mem_filter_iff.mp hn).2
    exact decide_eq_true (by omega)
  refine ⟨⟨fun x hx => ?_, fun kvs hkvs kv hkv => ?_⟩, ?_⟩
  · obtain ⟨y, rfl⟩ := hprogress x hx
    exact (clampPercentage_range y).1
  · rw [hmetrics] at hkvs
    obtain ⟨last, -, rfl⟩ := Option.map_eq_some_iff.mp hkvs
    exact (List.mem_filter.mp hkv).2
  · have hsteps := validateProgress_iff hcurrent htotal
    rw [TrainingMetadata.bounded, hrange, hnonneg, hpos, hcheckpoint, hadapter, hmerged, hmetrics]
    simp only [Option.all_none, Bool.true_and, Bool.and_true, Bool.and_eq_true, metrics_all_iff, hsteps]
    exact ⟨fun h s hs => ⟨h.2 s hs, h.1 s hs⟩, fun h => ⟨fun s hs => (h s hs).2, fun s hs => (h s hs).1⟩⟩

/-! ## Paths -/

theorem hexDigits_mem {width n c : Nat} (h : c ∈ hexDigits width n) : c ≠ 47 := by
  induction width generalizing n with
  | zero => cases h
  | succ width ih =>
    rw [hexDigits, List.mem_append, List.mem_singleton] at h
    rcases h with h | rfl
    · exact ih h
    · split <;> omega

theorem length_hexDigits (width n : Nat) : (hexDigits width n).length = width := by
  induction width generalizing n with
  | zero => rfl
  | succ width ih => rw [hexDigits, List.length_append, ih, List.length_singleton]

theorem uuidText_eq (u : Nat) : uuidText u = hexDigits 8 (u / 2 ^ 96) ++ (py "-" ++ (hexDigits 4 (u / 2 ^ 80) ++
    (py "-" ++ (hexDigits 4 (u / 2 ^ 64) ++ (py "-" ++ (hexDigits 4 (u / 2 ^ 48) ++ (py "-" ++ hexDigits 12 u))))))) := by
  simp [uuidText, List.intercalate]

/-- The text of a UUID is the name of a file. -/
theorem uuidText_proper (u : Nat) : uuidText u ≠ [] ∧ 47 ∉ uuidText u ∧ uuidText u ≠ py "." := by
  have hlength : 8 ≤ (uuidText u).length := by
    rw [uuidText_eq, List.length_append, length_hexDigits]
    omega
  refine ⟨fun h => ?_, fun h => ?_, fun h => ?_⟩
  · rw [h] at hlength
    exact absurd hlength (by decide)
  · have hdash : 47 ∉ py "-" := by decide
    rw [uuidText_eq] at h
    simp only [List.mem_append, hdash, false_or] at h
    rcases h with h | h | h | h | h <;> exact hexDigits_mem h rfl
  · rw [h] at hlength
    exact absurd hlength (by decide)

theorem TrainingOutput.path_proper (output : TrainingOutput) : output.path.Proper := by
  intro part hpart
  rcases List.mem_append.mp hpart with hpart | hpart
  · exact output.checkpointRoot.proper part hpart
  · rw [List.mem_singleton.mp hpart]
    exact uuidText_proper output.job

theorem proper_append {p : RelativePath} {name : PyStr} (hp : p.Proper) (h : name ≠ [] ∧ 47 ∉ name ∧ name ≠ py ".") :
    RelativePath.Proper (p ++ [name]) := by
  intro part hpart
  rcases List.mem_append.mp hpart with hpart | hpart
  · exact hp part hpart
  · rwa [List.mem_singleton.mp hpart]

/-- The agent's names of checkpoints are those of the control plane. -/
theorem checkpointStep?_spec {name : PyStr} {step : Nat} (h : checkpointStep? name = some step) :
    (name ≠ [] ∧ 47 ∉ name ∧ name ≠ py ".") ∧ isCheckpointName name = true := by
  simp only [checkpointStep?, Option.bind_eq_bind, Option.bind_eq_some_iff] at h
  obtain ⟨digits, hdigits, h⟩ := h
  have hname := dropPrefix?_spec hdigits
  split at h
  · rename_i first rest
    split at h
    · rename_i hall
      refine ⟨⟨fun hnil => ?_, fun hslash => ?_, fun hdot => ?_⟩, ?_⟩
      · rw [hnil] at hname
        cases hname
      · rw [hname, List.mem_append] at hslash
        rcases hslash with hslash | hslash
        · exact absurd hslash (by decide)
        · exact absurd (List.all_eq_true.mp hall.2 47 hslash) (by decide)
      · rw [hdot] at hname
        cases hname
      · rw [isCheckpointName, hdigits]
        exact Bool.and_eq_true_iff.mpr ⟨by simp, hall.2⟩
    · cases h
  · cases h

theorem mem_of_maxBy {α : Type} {key : α → Int} {xs : List α} {x : α} (h : x ∈ maxBy key xs) : x ∈ xs := by
  have hfold : ∀ (xs : List α) (best : Option α), xs.foldl (fun best x =>
      best.elim (some x) fun b => if key b < key x then some x else some b) best = some x → x ∈ xs ∨ best = some x := by
    intro xs
    induction xs with
    | nil => exact fun best h => .inr h
    | cons y ys ih =>
      intro best h
      rw [List.foldl_cons] at h
      rcases ih _ h with hmem | hbest
      · exact .inl (List.mem_cons_of_mem _ hmem)
      · cases best with
        | none =>
          cases hbest
          exact .inl List.mem_cons_self
        | some b =>
          rw [Option.elim_some] at hbest
          split at hbest
          · cases hbest
            exact .inl List.mem_cons_self
          · exact .inr hbest
  have helim : maxBy key xs = xs.foldl (fun best x =>
      best.elim (some x) fun b => if key b < key x then some x else some b) none := by
    unfold maxBy
    congr 1
    funext best x
    cases best <;> rfl
  exact (hfold xs none (helim ▸ h)).resolve_right fun h => by cases h

/-- The checkpoint that is reported has the name of one. -/
theorem TrainingOutput.checkpoint_spec {output : TrainingOutput} {float : PyStr → PyFloat} {c : Nat × PyStr}
    (h : c ∈ output.checkpoint float) : checkpointStep? c.2 = some c.1 := by
  have hmem := (List.mem_filter.mp (mem_of_maxBy h)).1
  obtain ⟨entry, -, he⟩ := List.mem_filterMap.mp hmem
  split at he
  · obtain ⟨step, hstep, rfl⟩ := Option.map_eq_some_iff.mp he
    exact hstep
  · cases he

/-! ## When the metadata is accepted -/

/-- The row of a job: `create_training_job` derives the output directory. -/
def TrainingJobRow.created (checkpointRoot : AbsolutePath) (id : Uuid) (algorithm : TrainingAlgorithm) : TrainingJobRow :=
  ⟨id, algorithm, (deriveTrainingOutputDir checkpointRoot id).absolute⟩

/-- The paths of the artifacts can be stored. -/
def PathsFit (algorithm : TrainingAlgorithm) (output : TrainingOutput) (float : PyStr → PyFloat) : Prop :=
  (∀ c ∈ output.checkpoint float, isStorablePath (RelativePath.absolute (output.path ++ [c.2])) = true) ∧
    isStorablePath output.path.absolute = true ∧
    (algorithm ≠ .freeze → isStorablePath (RelativePath.absolute (output.path ++ [py "merged"])) = true)

theorem bounded_with_paths {m : TrainingMetadata} (hcheckpoint : m.checkpointPath = none) (hadapter : m.adapterPath = none)
    (hmerged : m.mergedModelPath = none) (checkpointPath adapterPath mergedModelPath : Option PyStr) :
    TrainingMetadata.bounded { m with
      checkpointPath := checkpointPath, adapterPath := adapterPath, mergedModelPath := mergedModelPath } = true ↔
    m.bounded = true ∧ checkpointPath.all isStorablePath = true ∧ adapterPath.all isStorablePath = true ∧
      mergedModelPath.all isStorablePath = true := by
  simp only [TrainingMetadata.bounded, validateProgress, hcheckpoint, hadapter, hmerged, Option.all_none, Bool.and_true,
    Bool.and_eq_true]
  tauto

/-- The paths are where the control plane expects them. -/
def TrainingMetadata.Located (m : TrainingMetadata) (algorithm : TrainingAlgorithm) (output : RelativePath) (require : Bool) :
    Prop :=
  (∀ path ∈ m.checkpointPath, ∃ parts, pathParts? path = some parts ∧ parts.dropLast = output ∧
    isCheckpointName parts.name = true) ∧
  if algorithm = .freeze then
    m.adapterPath = none ∧ (∀ path ∈ m.mergedModelPath, pathParts? path = some output) ∧
      (require = true → m.mergedModelPath ≠ none)
  else
    (∀ path ∈ m.adapterPath, pathParts? path = some output) ∧
      (∀ path ∈ m.mergedModelPath, pathParts? path = some (output ++ [py "merged"])) ∧
      (require = true → m.adapterPath ≠ none ∧ m.mergedModelPath ≠ none)

theorem not_any_iff {α : Type} {o : Option α} {p : α → Bool} : ¬o.any p = true ↔ ∀ a ∈ o, p a = false := by
  cases o <;> simp

theorem validate_toDict {m : TrainingMetadata} {job : TrainingJobRow} {root : AbsolutePath} {require : Bool}
    (hrow : pathParts? job.outputDir = some (deriveTrainingOutputDir root job.id)) (htyped : m.WellTyped) :
    (∃ observation, validateTrainingObservationMetadata job m.toDict root require = .ok observation) ↔
      m.bounded = true ∧ m.Located job.algorithm (deriveTrainingOutputDir root job.id) require := by
  unfold validateTrainingObservationMetadata
  rw [modelValidate_toDict htyped]
  by_cases hb : m.bounded = true
  · rw [dif_pos hb, and_iff_right hb]
    simp only [hrow, ne_eq, not_true_eq_false, if_false, exists_ok_ite, not_any_iff]
    refine and_congr ?_ ?_
    · refine forall₂_congr fun path _ => ?_
      cases pathParts? path with
      | none => simp
      | some parts => simp
    · have hok : ∃ observation : TrainingObservationMetadata, (Except.ok ⟨m, hb⟩ : Except PyStr _) = .ok observation :=
        ⟨_, rfl⟩
      cases job.algorithm with
      | freeze =>
        simp only [exists_ok_ite, not_any_iff, and_iff_left hok]
        simp
      | lora | qlora =>
        simp only [exists_ok_ite, not_any_iff, and_iff_left hok]
        simp
  · rw [dif_neg hb]
    simp [hb]

/-- What the agent reports is accepted if and only if the newest state of the job is within the bounds and, when the
job has completed, its artifacts are where the control plane expects them. -/
theorem observation_accepted_iff {library : TrainingLibrary} {algorithm : TrainingAlgorithm} {output : TrainingOutput}
    {completed : Bool} {metadata : TrainingMetadata}
    (h : trainingMetadata library algorithm output completed = .ok metadata) :
    (∃ observation, validateTrainingObservationMetadata
        (.created output.checkpointRoot output.job algorithm) metadata.toDict output.checkpointRoot completed =
          .ok observation) ↔
      (∀ s ∈ output.state library.float, StepsInOrder s ∧ MetricsFit s) ∧
        (completed = true → PathsFit algorithm output library.float) := by
  obtain ⟨progress, hprogress, hmetadata⟩ := trainingMetadata_eq_ok h
  obtain ⟨htyped, hbounded⟩ := reportProgress_bounded hprogress
  obtain ⟨-, -, -, -, hcheckpoint, hadapter, hnomerged⟩ := reportProgress_eq_ok hprogress
  have hpath : pathParts? output.path.absolute = some output.path := pathParts?_absolute output.path_proper
  rw [← hbounded]
  cases completed with
  | false =>
    rw [if_neg (by decide)] at hmetadata
    subst hmetadata
    rw [validate_toDict (by exact hpath) htyped]
    have hlocated : metadata.Located algorithm output.path false := by
      simp [TrainingMetadata.Located, hcheckpoint, hadapter, hnomerged]
    exact ⟨fun h => ⟨h.1, fun h => by cases h⟩, fun h => ⟨h.1, hlocated⟩⟩
  | true =>
    rw [if_pos rfl] at hmetadata
    obtain ⟨merged, rfl, hmerged⟩ := hmetadata
    have htyped' : TrainingMetadata.WellTyped { progress with
        checkpointPath := (output.checkpoint library.float).map fun c => RelativePath.absolute (output.path ++ [c.2])
        adapterPath := if algorithm = .freeze then none else some output.path.absolute
        mergedModelPath := some merged.absolute } := ⟨htyped.progress, htyped.metrics⟩
    rw [validate_toDict (by exact hpath) htyped', bounded_with_paths hcheckpoint hadapter hnomerged]
    have hnames : ∀ path ∈ (output.checkpoint library.float).map fun c => RelativePath.absolute (output.path ++ [c.2]),
        ∃ parts, pathParts? path = some parts ∧ parts.dropLast = output.path ∧ isCheckpointName parts.name = true := by
      intro path hpath
      obtain ⟨c, hc, rfl⟩ := Option.map_eq_some_iff.mp hpath
      obtain ⟨hname, hcheckpointName⟩ := checkpointStep?_spec (output.checkpoint_spec hc)
      refine ⟨_, pathParts?_absolute (proper_append output.path_proper hname), List.dropLast_concat, ?_⟩
      rwa [RelativePath.name, List.getLastD_concat]
    have hcheckpoints : ((output.checkpoint library.float).map fun c => RelativePath.absolute (output.path ++ [c.2])).all
        isStorablePath = true ↔
          ∀ c ∈ output.checkpoint library.float, isStorablePath (RelativePath.absolute (output.path ++ [c.2])) = true := by
      cases output.checkpoint library.float <;> simp
    rw [hcheckpoints]
    unfold PathsFit TrainingMetadata.Located
    by_cases hfreeze : algorithm = .freeze
    · rw [if_pos hfreeze] at hmerged
      subst hmerged
      rw [if_pos hfreeze, if_pos (show (TrainingJobRow.created output.checkpointRoot output.job algorithm).algorithm = .freeze
        from hfreeze)]
      constructor
      · rintro ⟨⟨hb, hc, -, hstorable⟩, -⟩
        exact ⟨hb, fun _ => ⟨hc, hstorable, fun h => absurd hfreeze h⟩⟩
      · rintro ⟨hb, hfit⟩
        obtain ⟨hc, hstorable, -⟩ := hfit rfl
        refine ⟨⟨hb, hc, rfl, hstorable⟩, hnames, rfl, fun path h => ?_, fun _ h => by cases h⟩
        cases h
        exact hpath
    · rw [if_neg hfreeze] at hmerged
      subst hmerged
      have hmergedPath : pathParts? (RelativePath.absolute (output.path ++ [py "merged"])) =
          some (output.path ++ [py "merged"]) := pathParts?_absolute (proper_append output.path_proper (by decide))
      rw [if_neg hfreeze, if_neg (show (TrainingJobRow.created output.checkpointRoot output.job algorithm).algorithm ≠ .freeze
        from hfreeze)]
      constructor
      · rintro ⟨⟨hb, hc, hadapter, hstorable⟩, -⟩
        exact ⟨hb, fun _ => ⟨hc, hadapter, fun _ => hstorable⟩⟩
      · rintro ⟨hb, hfit⟩
        obtain ⟨hc, hadapter, hstorable⟩ := hfit rfl
        refine ⟨⟨hb, hc, hadapter, hstorable hfreeze⟩, hnames, fun path h => ?_, fun path h => ?_,
          fun _ => ⟨fun h => ?_, fun h => ?_⟩⟩
        · cases h
          exact hpath
        · cases h
          exact hmergedPath
        · cases h
        · cases h

/-! ## Two jobs -/

namespace Sample

theorem config_proper : py "config.json" ≠ [] ∧ 47 ∉ py "config.json" := by decide

theorem tokenizerConfig_proper : py "tokenizer_config.json" ≠ [] ∧ 47 ∉ py "tokenizer_config.json" := by decide

theorem tokenizer_proper : py "tokenizer.json" ≠ [] ∧ 47 ∉ py "tokenizer.json" := by decide

theorem model_proper : py "model.safetensors" ≠ [] ∧ 47 ∉ py "model.safetensors" := by decide

theorem trainerState_proper : py "trainer_state.json" ≠ [] ∧ 47 ∉ py "trainer_state.json" := by decide

/-- The output directory of a full training, with the least model. -/
def entries (state : Bytes) : List (Sigma fun _ : FilePath => DirectoryEntry) :=
  [⟨.top (py "config.json") config_proper, .file (Importer.Sample.text "\x7b\"model_type\":\"llama\"\x7d")⟩,
    ⟨.top (py "tokenizer_config.json") tokenizerConfig_proper, .file (Importer.Sample.text "\x7b\x7d")⟩,
    ⟨.top (py "tokenizer.json") tokenizer_proper, .file (Importer.Sample.text "\x7b\x7d")⟩,
    ⟨.top (py "model.safetensors") model_proper, .file Importer.Sample.weights⟩,
    ⟨.top (py "trainer_state.json") trainerState_proper, .file state⟩]

theorem entries_nodup (state : Bytes) : (entries state).NodupKeys := by
  have hkeys : (entries state).keys = [.top (py "config.json") (by decide), .top (py "tokenizer_config.json") (by decide),
      .top (py "tokenizer.json") (by decide), .top (py "model.safetensors") (by decide),
      .top (py "trainer_state.json") (by decide)] := rfl
  rw [List.NodupKeys, hkeys]
  decide +kernel

def checkpointRoot : AbsolutePath := ⟨[py "srv", py "openllmops", py "checkpoints"], by unfold RelativePath.Proper; decide⟩

def output (state : Bytes) : TrainingOutput :=
  ⟨checkpointRoot, 1, ⟨entries state, entries_nodup state⟩, none⟩

/-- `5 * 100.0 / 10` and `5 * 100.0 / 3`. -/
def library : TrainingLibrary where
  float := Importer.Sample.float
  percentage := fun _ totalSteps => some (if totalSteps = 10 then .finite false 5 1 else .finite false 16666666666666666 (-14))

/-- A state that has passed its last step. -/
def lateState : Bytes := Importer.Sample.text "\x7b\"global_step\":5,\"max_steps\":3\x7d"

def directory : PyStr := py "/srv/openllmops/checkpoints/00000000-0000-0000-0000-000000000001"

end Sample

theorem sample_is_accepted :
    trainingMetadata Sample.library .freeze
        (Sample.output (Importer.Sample.text "\x7b\"global_step\":5,\"max_steps\":10\x7d")) true =
      .ok ⟨some 5, some 10, some (.finite false 5 1), none, none, none, some Sample.directory⟩ ∧
    ∃ observation, validateTrainingObservationMetadata (.created Sample.checkpointRoot 1 .freeze)
      (TrainingMetadata.toDict ⟨some 5, some 10, some (.finite false 5 1), none, none, none, some Sample.directory⟩)
      Sample.checkpointRoot true = .ok observation := by
  have hreturned : trainingMetadata Sample.library .freeze
      (Sample.output (Importer.Sample.text "\x7b\"global_step\":5,\"max_steps\":10\x7d")) true =
        .ok ⟨some 5, some 10, some (.finite false 5 1), none, none, none, some Sample.directory⟩ := by decide +kernel
  have hstate : (Sample.output (Importer.Sample.text "\x7b\"global_step\":5,\"max_steps\":10\x7d")).state Sample.library.float =
      some [(py "global_step", .int 5), (py "max_steps", .int 10)] := by decide +kernel
  have hcheckpoint : (Sample.output (Importer.Sample.text "\x7b\"global_step\":5,\"max_steps\":10\x7d")).checkpoint
      Sample.library.float = none := by decide +kernel
  refine ⟨hreturned, (observation_accepted_iff hreturned).mpr ⟨fun s hs => ?_, fun _ => ⟨fun c hc => ?_, ?_, fun h => ?_⟩⟩⟩
  · rw [hstate] at hs
    cases hs
    refine ⟨fun currentStep totalSteps hcurrent htotal _ => ?_, fun kvs hkvs => ?_⟩
    · have hcurrent : some 5 = some currentStep := hcurrent
      have htotal : some 10 = some totalSteps := htotal
      cases hcurrent
      cases htotal
      decide
    · have hkvs : none = some kvs := hkvs
      cases hkvs
  · rw [hcheckpoint] at hc
    cases hc
  · decide +kernel
  · exact absurd rfl h

/-- A state whose steps are not in order is reported, and refused. -/
theorem late_state_is_refused :
    trainingMetadata Sample.library .freeze (Sample.output Sample.lateState) true =
        .ok ⟨some 5, some 3, some (.finite false 1 2), none, none, none, some Sample.directory⟩ ∧
      validateTrainingObservationMetadata (.created Sample.checkpointRoot 1 .freeze)
          (TrainingMetadata.toDict ⟨some 5, some 3, some (.finite false 1 2), none, none, none, some Sample.directory⟩)
          Sample.checkpointRoot true =
        .error (py "node-agent 返回的训练 metadata 结构无效") := by
  decide +kernel

end OpenLLMOps.Training
