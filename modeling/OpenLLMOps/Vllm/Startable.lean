import OpenLLMOps.Vllm.Command

/-!
# An accepted deployment on the agent

What the agent makes of the arguments of a deployment that `DeploymentCreate`
accepted: the command line carries for each option the value of `vllm_args`,
else the value of the simplified configuration (`configuredValue`).

`model_dump()` keeps the unset options of the simplified configuration as
`None`, and a launch request takes no null, so START succeeds only if
`vllm_args` gives each unset option under the same key (`UnsetOverridden`).
-/

namespace OpenLLMOps.Vllm

open Framework

/-- The set options of a simplified configuration, under their vLLM names. -/
def DeploymentSimplifiedConfig.options (c : DeploymentSimplifiedConfig) : List (PyStr × Json) :=
  (c.maxModelLen.map fun n => (py "max-model-len", Json.int n)).toList ++
    (c.gpuMemoryUtilization.map fun x => (py "gpu-memory-utilization", Json.float x)).toList ++
    (c.dtype.map fun d => (py "dtype", Json.str d.value)).toList

/-- The value that a payload configures for an option. -/
def configuredValue (casing : Casing) (p : DeploymentCreate) (key : PyStr) : Option Json :=
  (Dict.get? (normalizeKeys casing p.vllmArgs) key).or (Dict.get? p.simplifiedConfig.options key)

/-- START gets an argument vector, and its options are the configured ones. -/
def StartsAsConfigured (casing : Casing) (localPath : PyStr) (now : Time) (p : DeploymentCreate) : Prop :=
  ∃ options : List (PyStr × Json),
    startCommand casing p.gpuIds (buildExecution localPath (p.row now)) =
      .ok (systemArguments p.taskType p.servedModelName 8000 p.gpuIds ++ options.flatMap renderOption) ∧
    (Dict.keys options).Nodup ∧ ∀ key, Dict.get? options key = configuredValue casing p key

/-- `vllm_args` gives every unset option of the simplified configuration under the
key that `model_dump()` uses. -/
def UnsetOverridden (p : DeploymentCreate) : Prop :=
  ∀ key, (key, .null) ∈ p.simplifiedConfig.modelDump → key ∈ Dict.keys p.vllmArgs

/-! ## The stored maps -/

section Sorted

theorem sortObj_eq (kvs : List (PyStr × Json)) : Json.sortObj kvs = kvs.map fun kv => (kv.1, kv.2.sortKeys) := by
  induction kvs with
  | nil => rfl
  | cons kv kvs ih => rw [Json.sortObj, ih]; rfl

/-- Scalars and null have no keys to sort. -/
theorem sortKeys_scalar {v : Json} (h : isJsonScalar v = true ∨ v = .null) : v.sortKeys = v := by
  cases v with
  | arr xs => simp [isJsonScalar] at h
  | obj kvs => simp [isJsonScalar] at h
  | _ => rfl

/-- A map of scalars and nulls arrives with its entries reordered. -/
theorem sortKeys_obj {kvs : List (PyStr × Json)} (h : ∀ kv ∈ kvs, isJsonScalar kv.2 = true ∨ kv.2 = .null) :
    ∃ sorted, (Json.obj kvs).sortKeys = .obj sorted ∧ sorted.Perm kvs := by
  have hmap : kvs.map (fun kv => (kv.1, kv.2.sortKeys)) = kvs :=
    (List.map_congr_left fun kv hkv => by rw [sortKeys_scalar (h kv hkv)]; rfl).trans (List.map_id kvs)
  refine ⟨_, rfl, ?_⟩
  rw [sortObj_eq, hmap]
  exact List.perm_insertionSort _ _

end Sorted

section Accepted

variable {casing : Casing} (p : AcceptedDeployment casing)

/-- The conjuncts of acceptance that the agent's checks depend on. -/
theorem AcceptedDeployment.spec : servedModelNamePattern p.servedModelName = true ∧ 1 ≤ p.gpuIds.length ∧
    p.simplifiedConfig.accepted = true ∧ (∀ kv ∈ p.vllmArgs, kv.1.encodable = true) ∧ p.gpuIds.Nodup ∧
    p.tensorParallelSize = p.gpuIds.length ∧ validateVllmArguments casing p.vllmArgs = .ok () := by
  have h := p.accepted
  simp only [DeploymentCreate.accepted, Bool.and_eq_true, decide_eq_true_eq, List.all_eq_true] at h
  obtain ⟨⟨⟨⟨⟨⟨⟨⟨⟨-, -⟩, -⟩, hn⟩, hg⟩, -⟩, -⟩, hs⟩, hk⟩, hv⟩ := h
  have hv' : p.validate casing = .ok () := by
    cases e : p.validate casing with
    | error m => rw [e] at hv; cases hv
    | ok u => rfl
  simp only [DeploymentCreate.validate, validateDetailArgs, ite_error_ok, ne_eq, not_not] at hv'
  exact ⟨hn, hg, hs, hk, hv'.1, hv'.2.1, hv'.2.2.2⟩

/-- The entries of an accepted `vllm_args`: distinct normalised keys, and values that
their options take. -/
theorem AcceptedDeployment.vllmArgs_spec :
    (Dict.keys (normalizeKeys casing p.vllmArgs)).Nodup ∧
    ∀ kv ∈ p.vllmArgs, normalizeKey casing kv.1 ∈ argumentAllowlist ∧ unsafeText kv.2 = false ∧
      (optionClass (normalizeKey casing kv.1)).Accepts casing kv.2 := by
  have h := p.spec.2.2.2.2.2.2
  unfold validateVllmArguments at h
  split at h
  · cases h
  obtain ⟨hn, hall⟩ := validateEntries_ok.mp h
  refine ⟨?_, fun kv hkv => ⟨(hall kv hkv).2.1, (hall kv hkv).2.2.1, validateValue_ok.mp (hall kv hkv).2.2.2⟩⟩
  rw [normalizeKeys, Dict.keys_mapKeys, Dict.keys, List.map_map]
  exact hn

/-- There are at most as many entries as allowed options. -/
theorem AcceptedDeployment.vllmArgs_length : p.vllmArgs.length ≤ 19 := by
  have hsub : Dict.keys (normalizeKeys casing p.vllmArgs) ⊆ argumentAllowlist := by
    intro k hk
    rw [normalizeKeys, Dict.keys_mapKeys, Dict.keys, List.map_map] at hk
    obtain ⟨kv, hkv, rfl⟩ := List.mem_map.mp hk
    exact (p.vllmArgs_spec.2 kv hkv).1
  have h := (List.subperm_of_subset p.vllmArgs_spec.1 hsub).length_le
  rw [normalizeKeys, Dict.keys_mapKeys, List.length_map, List.length_map] at h
  exact h

theorem AcceptedDeployment.vllmArgs_nodup : (Dict.keys p.vllmArgs).Nodup := by
  have h := p.vllmArgs_spec.1
  rw [normalizeKeys, Dict.keys_mapKeys] at h
  exact h.of_map _

/-- `vllm_args` holds scalars. -/
theorem AcceptedDeployment.isJsonScalar_vllmArgs : ∀ kv ∈ p.vllmArgs, isJsonScalar kv.2 = true :=
  fun kv hkv => ((p.vllmArgs_spec.2 kv hkv).2.2).isJsonScalar

end Accepted

/-! ## The simplified configuration -/

section Simplified

variable (casing : Casing)

@[simp] theorem normalizeKey_maxModelLen : normalizeKey casing (py "max_model_len") = py "max-model-len" := rfl

@[simp] theorem normalizeKey_gpuMemoryUtilization :
    normalizeKey casing (py "gpu_memory_utilization") = py "gpu-memory-utilization" := rfl

@[simp] theorem normalizeKey_dtype : normalizeKey casing (py "dtype") = py "dtype" := rfl

theorem modelDump_nodup (c : DeploymentSimplifiedConfig) : (Dict.keys c.modelDump).Nodup := by
  show [py "max_model_len", py "gpu_memory_utilization", py "dtype"].Nodup
  decide

theorem encodable_modelDump (c : DeploymentSimplifiedConfig) : ∀ kv ∈ c.modelDump, kv.1.encodable = true := by
  have hall : ∀ k ∈ [py "max_model_len", py "gpu_memory_utilization", py "dtype"], PyStr.encodable k = true := by
    decide
  exact fun kv hkv => hall _ (List.mem_map_of_mem (f := Prod.fst) hkv)

theorem modelDump_normalized (c : DeploymentSimplifiedConfig) :
    Dict.keys (normalizeKeys casing c.modelDump) =
      [py "max-model-len", py "gpu-memory-utilization", py "dtype"] := rfl

/-- The set options are the entries of `model_dump()` that are not null. -/
theorem options_eq (c : DeploymentSimplifiedConfig) :
    c.options = normalizeKeys casing (c.modelDump.filter (·.2 ≠ .null)) := by
  obtain ⟨m, g, d⟩ := c
  cases m <;> cases g <;> cases d <;> rfl

/-- A set option passes the agent's checks. -/
theorem accepts_options {c : DeploymentSimplifiedConfig} (hc : c.accepted = true) :
    ∀ kv ∈ c.modelDump, kv.2 ≠ .null → normalizeKey casing kv.1 ∈ argumentAllowlist ∧ unsafeText kv.2 = false ∧
      (optionClass (normalizeKey casing kv.1)).Accepts casing kv.2 := by
  obtain ⟨m, g, d⟩ := c
  simp only [DeploymentSimplifiedConfig.accepted, Bool.and_eq_true, Option.all_eq_true, decide_eq_true_eq] at hc
  intro kv hkv hne
  simp only [DeploymentSimplifiedConfig.modelDump, List.mem_cons, List.not_mem_nil, or_false] at hkv
  rcases hkv with rfl | rfl | rfl
  · cases m with
    | none => exact absurd rfl hne
    | some n =>
      have hn := hc.1 n rfl
      refine ⟨by rw [normalizeKey_maxModelLen]; decide, rfl, ?_⟩
      rw [normalizeKey_maxModelLen, show optionClass (py "max-model-len") = .positiveInteger 131072 by decide]
      exact ⟨by omega, hn.2⟩
  · cases g with
    | none => exact absurd rfl hne
    | some x =>
      have hx := hc.2 x rfl
      refine ⟨by rw [normalizeKey_gpuMemoryUtilization]; decide, rfl, ?_⟩
      rw [normalizeKey_gpuMemoryUtilization,
        show optionClass (py "gpu-memory-utilization") = .gpuMemoryUtilization by decide]
      exact ⟨hx.1.1, hx.1.2, hx.2⟩
  · cases d with
    | none => exact absurd rfl hne
    | some d =>
      refine ⟨by rw [normalizeKey_dtype]; decide, by cases d <;> decide, ?_⟩
      rw [normalizeKey_dtype, show optionClass (py "dtype") =
        .enum [py "auto", py "bfloat16", py "float", py "float16", py "float32", py "half"] by decide]
      have hl : PyStr.lower casing d.value = d.value := by cases d <;> rfl
      show PyStr.lower casing d.value ∈ _
      rw [hl]
      cases d <;> decide

end Simplified

/-! ## The command line -/

section Merged

variable {casing : Casing} (p : AcceptedDeployment casing) {S D : List (PyStr × Json)}
  (hS : S.Perm p.simplifiedConfig.modelDump) (hD : D.Perm p.vllmArgs)

include hS hD

theorem nodup_normalized :
    (Dict.keys (normalizeKeys casing S)).Nodup ∧ (Dict.keys (normalizeKeys casing D)).Nodup := by
  have hperm {x y : List (PyStr × Json)} (h : x.Perm y) :
      (Dict.keys (normalizeKeys casing x)).Perm (Dict.keys (normalizeKeys casing y)) := (h.map _).map _
  refine ⟨(hperm hS).nodup_iff.mpr ?_, (hperm hD).nodup_iff.mpr p.vllmArgs_spec.1⟩
  rw [modelDump_normalized]
  decide

/-- After the merge an option has the value of `vllm_args`, else that of the
simplified configuration. -/
theorem get?_merged (hu : UnsetOverridden p.toDeploymentCreate) (key : PyStr) :
    Dict.get? (Dict.update [] (normalizeKeys casing (Dict.update S D))) key =
      configuredValue casing p.toDeploymentCreate key := by
  obtain ⟨hnS, hnD⟩ := nodup_normalized p hS hD
  have hdump : (Dict.keys (normalizeKeys casing p.simplifiedConfig.modelDump)).Nodup := by
    rw [modelDump_normalized]; decide
  have hdetail : Dict.get? (normalizeKeys casing D) key = Dict.get? (normalizeKeys casing p.vllmArgs) key :=
    (Dict.get?_perm hnD (hD.map _) key).symm
  rw [normalizeKeys, Dict.get?_update_mapKeys hnS hnD, configuredValue]
  show (Dict.get? (normalizeKeys casing D) key).or _ = _
  rw [hdetail]
  cases hv : Dict.get? (normalizeKeys casing p.vllmArgs) key with
  | some v => rfl
  | none =>
    -- no key of `vllm_args` names the option, so none was replaced and the option is not null
    have hk {k : PyStr} (h : normalizeKey casing k = key) : k ∉ Dict.keys p.vllmArgs := by
      intro hm
      refine Dict.get?_eq_none.mp hv ?_
      rw [normalizeKeys, Dict.keys_mapKeys]
      exact List.mem_map.mpr ⟨k, hm, h⟩
    rw [Option.none_or, Option.none_or, options_eq casing]
    refine Option.ext fun v => ?_
    rw [← Dict.mem_iff_get? (Dict.nodup_filter_mapKeys hnS _), normalizeKeys,
      ← Dict.mem_iff_get? (Dict.nodup_filter_mapKeys hdump _), Dict.mem_mapKeys, Dict.mem_mapKeys]
    refine exists_congr fun k => and_congr_left fun hkey => ?_
    rw [List.mem_filter, List.mem_filter, hS.mem_iff]
    refine and_congr_right fun hm => ?_
    have h₁ : k ∉ Dict.keys D := fun h => hk hkey ((hD.map Prod.fst).mem_iff.mp h)
    have h₂ : v ≠ .null := by
      rintro rfl
      exact hk hkey (hu k hm)
    simp [h₁, h₂]

/-- The merged map holds the entries of `vllm_args` and the simplified options whose
key they do not repeat. -/
theorem mem_merged {kv : PyStr × Json} :
    kv ∈ Dict.update S D ↔
      kv ∈ p.vllmArgs ∨ kv ∈ p.simplifiedConfig.modelDump ∧ kv.1 ∉ Dict.keys p.vllmArgs := by
  obtain ⟨k, v⟩ := kv
  have hnS : (Dict.keys S).Nodup := (hS.map Prod.fst).nodup_iff.mpr (modelDump_nodup _)
  have hnD : (Dict.keys D).Nodup := (hD.map Prod.fst).nodup_iff.mpr p.vllmArgs_nodup
  rw [Dict.mem_iff_get? (Dict.nodup_update hnS D), Dict.get?_update S hnD, Option.or_eq_some_iff,
    ← Dict.mem_iff_get? hnD, ← Dict.mem_iff_get? hnS, hD.mem_iff, hS.mem_iff, Dict.get?_eq_none,
    (hD.map Prod.fst).mem_iff]
  exact or_congr_right and_comm

end Merged

/-- What START does with an accepted deployment, up to the order of the two maps. -/
theorem startCommand_eq {casing : Casing} (p : AcceptedDeployment casing) (localPath : PyStr) (now : Time) :
    ∃ S D, S.Perm p.simplifiedConfig.modelDump ∧ D.Perm p.vllmArgs ∧
      startCommand casing p.gpuIds (buildExecution localPath (p.row now)) =
        if p.gpuIds.length ≤ 16 then
          if ((Dict.update S D).all fun kv => kv.1.encodable && isJsonScalar kv.2) then
            vllmCommand casing ⟨p.gpuIds, p.servedModelName, p.taskType, 8000, Dict.update S D⟩ p.gpuIds
          else .error .invalidExecution
        else .error .invalidExecution := by
  obtain ⟨hname, hne, -, hkeys, hnodup, htp, -⟩ := p.spec
  have hdump : ∀ kv ∈ p.simplifiedConfig.modelDump, isJsonScalar kv.2 = true ∨ kv.2 = .null := by
    intro kv hkv
    by_cases h : kv.2 = .null
    · exact .inr h
    · exact .inl ((accepts_options casing p.spec.2.2.1 kv hkv h).2.2).isJsonScalar
  obtain ⟨S, hS, hpS⟩ := sortKeys_obj hdump
  obtain ⟨D, hD, hpD⟩ := sortKeys_obj fun kv hkv => .inl (p.isJsonScalar_vllmArgs kv hkv)
  refine ⟨S, D, hpS, hpD, ?_⟩
  have hSk : ∀ kv ∈ S, kv.1.encodable = true := fun kv hkv => encodable_modelDump _ kv (hpS.mem_iff.mp hkv)
  have hDk : ∀ kv ∈ D, kv.1.encodable = true := fun kv hkv => hkeys kv (hpD.mem_iff.mp hkv)
  have hlen : ¬ 128 < S.length + D.length := by
    have h₁ : S.length = 3 := hpS.length_eq
    have h₂ := hpD.length_eq
    have h₃ := p.vllmArgs_length
    omega
  have hvalid : VLLMExecution.modelValidate (buildExecution localPath (p.row now)) =
      if p.gpuIds.length ≤ 16 then
        .ok ⟨p.taskType, localPath, p.servedModelName, none, p.tensorParallelSize, S, D⟩
      else .error .invalidExecution := by
    have hS' : (buildExecution localPath (p.row now)).simplifiedConfig.sortKeys = .obj S := hS
    have hD' : (buildExecution localPath (p.row now)).vllmArgs.sortKeys = .obj D := hD
    have hk : (S.all fun kv => kv.1.encodable) = true ∧ (D.all fun kv => kv.1.encodable) = true :=
      ⟨List.all_eq_true.mpr hSk, List.all_eq_true.mpr hDk⟩
    unfold VLLMExecution.modelValidate
    rw [hS', hD']
    simp only [buildExecution, DeploymentCreate.row, hname, Option.all_none, htp, hne, hk, true_and, and_true]
  simp only [startCommand, hvalid]
  split
  · rename_i hgpu
    simp only [bind, Except.bind, htp, ne_eq, not_true_eq_false, ↓reduceIte, mergeVllmArguments, hlen,
      Option.getD_none, InferenceLaunchRequest.accepted, hne, hgpu, hnodup, hname, decide_true, Bool.true_and]
    rfl
  · rfl

/-- The merged map is one of scalars exactly if no null is left in it. -/
theorem scalars_merged {casing : Casing} (p : AcceptedDeployment casing) {S D : List (PyStr × Json)}
    (hS : S.Perm p.simplifiedConfig.modelDump) (hD : D.Perm p.vllmArgs) :
    ((Dict.update S D).all fun kv => kv.1.encodable && isJsonScalar kv.2) = true ↔
      UnsetOverridden p.toDeploymentCreate := by
  simp only [List.all_eq_true, Bool.and_eq_true]
  constructor
  · intro h key hnull
    by_contra hk
    have := (h (key, .null) ((mem_merged p hS hD).mpr (.inr ⟨hnull, hk⟩))).2
    cases this
  · intro hu kv hkv
    rcases (mem_merged p hS hD).mp hkv with hm | ⟨hm, hk⟩
    · exact ⟨p.spec.2.2.2.1 kv hm, p.isJsonScalar_vllmArgs kv hm⟩
    · have hne : kv.2 ≠ .null := fun e => hk (hu kv.1 (e ▸ hm))
      exact ⟨encodable_modelDump _ kv hm, ((accepts_options casing p.spec.2.2.1 kv hm hne).2.2).isJsonScalar⟩

/-- Every entry of a merged map without null passes the loop of `_vllm_command`. -/
theorem normalizeArguments_merged {casing : Casing} (p : AcceptedDeployment casing) {S D : List (PyStr × Json)}
    (hS : S.Perm p.simplifiedConfig.modelDump) (hD : D.Perm p.vllmArgs)
    (hu : UnsetOverridden p.toDeploymentCreate) :
    normalizeArguments casing [] (Dict.update S D) =
      .ok (Dict.update [] (normalizeKeys casing (Dict.update S D))) := by
  refine normalizeArguments_ok.mpr ⟨fun kv hkv => ?_, rfl⟩
  rcases (mem_merged p hS hD).mp hkv with hm | ⟨hm, hk⟩
  · obtain ⟨ha, ht, hc⟩ := p.vllmArgs_spec.2 kv hm
    exact ⟨ha, ht, (validateVllmArgument_ok hc.isJsonScalar).mpr hc⟩
  · have hne : kv.2 ≠ .null := fun e => hk (hu kv.1 (e ▸ hm))
    obtain ⟨ha, ht, hc⟩ := accepts_options casing p.spec.2.2.1 kv hm hne
    exact ⟨ha, ht, (validateVllmArgument_ok hc.isJsonScalar).mpr hc⟩

/-- START is right about an accepted deployment exactly if the deployment has at most
16 GPUs and its unset simplified options are overridden under the same key. -/
theorem startsAsConfigured_iff {casing : Casing} (p : AcceptedDeployment casing) (localPath : PyStr) (now : Time) :
    StartsAsConfigured casing localPath now p.toDeploymentCreate ↔
      p.gpuIds.length ≤ 16 ∧ UnsetOverridden p.toDeploymentCreate := by
  obtain ⟨S, D, hS, hD, hcmd⟩ := startCommand_eq p localPath now
  constructor
  · rintro ⟨options, hok, -, -⟩
    rw [hcmd] at hok
    split at hok
    · rename_i hgpu
      split at hok
      · rename_i hscalar
        exact ⟨hgpu, (scalars_merged p hS hD).mp hscalar⟩
      · cases hok
    · cases hok
  · rintro ⟨hgpu, hu⟩
    have hn : (Dict.keys (Dict.update [] (normalizeKeys casing (Dict.update S D)))).Nodup :=
      Dict.nodup_update (d := []) List.nodup_nil _
    have hp := List.perm_insertionSort (fun a b : PyStr × Json => PyStr.le a.1 b.1)
      (Dict.update [] (normalizeKeys casing (Dict.update S D)))
    refine ⟨sortedOptions (Dict.update [] (normalizeKeys casing (Dict.update S D))), ?_, ?_, fun key => ?_⟩
    · rw [hcmd, if_pos hgpu, if_pos ((scalars_merged p hS hD).mpr hu), vllmCommand,
        normalizeArguments_merged p hS hD hu]
      rfl
    · exact (hp.map Prod.fst).nodup_iff.mpr hn
    · rw [sortedOptions, Dict.get?_perm hn hp.symm, get?_merged p hS hD hu]

/-- A deployment with nothing but defaults: accepted, and refused by every START. -/
theorem default_deployment_refused :
    let casing : Casing := fun _ c _ => [c]
    let p : DeploymentCreate := ⟨py "qwen", py "qwen", 7, .generate, [0], 1, ⟨none, none, none⟩, []⟩
    p.accepted casing = true ∧
    startCommand casing p.gpuIds (buildExecution (py "/models/qwen") (p.row 0)) = .error .invalidExecution ∧
    ¬ StartsAsConfigured casing (py "/models/qwen") 0 p := by
  intro casing p
  have hcmd : startCommand casing p.gpuIds (buildExecution (py "/models/qwen") (p.row 0)) =
      .error .invalidExecution := by decide
  refine ⟨by decide, hcmd, ?_⟩
  rintro ⟨options, hok, -⟩
  rw [hcmd] at hok
  cases hok

end OpenLLMOps.Vllm
