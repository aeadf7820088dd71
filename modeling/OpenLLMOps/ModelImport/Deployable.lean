import OpenLLMOps.ModelImport.Validation

/-!
# What the control plane deploys

`validate_deployable_model` of `training_control.py`, which `build_training_execution` runs on a
READY asset before a training starts, and its relation to what the importer accepts
(`validateModelFiles`): the control plane also refuses the suffixes `.py` and `.so`.

* `validateTensor_of_addTensor`, `weightFiles_of_select`: the rules on headers and weights are at most
  as strict as the importer's;
* `deployable_iff`: an imported directory is accepted if and only if no file has such a suffix.
-/

namespace OpenLLMOps.TrainingControl

open Framework

/-- `UNSAFE_MODEL_SUFFIXES`. -/
def unsafeModelSuffixes : List PyStr :=
  [py ".bin", py ".ckpt", py ".joblib", py ".pkl", py ".pickle", py ".pt", py ".pth", py ".py", py ".so"]

section Validation

variable (float : PyStr → PyFloat)

/-- The error of a hook: `_reject_json_constant` and `_unique_json_object` raise a `TrainingControlError`. -/
def hookError? : JsonError → Option ModelFileError
  | .constant text => some (.refused (py "JSON 不允许非有限数值：" ++ text) [])
  | .duplicate key => some (.refused (py "JSON 对象包含重复字段：" ++ key) [])
  | .unicode | .decode | .digits => none

/-- `_load_small_json` of a file. -/
def loadSmallJson (content : Bytes) (label : PyStr) : FileCheck (List (PyStr × Json)) :=
  if ¬ (1 ≤ content.length ∧ content.length ≤ maxJsonMetadataBytes) then refuse (label ++ py "为空或超过 16 MiB")
  else
    match loads (.strict float) content with
    | .error e => .error ((hookError? e).getD (.refused (label ++ py "不是安全有效的 JSON") []))
    | .ok (.obj kvs) => .ok kvs
    | .ok _ => refuse (label ++ py "顶层必须是 JSON 对象")

/-- The error of decoding a header: a `ValueError` of `int` is not handled. -/
def headerError (file : PyStr) (e : JsonError) : ModelFileError :=
  match e with
  | .digits => .valueError
  | e => (hookError? e).getD (.refused (py "safetensors 文件头无效：" ++ file) [])

/-- A tensor of the loop. -/
def validateTensor (file : PyStr) (dataSize : Nat) (name : PyStr) (tensor : Json) : FileCheck Unit :=
  if name = py "__metadata__" then .ok ()
  else
    match tensor with
    | .obj kvs =>
      match Dict.get? kvs (py "dtype"), shape? (Dict.get? kvs (py "shape")),
          offsets? dataSize (Dict.get? kvs (py "data_offsets")) with
      | some (.str _), some _, some _ => .ok ()
      | _, _, _ => refuse (py "safetensors 张量偏移或形状无效：" ++ file)
    | _ => refuse (py "safetensors 张量描述无效：" ++ file)

/-- `_validate_safetensors`. -/
def validateSafetensors (file : PyStr) (content : Bytes) : FileCheck Unit :=
  if content.length < 10 then refuse (py "safetensors 文件为空或过小：" ++ file)
  else
    let headerSize := littleEndian (content.take 8)
    if ¬ (2 ≤ headerSize ∧ headerSize ≤ maxSafetensorsHeaderBytes) then
      refuse (py "safetensors header 大小无效：" ++ file)
    else if content.length < 8 + headerSize then refuse (py "safetensors header 越界：" ++ file)
    else
      match loads (.strict float) ((content.drop 8).take headerSize) with
      | .error e => .error (headerError file e)
      | .ok (.obj kvs) =>
        if kvs.all fun kv => kv.1 = py "__metadata__" then refuse (py "safetensors 不含张量索引：" ++ file)
        else kvs.forM fun kv => validateTensor file (content.length - 8 - headerSize) kv.1 kv.2
      | .ok _ => refuse (py "safetensors 不含张量索引：" ++ file)

/-- The weight files, by name. -/
def weightFiles (topLevel : List (PyStr × Bytes)) : FileCheck (List PyStr) :=
  match Dict.get? topLevel (py "model.safetensors"), Dict.get? topLevel (py "model.safetensors.index.json") with
  | some _, some _ => refuse (py "模型不能同时包含单文件权重与分片索引")
  | some _, none => .ok [py "model.safetensors"]
  | none, some index => do
    let index ← loadSmallJson float index (py "模型 model.safetensors.index.json")
    match Dict.get? index (py "weight_map") with
    | some (.obj (entry :: entries)) =>
      -- `set` of values that are not hashable
      if (entry :: entries).any fun kv => unhashable kv.2 then .error .typeError
      else
        match (entry :: entries).mapM fun kv => shardOf kv.2 with
        | none => refuse (py "模型 safetensors 分片索引包含不安全文件名")
        | some names =>
          let shardNames := names.dedup
          let actualShards := (topLevel.map Prod.fst).filter fun name => (shardName? name).isSome
          if ¬ ((∀ name ∈ shardNames, name ∈ actualShards) ∧ ∀ name ∈ actualShards, name ∈ shardNames) then
            refuse (py "模型 safetensors 分片索引与实际文件集合不一致")
          else .ok (sortTexts shardNames)
    | _ => refuse (py "模型 safetensors 分片索引缺少 weight_map")
  | none, none => refuse (py "可部署模型缺少 model.safetensors 或分片索引")
where
  unhashable : Json → Bool
    | .arr _ | .obj _ => true
    | _ => false
  /-- A value of the weight map that is the name of a shard. -/
  shardOf : Json → Option PyStr
    | .str name => if (shardName? name).isSome then some name else none
    | _ => none

/-- `_validate_safetensors` of the weight files. -/
def validateWeights (topLevel : List (PyStr × Bytes)) (names : List PyStr) : FileCheck Unit :=
  names.forM fun name =>
    match Dict.get? topLevel name with
    | none => refuse (py "safetensors 文件头无效：" ++ name)
    | some content => validateSafetensors float name content

/-- `validate_deployable_model` of the files of a scanned tree. -/
def validateDeployableModel (files : ModelFiles) : FileCheck Unit :=
  let unsafeFiles := (files.filter fun file => lowerText file.1.suffix ∈ unsafeModelSuffixes).map fun file => file.1.posix
  if unsafeFiles ≠ [] then
    .error (.refused (py "可部署模型包含不安全的可执行/反序列化文件：") (unsafeFiles.take 3))
  else
    let topLevel := topLevelFiles files
    match Dict.get? topLevel (py "config.json"), Dict.get? topLevel (py "tokenizer_config.json") with
    | some config, some tokenizerConfig => do
      let config ← loadSmallJson float config (py "模型 config.json")
      if ¬ Importer.isText (Dict.get? config (py "model_type")) then refuse (py "模型 config.json 缺少有效 model_type")
      else
        let tokenizer ← loadSmallJson float tokenizerConfig (py "模型 tokenizer_config.json")
        rejectRemoteCode (py "config.json") config
        rejectRemoteCode (py "tokenizer_config.json") tokenizer
        if (topLevel.filter fun file => file.1 ∈ tokenizerPayloads) = [] then
          refuse (py "可部署模型缺少 tokenizer.json/tokenizer.model/vocab.json 等词表文件")
        else
          let weights ← weightFiles float topLevel
          let unexpectedWeights := (topLevel.map Prod.fst).filter fun name =>
            (py ".safetensors").isSuffixOf name && decide (name ≠ py "model.safetensors") && (shardName? name).isNone
          if unexpectedWeights ≠ [] then
            .error (.refused (py "可部署模型包含非完整模型 safetensors：") (unexpectedWeights.take 3))
          else validateWeights float topLevel weights
    | _, _ => refuse (py "可部署模型必须包含 config.json 和 tokenizer_config.json")
where
  rejectRemoteCode (label : PyStr) (config : List (PyStr × Json)) : FileCheck Unit :=
    if Dict.get? config (py "trust_remote_code") = some (.bool true) ∨
        (Dict.get? config (py "auto_map")).any Json.truthy then
      refuse (py "模型 " ++ label ++ py " 请求 remote custom code，禁止发布")
    else .ok ()

end Validation

/-! ## Names -/

theorem digits?_spec {s digits rest : PyStr} (h : digits? s = some (digits, rest)) :
    s = digits ++ rest ∧ ∀ c ∈ digits, isDigit c = true := by
  unfold digits? at h
  split at h <;> cases h
  exact ⟨(List.takeWhile_append_dropWhile).symm, fun c hc => List.mem_takeWhile_imp hc⟩

/-- The name of a shard is flat and ends like a weight file. -/
theorem shardName?_spec {s : PyStr} (h : (shardName? s).isSome = true) :
    47 ∉ s ∧ py ".safetensors" <:+ s := by
  obtain ⟨groups, h⟩ := Option.isSome_iff_exists.mp h
  simp only [shardName?, Option.bind_eq_bind, Option.bind_eq_some_iff, Prod.exists] at h
  obtain ⟨s₁, h₁, ordinal, s₂, h₂, s₃, h₃, total, s₄, h₄, h₅⟩ := h
  split at h₅ <;> [rename_i hend; cases h₅]
  obtain ⟨rfl, hordinal⟩ := digits?_spec h₂
  obtain ⟨rfl, htotal⟩ := digits?_spec h₄
  have e₁ := dropPrefix?_spec h₁
  have e₃ := dropPrefix?_spec h₃
  subst e₁ e₃ hend
  have hdigit {c : Nat} (hc : isDigit c = true) : c ≠ 47 := by
    simp only [isDigit, Bool.and_eq_true, decide_eq_true_eq] at hc
    omega
  refine ⟨?_, ?_⟩
  · simp only [List.mem_append, not_or]
    exact ⟨by decide, fun hm => hdigit (hordinal _ hm) rfl, by decide, fun hm => hdigit (htotal _ hm) rfl, by decide⟩
  · simp only [← List.append_assoc]
    exact List.suffix_append _ _

/-- A path without a slash in its text is a name. -/
theorem posix_flat {p : RelativePath} (hne : p.posix ≠ []) (h : 47 ∉ p.posix) : p = [p.posix] := by
  match p with
  | [] => exact absurd rfl hne
  | [name] => rw [RelativePath.posix_singleton]
  | name :: part :: path =>
    refine absurd ?_ h
    simp [RelativePath.posix, List.intercalate, List.intersperse, py]

/-! ## Files -/

section Files

variable {float : PyStr → PyFloat}

theorem loadSmallJson_of_loadJson {content : Bytes} {label label' : PyStr} {kvs : List (PyStr × Json)}
    (h : Importer.loadJson float content label = .ok kvs) : loadSmallJson float content label' = .ok kvs := by
  unfold Importer.loadJson at h
  split at h <;> [cases h; skip]
  rename_i hsize
  have hloads : loads (.strict float) content = .ok (.obj kvs) := by
    split at h <;> cases h
    assumption
  unfold loadSmallJson
  rw [if_neg hsize, hloads]

/-- A tensor that the importer accepts. -/
theorem validateTensor_of_addTensor {file : PyStr} {dataSize : Nat} {acc acc' : Importer.Tensors} {name : PyStr}
    {tensor : Json} (h : Importer.addTensor file dataSize acc name tensor = .ok acc') :
    validateTensor file dataSize name tensor = .ok () := by
  unfold Importer.addTensor at h
  unfold validateTensor
  split at h
  · rename_i hname
    rw [if_pos hname]
  rename_i hname
  rw [if_neg hname]
  split at h <;> [skip; cases h]
  split at h <;> [cases h; skip]
  split at h <;> [rename_i hshape hoffsets; cases h]
  split at h <;> [rename_i hdtype; cases h]
  simp only [hdtype, hshape, hoffsets]

theorem forM_ok_iff {α : Type} {xs : List α} {f : α → FileCheck Unit} :
    xs.forM f = .ok () ↔ ∀ x ∈ xs, f x = .ok () := by
  induction xs with
  | nil => exact ⟨fun _ _ h => absurd h List.not_mem_nil, fun _ => rfl⟩
  | cons x xs ih =>
    show (f x >>= fun _ => xs.forM f) = .ok () ↔ _
    rw [bind_eq_ok, List.forall_mem_cons, ih]
    exact ⟨fun ⟨_, h⟩ => h, fun h => ⟨(), h⟩⟩

theorem validateTensors_of_addTensors {file : PyStr} {dataSize : Nat} {kvs : List (PyStr × Json)}
    {acc acc' : Importer.Tensors} (h : Importer.addTensors file dataSize acc kvs = .ok acc') :
    ∀ kv ∈ kvs, validateTensor file dataSize kv.1 kv.2 = .ok () := by
  induction kvs generalizing acc with
  | nil => exact fun _ h => absurd h List.not_mem_nil
  | cons kv kvs ih =>
    unfold Importer.addTensors at h
    obtain ⟨acc₁, hadd, hrest⟩ := bind_eq_ok.mp h
    exact List.forall_mem_cons.mpr ⟨validateTensor_of_addTensor hadd, ih hrest⟩

/-- A weight file that the importer accepts. -/
theorem validateSafetensors_of_importer {file : PyStr} {content : Bytes} {summary : Importer.SafetensorsSummary}
    (h : Importer.validateSafetensors float file content = .ok summary) :
    validateSafetensors float file content = .ok () := by
  unfold Importer.validateSafetensors at h
  obtain ⟨⟨header, dataSize⟩, hheader, h⟩ := bind_eq_ok.mp h
  simp only at h
  split at h <;> [skip; cases h]
  split at h <;> [cases h; rename_i hindex]
  obtain ⟨tensors, htensors, -⟩ := bind_eq_ok.mp h
  unfold Importer.loadHeader at hheader
  unfold validateSafetensors
  split at hheader <;> [cases hheader; rename_i hsmall]
  simp only at hheader
  split at hheader <;> [cases hheader; rename_i hsize]
  split at hheader <;> [cases hheader; rename_i hcut]
  split at hheader <;> cases hheader
  rename_i hloads
  simp only [if_neg hsmall, if_neg hsize, if_neg hcut, hloads, if_neg hindex]
  exact forM_ok_iff.mpr (validateTensors_of_addTensors htensors)

/-- The manifest is added to the files at the top level. -/
structure AddsManifest (topLevel topLevel' : List (PyStr × Bytes)) : Prop where
  kept : ∀ name content, Dict.get? topLevel name = some content → Dict.get? topLevel' name = some content
  only : ∀ name ∈ Dict.keys topLevel', name = Importer.generatedManifestName ∨ name ∈ Dict.keys topLevel

theorem AddsManifest.absent {topLevel topLevel' : List (PyStr × Bytes)} (h : AddsManifest topLevel topLevel')
    {name : PyStr} (hname : name ≠ Importer.generatedManifestName) (hnone : Dict.get? topLevel name = none) :
    Dict.get? topLevel' name = none := by
  rw [Dict.get?_eq_none] at hnone ⊢
  exact fun hmem => (h.only name hmem).elim hname hnone

theorem AddsManifest.mem {topLevel topLevel' : List (PyStr × Bytes)} (h : AddsManifest topLevel topLevel')
    {name : PyStr} (hmem : name ∈ Dict.keys topLevel) : name ∈ Dict.keys topLevel' := by
  by_contra hnot
  obtain ⟨content, hcontent⟩ := Option.ne_none_iff_exists'.mp fun hnone => Dict.get?_eq_none.mp hnone hmem
  have hkept := h.kept name content hcontent
  rw [Dict.get?_eq_none.mpr hnot] at hkept
  cases hkept

theorem sortTexts_eq_nil {names : List PyStr} : sortTexts names = [] ↔ names = [] := by
  constructor
  · intro h
    have hperm := List.perm_insertionSort (fun a b => decide (a ≤ b)) names
    rw [sortTexts] at h
    rw [h] at hperm
    exact hperm.nil_eq.symm
  · rintro rfl
    rfl

/-- The shards that the importer's check of the index finds. -/
theorem mapM_shardOf {entries : List (PyStr × Json)} {map : List (PyStr × PyStr)}
    (h : Importer.weightMap? entries = some map) (hshards : ∀ name ∈ map.map Prod.snd, (shardName? name).isSome = true) :
    (entries.any fun kv => weightFiles.unhashable kv.2) = false ∧
      (entries.mapM fun kv => weightFiles.shardOf kv.2) = some (map.map Prod.snd) := by
  induction entries generalizing map with
  | nil =>
    cases h
    exact ⟨rfl, rfl⟩
  | cons entry entries ih =>
    obtain ⟨tensor, value⟩ := entry
    cases value with
    | str shard =>
      unfold Importer.weightMap? at h
      split at h <;> [cases h; skip]
      obtain ⟨map', hmap', rfl⟩ := Option.map_eq_some_iff.mp h
      obtain ⟨hhashable, hnames⟩ := ih hmap' fun name hmem => hshards name (List.mem_cons_of_mem _ hmem)
      have hshard : weightFiles.shardOf (.str shard) = some shard := by
        unfold weightFiles.shardOf
        exact if_pos (hshards shard List.mem_cons_self)
      refine ⟨by rw [List.any_cons, hhashable]; rfl, ?_⟩
      rw [List.mapM_cons, hnames]
      simp [hshard]
    | _ => cases h

theorem isSome_of_mapM {α β : Type} {f : α → Option β} {xs : List α} {ys : List β} (h : xs.mapM f = some ys) :
    ∀ x ∈ xs, (f x).isSome = true := by
  induction xs generalizing ys with
  | nil => exact fun _ h => absurd h List.not_mem_nil
  | cons x xs ih =>
    rw [List.mapM_cons] at h
    obtain ⟨y, hy, h⟩ := Option.bind_eq_some_iff.mp h
    obtain ⟨ys', hys, -⟩ := Option.bind_eq_some_iff.mp h
    exact List.forall_mem_cons.mpr ⟨by rw [hy]; rfl, ih hys⟩

/-- A sequence of shards that the importer accepts consists of names of shards. -/
theorem shards_of_validateShardSequence {names : List PyStr} (h : Importer.validateShardSequence names = .ok ()) :
    ∀ name ∈ names, (shardName? name).isSome = true := by
  unfold Importer.validateShardSequence at h
  split at h <;> [cases h; rename_i hgroups]
  exact isSome_of_mapM hgroups

/-- The weight files that the importer selects, and no other at the top level. -/
theorem weightFiles_of_select {topLevel topLevel' : List (PyStr × Bytes)} {safetensors names : List PyStr}
    {map : Option (List (PyStr × PyStr))} (hadds : AddsManifest topLevel topLevel')
    (hsafetensors : ∀ name ∈ Dict.keys topLevel, py ".safetensors" <:+ name → name ∈ safetensors)
    (hflat : ∀ path ∈ safetensors, path ≠ [] → 47 ∉ path → path ∈ Dict.keys topLevel)
    (h : Importer.selectWeightFiles float topLevel safetensors = .ok (names, map)) :
    weightFiles float topLevel' = .ok names ∧
      ∀ name ∈ Dict.keys topLevel', py ".safetensors" <:+ name →
        name = py "model.safetensors" ∨ (shardName? name).isSome = true := by
  have hname {name : PyStr} (hmem : name ∈ Dict.keys topLevel') (hend : py ".safetensors" <:+ name) :
      name ∈ safetensors := by
    rcases hadds.only name hmem with rfl | hmem
    · exact absurd hend (by decide)
    · exact hsafetensors name hmem hend
  unfold Importer.selectWeightFiles at h
  unfold weightFiles
  simp only at h
  split at h
  · cases h
  · rename_i hsingle hindex
    split at h <;> cases h
    rename_i hunexpected
    rw [hadds.kept _ _ hsingle, hadds.absent (by decide) hindex]
    refine ⟨rfl, fun name hmem hend => .inl ?_⟩
    by_contra hne
    exact List.filter_eq_nil_iff.mp (not_not.mp hunexpected) name (hname hmem hend) (decide_eq_true hne)
  · cases h
  · rename_i content hsingle hindex
    obtain ⟨index, hload, h⟩ := bind_eq_ok.mp h
    rw [hadds.absent (by decide) hsingle, hadds.kept _ _ hindex]
    simp only
    rw [loadSmallJson_of_loadJson hload]
    split at h <;> [rename_i hmap; cases h]
    split at h <;> [cases h; rename_i map' hweights]
    obtain ⟨_, hsequence, h⟩ := bind_eq_ok.mp h
    split at h <;> [cases h; rename_i hunexpected]
    split at h <;> [cases h; rename_i hsame]
    cases h
    obtain ⟨hmissing, hextra⟩ := not_or.mp hsame
    have hshards := shards_of_validateShardSequence hsequence
    have hmissing := List.filter_eq_nil_iff.mp (sortTexts_eq_nil.mp (not_not.mp hmissing))
    have hextra := List.filter_eq_nil_iff.mp (sortTexts_eq_nil.mp (not_not.mp hextra))
    obtain ⟨hhashable, hnames⟩ := mapM_shardOf hweights fun name hmem => hshards name (List.mem_dedup.mpr hmem)
    show (match Dict.get? index (py "weight_map") with
      | some (.obj (entry :: entries)) => _
      | _ => _) = _ ∧ _
    rw [hmap]
    simp only [hhashable, hnames]
    refine ⟨?_, fun name hmem hend => .inr ?_⟩
    · have hreferenced (name : PyStr) (hmem : name ∈ (map'.map Prod.snd).dedup) :
          name ∈ (topLevel'.map Prod.fst).filter fun name => (shardName? name).isSome := by
        have hshard := hshards name hmem
        have hactual := List.mem_filter.mp (of_not_not fun hnot => hmissing name hmem (decide_eq_true hnot))
        have hne : name ≠ [] := by
          rintro rfl
          exact absurd hshard (by decide)
        have htop := hadds.mem (hflat name hactual.1 hne (shardName?_spec hshard).1)
        exact List.mem_filter.mpr ⟨htop, hshard⟩
      have hactual (name : PyStr) (hmem : name ∈ (topLevel'.map Prod.fst).filter fun name => (shardName? name).isSome) :
          name ∈ (map'.map Prod.snd).dedup := by
        obtain ⟨hmem, hshard⟩ := List.mem_filter.mp hmem
        have hactual : name ∈ safetensors.filter fun name => (shardName? name).isSome :=
          List.mem_filter.mpr ⟨hname hmem (shardName?_spec hshard).2, hshard⟩
        exact of_not_not fun hnot => hextra name hactual (decide_eq_true hnot)
      rw [if_neg Bool.false_ne_true, if_neg (not_not.mpr ⟨hreferenced, hactual⟩)]
    · have hactual := of_not_not fun hnot =>
        List.filter_eq_nil_iff.mp (not_not.mp hunexpected) name (hname hmem hend) (decide_eq_true hnot)
      exact (List.mem_filter.mp hactual).2

/-- The weights that the importer accepts. -/
theorem validateWeights_of_importer {topLevel topLevel' : List (PyStr × Bytes)} (hadds : AddsManifest topLevel topLevel')
    {names : List PyStr} {acc weights : Importer.Weights}
    (h : Importer.validateWeights float topLevel acc names = .ok weights) :
    validateWeights float topLevel' names = .ok () := by
  refine forM_ok_iff.mpr ?_
  induction names generalizing acc with
  | nil => exact fun _ h => absurd h List.not_mem_nil
  | cons name names ih =>
    unfold Importer.validateWeights at h
    split at h <;> [cases h; rename_i content hcontent]
    obtain ⟨summary, hsummary, h⟩ := bind_eq_ok.mp h
    simp only at h
    split at h <;> [cases h; skip]
    refine List.forall_mem_cons.mpr ⟨?_, ih h⟩
    simp only [hadds.kept name content hcontent]
    exact validateSafetensors_of_importer hsummary

theorem rejectRemoteCode_of_importer {label label' : PyStr} {config : List (PyStr × Json)}
    (h : Importer.rejectRemoteCode label config = .ok ()) :
    validateDeployableModel.rejectRemoteCode label' config = .ok () := by
  unfold Importer.rejectRemoteCode at h
  split at h <;> [cases h; rename_i hauto]
  split at h <;> [cases h; rename_i htrust]
  unfold validateDeployableModel.rejectRemoteCode
  exact if_neg (not_or.mpr ⟨htrust, hauto⟩)

/-! ## Directories -/

/-- The files of an imported directory: those that were validated, and the manifest. -/
def imported (files : ModelFiles) (manifest : Bytes) : ModelFiles :=
  files ++ [([Importer.generatedManifestName], manifest)]

/-- No file has the suffix of a Python module or of a shared library. -/
def CodeFree (files : ModelFiles) : Prop :=
  ∀ file ∈ files, lowerText file.1.suffix ≠ py ".py" ∧ lowerText file.1.suffix ≠ py ".so"

instance (files : ModelFiles) : Decidable (CodeFree files) := by
  unfold CodeFree
  exact inferInstance

section Scan

variable {files tree : ModelFiles} {manifest : Bytes}

theorem mem_scan (hscan : tree.Perm (imported files manifest)) {file : RelativePath × Bytes} :
    file ∈ tree ↔ file ∈ files ∨ file = ([Importer.generatedManifestName], manifest) := by
  rw [hscan.mem_iff, imported, List.mem_append, List.mem_singleton]

theorem addsManifest_of_scan (hnodup : (Dict.keys files).Nodup)
    (hfresh : [Importer.generatedManifestName] ∉ Dict.keys files) (hscan : tree.Perm (imported files manifest)) :
    AddsManifest (topLevelFiles files) (topLevelFiles tree) := by
  have hnodup' : (Dict.keys tree).Nodup := by
    have hkeys : (Dict.keys tree).Perm (Dict.keys files ++ [[Importer.generatedManifestName]]) := by
      have h := hscan.map Prod.fst
      rwa [imported, List.map_append] at h
    refine hkeys.symm.nodup (List.nodup_append.mpr ⟨hnodup, List.nodup_singleton _, fun path hpath path' hpath' => ?_⟩)
    rw [List.mem_singleton.mp hpath']
    exact fun e => hfresh (e ▸ hpath)
  refine ⟨fun name content hget => ?_, fun name hmem => ?_⟩
  · refine Dict.get?_of_mem (nodup_topLevelFiles hnodup') (mem_topLevelFiles.mpr ((mem_scan hscan).mpr (.inl ?_)))
    exact mem_topLevelFiles.mp (Dict.mem_of_get? hget)
  · obtain ⟨⟨_, content⟩, htop, rfl⟩ := List.mem_map.mp hmem
    rcases (mem_scan hscan).mp (mem_topLevelFiles.mp htop) with hfile | hfile
    · exact .inr (List.mem_map.mpr ⟨_, mem_topLevelFiles.mpr hfile, rfl⟩)
    · simp only [Prod.mk.injEq, List.cons.injEq, and_true] at hfile
      exact .inl hfile.1

/-- A file with a suffix that only the control plane refuses. -/
theorem unsafe_iff {suffix : PyStr} (h : casefoldText suffix ∉ Importer.forbiddenSuffixes) :
    lowerText suffix ∈ unsafeModelSuffixes ↔ lowerText suffix = py ".py" ∨ lowerText suffix = py ".so" := by
  have hforbidden : lowerText suffix ∉ Importer.forbiddenSuffixes := by
    intro hmem
    have hascii : isAscii (lowerText suffix) = true := by
      have hall : ∀ s ∈ Importer.forbiddenSuffixes, isAscii s = true := by decide
      exact hall _ hmem
    rw [← casefoldText_of_lowerText hascii] at hmem
    exact h hmem
  have hsplit : unsafeModelSuffixes = Importer.forbiddenSuffixes ++ [py ".py", py ".so"] := rfl
  rw [hsplit, List.mem_append, List.mem_cons, List.mem_singleton]
  exact or_iff_right hforbidden

/-- What the importer has checked. -/
structure Accepted (float : PyStr → PyFloat) (files : ModelFiles) : Prop where
  fresh : Importer.generatedManifestName ∉ files.map fun file => file.1.posix
  config : ∃ content json, Dict.get? (topLevelFiles files) (py "config.json") = some content ∧
    Importer.loadJson float content (py "config.json") = .ok json ∧
    Importer.isText (Dict.get? json (py "model_type")) = true ∧
    Importer.rejectRemoteCode (py "config.json") json = .ok ()
  tokenizer : ∃ content json, Dict.get? (topLevelFiles files) (py "tokenizer_config.json") = some content ∧
    Importer.loadJson float content (py "tokenizer_config.json") = .ok json ∧
    Importer.rejectRemoteCode (py "tokenizer_config.json") json = .ok ()
  payload : ∃ file ∈ topLevelFiles files, file.1 ∈ tokenizerPayloads
  suffixes : ∀ file ∈ files, casefoldText file.1.suffix ∉ Importer.forbiddenSuffixes
  weights : ∃ names map weights,
    Importer.selectWeightFiles float (topLevelFiles files)
      ((files.map fun file => file.1.posix).filter fun path =>
        (py ".safetensors").isSuffixOf (casefoldText path)) = .ok (names, map) ∧
    Importer.validateWeights float (topLevelFiles files) ⟨[], 0, []⟩ names = .ok weights

theorem accepted_of_validateModelFiles {result : List (PyStr × Json) × Nat × List PyStr}
    (h : Importer.validateModelFiles float files = .ok result) : Accepted float files := by
  unfold Importer.validateModelFiles at h
  split at h <;> [cases h; skip]
  split at h <;> [cases h; skip]
  simp only at h
  split at h <;> [cases h; rename_i hfresh]
  split at h <;> [rename_i config tokenizerConfig hconfig htokenizer; cases h]
  obtain ⟨configJson, hconfigJson, h⟩ := bind_eq_ok.mp h
  obtain ⟨tokenizerJson, htokenizerJson, h⟩ := bind_eq_ok.mp h
  split at h <;> [cases h; rename_i hmodelType]
  obtain ⟨_, hcode, h⟩ := bind_eq_ok.mp h
  obtain ⟨_, hcode', h⟩ := bind_eq_ok.mp h
  split at h <;> [cases h; rename_i hpayloads]
  split at h <;> [cases h; skip]
  split at h <;> [cases h; rename_i hforbidden]
  obtain ⟨⟨names, map⟩, hselect, h⟩ := bind_eq_ok.mp h
  obtain ⟨weights, hweights, -⟩ := bind_eq_ok.mp h
  refine ⟨hfresh, ⟨config, configJson, hconfig, hconfigJson, not_not.mp hmodelType, hcode⟩,
    ⟨tokenizerConfig, tokenizerJson, htokenizer, htokenizerJson, hcode'⟩, ?_, fun file hmem hsuffix => ?_,
    ⟨names, map, weights, hselect, hweights⟩⟩
  · obtain ⟨file, hfile⟩ := List.exists_mem_of_ne_nil _ hpayloads
    obtain ⟨hmem, hpayload⟩ := List.mem_filter.mp hfile
    exact ⟨file, hmem, of_decide_eq_true hpayload⟩
  · have hnone := List.map_eq_nil_iff.mp (not_not.mp hforbidden)
    exact List.filter_eq_nil_iff.mp hnone file hmem (decide_eq_true hsuffix)

/-- An imported directory without code is accepted. -/
theorem deployable_of_accepted (hnodup : (Dict.keys files).Nodup) (h : Accepted float files)
    (hscan : tree.Perm (imported files manifest)) (hfree : CodeFree files) :
    validateDeployableModel float tree = .ok () := by
  have hfresh : [Importer.generatedManifestName] ∉ Dict.keys files := by
    intro hmem
    obtain ⟨file, hfile, he⟩ := List.mem_map.mp hmem
    refine h.fresh (List.mem_map.mpr ⟨file, hfile, ?_⟩)
    rw [he, RelativePath.posix_singleton]
  have hadds := addsManifest_of_scan hnodup hfresh hscan
  obtain ⟨config, configJson, hconfig, hconfigJson, hmodelType, hcode⟩ := h.config
  obtain ⟨tokenizer, tokenizerJson, htokenizer, htokenizerJson, hcode'⟩ := h.tokenizer
  obtain ⟨payload, hpayload, hname⟩ := h.payload
  obtain ⟨names, map, weights, hselect, hweights⟩ := h.weights
  have hrefused : (tree.filter fun file => lowerText file.1.suffix ∈ unsafeModelSuffixes) = [] := by
    refine List.filter_eq_nil_iff.mpr fun file hmem hrefused => ?_
    have hrefused := of_decide_eq_true hrefused
    rcases (mem_scan hscan).mp hmem with hfile | rfl
    · obtain ⟨hpy, hso⟩ := hfree file hfile
      exact ((unsafe_iff (h.suffixes file hfile)).mp hrefused).elim hpy hso
    · have hmanifest : lowerText (RelativePath.suffix [Importer.generatedManifestName]) ∉ unsafeModelSuffixes := by decide
      exact hmanifest hrefused
  have hpayloads : (topLevelFiles tree).filter (fun file => file.1 ∈ tokenizerPayloads) ≠ [] := by
    refine List.ne_nil_of_mem (a := payload) (List.mem_filter.mpr ⟨?_, decide_eq_true hname⟩)
    exact mem_topLevelFiles.mpr ((mem_scan hscan).mpr (.inl (mem_topLevelFiles.mp hpayload)))
  have hsafetensors (name : PyStr) (hmem : name ∈ Dict.keys (topLevelFiles files)) (hend : py ".safetensors" <:+ name) :
      name ∈ (files.map fun file => file.1.posix).filter fun path =>
        (py ".safetensors").isSuffixOf (casefoldText path) := by
    obtain ⟨⟨_, content⟩, htop, rfl⟩ := List.mem_map.mp hmem
    refine List.mem_filter.mpr ⟨List.mem_map.mpr ⟨_, mem_topLevelFiles.mp htop, RelativePath.posix_singleton _⟩, ?_⟩
    exact List.isSuffixOf_iff_suffix.mpr (casefoldText_suffix hend (by decide))
  have hflat (path : PyStr) (hmem : path ∈ (files.map fun file => file.1.posix).filter fun path =>
      (py ".safetensors").isSuffixOf (casefoldText path)) (hne : path ≠ []) (hflat : 47 ∉ path) :
      path ∈ Dict.keys (topLevelFiles files) := by
    obtain ⟨⟨p, content⟩, hfile, rfl⟩ := List.mem_map.mp (List.mem_filter.mp hmem).1
    have hp : p = [p.posix] := posix_flat hne hflat
    rw [hp] at hfile
    exact List.mem_map.mpr ⟨_, mem_topLevelFiles.mpr hfile, rfl⟩
  obtain ⟨hweightFiles, hshards⟩ := weightFiles_of_select hadds hsafetensors hflat hselect
  have hunexpected : ((topLevelFiles tree).map Prod.fst).filter (fun name =>
      (py ".safetensors").isSuffixOf name && decide (name ≠ py "model.safetensors") && (shardName? name).isNone) = [] := by
    refine List.filter_eq_nil_iff.mpr fun name hmem hbad => ?_
    simp only [Bool.and_eq_true, List.isSuffixOf_iff_suffix, decide_eq_true_eq, Option.isNone_iff_eq_none] at hbad
    obtain ⟨⟨hend, hne⟩, hnone⟩ := hbad
    rcases hshards name hmem hend with h | h
    · exact hne h
    · rw [hnone] at h
      cases h
  unfold validateDeployableModel
  simp only [hrefused, List.map_nil, ne_eq, not_true_eq_false, if_false, hadds.kept _ _ hconfig, hadds.kept _ _ htokenizer]
  refine bind_eq_ok.mpr ⟨configJson, loadSmallJson_of_loadJson hconfigJson, ?_⟩
  rw [if_neg (not_not.mpr hmodelType)]
  refine bind_eq_ok.mpr ⟨tokenizerJson, loadSmallJson_of_loadJson htokenizerJson, ?_⟩
  refine bind_eq_ok.mpr ⟨(), rejectRemoteCode_of_importer hcode, ?_⟩
  refine bind_eq_ok.mpr ⟨(), rejectRemoteCode_of_importer hcode', ?_⟩
  rw [if_neg hpayloads]
  refine bind_eq_ok.mpr ⟨names, hweightFiles, ?_⟩
  rw [if_neg (not_not.mpr hunexpected)]
  exact validateWeights_of_importer hadds hweights

/-- The control plane accepts an imported directory if and only if no file has a suffix of code. -/
theorem deployable_iff {result : List (PyStr × Json) × Nat × List PyStr} (hnodup : (Dict.keys files).Nodup)
    (haccepted : Importer.validateModelFiles float files = .ok result)
    (hscan : tree.Perm (imported files manifest)) :
    validateDeployableModel float tree = .ok () ↔ CodeFree files := by
  have haccepted := accepted_of_validateModelFiles haccepted
  refine ⟨fun h file hmem => ?_, deployable_of_accepted hnodup haccepted hscan⟩
  unfold validateDeployableModel at h
  simp only at h
  split at h <;> [cases h; rename_i hrefused]
  have hnone := List.map_eq_nil_iff.mp (not_not.mp hrefused)
  have hsafe : lowerText file.1.suffix ∉ unsafeModelSuffixes := fun hsuffix =>
    List.filter_eq_nil_iff.mp hnone file ((mem_scan hscan).mpr (.inl hmem)) (decide_eq_true hsuffix)
  rw [unsafe_iff (haccepted.suffixes file hmem)] at hsafe
  exact not_or.mp hsafe

end Scan

end Files

/-! ## A directory with a module -/

theorem sample_is_deployable :
    Importer.validateModelFiles Importer.Sample.float Importer.Sample.model =
        .ok ([(py "model_type", .str (py "llama"))], 0, [py "U8"]) ∧
      validateDeployableModel Importer.Sample.float (imported Importer.Sample.model (Importer.Sample.text "\x7b\x7d")) = .ok () := by
  have haccepted : Importer.validateModelFiles Importer.Sample.float Importer.Sample.model =
      .ok ([(py "model_type", .str (py "llama"))], 0, [py "U8"]) := by decide +kernel
  exact ⟨haccepted, (deployable_iff (by decide) haccepted (List.Perm.refl _)).mpr (by decide)⟩

/-- The importer accepts a directory with a Python module, and the control plane does not. -/
theorem module_is_not_deployable :
    Importer.validateModelFiles Importer.Sample.float (Importer.Sample.model ++ [([py "modeling.py"], [])]) =
        .ok ([(py "model_type", .str (py "llama"))], 0, [py "U8"]) ∧
      validateDeployableModel Importer.Sample.float
          (imported (Importer.Sample.model ++ [([py "modeling.py"], [])]) (Importer.Sample.text "\x7b\x7d")) =
        .error (.refused (py "可部署模型包含不安全的可执行/反序列化文件：") [py "modeling.py"]) := by
  decide +kernel

end OpenLLMOps.TrainingControl
