import OpenLLMOps.Training.Config

/-!
# The configuration file of a training

What the control plane accepts the node accepts, the file that it writes passes the check of the container, and the
container finds the configuration in it (`trained_as_requested`). The file tells the parameters that matter for the
stage and the algorithm, and no others (`same_file_iff`).
-/

namespace OpenLLMOps.Training

open Framework
open Datasets (TrainingStage)

/-! ## Values -/

/-- A double that `float` reads of its `repr`. -/
structure ReadBack (float : PyStr → PyFloat) (x : PyFloat) : Prop where
  proper : x.Proper
  read : float x.repr = x
  short : x.repr.length ≤ 24

/-- The values of a configuration. -/
inductive ConfigValue (float : PyStr → PyFloat) : Json → Prop
  | null : ConfigValue float .null
  | bool (b : Bool) : ConfigValue float (.bool b)
  | int {n : Int} (h : n.natAbs < 10 ^ 10) : ConfigValue float (.int n)
  | float {x : PyFloat} (h : ReadBack float x) : ConfigValue float (.float x)
  | str {s : PyStr} (hlength : s.length ≤ 64) (hascii : ∀ c ∈ s, c < 0x80) : ConfigValue float (.str s)

section

variable {float : PyStr → PyFloat}

theorem ConfigValue.plain {v : Json} (h : ConfigValue float v) : v.Plain (.strict float) := by
  cases h with
  | null => exact ⟨rfl, trivial, trivial⟩
  | bool b => exact ⟨rfl, trivial, trivial⟩
  | int h => exact ⟨rfl, Nat.le_trans (length_decimal_le h) (by decide), trivial⟩
  | @float x h =>
    have hfinite : x.isFinite = true := by
      cases x with
      | finite => rfl
      | _ => exact h.proper.elim
    exact ⟨hfinite, ⟨h.proper, h.read⟩, trivial⟩
  | str hlength hascii => exact ⟨rfl, trivial, hascii⟩

theorem ConfigValue.length {v : Json} (h : ConfigValue float v) {depth : Nat} {text : PyStr}
    (hd : dumps .canonical depth v = some text) : text.length ≤ 400 := by
  cases h with
  | null =>
    obtain rfl := Option.some.inj hd
    decide
  | bool b => cases b <;> obtain rfl := Option.some.inj hd <;> decide
  | @int n h =>
    obtain rfl := Option.some.inj hd
    have hsign : (strInt n).length ≤ (decimal n.natAbs).length + 1 := by
      cases n with
      | ofNat n => exact Nat.le_succ _
      | negSucc n => exact Nat.le_refl _
    have := length_decimal_le h
    omega
  | @float x h =>
    have hfinite : x.isFinite = true := (ConfigValue.float h).plain.scalar
    have htext : some x.repr = some text := (if_pos hfinite).symm.trans hd
    have := h.short
    rw [← Option.some.inj htext]
    omega
  | @str s hlength hascii =>
    obtain rfl := Option.some.inj hd
    have := length_dumpsStr s
    omega

theorem isTemplate_short {s : PyStr} (h : isTemplate s = true) : s.length ≤ 64 ∧ ∀ c ∈ s, c < 0x80 := by
  cases s with
  | nil => cases h
  | cons c rest =>
    have halnum {c : Nat} (h : isAsciiAlnum c = true) : c < 0x80 := by
      simp only [isAsciiAlnum, isDigit, Bool.or_eq_true, Bool.and_eq_true, decide_eq_true_eq] at h
      omega
    simp only [isTemplate, Bool.and_eq_true, decide_eq_true_eq] at h
    obtain ⟨⟨hc, hlength⟩, hall⟩ := h
    refine ⟨Nat.succ_le_succ hlength, List.forall_mem_cons.mpr ⟨halnum hc, fun d hd => ?_⟩⟩
    rcases Bool.or_eq_true _ _ ▸ List.all_eq_true.mp hall d hd with hd | hd
    · exact halnum hd
    · have : ∀ d ∈ py "._+-", d < 0x80 := by decide
      exact this d (of_decide_eq_true hd)

theorem value_of_int {low high : Int} (hlow : -10 ^ 10 < low) (hhigh : high < 10 ^ 10) {v : Json}
    (h : boundedInt? low high v = some v) : ConfigValue float v := by
  obtain ⟨n, hn, hrange, hv⟩ := filter_map_eq_some.mp h
  have := of_decide_eq_true hrange
  rw [← hv]
  exact .int (by omega)

theorem value_of_float {accepts : PyFloat → Bool} {v : Json} (hfloats : ∀ x, v = .float x → ReadBack float x)
    (h : boundedFloat? accepts v = some v) : ConfigValue float v := by
  obtain ⟨x, -, -, hv⟩ := filter_map_eq_some.mp h
  rw [← hv]
  exact .float (hfloats x hv.symm)

theorem value_of_template {v : Json} (h : matchedStr? isTemplate v = some v) : ConfigValue float v := by
  obtain ⟨s, -, hs, hv⟩ := filter_map_eq_some.mp h
  obtain ⟨hlength, hascii⟩ := isTemplate_short hs
  rw [← hv]
  exact .str hlength hascii

theorem value_of_orNone {check : Json → Option Json} {v : Json} (hcheck : check v = some v → ConfigValue float v)
    (h : orNone? check v = some v) : ConfigValue float v := by
  unfold orNone? at h
  split at h
  · rename_i hnull
    rw [hnull]
    exact .null
  · exact hcheck h

/-- What a parameter is. -/
theorem value_of_check {f : Field} (hf : f ∈ trainingHyperparameters.fields) {v : Json}
    (hfloats : ∀ x, v = .float x → ReadBack float x) (h : f.check v = some v) : ConfigValue float v := by
  simp only [trainingHyperparameters, List.mem_cons, List.not_mem_nil, or_false] at hf
  rcases hf with rfl | rfl | rfl | rfl | rfl | rfl | rfl | rfl | rfl | rfl | rfl | rfl | rfl | rfl | rfl
  case inl => exact value_of_orNone value_of_template h
  all_goals
    first
    | exact value_of_int (by decide) (by decide) h
    | exact value_of_float hfloats h
    | exact value_of_orNone (value_of_int (by decide) (by decide)) h

/-- The attributes of an instance. -/
theorem value_of_get {p : trainingHyperparameters.Instance}
    (hfloats : ∀ name x, p.get name = .float x → ReadBack float x)
    (name : String) : ConfigValue float (p.get name) := by
  unfold BaseModel.Instance.get
  cases hget : Json.get? p.entries (py name) with
  | none => exact .null
  | some v =>
    rw [Json.get?_eq] at hget
    have hmem := Dict.mem_of_get? hget
    rw [p.entries_eq] at hmem
    obtain ⟨f, hf, hfv⟩ := List.mem_map.mp hmem
    obtain ⟨-, rfl⟩ := Prod.mk.inj hfv
    exact value_of_check hf (hfloats f.name) (p.check hf)

/-! ## Entries -/

namespace TrainingRequest

/-- The keys that a configuration can have. -/
def allKeys : List PyStr :=
  ["stage", "do_train", "model_name_or_path", "dataset", "dataset_dir", "output_dir", "overwrite_cache",
    "overwrite_output_dir", "trust_remote_code", "finetuning_type", "cutoff_len", "preprocessing_num_workers",
    "per_device_train_batch_size", "gradient_accumulation_steps", "learning_rate", "num_train_epochs",
    "lr_scheduler_type", "warmup_ratio", "bf16", "ddp_timeout", "logging_steps", "save_steps", "save_total_limit",
    "save_safetensors", "plot_loss", "report_to", "seed", "max_samples", "template", "packing", "lora_target",
    "lora_rank", "lora_alpha", "lora_dropout", "quantization_bit", "quantization_method", "freeze_trainable_layers",
    "freeze_trainable_modules"].map py

variable (r : TrainingRequest)

theorem keys_entries : (r.entries.map Prod.fst).Sublist allKeys := by
  have hite {c : Prop} [Decidable c] {kvs : List (PyStr × Json)} {keys : List PyStr} (h : kvs.map Prod.fst = keys) :
      ((if c then kvs else []).map Prod.fst).Sublist keys := by
    split
    · exact h ▸ List.Sublist.refl _
    · exact List.nil_sublist _
  have hnull {c : Prop} [Decidable c] {kvs : List (PyStr × Json)} {keys : List PyStr} (h : kvs.map Prod.fst = keys) :
      ((if c then [] else kvs).map Prod.fst).Sublist keys := by
    split
    · exact List.nil_sublist _
    · exact h ▸ List.Sublist.refl _
  have hcommon : r.commonEntries.map Prod.fst = allKeys.take 27 := rfl
  have hall : allKeys = allKeys.take 27 ++ (["max_samples"].map py ++ ["template", "packing"].map py ++
      ["lora_target", "lora_rank", "lora_alpha", "lora_dropout"].map py ++
      ["quantization_bit", "quantization_method"].map py ++
      ["freeze_trainable_layers", "freeze_trainable_modules"].map py) := rfl
  rw [entries, List.map_append, hcommon, hall]
  refine (List.Sublist.refl _).append ?_
  unfold furtherEntries
  rw [List.map_append, List.map_append, List.map_append, List.map_append]
  exact ((((hnull rfl).append (hite rfl)).append (hite rfl)).append (hite rfl)).append (hite rfl)

theorem nodup_entries : (r.entries.map Prod.fst).Nodup :=
  List.Nodup.sublist r.keys_entries (by decide)

theorem length_entries : r.entries.length ≤ 38 := by
  have := r.keys_entries.length_le
  rwa [List.length_map] at this

theorem key_short {kv : PyStr × Json} (hkv : kv ∈ r.entries) : kv.1.length ≤ 40 ∧ ∀ c ∈ kv.1, c < 0x80 := by
  have hall : ∀ k ∈ allKeys, k.length ≤ 40 ∧ ∀ c ∈ k, c < 0x80 := by decide
  exact hall kv.1 (r.keys_entries.subset (List.mem_map_of_mem hkv))

/-- The paths and the name are short. -/
structure Short : Prop where
  modelPath : r.modelPath.length ≤ 64 ∧ ∀ c ∈ r.modelPath, c < 0x80
  datasetDir : r.datasetDir.length ≤ 64 ∧ ∀ c ∈ r.datasetDir, c < 0x80
  outputDir : r.outputDir.length ≤ 64 ∧ ∀ c ∈ r.outputDir, c < 0x80
  datasetName : r.datasetName.length ≤ 64 ∧ ∀ c ∈ r.datasetName, c < 0x80

theorem value_of_entry {r : TrainingRequest} (hshort : r.Short)
    (hfloats : ∀ name x, r.get name = .float x → ReadBack float x) {kv : PyStr × Json} (hkv : kv ∈ r.entries) :
    ConfigValue float kv.2 := by
  have hget (name : String) : ConfigValue float (r.get name) := value_of_get hfloats name
  have hstr {s : PyStr} (h : s.length ≤ 64 ∧ ∀ c ∈ s, c < 0x80) : ConfigValue float (.str s) := .str h.1 h.2
  have hstage : ConfigValue float (.str (if r.stage = .cpt then py "pt" else py "sft")) := by
    split <;> exact hstr (by decide)
  have hfinetuning : ConfigValue float (.str (if r.algorithm = .freeze then py "freeze" else py "lora")) := by
    split <;> exact hstr (by decide)
  have hcommon : ∀ kv ∈ r.commonEntries, ConfigValue float kv.2 := by
    unfold commonEntries
    simp only [List.forall_mem_cons, hget, hstr hshort.modelPath, hstr hshort.datasetDir, hstr hshort.outputDir,
      hstr hshort.datasetName, hstage, hfinetuning, ConfigValue.bool, true_and]
    exact ⟨.int (by decide), hstr (by decide), .int (by decide), .int (by decide), hstr (by decide),
      fun kv hkv => absurd hkv List.not_mem_nil⟩
  rcases List.mem_append.mp hkv with hkv | hkv
  · exact hcommon kv hkv
  · unfold furtherEntries at hkv
    simp only [List.mem_append] at hkv
    have hcons {first : PyStr × Json} {rest : List (PyStr × Json)} (hfirst : ConfigValue float first.2)
        (hrest : ∀ kv ∈ rest, ConfigValue float kv.2) : ∀ kv ∈ first :: rest, ConfigValue float kv.2 :=
      List.forall_mem_cons.mpr ⟨hfirst, hrest⟩
    have hnil : ∀ kv ∈ ([] : List (PyStr × Json)), ConfigValue float kv.2 := fun kv hkv => absurd hkv List.not_mem_nil
    rcases hkv with (((hkv | hkv) | hkv) | hkv) | hkv
    all_goals split at hkv
    · exact hnil kv hkv
    · exact hcons (hget _) hnil kv hkv
    · exact hcons (hget _) (hcons (.bool _) hnil) kv hkv
    · exact hnil kv hkv
    · exact hcons (hstr (by decide)) (hcons (hget _) (hcons (hget _) (hcons (hget _) hnil))) kv hkv
    · exact hnil kv hkv
    · exact hcons (.int (by decide)) (hcons (hstr (by decide)) hnil) kv hkv
    · exact hnil kv hkv
    · exact hcons (hget _) (hcons (hstr (by decide)) hnil) kv hkv
    · exact hnil kv hkv

end TrainingRequest

/-! ## The way of the parameters -/

theorem request_eq (spec : TrainingSpec) (p : trainingHyperparameters.Instance) :
    spec.request p = some (spec.with p) := by
  rw [TrainingSpec.request, BaseModel.validate_entries]
  rfl

theorem short_workspace (stage : TrainingStage) (algorithm : TrainingAlgorithm) (format : DatasetFormat)
    (p : trainingHyperparameters.Instance) : ((workspaceSpec stage algorithm format).with p).Short := by
  have hall : ∀ s ∈ ["/workspace/model", "/workspace/dataset", "/workspace/output", "openllmops_dataset"].map py,
      s.length ≤ 64 ∧ ∀ c ∈ s, c < 0x80 := by decide
  simp only [List.map_cons, List.map_nil, List.forall_mem_cons] at hall
  exact ⟨hall.1, hall.2.1, hall.2.2.1, hall.2.2.2.1⟩

/-- The file holds the configuration of the request. -/
structure Holds (float : PyStr → PyFloat) (r : TrainingRequest) (body : Bytes) : Prop where
  dumped : (dumps .canonical 0 (.obj r.entries)).bind PyStr.encode = some body
  loaded : loads (.strict float) body = .ok (.obj (Json.sortedFields .canonical r.entries))
  short : body.length ≤ maxConfigBytes
  some : body.length ≠ 0

/-- A configuration is written to a short file. -/
theorem exists_file {r : TrainingRequest} (hshort : r.Short)
    (hfloats : ∀ name x, r.get name = .float x → ReadBack float x) :
    ∃ body, Holds float r body := by
  have hvalues : ∀ kv ∈ r.entries, ConfigValue float kv.2 := fun kv hkv => r.value_of_entry hshort hfloats hkv
  obtain ⟨text, body, htext, hbody, hlength, hloads⟩ := object_file (JsonDecoder.strict_keepsDistinct float)
    r.nodup_entries (fun kv hkv => (r.key_short hkv).2) fun kv hkv => (hvalues kv hkv).plain
  have hbound := length_dumps_object htext (fun kv hkv => (r.key_short hkv).1)
    fun kv hkv text htext => (hvalues kv hkv).length htext
  have hentries := r.length_entries
  refine ⟨body, ⟨by rw [htext, Option.bind_some, hbody], hloads, ?_, fun hzero => ?_⟩⟩
  · have : r.entries.length * (6 * 40 + 400 + 4) ≤ 38 * (6 * 40 + 400 + 4) := Nat.mul_le_mul_right _ hentries
    unfold maxConfigBytes
    omega
  · rw [List.length_eq_zero_iff.mp hzero] at hloads
    cases hloads

/-- The file is loaded as the configuration. -/
theorem load_written {r : TrainingRequest} {body : Bytes} (h : Holds float r body) :
    loadJsonConfig float (some (writtenFile body)) = .ok (Json.sortedFields .canonical r.entries) := by
  have hshort := h.short
  have htake : (writtenFile body).content.take (maxConfigBytes + 1) = body :=
    List.take_of_length_le (Nat.le_succ_of_le hshort)
  have hsize : ¬(!(writtenFile body).regular || (writtenFile body).sizeBytes = 0 ||
      maxConfigBytes < (writtenFile body).sizeBytes) = true := by
    simp [writtenFile, h.some, Nat.not_lt.mpr hshort]
  unfold loadJsonConfig
  dsimp only
  rw [if_neg hsize, htake, h.loaded]
  exact if_neg (Nat.not_lt.mpr hshort)

theorem get?_sorted_entries {r : TrainingRequest} (hscalar : ∀ kv ∈ r.entries, kv.2.isScalar = true) (k : PyStr) :
    Json.get? (Json.sortedFields .canonical r.entries) k = Json.get? r.entries k := by
  rw [Json.get?_eq, Json.get?_eq, Dict.get?_perm r.nodup_entries (Json.sortedFields_scalars hscalar).symm]

/-- The entries that are read give the parameters that matter. -/
theorem given_sorted {r : TrainingRequest} (hscalar : ∀ kv ∈ r.entries, kv.2.isScalar = true) {f : Field}
    (hf : f ∈ trainingHyperparameters.fields) : r.used.Given (Json.sortedFields .canonical r.entries) f := by
  rw [BaseModel.Instance.Given, get?_sorted_entries hscalar]
  exact r.given_entries hf

theorem entries_used (r : TrainingRequest) : r.entries = TrainingRequest.entries { r with parameters := r.used } :=
  r.entries_congr fun _ hname hused => (r.get_used_of_not_mem hname hused).symm

theorem used_template {r : TrainingRequest} (hstage : r.stage = .sft) : r.used.get "template" = r.get "template" := by
  refine r.get_used_of_not_mem (by decide) ?_
  rw [TrainingRequest.mem_unused, hstage]
  rintro (⟨-, h⟩ | ⟨h, -⟩ | ⟨h, -⟩)
  · cases h
  · exact absurd h (by decide)
  · exact absurd h (by decide)

/-- The container makes the same configuration of the parameters that matter. -/
theorem build_used {r : TrainingRequest} (h : r.validateCombination = .ok ()) :
    buildTrainingConfig { r with parameters := r.used } = .ok r.entries := by
  have hcombination : TrainingRequest.validateCombination { r with parameters := r.used } = .ok () := by
    unfold TrainingRequest.validateCombination at h ⊢
    by_cases hstage : r.stage = .sft
    · have htemplate : TrainingRequest.get { r with parameters := r.used } "template" = r.get "template" :=
        used_template hstage
      rw [htemplate]
      exact h
    · simp only [hstage, false_and, if_false] at h ⊢
      exact h
  rw [buildTrainingConfig, hcombination, ← entries_used]
  rfl

/-- The file passes the check of the container. -/
theorem validate_written {spec : TrainingSpec} {p : trainingHyperparameters.Instance} {body : Bytes}
    (hscalar : ∀ kv ∈ (spec.with p).entries, kv.2.isScalar = true)
    (hcombination : (spec.with p).validateCombination = .ok ())
    (h : Holds float (spec.with p) body) :
    validateTrainingConfig float spec (some (writtenFile body)) =
      .ok (Json.sortedFields .canonical (spec.with p).entries) := by
  have hsame : (Json.obj (Json.sortedFields .canonical (spec.with p).entries)).eqv
    (.obj (spec.with p).entries) = true := by
    have hp : (Json.sortedFields .canonical (spec.with p).entries).Perm (spec.with p).entries :=
      Json.sortedFields_scalars hscalar
    exact Json.eqv_of_perm hp (spec.with p).nodup_entries fun kv hkv => hscalar kv (hp.subset hkv)
  refine bind_eq_ok.mpr ⟨_, load_written h, ?_⟩
  refine bind_eq_ok.mpr ⟨(spec.with p).used, ?_, ?_⟩
  · rw [BaseModel.validate_select fun f hf => given_sorted hscalar hf]
    rfl
  refine bind_eq_ok.mpr ⟨_, by rw [request_eq]; rfl, ?_⟩
  refine bind_eq_ok.mpr ⟨(spec.with p).entries, ?_, if_pos hsame⟩
  have hbuild : buildTrainingConfig (spec.with (spec.with p).used) = .ok (spec.with p).entries :=
    build_used hcombination
  rw [hbuild]
  rfl

variable {stage : TrainingStage} {algorithm : TrainingAlgorithm} {raw : Json} {p : trainingParameters.Instance}

theorem template_ne_blank (p : trainingHyperparameters.Instance) : p.get "template" ≠ .str [] := by
  obtain ⟨f, hf, hname⟩ : ∃ f ∈ trainingHyperparameters.fields, f.name = "template" := ⟨_, List.mem_cons_self, rfl⟩
  intro hblank
  have hcheck := p.check (List.mem_cons_self : _ ∈ trainingHyperparameters.fields)
  have hget : p.get (Field.optional "template" (matchedStr? isTemplate) matchedStr?_kept).name = .str [] := hblank
  rw [hget] at hcheck
  cases hcheck

/-- What the control plane accepts is a combination that the node accepts. -/
theorem combination_of_accepted (h : validateTrainingParameters stage algorithm raw = .ok p) {format : DatasetFormat}
    (hformat : format = .cptText ↔ stage = .cpt) :
    ((workspaceSpec stage algorithm format).with p).validateCombination = .ok () := by
  unfold validateTrainingParameters at h
  split at h
  · cases h
  rename_i q hq
  split at h
  · cases h
  rename_i hcpt
  split at h
  · cases h
  rename_i hsft
  obtain rfl := Except.ok.inj h
  have hblank := template_ne_blank q
  unfold TrainingRequest.validateCombination
  show (if stage = .cpt ∧ algorithm ≠ .lora then _ else if stage = .cpt ∧ format ≠ .cptText then _
    else if stage = .sft ∧ format = .cptText then _
    else if stage = .sft ∧ (q.get "template" = .null ∨ q.get "template" = .str []) then _ else _) = _
  have hformat' : ¬(stage = .cpt ∧ format ≠ .cptText) := fun h => h.2 (hformat.mpr h.1)
  have hsft' : ¬(stage = .sft ∧ format = .cptText) := by
    rintro ⟨hstage, hf⟩
    rw [hformat.mp hf] at hstage
    cases hstage
  have htemplate : ¬(stage = .sft ∧ (q.get "template" = .null ∨ q.get "template" = .str [])) := by
    rintro ⟨hstage, hnull | hempty⟩
    · exact hsft ⟨hstage, hnull⟩
    · exact hblank hempty
  rw [if_neg hcpt, if_neg hformat', if_neg hsft', if_neg htemplate]

/-- The node writes the configuration of what it reads of the command. -/
theorem materialize_dumped {spec : TrainingSpec} {p : trainingHyperparameters.Instance} {body : Bytes}
    (hfloats : ∀ name x, p.get name = .float x → ReadBack float x)
    (hcombination : (spec.with p).validateCombination = .ok ())
    (h : Holds float (spec.with p) body) :
    materializeTrainingConfig spec (.obj (Json.sortedFields .canonical p.dumpPresent)) = .ok body := by
  have hnull : ∀ f ∈ trainingHyperparameters.fields, p.get f.name = .null → f.default = .null := by
    intro f hf hvalue
    have hcheck := p.check hf
    rw [hvalue] at hcheck
    have hall : ∀ f ∈ trainingHyperparameters.fields, f.check .null = some .null → f.default = .null := by decide
    exact hall f hf hcheck
  have hscalar : ∀ kv ∈ p.entries, kv.2.sorted .canonical = kv.2 := by
    intro kv hkv
    rw [p.entries_eq] at hkv
    obtain ⟨f, -, rfl⟩ := List.mem_map.mp hkv
    exact Json.sorted_scalar (value_of_get hfloats f.name).plain.scalar
  refine bind_eq_ok.mpr ⟨p, ?_, ?_⟩
  · rw [BaseModel.validate_dumpPresent hscalar hnull]
    rfl
  refine bind_eq_ok.mpr ⟨spec.with p, by rw [request_eq]; rfl, ?_⟩
  refine bind_eq_ok.mpr ⟨(spec.with p).entries, ?_, by rw [h.dumped]; rfl⟩
  rw [buildTrainingConfig, hcombination]
  rfl

/-- What the node and the container agree on. -/
structure Agreed (float : PyStr → PyFloat) (spec : TrainingSpec) (p : trainingHyperparameters.Instance) (body : Bytes) :
    Prop where
  scalar : ∀ kv ∈ (spec.with p).entries, kv.2.isScalar = true
  holds : Holds float (spec.with p) body
  built : buildTrainingConfig (spec.with p) = .ok (spec.with p).entries
  materialized : materializeTrainingConfig spec (.obj (Json.sortedFields .canonical p.dumpPresent)) = .ok body
  validated : validateTrainingConfig float spec (some (writtenFile body)) =
    .ok (Json.sortedFields .canonical (spec.with p).entries)

theorem agreed_of_accepted (h : validateTrainingParameters stage algorithm raw = .ok p) {format : DatasetFormat}
    (hformat : format = .cptText ↔ stage = .cpt) (hfloats : ∀ name x, p.get name = .float x → ReadBack float x) :
    ∃ body, Agreed float (workspaceSpec stage algorithm format) p body := by
  have hcombination := combination_of_accepted h hformat
  have hshort := short_workspace stage algorithm format p
  obtain ⟨body, hbody⟩ := exists_file hshort hfloats
  have hscalar : ∀ kv ∈ ((workspaceSpec stage algorithm format).with p).entries, kv.2.isScalar = true :=
    fun kv hkv => (TrainingRequest.value_of_entry hshort hfloats hkv).plain.scalar
  refine ⟨body, hscalar, hbody, ?_, materialize_dumped hfloats hcombination hbody,
    validate_written hscalar hcombination hbody⟩
  rw [buildTrainingConfig, hcombination]
  rfl

/-! ## What the file tells -/

theorem stage_of_get? {r r' : TrainingRequest}
    (h : Json.get? r.entries (py "stage") = Json.get? r'.entries (py "stage")) : r.stage = r'.stage := by
  have hvalue : some (Json.str (if r.stage = .cpt then py "pt" else py "sft")) =
      some (.str (if r'.stage = .cpt then py "pt" else py "sft")) := h
  revert hvalue
  cases r.stage <;> cases r'.stage <;> decide

theorem get?_quantization (r : TrainingRequest) :
    Json.get? r.entries (py "quantization_bit") = if r.algorithm = .qlora then some (.int 4) else none := by
  show Json.get? r.furtherEntries _ = _
  unfold TrainingRequest.furtherEntries
  obtain ⟨p, stage, algorithm, _, _, _, _, _⟩ := r
  split <;> cases stage <;> cases algorithm <;> rfl

theorem algorithm_of_get? {r r' : TrainingRequest}
    (h : ∀ k, Json.get? r.entries k = Json.get? r'.entries k) : r.algorithm = r'.algorithm := by
  have hvalue : some (Json.str (if r.algorithm = .freeze then py "freeze" else py "lora")) =
      some (.str (if r'.algorithm = .freeze then py "freeze" else py "lora")) := h (py "finetuning_type")
  have hbit := h (py "quantization_bit")
  rw [get?_quantization, get?_quantization] at hbit
  revert hvalue hbit
  cases r.algorithm <;> cases r'.algorithm <;> decide

/-- The entries tell the request, up to the parameters that do not matter. -/
theorem used_of_get? {r r' : TrainingRequest}
    (h : ∀ k, Json.get? r.entries k = Json.get? r'.entries k) : r.used = r'.used := by
  have hread := BaseModel.validate_select fun f hf => r.given_entries hf
  have hread' : trainingHyperparameters.validate (.obj (trainingHyperparameters.select r.entries)) = some r'.used := by
    refine BaseModel.validate_select fun f hf => ?_
    rw [BaseModel.Instance.Given, h]
    exact r'.given_entries hf
  exact Option.some.inj (hread.symm.trans hread')

end

/-! ## The results -/

namespace Sample

/-- What is asked for, with a number of layers that only `freeze` would train. -/
def raw (layers : Int) : Json :=
  .obj [(py "template", .str (py "qwen")), (py "num_train_epochs", .int 2),
    (py "learning_rate", .float (.finite false 3 (-4))),
    (py "freeze_trainable_layers", .int layers), (py "max_samples", .int 1000)]

/-- The numbers of the request and of the defaults. -/
def numbers : List PyFloat := [.finite false 2 0, .finite false 3 (-4), .finite false 3 (-2), .finite false 5 (-2)]

/-- `float` of these numbers. -/
def float (s : PyStr) : PyFloat := (numbers.find? fun x => x.repr = s).getD .nan

def isNumber : Json → Bool
  | .float x => x ∈ numbers
  | _ => true

def parameters2 : trainingParameters.Instance := (trainingParameters.validate (raw 2)).get (by decide)

def parameters8 : trainingParameters.Instance := (trainingParameters.validate (raw 8)).get (by decide)

theorem accepted2 : validateTrainingParameters .sft .qlora (raw 2) = .ok parameters2 := rfl

theorem accepted8 : validateTrainingParameters .sft .qlora (raw 8) = .ok parameters8 := rfl

theorem readBack {p : trainingHyperparameters.Instance}
    (h : p.entries.all (fun kv => isNumber kv.2) = true) (name : String)
    (x : PyFloat) (hx : p.get name = .float x) : ReadBack float x := by
  have hnumbers : ∀ x ∈ numbers, float x.repr = x ∧ x.repr.length ≤ 24 := by decide
  have hproper : ∀ x ∈ numbers, x.Proper := by
    simp only [numbers, List.forall_mem_cons]
    have hsmall {m : Nat} {e : Int} (hm : m ≠ 0) : (PyFloat.finite false m e).Proper := fun hzero => absurd hzero hm
    exact ⟨hsmall (by decide), hsmall (by decide), hsmall (by decide), hsmall (by decide),
      fun x hx => absurd hx List.not_mem_nil⟩
  have hmem : x ∈ numbers := by
    unfold BaseModel.Instance.get at hx
    cases hget : Json.get? p.entries (py name) with
    | none =>
      rw [hget] at hx
      cases hx
    | some v =>
      rw [hget] at hx
      obtain rfl : v = .float x := hx
      rw [Json.get?_eq] at hget
      exact of_decide_eq_true (List.all_eq_true.mp h _ (Dict.mem_of_get? hget))
  exact ⟨hproper x hmem, (hnumbers x hmem).1, (hnumbers x hmem).2⟩

theorem numbers2 : parameters2.entries.all (fun kv => isNumber kv.2) = true := by decide

theorem numbers8 : parameters8.entries.all (fun kv => isNumber kv.2) = true := by decide

end Sample

/-- What the control plane accepts for a stage and an algorithm is trained with the configuration of these
parameters: the node makes it of the command, and the container finds it in the file. -/
theorem trained_as_requested (float : PyStr → PyFloat) (stage : TrainingStage) (algorithm : TrainingAlgorithm)
    (format : DatasetFormat) (raw : Json) (p : trainingParameters.Instance)
    (h : validateTrainingParameters stage algorithm raw = .ok p) (hformat : format = .cptText ↔ stage = .cpt)
    (hfloats : ∀ name x, p.get name = .float x → ReadBack float x) :
    ∃ config body returned,
      buildTrainingConfig ((workspaceSpec stage algorithm format).with p) = .ok config ∧
        materializeTrainingConfig (workspaceSpec stage algorithm format)
          (.obj (Json.sortedFields .canonical p.dumpPresent)) = .ok body ∧
        validateTrainingConfig float (workspaceSpec stage algorithm format) (some (writtenFile body)) = .ok returned ∧
        returned.Perm config := by
  obtain ⟨body, hbody⟩ := agreed_of_accepted h hformat hfloats
  exact ⟨_, body, _, hbody.built, hbody.materialized, hbody.validated, Json.sortedFields_scalars hbody.scalar⟩

/-- An adapter is trained as requested. -/
theorem qlora_is_trained :
    ∃ config body returned,
      buildTrainingConfig ((workspaceSpec .sft .qlora .alpaca).with Sample.parameters2) = .ok config ∧
        materializeTrainingConfig (workspaceSpec .sft .qlora .alpaca)
          (.obj (Json.sortedFields .canonical Sample.parameters2.dumpPresent)) = .ok body ∧
        validateTrainingConfig Sample.float (workspaceSpec .sft .qlora .alpaca)
          (some (writtenFile body)) = .ok returned ∧
        returned.Perm config :=
  trained_as_requested Sample.float .sft .qlora .alpaca (Sample.raw 2) Sample.parameters2 Sample.accepted2 (by decide)
    (Sample.readBack Sample.numbers2)

/-- Two requests get the same file exactly if they are of one stage and one algorithm and agree on the parameters that
matter for these. -/
theorem same_file_iff (float : PyStr → PyFloat) (stage stage' : TrainingStage)
    (algorithm algorithm' : TrainingAlgorithm) (format format' : DatasetFormat) (raw raw' : Json)
    (p p' : trainingParameters.Instance) (body body' : Bytes)
    (h : validateTrainingParameters stage algorithm raw = .ok p) (hformat : format = .cptText ↔ stage = .cpt)
    (hfloats : ∀ name x, p.get name = .float x → ReadBack float x)
    (hbody : materializeTrainingConfig (workspaceSpec stage algorithm format)
      (.obj (Json.sortedFields .canonical p.dumpPresent)) = .ok body)
    (h' : validateTrainingParameters stage' algorithm' raw' = .ok p') (hformat' : format' = .cptText ↔ stage' = .cpt)
    (hfloats' : ∀ name x, p'.get name = .float x → ReadBack float x)
    (hbody' : materializeTrainingConfig (workspaceSpec stage' algorithm' format')
      (.obj (Json.sortedFields .canonical p'.dumpPresent)) = .ok body') :
    body = body' ↔ stage = stage' ∧ algorithm = algorithm' ∧
      ∀ name ∈ trainingParameters.names, name ∉ unusedParameters stage algorithm → p.get name = p'.get name := by
  obtain ⟨b, hb⟩ := agreed_of_accepted h hformat hfloats
  obtain ⟨b', hb'⟩ := agreed_of_accepted h' hformat' hfloats'
  obtain rfl := Except.ok.inj (hb.materialized.symm.trans hbody)
  obtain rfl := Except.ok.inj (hb'.materialized.symm.trans hbody')
  constructor
  · rintro rfl
    have hobj := Json.obj.inj (Except.ok.inj (hb.holds.loaded.symm.trans hb'.holds.loaded))
    have hget : ∀ k, Json.get? ((workspaceSpec stage algorithm format).with p).entries k =
        Json.get? ((workspaceSpec stage' algorithm' format').with p').entries k := by
      intro k
      rw [← get?_sorted_entries hb.scalar, ← get?_sorted_entries hb'.scalar, hobj]
    obtain rfl : stage = stage' := stage_of_get? (hget _)
    obtain rfl : algorithm = algorithm' := algorithm_of_get? hget
    refine ⟨rfl, rfl, fun name hname hused => ?_⟩
    have hsame := congrArg (fun p => BaseModel.Instance.get p name) (used_of_get? hget)
    exact ((TrainingRequest.get_used_of_not_mem _ hname hused).symm.trans hsame).trans
      (TrainingRequest.get_used_of_not_mem _ hname hused)
  · rintro ⟨rfl, rfl, hsame⟩
    have hentries : ((workspaceSpec stage algorithm format).with p).entries =
        ((workspaceSpec stage algorithm format').with p').entries :=
      TrainingRequest.entries_congr _ hsame
    have hdumped := hb'.holds.dumped
    rw [← hentries, hb.holds.dumped] at hdumped
    exact Option.some.inj hdumped

/-- The number of layers does not matter for an adapter. -/
theorem layers_do_not_matter :
    ∃ body, materializeTrainingConfig (workspaceSpec .sft .qlora .alpaca)
        (.obj (Json.sortedFields .canonical Sample.parameters2.dumpPresent)) = .ok body ∧
      materializeTrainingConfig (workspaceSpec .sft .qlora .messages)
        (.obj (Json.sortedFields .canonical Sample.parameters8.dumpPresent)) = .ok body := by
  obtain ⟨body, h⟩ := @agreed_of_accepted Sample.float _ _ _ _ Sample.accepted2 .alpaca (by decide)
    (Sample.readBack Sample.numbers2)
  obtain ⟨body', h'⟩ := @agreed_of_accepted Sample.float _ _ _ _ Sample.accepted8 .messages (by decide)
    (Sample.readBack Sample.numbers8)
  have hsame := (same_file_iff Sample.float .sft .sft .qlora .qlora .alpaca .messages (Sample.raw 2) (Sample.raw 8)
    Sample.parameters2 Sample.parameters8 body body' Sample.accepted2 (by decide) (Sample.readBack Sample.numbers2)
    h.materialized Sample.accepted8 (by decide) (Sample.readBack Sample.numbers8) h'.materialized).mpr
    ⟨rfl, rfl, by decide⟩
  exact ⟨body, h.materialized, hsame ▸ h'.materialized⟩

end OpenLLMOps.Training
