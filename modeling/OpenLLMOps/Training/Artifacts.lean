import OpenLLMOps.ModelImport.Directory

/-!
# What the agent reports as an artifact

`artifacts.py` of the training runtime: a directory is a PEFT adapter, or a complete model that
can be loaded without remote code. A check returns the resolved path of the directory.

A directory is given by its resolved path and what is below it; a symbolic link below it is
refused by `_files`.
-/

namespace OpenLLMOps.Training

open Framework

/-- What is below a directory, by path. -/
abbrev Listing := List (RelativePath × DirectoryEntry)

/-- A directory: the parts of its resolved path, and what is below it. -/
structure ResolvedDirectory where
  path : RelativePath
  listing : Listing

namespace ResolvedDirectory

/-- An entry of the directory itself. -/
def entry (root : ResolvedDirectory) (name : PyStr) : Option DirectoryEntry := Dict.get? root.listing [name]

/-- A directory of the directory. -/
def below (root : ResolvedDirectory) (name : PyStr) : ResolvedDirectory where
  path := root.path ++ [name]
  listing := root.listing.filterMap fun e =>
    match e.1 with
    | first :: second :: rest => if first = name then some (second :: rest, e.2) else none
    | _ => none

end ResolvedDirectory

/-- `MAX_FILES`. -/
def maxFiles : Nat := 50000

/-- `MAX_JSON_BYTES`. -/
def maxJsonBytes : Nat := 8 * 1024 * 1024

/-- `FORBIDDEN_DIRECT_SUFFIXES`. -/
def forbiddenDirectSuffixes : List PyStr :=
  [py ".bin", py ".ckpt", py ".joblib", py ".pkl", py ".pickle", py ".pt", py ".pth"]

/-! ## Metadata -/

mutual

/-- `_validate_finite_tree`: it returns the number of values so far. -/
def validateFiniteTree (depth count : Nat) (value : Json) : FileCheck Nat :=
  if 32 < depth ∨ 100000 < count + 1 then refuse (py "产物 JSON 结构过深或过大")
  else
    match value with
    | .float x => if x.isFinite then .ok (count + 1) else refuse (py "产物 JSON 包含非有限数值")
    | .arr xs => validateFiniteItems (depth + 1) (count + 1) xs
    | .obj kvs => validateFiniteEntries (depth + 1) (count + 1) kvs
    | _ => .ok (count + 1)

def validateFiniteItems (depth count : Nat) : List Json → FileCheck Nat
  | [] => .ok count
  | x :: xs => do validateFiniteItems depth (← validateFiniteTree depth count x) xs

def validateFiniteEntries (depth count : Nat) : List (PyStr × Json) → FileCheck Nat
  | [] => .ok count
  | (key, x) :: kvs =>
    if 512 < key.length then refuse (py "产物 JSON 字段名无效")
    else do validateFiniteEntries depth (← validateFiniteTree depth count x) kvs

end

section Checks

variable (float : PyStr → PyFloat)

/-- `_bounded_json`. The `ValueError` of an integer with too many digits is not handled. -/
def boundedJson (root : ResolvedDirectory) (name : PyStr) : FileCheck (List (PyStr × Json)) :=
  match root.entry name with
  | none => refuse (name ++ py " 不存在")
  | some (.file content) =>
    if ¬ (1 ≤ content.length ∧ content.length ≤ maxJsonBytes) then refuse (name ++ py " 大小无效")
    else
      match loads (.strict float) content with
      | .error (.constant text) => refuse (py "JSON 不允许非有限数值：" ++ text)
      | .error (.duplicate key) => refuse (py "JSON 包含重复字段：" ++ key)
      | .error .digits => .error .valueError
      | .error _ => refuse (name ++ py " 不是有效的有限 UTF-8 JSON")
      | .ok (.obj kvs) => do
        let _ ← validateFiniteTree 0 0 (.obj kvs)
        .ok kvs
      | .ok _ => refuse (name ++ py " 必须是有界 JSON 对象")
  | some _ => refuse (name ++ py " 必须是非软链接普通文件")

/-- `_files`. -/
def files (root : ResolvedDirectory) : FileCheck ModelFiles :=
  match root.listing.find? fun e => e.2 = .symlink ∨ e.2 = .special with
  | some (path, .symlink) => refuse (py "训练产物禁止软链接：" ++ path.posix)
  | some _ => refuse (py "训练产物包含特殊文件")
  | none =>
    let files := root.listing.filterMap fun e =>
      match e.2 with
      | .file content => some (e.1, content)
      | _ => none
    if maxFiles < files.length then refuse (py "训练产物文件数超过 50000")
    else if files = [] then refuse (py "训练产物目录为空")
    else .ok files

/-- `_validate_safe_config`. -/
def validateSafeConfig (config : List (PyStr × Json)) (label : PyStr) : FileCheck Unit :=
  if (Dict.get? config (py "auto_map")).any Json.truthy ∨ (Dict.get? config (py "auto_mapping")).any Json.truthy then
    refuse (label ++ py " 声明 auto_map/auto_mapping，禁止作为受控产物")
  else if Dict.get? config (py "trust_remote_code") = some (.bool true) then
    refuse (label ++ py " 请求 trust_remote_code")
  else .ok ()

/-- The files that are no data. -/
def forbiddenFiles (files : ModelFiles) : List PyStr :=
  sortTexts ((files.filter fun file => casefoldText file.1.suffix ∈ forbiddenDirectSuffixes).map fun file => file.1.posix)

/-- The files at the top level. -/
def directFiles (files : ModelFiles) : List PyStr := (topLevelFiles files).map Prod.fst

/-- Ignoring case, the name is one of a Safetensors file. -/
def isSafetensors (name : PyStr) : Bool := (py ".safetensors").isSuffixOf (casefoldText name)

/-- `validate_adapter_directory`. -/
def validateAdapterDirectory (root : ResolvedDirectory) : FileCheck RelativePath := do
  let files ← files root
  let config ← boundedJson float root (py "adapter_config.json")
  validateSafeConfig config (py "adapter_config.json")
  let weights := (directFiles files).filter fun name => (py "adapter_model").isPrefixOf name && isSafetensors name
  if weights = [] then refuse (py "adapter 目录缺少 adapter_model*.safetensors")
  else if forbiddenFiles files ≠ [] then
    .error (.refused (py "adapter 根目录包含可执行反序列化文件：") ((forbiddenFiles files).take 5))
  else .ok root.path

/-- `_validate_weight_index`. -/
def validateWeightIndex (root : ResolvedDirectory) (safetensors : List PyStr) : FileCheck Unit :=
  if (root.entry (py "model.safetensors.index.json")).isNone then .ok ()
  else do
    let index ← boundedJson float root (py "model.safetensors.index.json")
    match Dict.get? index (py "weight_map") with
    | some (.obj (entry :: entries)) =>
      let referenced := (entry :: entries).filterMap fun e =>
        match e.2 with
        | .str name => if 47 ∈ name ∨ name = py "." then none else some name
        | _ => none
      if referenced.length < (entry :: entries).length then refuse (py "Safetensors 索引包含路径或非字符串值")
      else if referenced.all (· ∈ safetensors) then .ok ()
      else refuse (py "Safetensors 索引引用缺失分片")
    | _ => refuse (py "Safetensors 索引缺少 weight_map")

/-- `validate_full_model_directory`. -/
def validateFullModelDirectory (root : ResolvedDirectory) : FileCheck RelativePath := do
  let files ← files root
  let config ← boundedJson float root (py "config.json")
  validateSafeConfig config (py "config.json")
  if forbiddenFiles files ≠ [] then
    .error (.refused (py "模型根目录包含非 Safetensors 权重：") ((forbiddenFiles files).take 5))
  else
    let safetensors := (directFiles files).filter isSafetensors
    if safetensors = [] then refuse (py "完整模型目录缺少 Safetensors 权重")
    else
      validateWeightIndex float root safetensors
      if py "tokenizer_config.json" ∉ directFiles files then refuse (py "完整模型目录缺少 tokenizer_config.json")
      else if (directFiles files).all (· ∉ [py "tokenizer.json", py "tokenizer.model", py "spiece.model", py "vocab.json"]) then
        refuse (py "完整模型目录缺少真实 tokenizer 词表或模型文件")
      else
        let tokenizer ← boundedJson float root (py "tokenizer_config.json")
        validateSafeConfig tokenizer (py "tokenizer_config.json")
        .ok root.path

/-- `validate_checkpoint_directory`. -/
def validateCheckpointDirectory (root : ResolvedDirectory) : FileCheck RelativePath :=
  if (root.entry (py "adapter_config.json")).isSome then validateAdapterDirectory float root
  else validateFullModelDirectory float root

/-! ## What a check returns -/

variable {float} {root : ResolvedDirectory} {path : RelativePath}

/-- The files are taken of a directory without links. -/
theorem files_regular {found : ModelFiles} (h : files root = .ok found) : ∀ e ∈ root.listing, e.2 ≠ .symlink := by
  intro e he hlink
  unfold files at h
  split at h
  · cases h
  · cases h
  · rename_i hnone
    exact List.find?_eq_none.mp hnone e he (decide_eq_true (.inl hlink))

theorem validateAdapterDirectory_eq_ok (h : validateAdapterDirectory float root = .ok path) :
    path = root.path ∧ ∀ e ∈ root.listing, e.2 ≠ .symlink := by
  unfold validateAdapterDirectory at h
  obtain ⟨files, hfiles, h⟩ := bind_eq_ok.mp h
  obtain ⟨config, -, h⟩ := bind_eq_ok.mp h
  obtain ⟨_, -, h⟩ := bind_eq_ok.mp h
  simp only at h
  split at h
  · cases h
  split at h
  · cases h
  cases h
  exact ⟨rfl, files_regular hfiles⟩

theorem validateFullModelDirectory_eq_ok (h : validateFullModelDirectory float root = .ok path) : path = root.path := by
  unfold validateFullModelDirectory at h
  obtain ⟨files, -, h⟩ := bind_eq_ok.mp h
  obtain ⟨config, -, h⟩ := bind_eq_ok.mp h
  obtain ⟨_, -, h⟩ := bind_eq_ok.mp h
  simp only at h
  split at h
  · cases h
  split at h
  · cases h
  obtain ⟨_, -, h⟩ := bind_eq_ok.mp h
  split at h
  · cases h
  split at h
  · cases h
  obtain ⟨tokenizer, -, h⟩ := bind_eq_ok.mp h
  obtain ⟨_, -, h⟩ := bind_eq_ok.mp h
  cases h
  rfl

theorem validateCheckpointDirectory_eq_ok (h : validateCheckpointDirectory float root = .ok path) : path = root.path := by
  unfold validateCheckpointDirectory at h
  split at h
  · exact (validateAdapterDirectory_eq_ok h).1
  · exact validateFullModelDirectory_eq_ok h

end Checks

end OpenLLMOps.Training
