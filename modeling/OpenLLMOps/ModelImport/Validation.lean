import OpenLLMOps.ModelImport.Files

/-!
# What the importer accepts

`validation.py` of the model importer, up to `_validate_model_files`. The directory has been
listed: its files are regular (`iter_regular_files`). The checks for a cancellation between
the steps are left to `Importer.lean`.
-/

namespace OpenLLMOps.Importer

open Framework

/-- `FORBIDDEN_SUFFIXES`. -/
def forbiddenSuffixes : List PyStr :=
  [py ".bin", py ".ckpt", py ".joblib", py ".pkl", py ".pickle", py ".pt", py ".pth"]

/-- `MAX_MANIFEST_FILES`. -/
def maxManifestFiles : Nat := 50000

/-- `MAX_PARAMETER_COUNT`. -/
def maxParameterCount : Nat := 2 ^ 63 - 1

/-- `GENERATED_MANIFEST_NAME`. -/
def generatedManifestName : PyStr := py "openllmops-manifest.json"

/-- `SAFETENSORS_DTYPE_BITS`. -/
def safetensorsDtypeBits : List (PyStr × Nat) :=
  [(py "BOOL", 8), (py "F4", 4), (py "F6_E2M3", 6), (py "F6_E3M2", 6), (py "U8", 8), (py "I8", 8),
    (py "F8_E5M2", 8), (py "F8_E4M3", 8), (py "F8_E8M0", 8), (py "F8_E4M3FNUZ", 8), (py "F8_E5M2FNUZ", 8),
    (py "I16", 16), (py "U16", 16), (py "F16", 16), (py "BF16", 16), (py "I32", 32), (py "U32", 32),
    (py "F32", 32), (py "C64", 64), (py "F64", 64), (py "I64", 64), (py "U64", 64)]

/-- `SafetensorsSummary`. -/
structure SafetensorsSummary where
  tensorNames : List PyStr
  parameterCount : Nat
  dtypes : List PyStr
  deriving DecidableEq

section Validation

variable (float : PyStr → PyFloat)

/-- `_load_json` of a file. -/
def loadJson (content : Bytes) (label : PyStr) : FileCheck (List (PyStr × Json)) :=
  if ¬ (1 ≤ content.length ∧ content.length ≤ maxJsonMetadataBytes) then refuse (label ++ py " 为空或超过 16 MiB")
  else
    match loads (.strict float) content with
    | .error _ => refuse (label ++ py " 不是安全有效的 UTF-8 JSON")
    | .ok (.obj kvs) => .ok kvs
    | .ok _ => refuse (label ++ py " 必须是 JSON 对象")

/-! ## Weights -/

/-- The header of a safetensors file, and the size of its data. -/
def loadHeader (file : PyStr) (content : Bytes) : FileCheck (Json × Nat) :=
  if content.length < 10 then refuse (py "safetensors 文件为空或过小: " ++ file)
  else
    let headerSize := littleEndian (content.take 8)
    if ¬ (2 ≤ headerSize ∧ headerSize ≤ maxSafetensorsHeaderBytes) then
      refuse (py "safetensors header 大小无效: " ++ file)
    else if content.length < 8 + headerSize then refuse (py "safetensors header 越界或文件被截断: " ++ file)
    else
      match loads (.strict float) ((content.drop 8).take headerSize) with
      | .error _ => refuse (py "safetensors 文件头无效: " ++ file)
      | .ok header => .ok (header, content.length - 8 - headerSize)

/-- What the loop over the tensors has gathered. -/
structure Tensors where
  ranges : List (Nat × Nat × PyStr)
  parameterCount : Nat
  dtypes : List PyStr

/-- One tensor of the loop. -/
def addTensor (file : PyStr) (dataSize : Nat) (acc : Tensors) (name : PyStr) (tensor : Json) : FileCheck Tensors :=
  if name = py "__metadata__" then
    match tensor with
    | .obj _ => .ok acc
    | _ => refuse (py "safetensors metadata 描述无效: " ++ file)
  else
    match tensor with
    | .obj kvs =>
      if name = [] then refuse (py "safetensors 张量描述无效: " ++ file)
      else
        match shape? (Dict.get? kvs (py "shape")), offsets? dataSize (Dict.get? kvs (py "data_offsets")) with
        | some shape, some (start, stop) =>
          match Dict.get? kvs (py "dtype") with
          | some (.str dtype) =>
            match Dict.get? safetensorsDtypeBits dtype with
            | some bits =>
              let count := acc.parameterCount + shape.prod
              if maxParameterCount < count then refuse (py "模型参数量超出数据库可表示范围: " ++ file)
              else if (shape.prod * bits) % 8 ≠ 0 ∨ stop - start ≠ shape.prod * bits / 8 then
                refuse (py "safetensors 张量 dtype/shape 与偏移字节数不一致: " ++ file)
              else .ok ⟨acc.ranges ++ [(start, stop, name)], count, if dtype ∈ acc.dtypes then acc.dtypes else acc.dtypes ++ [dtype]⟩
            | none => refuse (py "safetensors 张量 dtype 不受支持: " ++ file)
          | _ => refuse (py "safetensors 张量 dtype 不受支持: " ++ file)
        | _, _ => refuse (py "safetensors 张量偏移或形状无效: " ++ file)
    | _ => refuse (py "safetensors 张量描述无效: " ++ file)

/-- The loop over the tensors. -/
def addTensors (file : PyStr) (dataSize : Nat) : Tensors → List (PyStr × Json) → FileCheck Tensors
  | acc, [] => .ok acc
  | acc, (name, tensor) :: header => do
    let acc ← addTensor file dataSize acc name tensor
    addTensors file dataSize acc header

/-- The sorted ranges cover the data, one behind the other. -/
def coverData (file : PyStr) (dataSize : Nat) : Nat → List (Nat × Nat × PyStr) → FileCheck Unit
  | cursor, [] =>
    if cursor ≠ dataSize then refuse (py "safetensors 张量索引未完整覆盖数据区: " ++ file) else .ok ()
  | cursor, (start, stop, _) :: ranges =>
    if start ≠ cursor then refuse (py "safetensors 张量数据区存在空洞或重叠: " ++ file)
    else coverData file dataSize stop ranges

/-- The order of tuples. -/
def rangeLe (a b : Nat × Nat × PyStr) : Bool :=
  a.1 < b.1 || a.1 = b.1 && (a.2.1 < b.2.1 || a.2.1 = b.2.1 && decide (a.2.2 ≤ b.2.2))

/-- `_validate_safetensors`. -/
def validateSafetensors (file : PyStr) (content : Bytes) : FileCheck SafetensorsSummary := do
  let (header, dataSize) ← loadHeader float file content
  match header with
  | .obj kvs =>
    if kvs.all fun kv => kv.1 = py "__metadata__" then refuse (py "safetensors 不含张量索引: " ++ file)
    else
      let tensors ← addTensors file dataSize ⟨[], 0, []⟩ kvs
      coverData file dataSize 0 (tensors.ranges.insertionSort fun a b => rangeLe a b)
      .ok ⟨tensors.ranges.map fun range => range.2.2, tensors.parameterCount, tensors.dtypes⟩
  | _ => refuse (py "safetensors 不含张量索引: " ++ file)

/-- `_validate_shard_sequence` of a set of names. -/
def validateShardSequence (shardNames : List PyStr) : FileCheck Unit :=
  match shardNames.mapM shardName? with
  | none => refuse (py "Safetensors 分片索引包含不安全文件名")
  | some groups =>
    -- `int` of more than 4300 digits
    if groups.any fun g => 4300 < g.2.length then .error .valueError
    else
      match (groups.map fun g => ofDecimal g.2).dedup with
      | [total] =>
        if total = 0 then refuse (py "Safetensors 分片文件声明的总分片数不一致")
        else if groups.any fun g => 4300 < g.1.length then .error .valueError
        else
          let ordinals := (groups.map fun g => ofDecimal g.1).dedup
          if groups.length ≠ total ∨ ordinals.length ≠ groups.length ∨
              ¬ ((∀ n ∈ ordinals, 1 ≤ n ∧ n ≤ total) ∧ ∀ n < total, n + 1 ∈ ordinals) then
            refuse (py "Safetensors 分片序号不完整或超出声明范围")
          else .ok ()
      | _ => refuse (py "Safetensors 分片文件声明的总分片数不一致")

/-- A `weight_map` maps texts that are not empty. -/
def weightMap? : List (PyStr × Json) → Option (List (PyStr × PyStr))
  | [] => some []
  | (tensor, .str shard) :: kvs =>
    if tensor = [] ∨ shard = [] then none else (weightMap? kvs).map ((tensor, shard) :: ·)
  | _ => none

/-- `_select_weight_files`; the weight files are given by their names. -/
def selectWeightFiles (topLevel : List (PyStr × Bytes)) (safetensors : List PyStr) :
    FileCheck (List PyStr × Option (List (PyStr × PyStr))) :=
  let singleWeight := Dict.get? topLevel (py "model.safetensors")
  match singleWeight, Dict.get? topLevel (py "model.safetensors.index.json") with
  | some _, some _ => refuse (py "模型不能同时包含单文件权重与 Safetensors 分片索引")
  | some _, none =>
    let unexpected := safetensors.filter (· ≠ py "model.safetensors")
    if unexpected ≠ [] then
      .error (.refused (py "发现多余或非完整模型 Safetensors 权重: ") ((sortTexts unexpected).take 5))
    else .ok ([py "model.safetensors"], none)
  | none, none => refuse (py "模型缺少 model.safetensors 或 Safetensors 分片索引")
  | none, some index => do
    let index ← loadJson float index (py "model.safetensors.index.json")
    match Dict.get? index (py "weight_map") with
    | some (.obj (entry :: entries)) =>
      match weightMap? (entry :: entries) with
      | none => refuse (py "Safetensors 索引 weight_map 必须映射非空字符串")
      | some map =>
        let referenced := (map.map Prod.snd).dedup
        validateShardSequence referenced
        let actualShards := safetensors.filter fun name => (shardName? name).isSome
        let unexpected := safetensors.filter fun name => name ∉ actualShards
        if unexpected ≠ [] then
          .error (.refused (py "发现多余或非完整模型 Safetensors 权重: ") ((sortTexts unexpected).take 5))
        else
          let missing := sortTexts (referenced.filter (· ∉ actualShards))
          let extra := sortTexts (actualShards.filter (· ∉ referenced))
          if missing ≠ [] ∨ extra ≠ [] then
            .error (.refused (py "Safetensors 索引与实际分片不一致: ") (missing.take 5 ++ extra.take 5))
          else .ok (sortTexts referenced, some map)
    | _ => refuse (py "Safetensors 索引缺少非空 weight_map")

/-- The owner of each tensor, and the tensors that two shards have. -/
def tensorOwners (tensorsByShard : List (PyStr × List PyStr)) : List (PyStr × PyStr) × List PyStr :=
  (tensorsByShard.flatMap fun shard => shard.2.map fun tensor => (tensor, shard.1)).foldl
    (fun acc entry =>
      match Dict.get? acc.1 entry.1 with
      | none => (acc.1 ++ [entry], acc.2)
      | some previous => if previous ≠ entry.2 then (acc.1, acc.2 ++ [entry.1]) else acc)
    ([], [])

/-- `_validate_index_tensor_mapping`. -/
def validateIndexTensorMapping (weightMap : List (PyStr × PyStr)) (tensorsByShard : List (PyStr × List PyStr)) :
    FileCheck Unit :=
  let (actualOwner, duplicates) := tensorOwners tensorsByShard
  let nonexistent := (Dict.keys weightMap).filter (· ∉ Dict.keys actualOwner)
  let missing := (Dict.keys actualOwner).filter (· ∉ Dict.keys weightMap)
  let wrongShard := (weightMap.filter fun entry => Dict.get? actualOwner entry.1 ≠ some entry.2).map Prod.fst
  if duplicates ≠ [] then
    .error (.refused (py "Safetensors 多个分片包含同名 tensor: ") ((sortTexts duplicates).take 5))
  else if nonexistent ≠ [] then
    .error (.refused (py "Safetensors 索引包含不存在的 tensor: ") ((sortTexts nonexistent).take 5))
  else if missing ≠ [] then
    .error (.refused (py "Safetensors 分片包含未被索引的 tensor: ") ((sortTexts missing).take 5))
  else if wrongShard ≠ [] then
    .error (.refused (py "Safetensors tensor 被映射到错误分片: ") ((sortTexts wrongShard).take 5))
  else .ok ()

/-- The weights of a model, as the loop over its files gathers them. -/
structure Weights where
  tensorsByShard : List (PyStr × List PyStr)
  parameterCount : Nat
  dtypes : List PyStr

/-- The loop over the weight files. -/
def validateWeights (topLevel : List (PyStr × Bytes)) : Weights → List PyStr → FileCheck Weights
  | acc, [] => .ok acc
  | acc, name :: names =>
    match Dict.get? topLevel name with
    | none => refuse (py "safetensors 文件头无效: " ++ name)
    | some content => do
      let summary ← validateSafetensors float name content
      let count := acc.parameterCount + summary.parameterCount
      if maxParameterCount < count then refuse (py "模型参数量超出数据库可表示范围")
      else
        validateWeights topLevel
          ⟨Dict.set acc.tensorsByShard name summary.tensorNames, count,
            acc.dtypes ++ summary.dtypes.filter (· ∉ acc.dtypes)⟩ names

/-! ## Models -/

/-- A configuration asks for no code of its own. -/
def rejectRemoteCode (label : PyStr) (config : List (PyStr × Json)) : FileCheck Unit :=
  if (Dict.get? config (py "auto_map")).any Json.truthy then
    refuse (label ++ py " 声明 auto_map，需要远程代码，首版禁止导入")
  else if Dict.get? config (py "trust_remote_code") = some (.bool true) then
    refuse (label ++ py " 请求 trust_remote_code，首版禁止导入")
  else .ok ()

/-- A text that is not blank. -/
def isText : Option Json → Bool
  | some (.str s) => s.strip ≠ []
  | _ => false

/-- `_validate_model_files`: the configuration, the number of parameters and their types. -/
def validateModelFiles (files : ModelFiles) : FileCheck (List (PyStr × Json) × Nat × List PyStr) :=
  if files = [] then refuse (py "模型目录为空")
  else if maxManifestFiles < files.length then refuse (py "模型文件数超过 50000 限制")
  else
    let relativePaths := files.map fun file => file.1.posix
    if generatedManifestName ∈ relativePaths then refuse (py "模型目录包含保留文件名: " ++ generatedManifestName)
    else
      let topLevel := topLevelFiles files
      match Dict.get? topLevel (py "config.json"), Dict.get? topLevel (py "tokenizer_config.json") with
      | some config, some tokenizerConfig => do
        let config ← loadJson float config (py "config.json")
        let tokenizerConfig ← loadJson float tokenizerConfig (py "tokenizer_config.json")
        if ¬ isText (Dict.get? config (py "model_type")) then refuse (py "config.json 缺少有效 model_type")
        else
          rejectRemoteCode (py "config.json") config
          rejectRemoteCode (py "tokenizer_config.json") tokenizerConfig
          let payloads := topLevel.filter fun file => file.1 ∈ tokenizerPayloads
          if payloads = [] then
            refuse (py "模型目录缺少 tokenizer.json/tokenizer.model/vocab.json 等词表载荷")
          else
            let emptyPayloads := (payloads.filter fun file => file.2.length = 0).map Prod.fst
            if emptyPayloads ≠ [] then
              .error (.refused (py "Tokenizer 词表载荷为空: ") ((sortTexts emptyPayloads).take 5))
            else
              let forbidden := (files.filter fun file =>
                casefoldText file.1.suffix ∈ forbiddenSuffixes).map fun file => file.1.posix
              if forbidden ≠ [] then
                .error (.refused (py "发现非 Safetensors/可执行反序列化权重: ") ((sortTexts forbidden).take 5))
              else
                let safetensors := relativePaths.filter fun path =>
                  (py ".safetensors").isSuffixOf (casefoldText path)
                let (weightFiles, weightMap) ← selectWeightFiles float topLevel safetensors
                let weights ← validateWeights float topLevel ⟨[], 0, []⟩ weightFiles
                match weightMap with
                | some map => validateIndexTensorMapping map weights.tensorsByShard
                | none => .ok ()
                .ok (config, weights.parameterCount, sortTexts weights.dtypes)
      | _, _ => refuse (py "模型目录缺少 config.json 或 tokenizer_config.json")

end Validation

/-! ## The least model -/

/-- An ASCII text. -/
def Sample.text (s : String) : Bytes := (py s).map UInt8.ofNat

/-- No numeral below has a point. -/
def Sample.float (_ : PyStr) : PyFloat := .finite false 0 0

/-- A weight file with one tensor without elements. -/
def Sample.weights : Bytes :=
  let header := Sample.text "\x7b\"w\":\x7b\"dtype\":\"U8\",\"shape\":[0],\"data_offsets\":[0,0]\x7d\x7d"
  UInt8.ofNat header.length :: List.replicate 7 0 ++ header

def Sample.model : ModelFiles :=
  [([py "config.json"], Sample.text "\x7b\"model_type\":\"llama\"\x7d"),
    ([py "tokenizer_config.json"], Sample.text "\x7b\x7d"), ([py "tokenizer.json"], Sample.text "\x7b\x7d"),
    ([py "model.safetensors"], Sample.weights)]

example : validateModelFiles Sample.float Sample.model = .ok ([(py "model_type", .str (py "llama"))], 0, [py "U8"]) := by
  decide +kernel

end OpenLLMOps.Importer
