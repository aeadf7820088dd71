import OpenLLMOps.Evaluation.Inputs
import OpenLLMOps.Evaluation.Metrics
import OpenLLMOps.ModelImport.Directory

/-!
# The pair report, read by the agent

`load_pair_report_metadata`: the report that a container has written is decoded, bounded in size and
depth, and every number in it is derived again. Two things escape it as something else than an
`EvaluationInputError` (`loadPairReportMetadata_onlyInput_iff`): the `ValueError` of a numeral of more
than 4300 digits, which `_loads_json` does not catch, and the `TypeError` of looking up a template
that is a list or an object in a set.
-/

namespace OpenLLMOps.Evaluation

open Framework

def maxReportBytes : Nat := 128 * 1024 * 1024

def maxReportJsonNodes : Nat := 600000

def maxReportCategories : Nat := 4096

def maxDatasetRecords : Nat := 200000

/-! ## The tree -/

mutual

/-- `_bounded_json_tree` with the nodes counted so far; the result counts those of the value too. -/
def boundedJsonTree (depth counter : Nat) (v : Json) : Checked Nat :=
  if maxReportJsonNodes < counter + 1 ∨ 32 < depth then inputError (py "评测报告结构过大或嵌套过深")
  else
    match v with
    | .null | .bool _ | .int _ => .ok (counter + 1)
    | .float x => if x.isFinite then .ok (counter + 1) else inputError (py "评测报告包含非有限数值")
    | .str s => if 8192 < s.length then inputError (py "评测报告字符串字段过长") else .ok (counter + 1)
    | .arr xs => boundedItems (depth + 1) (counter + 1) xs
    | .obj kvs => boundedEntries (depth + 1) (counter + 1) kvs

def boundedItems (depth counter : Nat) : List Json → Checked Nat
  | [] => .ok counter
  | x :: xs => do
    let counter ← boundedJsonTree depth counter x
    boundedItems depth counter xs

def boundedEntries (depth counter : Nat) : List (PyStr × Json) → Checked Nat
  | [] => .ok counter
  | (key, x) :: kvs =>
    if 256 < key.length then inputError (py "评测报告对象字段名无效")
    else do
      let counter ← boundedJsonTree depth counter x
      boundedEntries depth counter kvs

end

/-! ## Numbers and counts -/

def intOf? : Json → Option Int
  | .int n => some n
  | _ => none

structure Counts where
  total : Nat
  correct : Nat
  invalid : Nat

/-- The counts of a metric, if they fit each other and the total is at most `limit`. -/
def countsOf? (kvs : List (PyStr × Json)) (limit : Nat) : Option Counts :=
  match intOf? (field kvs "total"), intOf? (field kvs "correct"), intOf? (field kvs "invalid") with
  | some total, some correct, some invalid =>
    if 1 ≤ total ∧ total ≤ limit ∧ 0 ≤ correct ∧ correct ≤ total ∧ 0 ≤ invalid ∧ invalid ≤ total ∧
        correct + invalid ≤ total then
      some ⟨total.toNat, correct.toNat, invalid.toNat⟩
    else none
  | _, _, _ => none

def checkedCounts (kvs : List (PyStr × Json)) (limit : Nat) (message : PyStr) : Checked Counts :=
  match countsOf? kvs limit with
  | some counts => .ok counts
  | none => inputError message

def checkedDigest (v : Json) (message : PyStr) : Checked PyStr :=
  match v with
  | .str s => if isSha256 s then .ok s else inputError message
  | _ => inputError message

/-- `template not in {"base", "instruct"}`: a list and an object have no hash. -/
def checkedTemplate (v : Json) (message : PyStr) : Checked PyStr :=
  match v with
  | .str s => if s = py "base" ∨ s = py "instruct" then .ok s else inputError message
  | .arr _ | .obj _ => .error .type
  | _ => inputError message

def checkedList (v : Json) (fits : List Json → Bool) (message : PyStr) : Checked (List Json) :=
  match v with
  | .arr xs => if fits xs then .ok xs else inputError message
  | _ => inputError message

def require (p : Bool) (message : PyStr) : Checked Unit := if p then .ok () else inputError message

/-- `float(value)` of a number; `some none` is an `OverflowError`. -/
def numberOf? (arith : Arithmetic) : Json → Option (Option PyFloat)
  | .int n => some (arith.ofInt n)
  | .float x => some (some x)
  | _ => none

/-- The place of an element in the errors: `label.name[index]`. -/
def place (label : PyStr) (name : String) (index : Nat) : PyStr :=
  label ++ py name ++ py "[" ++ decimal index ++ py "]"

section

variable (arith : Arithmetic)

/-- `_finite_number`, with the minimum zero if `nonneg`. -/
def finiteNumber (v : Json) (name : PyStr) (nonneg : Bool) : Checked PyFloat :=
  match numberOf? arith v with
  | none => inputError (py "评测报告字段 " ++ name ++ py " 必须是数字")
  | some none => inputError (py "评测报告字段 " ++ name ++ py " 数值无效")
  | some (some x) =>
    if !x.isFinite || (nonneg && x.ltZero) then inputError (py "评测报告字段 " ++ name ++ py " 数值无效")
    else .ok x

/-- The accuracy is that of the counts. -/
def checkAccuracy (accuracy : PyFloat) (counts : Counts) (tooHigh mismatch : PyStr) : Checked Unit :=
  if !accuracy.le 100 0 then inputError tooHigh
  else if !accuracy.eqv (arith.percent counts.correct counts.total) then inputError mismatch
  else .ok ()

/-- The body of the loop of `_metric_summary` over the categories; `seen` are the names so far. -/
def readCategory (label : PyStr) (total index : Nat) (seen : List PyStr) (v : Json) : Checked CategoryMetric :=
  match v with
  | .obj kvs => do
    let here := place label ".categories" index
    let name ← safeShortText (field kvs "category") (here ++ py ".category") 256
    let _ ← require (name ∉ seen) (py "评测报告 " ++ label ++ py ".categories 名称重复")
    let counts ← checkedCounts kvs total (py "评测报告 " ++ here ++ py " 计数无效")
    let accuracy ← finiteNumber arith (field kvs "accuracy_percent") (here ++ py ".accuracy_percent") true
    let _ ← checkAccuracy arith accuracy counts (py "评测报告 " ++ here ++ py ".accuracy_percent 超过 100")
      (py "评测报告 " ++ here ++ py " 正确率与计数不一致")
    .ok ⟨name, counts.total, counts.correct, counts.invalid, accuracy⟩
  | _ => inputError (py "评测报告 " ++ place label ".categories" index ++ py " 不是对象")

/-- The loop over the categories. -/
def readCategories (label : PyStr) (total : Nat) : Nat → List PyStr → List Json → Checked (List CategoryMetric)
  | _, _, [] => .ok []
  | index, seen, v :: vs => do
    let metric ← readCategory arith label total index seen v
    let metrics ← readCategories label total (index + 1) (metric.category :: seen) vs
    .ok (metric :: metrics)

/-- `[_safe_short_text(sample_id, …) for sample_id in sample_ids]`. -/
def readSampleIds (label : PyStr) : List Json → Checked (List PyStr)
  | [] => .ok []
  | v :: vs => do
    let sampleId ← safeShortText v (label ++ py ".sample_ids") 256
    let sampleIds ← readSampleIds label vs
    .ok (sampleId :: sampleIds)

/-- The sums of the categories are the counts. -/
def sumsTo (categories : List CategoryMetric) (counts : Counts) : Bool :=
  (categories.map CategoryMetric.total).sum = counts.total &&
    (categories.map CategoryMetric.correct).sum = counts.correct &&
    (categories.map CategoryMetric.invalid).sum = counts.invalid

/-- `_metric_summary`. -/
def metricSummary (report : Json) (label : PyStr) : Checked EvaluationReport :=
  match report with
  | .obj kvs => do
    let here := py "评测报告 " ++ label
    let digest ← checkedDigest (field kvs "dataset_sha256") (here ++ py ".dataset_sha256 无效")
    let modelName ← safeShortText (field kvs "model_name") (label ++ py ".model_name") 256
    let template ← checkedTemplate (field kvs "template") (here ++ py ".template 无效")
    let counts ← checkedCounts kvs maxDatasetRecords (here ++ py " 计数字段无效")
    let accuracy ← finiteNumber arith (field kvs "accuracy_percent") (label ++ py ".accuracy_percent") true
    let latency ← finiteNumber arith (field kvs "average_latency_ms") (label ++ py ".average_latency_ms") true
    let _ ← checkAccuracy arith accuracy counts (here ++ py ".accuracy_percent 超过 100")
      (here ++ py ".accuracy_percent 与计数不一致")
    let categories ← checkedList (field kvs "categories") (·.length ≤ maxReportCategories)
      (here ++ py ".categories 无效或过多")
    let sampleIds ← checkedList (field kvs "sample_ids") (·.length = counts.total)
      (here ++ py ".sample_ids 与 total 不一致")
    let sampleIds ← readSampleIds label sampleIds
    let _ ← require sampleIds.Nodup (here ++ py ".sample_ids 包含重复值")
    let categories ← readCategories arith label counts.total 0 [] categories
    let _ ← require (sumsTo categories counts) (here ++ py ".categories 汇总与总计数不一致")
    .ok { datasetSha256 := digest, modelName, template, total := counts.total, correct := counts.correct,
          invalid := counts.invalid, accuracyPercent := accuracy, averageLatencyMs := latency, categories, sampleIds }
  | _ => inputError (py "评测报告缺少 " ++ label ++ py " 对象")

/-! ## The comparison -/

/-- The accuracy of a category; `0` if there is none, which is not looked at. -/
def accuracyOf (report : MetricSummary) (name : PyStr) : PyFloat :=
  ((Dict.get? (metricsByCategory report) name).map CategoryMetric.accuracyPercent).getD zeroPercent

/-- The body of the loop of `_comparison_summary`. -/
def readChange (baseline candidate : MetricSummary) (index : Nat) (expectedName : PyStr) (change : Json) :
    Checked CategoryChange :=
  let here := place (py "comparison") ".category_changes" index
  match change with
  | .obj kvs => do
    let name ← safeShortText (field kvs "category") (here ++ py ".category") 256
    let baseValue ← finiteNumber arith (field kvs "baseline_percent") (here ++ py ".baseline_percent") true
    let candidateValue ← finiteNumber arith (field kvs "candidate_percent") (here ++ py ".candidate_percent") true
    let delta ← finiteNumber arith (field kvs "percentage_point_change") (here ++ py ".percentage_point_change") false
    let expectedDelta := arith.change (accuracyOf candidate expectedName) (accuracyOf baseline expectedName)
    let _ ← require (name = expectedName && baseValue.eqv (accuracyOf baseline expectedName) &&
      candidateValue.eqv (accuracyOf candidate expectedName) && delta.eqv expectedDelta) (py "评测报告分类对比与汇总不一致")
    .ok ⟨name, baseValue, candidateValue, delta⟩
  | _ => inputError (py "评测报告 " ++ here ++ py " 不是对象")

/-- The loop over the changes and the expected names, as far as both go. -/
def readChanges (baseline candidate : MetricSummary) : Nat → List Json → List PyStr → Checked (List CategoryChange)
  | index, change :: changes, name :: names => do
    let read ← readChange arith baseline candidate index name change
    let reads ← readChanges baseline candidate (index + 1) changes names
    .ok (read :: reads)
  | _, _, _ => .ok []

/-- Both reports have the categories of the other. -/
def sameCategories (baseline candidate : MetricSummary) : Bool :=
  (Dict.keys (metricsByCategory baseline)).all (· ∈ Dict.keys (metricsByCategory candidate)) &&
    (Dict.keys (metricsByCategory candidate)).all (· ∈ Dict.keys (metricsByCategory baseline))

/-- The category `name` has the same total in both reports. -/
def sameTotal (baseline candidate : MetricSummary) (name : PyStr) : Bool :=
  (Dict.get? (metricsByCategory baseline) name).map CategoryMetric.total =
    (Dict.get? (metricsByCategory candidate) name).map CategoryMetric.total

/-- `None == None`, or equal numbers. -/
def eqvOption : Option PyFloat → Option PyFloat → Bool
  | none, none => true
  | some x, some y => x.eqv y
  | _, _ => false

/-- `relative_change`. -/
def readRelative (v : Json) : Checked (Option PyFloat) :=
  match v with
  | .null => .ok none
  | v => do
    let x ← finiteNumber arith v (py "comparison.relative_change_percent") false
    .ok (some x)

/-- `_comparison_summary`. -/
def comparisonSummary (raw : Json) (baseline candidate : MetricSummary) : Checked ComparisonReport :=
  match raw with
  | .obj kvs => do
    let _ ← require (field kvs "comparable" = .bool true) (py "评测报告前后结果不可比较")
    let digest ← checkedDigest (field kvs "dataset_sha256") (py "评测报告 comparison.dataset_sha256 无效")
    let baselineModel ← safeShortText (field kvs "baseline_model") (py "comparison.baseline_model") 256
    let candidateModel ← safeShortText (field kvs "candidate_model") (py "comparison.candidate_model") 256
    let baselinePercent ← finiteNumber arith (field kvs "baseline_percent") (py "comparison.baseline_percent") true
    let candidatePercent ← finiteNumber arith (field kvs "candidate_percent") (py "comparison.candidate_percent") true
    let pointChange ← finiteNumber arith (field kvs "percentage_point_change")
      (py "comparison.percentage_point_change") false
    let relative ← readRelative arith (field kvs "relative_change_percent")
    let _ ← require (field kvs "reason" = .null) (py "可比较的评测报告 comparison.reason 必须为 null")
    let expectedDelta := arith.change candidate.accuracyPercent baseline.accuracyPercent
    let _ ← require (digest = baseline.datasetSha256 && baselineModel = baseline.modelName &&
      candidateModel = candidate.modelName && baselinePercent.eqv baseline.accuracyPercent &&
      candidatePercent.eqv candidate.accuracyPercent && pointChange.eqv expectedDelta &&
      eqvOption relative (relativeChange arith expectedDelta baseline.accuracyPercent))
      (py "评测报告 comparison 与前后汇总不一致")
    let changes ← checkedList (field kvs "category_changes") (·.length ≤ maxReportCategories)
      (py "评测报告 comparison.category_changes 无效")
    let _ ← require (sameCategories baseline candidate) (py "评测报告前后分类集合不一致")
    let _ ← require ((Dict.keys (metricsByCategory baseline)).all (sameTotal baseline candidate))
      (py "评测报告前后同名分类的样本数不一致")
    let names := sharedCategories baseline candidate
    let categoryChanges ← readChanges arith baseline candidate 0 changes names
    let _ ← require (changes.length = names.length) (py "评测报告分类对比数量与汇总不一致")
    .ok { datasetSha256 := digest, baselineModel, candidateModel, baselinePercent, candidatePercent,
          percentagePointChange := pointChange, relativeChangePercent := relative, comparable := true, reason := none,
          categoryChanges }
  | _ => inputError (py "评测报告前后结果不可比较")

/-! ## The metadata -/

/-- What is reported of a pair of reports. -/
structure PairMetadata where
  baseline : MetricSummary
  candidate : MetricSummary
  comparison : ComparisonReport
  resultPath : PyStr
  warnings : List PyStr
  deriving DecidableEq

/-- What a report is expected to be about. -/
structure ExpectedReport where
  datasetSha256 : Option PyStr
  total : Option Nat
  baseTemplate : Option PyStr
  candidateTemplate : Option PyStr

/-- The bytes of `pair-report.json`. -/
def reportBytes (entry : Option DirectoryEntry) : Checked Bytes :=
  match entry with
  | none => inputError (py "评测容器成功退出但缺少 pair-report.json")
  | some (.file raw) =>
    if 1 ≤ raw.length ∧ raw.length ≤ maxReportBytes then .ok raw
    else inputError (py "pair-report.json 为空或超过 128 MiB")
  | some _ => inputError (py "pair-report.json 必须是非软链接普通文件")

/-- The three values of a decoded pair. -/
structure RawPair where
  baseline : Json
  candidate : Json
  comparison : Json

def rawPair (pair : Json) : Checked RawPair :=
  match pair with
  | .obj kvs =>
    match Json.get? kvs (py "baseline"), Json.get? kvs (py "candidate"), Json.get? kvs (py "comparison") with
    | some baseline, some candidate, some comparison =>
      if kvs.all fun kv => kv.1 = py "baseline" ∨ kv.1 = py "candidate" ∨ kv.1 = py "comparison" then
        .ok ⟨baseline, candidate, comparison⟩
      else inputError (py "pair-report.json 顶层结构无效")
    | _, _, _ => inputError (py "pair-report.json 顶层结构无效")
  | _ => inputError (py "pair-report.json 顶层结构无效")

/-- The file, decoded and bounded. -/
def readPair (decode : Bytes → Except JsonError Json) (entry : Option DirectoryEntry) : Checked RawPair := do
  let raw ← reportBytes entry
  let pair ← loadsJson decode raw
  let _ ← boundedJsonTree 0 0 pair
  rawPair pair

/-- The warnings about models of which no output could be read. -/
def warningsOf (baseline candidate : MetricSummary) : List PyStr :=
  (if baseline.invalid = baseline.total then [py "baseline_all_outputs_invalid"] else []) ++
    if candidate.invalid = candidate.total then [py "candidate_all_outputs_invalid"] else []

/-- What follows the two summaries. -/
def pairMetadata (expected : ExpectedReport) (resultPath : PyStr) (comparison : Json)
    (baseline candidate : EvaluationReport) : Checked PairMetadata := do
  let _ ← require (baseline.modelName = py "baseline" && candidate.modelName = py "candidate")
    (py "评测报告模型名与节点固定合同不一致")
  let _ ← require (expected.baseTemplate.all (baseline.template = ·)) (py "评测报告 baseline 模板与节点启动合同不一致")
  let _ ← require (expected.candidateTemplate.all (candidate.template = ·))
    (py "评测报告 candidate 模板与节点启动合同不一致")
  let comparison ← comparisonSummary arith comparison baseline.toMetricSummary candidate.toMetricSummary
  let _ ← require (baseline.datasetSha256 = candidate.datasetSha256 &&
    baseline.datasetSha256 = comparison.datasetSha256 && baseline.total = candidate.total)
    (py "评测报告前后数据指纹或样本数不一致")
  let _ ← require (baseline.sampleIds = candidate.sampleIds) (py "评测报告前后样本 ID 集合不一致")
  let _ ← require (expected.datasetSha256.all (baseline.datasetSha256 = ·))
    (py "评测报告指纹与节点调度的数据版本不一致")
  let _ ← require (expected.total.all (baseline.total = ·)) (py "评测报告样本数与节点调度的数据版本不一致")
  .ok ⟨baseline.toMetricSummary, candidate.toMetricSummary, comparison, resultPath,
    warningsOf baseline.toMetricSummary candidate.toMetricSummary⟩

/-- `load_pair_report_metadata` with `pair-report.json` being `entry`. -/
def loadPairReportMetadata (decode : Bytes → Except JsonError Json) (entry : Option DirectoryEntry)
    (expected : ExpectedReport) (resultPath : PyStr) : Checked PairMetadata := do
  let pair ← readPair decode entry
  let baseline ← metricSummary arith pair.baseline (py "baseline")
  let candidate ← metricSummary arith pair.candidate (py "candidate")
  pairMetadata arith expected resultPath pair.comparison baseline candidate

end

/-! ## What is raised -/

section

variable {arith : Arithmetic}

theorem require_onlyInput (p : Bool) (message : PyStr) : OnlyInput (require p message) :=
  .ite (fun _ => .ok _) fun _ => .inputError _

theorem checkedCounts_onlyInput (kvs : List (PyStr × Json)) (limit : Nat) (message : PyStr) :
    OnlyInput (checkedCounts kvs limit message) := by
  unfold checkedCounts
  split
  · exact .ok _
  · exact .inputError _

theorem checkedDigest_onlyInput (v : Json) (message : PyStr) : OnlyInput (checkedDigest v message) := by
  cases v with
  | str s => exact .ite (fun _ => .ok _) fun _ => .inputError _
  | _ => exact .inputError _

theorem checkedList_onlyInput (v : Json) (fits : List Json → Bool) (message : PyStr) :
    OnlyInput (checkedList v fits message) := by
  cases v with
  | arr xs => exact .ite (fun _ => .ok _) fun _ => .inputError _
  | _ => exact .inputError _

theorem finiteNumber_onlyInput (v : Json) (name : PyStr) (nonneg : Bool) :
    OnlyInput (finiteNumber arith v name nonneg) := by
  unfold finiteNumber
  split
  · exact .inputError _
  · exact .inputError _
  · exact .ite (fun _ => .inputError _) fun _ => .ok _

theorem checkAccuracy_onlyInput (accuracy : PyFloat) (counts : Counts) (tooHigh mismatch : PyStr) :
    OnlyInput (checkAccuracy arith accuracy counts tooHigh mismatch) :=
  .ite (fun _ => .inputError _) fun _ => .ite (fun _ => .inputError _) fun _ => .ok _

mutual

theorem boundedJsonTree_onlyInput (depth counter : Nat) : ∀ v : Json, OnlyInput (boundedJsonTree depth counter v)
  | .null | .bool _ | .int _ => by
    rw [boundedJsonTree]
    exact .ite (fun _ => .inputError _) fun _ => .ok _
  | .float _ => by
    rw [boundedJsonTree]
    exact .ite (fun _ => .inputError _) fun _ => .ite (fun _ => .ok _) fun _ => .inputError _
  | .str _ => by
    rw [boundedJsonTree]
    exact .ite (fun _ => .inputError _) fun _ => .ite (fun _ => .inputError _) fun _ => .ok _
  | .arr xs => by
    rw [boundedJsonTree]
    exact .ite (fun _ => .inputError _) fun _ => boundedItems_onlyInput _ _ xs
  | .obj kvs => by
    rw [boundedJsonTree]
    exact .ite (fun _ => .inputError _) fun _ => boundedEntries_onlyInput _ _ kvs

theorem boundedItems_onlyInput (depth counter : Nat) : ∀ xs : List Json, OnlyInput (boundedItems depth counter xs)
  | [] => by
    rw [boundedItems]
    exact .ok _
  | x :: xs => by
    rw [boundedItems]
    exact (boundedJsonTree_onlyInput depth counter x).bind fun counter _ => boundedItems_onlyInput depth counter xs

theorem boundedEntries_onlyInput (depth counter : Nat) :
    ∀ kvs : List (PyStr × Json), OnlyInput (boundedEntries depth counter kvs)
  | [] => by
    rw [boundedEntries]
    exact .ok _
  | (_, x) :: kvs => by
    rw [boundedEntries]
    exact .ite (fun _ => .inputError _) fun _ =>
      (boundedJsonTree_onlyInput depth counter x).bind fun counter _ => boundedEntries_onlyInput depth counter kvs

end

theorem readCategory_onlyInput (label : PyStr) (total index : Nat) (seen : List PyStr) (v : Json) :
    OnlyInput (readCategory arith label total index seen v) := by
  cases v with
  | obj kvs =>
    exact (safeShortText_onlyInput _ _ _).bind fun _ _ => (require_onlyInput _ _).bind fun _ _ =>
      (checkedCounts_onlyInput _ _ _).bind fun _ _ => (finiteNumber_onlyInput _ _ _).bind fun _ _ =>
      (checkAccuracy_onlyInput _ _ _ _).bind fun _ _ => .ok _
  | _ => exact .inputError _

theorem readCategories_onlyInput (label : PyStr) (total : Nat) (vs : List Json) (index : Nat) (seen : List PyStr) :
    OnlyInput (readCategories arith label total index seen vs) := by
  induction vs generalizing index seen with
  | nil => exact .ok _
  | cons v vs ih => exact (readCategory_onlyInput _ _ _ _ _).bind fun _ _ => (ih _ _).bind fun _ _ => .ok _

theorem readSampleIds_onlyInput (label : PyStr) (vs : List Json) : OnlyInput (readSampleIds label vs) := by
  induction vs with
  | nil => exact .ok _
  | cons v vs ih => exact (safeShortText_onlyInput _ _ _).bind fun _ _ => ih.bind fun _ _ => .ok _

theorem readChange_onlyInput (baseline candidate : MetricSummary) (index : Nat) (name : PyStr) (change : Json) :
    OnlyInput (readChange arith baseline candidate index name change) := by
  cases change with
  | obj kvs =>
    exact (safeShortText_onlyInput _ _ _).bind fun _ _ => (finiteNumber_onlyInput _ _ _).bind fun _ _ =>
      (finiteNumber_onlyInput _ _ _).bind fun _ _ => (finiteNumber_onlyInput _ _ _).bind fun _ _ =>
      (require_onlyInput _ _).bind fun _ _ => .ok _
  | _ => exact .inputError _

theorem readChanges_onlyInput (baseline candidate : MetricSummary) (changes : List Json) (index : Nat)
    (names : List PyStr) : OnlyInput (readChanges arith baseline candidate index changes names) := by
  induction changes generalizing index names with
  | nil =>
    rw [readChanges]
    · exact .ok _
    · exact fun _ _ _ _ h _ => by cases h
  | cons change changes ih =>
    cases names with
    | nil =>
      rw [readChanges]
      · exact .ok _
      · exact fun _ _ _ _ _ h => by cases h
    | cons name names => exact (readChange_onlyInput _ _ _ _ _).bind fun _ _ => (ih _ _).bind fun _ _ => .ok _

theorem readRelative_onlyInput (v : Json) : OnlyInput (readRelative arith v) := by
  cases v with
  | null => exact .ok _
  | _ => exact (finiteNumber_onlyInput _ _ _).bind fun _ _ => .ok _

theorem comparisonSummary_onlyInput (raw : Json) (baseline candidate : MetricSummary) :
    OnlyInput (comparisonSummary arith raw baseline candidate) := by
  cases raw with
  | obj kvs =>
    exact (require_onlyInput _ _).bind fun _ _ => (checkedDigest_onlyInput _ _).bind fun _ _ =>
      (safeShortText_onlyInput _ _ _).bind fun _ _ => (safeShortText_onlyInput _ _ _).bind fun _ _ =>
      (finiteNumber_onlyInput _ _ _).bind fun _ _ => (finiteNumber_onlyInput _ _ _).bind fun _ _ =>
      (finiteNumber_onlyInput _ _ _).bind fun _ _ => (readRelative_onlyInput _).bind fun _ _ =>
      (require_onlyInput _ _).bind fun _ _ => (require_onlyInput _ _).bind fun _ _ =>
      (checkedList_onlyInput _ _ _).bind fun _ _ => (require_onlyInput _ _).bind fun _ _ =>
      (require_onlyInput _ _).bind fun _ _ => (readChanges_onlyInput _ _ _ _ _).bind fun _ _ =>
      (require_onlyInput _ _).bind fun _ _ => .ok _
  | _ => exact .inputError _

theorem pairMetadata_onlyInput (expected : ExpectedReport) (resultPath : PyStr) (comparison : Json)
    (baseline candidate : EvaluationReport) :
    OnlyInput (pairMetadata arith expected resultPath comparison baseline candidate) :=
  (require_onlyInput _ _).bind fun _ _ => (require_onlyInput _ _).bind fun _ _ => (require_onlyInput _ _).bind fun _ _ =>
    (comparisonSummary_onlyInput _ _ _).bind fun _ _ => (require_onlyInput _ _).bind fun _ _ =>
    (require_onlyInput _ _).bind fun _ _ => (require_onlyInput _ _).bind fun _ _ =>
    (require_onlyInput _ _).bind fun _ _ => .ok _

theorem reportBytes_onlyInput (entry : Option DirectoryEntry) : OnlyInput (reportBytes entry) := by
  unfold reportBytes
  split
  · exact .inputError _
  · exact .ite (fun _ => .ok _) fun _ => .inputError _
  · exact .inputError _

theorem rawPair_onlyInput (pair : Json) : OnlyInput (rawPair pair) := by
  cases pair with
  | obj kvs =>
    simp only [rawPair]
    split
    · exact .ite (fun _ => .ok _) fun _ => .inputError _
    · exact .inputError _
  | _ => exact .inputError _

/-- `hash(value)` is defined. -/
def hasHash : Json → Bool
  | .arr _ | .obj _ => false
  | _ => true

theorem not_onlyInput_type {α : Type} : ¬ OnlyInput (.error .type : Checked α) := by
  intro h
  obtain ⟨text, htext⟩ := h _ rfl
  cases htext

theorem checkedTemplate_onlyInput (v : Json) (message : PyStr) :
    OnlyInput (checkedTemplate v message) ↔ hasHash v = true := by
  cases v with
  | arr xs => exact ⟨fun h => absurd h not_onlyInput_type, fun h => by cases h⟩
  | obj kvs => exact ⟨fun h => absurd h not_onlyInput_type, fun h => by cases h⟩
  | str s => exact ⟨fun _ => rfl, fun _ => .ite (fun _ => .ok _) fun _ => .inputError _⟩
  | _ => exact ⟨fun _ => rfl, fun _ => .inputError _⟩

/-- The template has a hash, if it comes to look it up: in an object with a digest and a model name. -/
def TemplateHashable (report : Json) : Prop :=
  ∀ kvs (digest name : PyStr), report = .obj kvs → field kvs "dataset_sha256" = .str digest →
    isSha256 digest = true → field kvs "model_name" = .str name → isSafeText name.strip 256 = true →
    hasHash (field kvs "template") = true

theorem checkedDigest_ok {v : Json} {message digest : PyStr} (h : checkedDigest v message = .ok digest) :
    v = .str digest ∧ isSha256 digest = true := by
  cases v with
  | str s =>
    simp only [checkedDigest] at h
    split at h
    · rename_i hsha
      cases h
      exact ⟨rfl, hsha⟩
    · cases h
  | _ => cases h

theorem metricSummary_onlyInput_iff (report : Json) (label : PyStr) :
    OnlyInput (metricSummary arith report label) ↔ TemplateHashable report := by
  cases report with
  | obj kvs =>
    constructor
    · intro h kvs' digest name hkvs hdigest hsha hname hsafe
      cases hkvs
      have hd : checkedDigest (field kvs "dataset_sha256") (py "评测报告 " ++ label ++ py ".dataset_sha256 无效") = .ok digest := by
        rw [hdigest, checkedDigest, if_pos hsha]
      have hn : safeShortText (field kvs "model_name") (label ++ py ".model_name") 256 = .ok name.strip := by
        rw [hname, safeShortText, if_pos hsafe]
      have htemplate := (OnlyInput.bind_iff.mp ((OnlyInput.bind_iff.mp h).2 _ hd)).2 _ hn
      exact (checkedTemplate_onlyInput _ _).mp htemplate.of_bind
    · intro h
      refine (checkedDigest_onlyInput _ _).bind fun digest hd => (safeShortText_onlyInput _ _ _).bind fun name hn => ?_
      obtain ⟨hdigest, hsha⟩ := checkedDigest_ok hd
      obtain ⟨text, htext, rfl, hsafe⟩ := safeShortText_ok hn
      exact ((checkedTemplate_onlyInput _ _).mpr (h kvs digest text rfl hdigest hsha htext hsafe)).bind fun _ _ =>
        (checkedCounts_onlyInput _ _ _).bind fun _ _ => (finiteNumber_onlyInput _ _ _).bind fun _ _ =>
        (finiteNumber_onlyInput _ _ _).bind fun _ _ => (checkAccuracy_onlyInput _ _ _ _).bind fun _ _ =>
        (checkedList_onlyInput _ _ _).bind fun _ _ => (checkedList_onlyInput _ _ _).bind fun _ _ =>
        (readSampleIds_onlyInput _ _).bind fun _ _ => (require_onlyInput _ _).bind fun _ _ =>
        (readCategories_onlyInput _ _ _ _ _).bind fun _ _ => (require_onlyInput _ _).bind fun _ _ => .ok _
  | _ =>
    refine ⟨fun _ kvs digest name h => ?_, fun _ => .inputError _⟩
    cases h

theorem readPair_onlyInput_iff {decode : Bytes → Except JsonError Json} {entry : Option DirectoryEntry} :
    OnlyInput (readPair decode entry) ↔ ∀ raw, reportBytes entry = .ok raw → decode raw ≠ .error .digits := by
  constructor
  · intro h raw hraw
    exact loadsJson_onlyInput.mp ((OnlyInput.bind_iff.mp h).2 raw hraw).of_bind
  · intro h
    exact (reportBytes_onlyInput entry).bind fun raw hraw => (loadsJson_onlyInput.mpr (h raw hraw)).bind fun pair _ =>
      (boundedJsonTree_onlyInput 0 0 pair).bind fun _ _ => rawPair_onlyInput pair

/-- Only an `EvaluationInputError` is raised exactly if no numeral is too long and the templates that are looked up have
a hash: that of the baseline, and that of the candidate if the baseline is good. -/
theorem loadPairReportMetadata_onlyInput_iff (decode : Bytes → Except JsonError Json) (entry : Option DirectoryEntry)
    (expected : ExpectedReport) (resultPath : PyStr) :
    OnlyInput (loadPairReportMetadata arith decode entry expected resultPath) ↔
      (∀ raw, reportBytes entry = .ok raw → decode raw ≠ .error .digits) ∧
      ∀ pair, readPair decode entry = .ok pair → TemplateHashable pair.baseline ∧
        ∀ baseline, metricSummary arith pair.baseline (py "baseline") = .ok baseline → TemplateHashable pair.candidate := by
  rw [← readPair_onlyInput_iff]
  constructor
  · intro h
    obtain ⟨hread, hsummaries⟩ := OnlyInput.bind_iff.mp h
    refine ⟨hread, fun pair hpair => ?_⟩
    obtain ⟨hbase, hcand⟩ := OnlyInput.bind_iff.mp (hsummaries pair hpair)
    exact ⟨(metricSummary_onlyInput_iff _ _).mp hbase, fun baseline hbaseline =>
      (metricSummary_onlyInput_iff _ _).mp (hcand baseline hbaseline).of_bind⟩
  · rintro ⟨hread, htemplates⟩
    refine hread.bind fun pair hpair => ?_
    obtain ⟨hbase, hcand⟩ := htemplates pair hpair
    exact ((metricSummary_onlyInput_iff _ _).mpr hbase).bind fun baseline hbaseline =>
      ((metricSummary_onlyInput_iff _ _).mpr (hcand baseline hbaseline)).bind fun _ _ => pairMetadata_onlyInput _ _ _ _ _

end

/-- A report whose baseline has a list for its template. -/
def listTemplateReport : Bytes :=
  (py "\x7b\"baseline\":\x7b\"dataset_sha256\":\"" ++ List.replicate 64 48 ++
    py "\",\"model_name\":\"baseline\",\"template\":[]\x7d,\"candidate\":\x7b\x7d,\"comparison\":\x7b\x7d\x7d").map
    UInt8.ofNat

theorem list_template_raises_type_error :
    ¬ ∀ (arith : Arithmetic) (float : PyStr → PyFloat) (raw : Bytes) (expected : ExpectedReport) (resultPath : PyStr),
      OnlyInput (loadPairReportMetadata arith (loads (.strict float)) (some (.file raw)) expected resultPath) := by
  intro hall
  have honly := hall ⟨fun _ => none, fun _ _ => .nan, fun _ _ => .nan, fun _ _ => .nan, fun _ => .nan, fun _ _ => true⟩
    (fun _ => .nan) listTemplateReport ⟨none, none, none, none⟩ (py "/pair-report.json")
  obtain ⟨text, htext⟩ := honly .type (by decide +kernel)
  cases htext

end OpenLLMOps.Evaluation
