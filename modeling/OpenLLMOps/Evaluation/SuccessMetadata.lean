import OpenLLMOps.Evaluation.PairReport
import OpenLLMOps.Framework.Strict

/-!
# What the control plane accepts of an evaluation

`EvaluationSuccessMetadata`: the dictionary that the agent reports is read without coercion
(`parseMetadata?`), and the counts, percentages and categories are compared once more
(`EvaluationMetadata.valid`).
-/

namespace OpenLLMOps.Evaluation

open Framework

/-- The metadata of a pair, and where the manifest of the dataset is. -/
structure EvaluationMetadata extends PairMetadata where
  datasetManifestPath : PyStr
  deriving DecidableEq

/-! ## The agent's dictionary -/

/-- What the agent reports: warnings only if there are any. -/
def EvaluationMetadata.toDict (m : EvaluationMetadata) : Json :=
  .obj ([(py "metrics", .obj [(py "baseline", .obj m.baseline.entries), (py "candidate", .obj m.candidate.entries)]),
      (py "comparison", m.comparison.asDict), (py "result_path", .str m.resultPath)] ++
    (if m.warnings = [] then [] else [(py "warnings", .arr (m.warnings.map Json.str))]) ++
    [(py "dataset_manifest_path", .str m.datasetManifestPath)])

/-! ## The types of the schema -/

def parseCategoryMetric? (v : Json) : Option CategoryMetric := do
  let kvs ← strictFields? ["category", "total", "correct", "invalid", "accuracy_percent"] v
  let category ← requiredField kvs strictStr? "category"
  let total ← requiredField kvs strictNat? "total"
  let correct ← requiredField kvs strictNat? "correct"
  let invalid ← requiredField kvs strictNat? "invalid"
  let accuracyPercent ← requiredField kvs strictFloat? "accuracy_percent"
  some ⟨category, total, correct, invalid, accuracyPercent⟩

def parseMetricSummary? (v : Json) : Option MetricSummary := do
  let kvs ← strictFields? ["dataset_sha256", "model_name", "template", "total", "correct", "invalid",
    "accuracy_percent", "average_latency_ms", "categories"] v
  let datasetSha256 ← requiredField kvs strictStr? "dataset_sha256"
  let modelName ← requiredField kvs strictStr? "model_name"
  let template ← requiredField kvs strictStr? "template"
  let total ← requiredField kvs strictNat? "total"
  let correct ← requiredField kvs strictNat? "correct"
  let invalid ← requiredField kvs strictNat? "invalid"
  let accuracyPercent ← requiredField kvs strictFloat? "accuracy_percent"
  let averageLatencyMs ← requiredField kvs strictFloat? "average_latency_ms"
  let categories ← requiredField kvs (strictList? parseCategoryMetric?) "categories"
  some { datasetSha256, modelName, template, total, correct, invalid, accuracyPercent, averageLatencyMs, categories }

def parseCategoryChange? (v : Json) : Option CategoryChange := do
  let kvs ← strictFields? ["category", "baseline_percent", "candidate_percent", "percentage_point_change"] v
  let category ← requiredField kvs strictStr? "category"
  let baselinePercent ← requiredField kvs strictFloat? "baseline_percent"
  let candidatePercent ← requiredField kvs strictFloat? "candidate_percent"
  let percentagePointChange ← requiredField kvs strictFloat? "percentage_point_change"
  some ⟨category, baselinePercent, candidatePercent, percentagePointChange⟩

/-- `float | None`. -/
def strictFloatOrNone? : Json → Option (Option PyFloat)
  | .null => some none
  | v => (strictFloat? v).map some

/-- `Literal[True]`. -/
def strictTrue? : Json → Option Bool
  | .bool true => some true
  | _ => none

/-- `None`. -/
def strictNone? : Json → Option (Option PyStr)
  | .null => some none
  | _ => none

def parseComparison? (v : Json) : Option ComparisonReport := do
  let kvs ← strictFields? ["dataset_sha256", "baseline_model", "candidate_model", "baseline_percent",
    "candidate_percent", "percentage_point_change", "relative_change_percent", "comparable", "reason",
    "category_changes"] v
  let datasetSha256 ← requiredField kvs strictStr? "dataset_sha256"
  let baselineModel ← requiredField kvs strictStr? "baseline_model"
  let candidateModel ← requiredField kvs strictStr? "candidate_model"
  let baselinePercent ← requiredField kvs strictFloat? "baseline_percent"
  let candidatePercent ← requiredField kvs strictFloat? "candidate_percent"
  let percentagePointChange ← requiredField kvs strictFloat? "percentage_point_change"
  let relativeChangePercent ← requiredField kvs strictFloatOrNone? "relative_change_percent"
  let comparable ← requiredField kvs strictTrue? "comparable"
  let reason ← requiredField kvs strictNone? "reason"
  let categoryChanges ← requiredField kvs (strictList? parseCategoryChange?) "category_changes"
  some { datasetSha256, baselineModel, candidateModel, baselinePercent, candidatePercent, percentagePointChange,
         relativeChangePercent, comparable, reason, categoryChanges }

/-- `warnings`, by default none. -/
def parseWarnings? (kvs : List (PyStr × Json)) : Option (List PyStr) :=
  match Json.get? kvs (py "warnings") with
  | none => some []
  | some v => strictList? strictStr? v

def parseMetadata? (v : Json) : Option EvaluationMetadata := do
  let kvs ← strictFields? ["metrics", "comparison", "result_path", "dataset_manifest_path", "warnings"] v
  let metrics ← requiredField kvs (strictFields? ["baseline", "candidate"]) "metrics"
  let baseline ← requiredField metrics parseMetricSummary? "baseline"
  let candidate ← requiredField metrics parseMetricSummary? "candidate"
  let comparison ← requiredField kvs parseComparison? "comparison"
  let resultPath ← requiredField kvs strictStr? "result_path"
  let datasetManifestPath ← requiredField kvs strictStr? "dataset_manifest_path"
  let warnings ← parseWarnings? kvs
  some { baseline, candidate, comparison, resultPath, warnings, datasetManifestPath }

/-! ## The bounds and the validators -/

/-- `ge=0, le=100`. -/
def isPercent (x : PyFloat) : Bool := x.ge 0 0 && x.le 100 0

/-- `ge=-100, le=100`. -/
def isPointChange (x : PyFloat) : Bool := x.absLe 100 0

section

variable (arith : Arithmetic)

/-- The counts fit, and the percentage is theirs. -/
def countsAgree (total correct invalid : Nat) (accuracy : PyFloat) : Bool :=
  decide (1 ≤ total ∧ total ≤ maxDatasetRecords ∧ correct ≤ total ∧ invalid ≤ total ∧ correct + invalid ≤ total) &&
    isPercent accuracy && !arith.apart accuracy (arith.percent correct total)

def CategoryMetric.valid (m : CategoryMetric) : Bool :=
  isStrictText m.category 256 && countsAgree arith m.total m.correct m.invalid m.accuracyPercent

def MetricSummary.valid (m : MetricSummary) : Bool :=
  isSha256 m.datasetSha256 && isStrictText m.modelName 256 && (m.template = py "base" || m.template = py "instruct") &&
    countsAgree arith m.total m.correct m.invalid m.accuracyPercent && m.averageLatencyMs.ge 0 0 &&
    decide (1 ≤ m.categories.length ∧ m.categories.length ≤ maxReportCategories) &&
    m.categories.all (·.valid arith) && decide (m.categories.map CategoryMetric.category).Nodup &&
    sumsTo m.categories ⟨m.total, m.correct, m.invalid⟩

def CategoryChange.valid (c : CategoryChange) : Bool :=
  isStrictText c.category 256 && isPercent c.baselinePercent && isPercent c.candidatePercent &&
    isPointChange c.percentagePointChange &&
    !arith.apart c.percentagePointChange (arith.change c.candidatePercent c.baselinePercent)

/-- The relative change is that of the percentages. -/
def relativeAgrees (relative expected : Option PyFloat) : Bool :=
  match relative, expected with
  | none, none => true
  | some x, some y => !arith.apart x y
  | _, _ => false

def ComparisonReport.valid (c : ComparisonReport) : Bool :=
  isSha256 c.datasetSha256 && isStrictText c.baselineModel 256 && isStrictText c.candidateModel 256 &&
    isPercent c.baselinePercent && isPercent c.candidatePercent && isPointChange c.percentagePointChange &&
    decide (1 ≤ c.categoryChanges.length ∧ c.categoryChanges.length ≤ maxReportCategories) &&
    c.categoryChanges.all (·.valid arith) && decide (c.categoryChanges.map CategoryChange.category).Nodup &&
    !arith.apart c.percentagePointChange (arith.change c.candidatePercent c.baselinePercent) &&
    relativeAgrees arith c.relativeChangePercent
      (relativeChange arith (arith.change c.candidatePercent c.baselinePercent) c.baselinePercent)

/-- The names of the categories are the same. -/
def sameNames (xs ys : List PyStr) : Bool := xs.all (· ∈ ys) && ys.all (· ∈ xs)

/-- `validate_report_consistency`. -/
def EvaluationMetadata.consistent (m : EvaluationMetadata) : Bool :=
  m.baseline.modelName = py "baseline" && m.candidate.modelName = py "candidate" &&
    m.comparison.datasetSha256 = m.baseline.datasetSha256 && m.comparison.baselineModel = m.baseline.modelName &&
    m.comparison.candidateModel = m.candidate.modelName &&
    m.comparison.baselinePercent.eqv m.baseline.accuracyPercent &&
    m.comparison.candidatePercent.eqv m.candidate.accuracyPercent &&
    sameNames (m.baseline.categories.map CategoryMetric.category) (m.candidate.categories.map CategoryMetric.category) &&
    sameNames (m.comparison.categoryChanges.map CategoryChange.category)
      (m.baseline.categories.map CategoryMetric.category) &&
    m.comparison.categoryChanges.all (fun change =>
      change.baselinePercent.eqv (accuracyOf m.baseline change.category) &&
        change.candidatePercent.eqv (accuracyOf m.candidate change.category)) &&
    sameNames m.warnings (warningsOf m.baseline m.candidate)

/-- The bounds and the validators of all fields. -/
def EvaluationMetadata.valid (m : EvaluationMetadata) : Bool :=
  m.baseline.valid arith && m.candidate.valid arith && m.comparison.valid arith &&
    isStrictText m.resultPath 1024 && isStrictText m.datasetManifestPath 1024 && decide (m.warnings.length ≤ 2) &&
    m.warnings.all (fun w => w = py "baseline_all_outputs_invalid" || w = py "candidate_all_outputs_invalid") &&
    m.baseline.datasetSha256 = m.candidate.datasetSha256 && m.baseline.total = m.candidate.total && m.consistent

/-- Metadata that has passed. -/
def EvaluationSuccessMetadata : Type := { m : EvaluationMetadata // m.valid arith = true }

/-- `EvaluationSuccessMetadata.model_validate`; `none` is a `ValidationError`. -/
def EvaluationSuccessMetadata.modelValidate (v : Json) : Option (EvaluationSuccessMetadata arith) :=
  match parseMetadata? v with
  | some m => if h : m.valid arith = true then some ⟨m, h⟩ else none
  | none => none

theorem modelValidate_isSome {v : Json} {m : EvaluationMetadata} (hparse : parseMetadata? v = some m)
    (hvalid : m.valid arith = true) : (EvaluationSuccessMetadata.modelValidate arith v).isSome = true := by
  rw [EvaluationSuccessMetadata.modelValidate, hparse]
  simp only [dif_pos hvalid]
  rfl

end

end OpenLLMOps.Evaluation
