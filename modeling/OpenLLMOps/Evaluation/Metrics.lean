import OpenLLMOps.Evaluation.Scoring
import OpenLLMOps.Framework.Dict
import OpenLLMOps.Framework.Lists

/-!
# Evaluation reports

`aggregate_results` and `compare_reports`: the results of one model make an `EvaluationReport`, with
the counts of each category, and two reports make a `ComparisonReport`. The percentages and their
changes are rounded to four digits by the functions of an `Arithmetic`, which every party computes
with.

The counts of the categories sum to those of the report (`sum_categories`), and apart from the mean
latency a report does not depend on the order of the results (`aggregateResults_perm`).
-/

namespace OpenLLMOps.Evaluation

open Framework

/-- The arithmetic of the reports on doubles. -/
structure Arithmetic where
  /-- `float(n)`; `none` is an `OverflowError`. -/
  ofInt : Int → Option PyFloat
  /-- `round(n * 100 / d, 4)`. -/
  percent : Nat → Nat → PyFloat
  /-- `round(x - y, 4)`. -/
  change : PyFloat → PyFloat → PyFloat
  /-- `round(change * 100 / base, 4)`. -/
  relative : PyFloat → PyFloat → PyFloat
  /-- `round(sum(xs) / len(xs), 3)`. -/
  average : List PyFloat → PyFloat
  /-- `abs(x - y) > 0.0001`. -/
  apart : PyFloat → PyFloat → Bool

structure CategoryMetric where
  category : PyStr
  total : Nat
  correct : Nat
  invalid : Nat
  accuracyPercent : PyFloat
  deriving DecidableEq

/-- A report without the ids of the samples. -/
structure MetricSummary where
  datasetSha256 : PyStr
  modelName : PyStr
  template : PyStr
  total : Nat
  correct : Nat
  invalid : Nat
  accuracyPercent : PyFloat
  averageLatencyMs : PyFloat
  categories : List CategoryMetric
  deriving DecidableEq

structure EvaluationReport extends MetricSummary where
  sampleIds : List PyStr
  deriving DecidableEq

structure CategoryChange where
  category : PyStr
  baselinePercent : PyFloat
  candidatePercent : PyFloat
  percentagePointChange : PyFloat
  deriving DecidableEq

structure ComparisonReport where
  datasetSha256 : PyStr
  baselineModel : PyStr
  candidateModel : PyStr
  baselinePercent : PyFloat
  candidatePercent : PyFloat
  percentagePointChange : PyFloat
  relativeChangePercent : Option PyFloat
  comparable : Bool
  reason : Option PyStr
  categoryChanges : List CategoryChange
  deriving DecidableEq

/-- The zero that `_percent` and the comparisons use. -/
def zeroPercent : PyFloat := .finite false 0 0

section

variable (arith : Arithmetic)

/-- `_percent`. -/
def percentOf (numerator denominator : Nat) : PyFloat :=
  if denominator = 0 then zeroPercent else arith.percent numerator denominator

/-- How many of the results are correct. -/
def countCorrect (results : List SampleResult) : Nat := (results.map fun r => r.correct.toNat).sum

/-- How many of the results could not be read. -/
def countInvalid (results : List SampleResult) : Nat := (results.map fun r => (!r.valid).toNat).sum

/-- The metric of a category. -/
def categoryMetric (name : PyStr) (items : List SampleResult) : CategoryMetric where
  category := name
  total := items.length
  correct := countCorrect items
  invalid := countInvalid items
  accuracyPercent := percentOf arith (countCorrect items) items.length

/-- `aggregate_results`; `none` is the `ValueError` for no results. -/
def aggregateResults (results : List SampleResult) (datasetSha256 modelName template : PyStr) :
    Option EvaluationReport :=
  if results = [] then none
  else some {
    datasetSha256, modelName, template
    total := results.length
    correct := countCorrect results
    invalid := countInvalid results
    accuracyPercent := percentOf arith (countCorrect results) results.length
    averageLatencyMs := arith.average (results.map SampleResult.latencyMs)
    categories := (groupKeys SampleResult.category results).map fun name =>
      categoryMetric arith name (group SampleResult.category results name)
    sampleIds := (results.map SampleResult.sampleId).insertionSort (· ≤ ·) }

/-- The metrics of a report by their category. -/
def metricsByCategory (report : MetricSummary) : List (PyStr × CategoryMetric) :=
  Dict.update [] (report.categories.map fun metric => (metric.category, metric))

/-- The names of the categories that two reports share, sorted. -/
def sharedCategories (baseline candidate : MetricSummary) : List PyStr :=
  ((Dict.keys (metricsByCategory baseline)).filter fun name =>
    (Dict.get? (metricsByCategory candidate) name).isSome).insertionSort (· ≤ ·)

/-- The change of a category. -/
def categoryChange (baseline candidate : MetricSummary) (name : PyStr) : Option CategoryChange := do
  let base ← Dict.get? (metricsByCategory baseline) name
  let cand ← Dict.get? (metricsByCategory candidate) name
  some ⟨name, base.accuracyPercent, cand.accuracyPercent, arith.change cand.accuracyPercent base.accuracyPercent⟩

/-- The relative change, unless the baseline is zero. -/
def relativeChange (change base : PyFloat) : Option PyFloat :=
  if base.eqv zeroPercent then none else some (arith.relative change base)

/-- `compare_reports`. -/
def compareReports (baseline candidate : EvaluationReport) : ComparisonReport :=
  let reason :=
    if baseline.datasetSha256 ≠ candidate.datasetSha256 then some (py "数据集版本指纹不同")
    else if baseline.sampleIds ≠ candidate.sampleIds then some (py "参与评测的样本集合不同")
    else none
  let delta := arith.change candidate.accuracyPercent baseline.accuracyPercent
  { datasetSha256 := baseline.datasetSha256
    baselineModel := baseline.modelName
    candidateModel := candidate.modelName
    baselinePercent := baseline.accuracyPercent
    candidatePercent := candidate.accuracyPercent
    percentagePointChange := delta
    relativeChangePercent := relativeChange arith delta baseline.accuracyPercent
    comparable := reason.isNone
    reason := reason
    categoryChanges := (sharedCategories baseline.toMetricSummary candidate.toMetricSummary).filterMap
      (categoryChange arith baseline.toMetricSummary candidate.toMetricSummary) }

/-! ## Counts and order -/

variable {arith} {results results' : List SampleResult} {datasetSha256 modelName template : PyStr}

theorem countCorrect_perm (h : results.Perm results') : countCorrect results = countCorrect results' :=
  (h.map _).sum_eq

theorem countInvalid_perm (h : results.Perm results') : countInvalid results = countInvalid results' :=
  (h.map _).sum_eq

theorem length_eq_sum (results : List SampleResult) : results.length = (results.map fun _ => 1).sum := by
  simp

/-- The metric of a category does not depend on the order of its results. -/
theorem categoryMetric_perm (name : PyStr) (h : results.Perm results') :
    categoryMetric arith name results = categoryMetric arith name results' := by
  simp only [categoryMetric, countCorrect_perm h, countInvalid_perm h, h.length_eq]

theorem aggregateResults_eq_some {report : EvaluationReport}
    (h : aggregateResults arith results datasetSha256 modelName template = some report) :
    results ≠ [] ∧ report = {
      datasetSha256, modelName, template
      total := results.length
      correct := countCorrect results
      invalid := countInvalid results
      accuracyPercent := percentOf arith (countCorrect results) results.length
      averageLatencyMs := arith.average (results.map SampleResult.latencyMs)
      categories := (groupKeys SampleResult.category results).map fun name =>
        categoryMetric arith name (group SampleResult.category results name)
      sampleIds := (results.map SampleResult.sampleId).insertionSort (· ≤ ·) } := by
  unfold aggregateResults at h
  split at h
  · cases h
  · rename_i hne
    exact ⟨hne, (Option.some.inj h).symm⟩

/-- The counts of the categories sum to those of the report. -/
theorem sum_categories {report : EvaluationReport}
    (h : aggregateResults arith results datasetSha256 modelName template = some report) :
    (report.categories.map CategoryMetric.total).sum = report.total ∧
      (report.categories.map CategoryMetric.correct).sum = report.correct ∧
      (report.categories.map CategoryMetric.invalid).sum = report.invalid := by
  obtain ⟨-, rfl⟩ := aggregateResults_eq_some h
  simp only [List.map_map]
  refine ⟨?_, ?_, ?_⟩
  · have hsum := @sum_groups _ _ _ SampleResult.category results fun _ => 1
    simp only [← length_eq_sum] at hsum
    exact hsum
  · exact @sum_groups _ _ _ SampleResult.category results fun r => r.correct.toNat
  · exact @sum_groups _ _ _ SampleResult.category results fun r => (!r.valid).toNat

/-- Apart from the mean latency, a report does not depend on the order of the results. -/
theorem aggregateResults_perm (h : results.Perm results') :
    aggregateResults arith results' datasetSha256 modelName template =
      (aggregateResults arith results datasetSha256 modelName template).map fun report =>
        { report with averageLatencyMs := arith.average (results'.map SampleResult.latencyMs) } := by
  by_cases hne : results = []
  · have hne' : results' = [] := List.nil_perm.mp (hne ▸ h)
    simp [aggregateResults, hne, hne']
  · have hne' : results' ≠ [] := fun hnil => hne (List.perm_nil.mp (hnil ▸ h))
    have hkeys : groupKeys SampleResult.category results' = groupKeys SampleResult.category results :=
      groupKeys_congr fun k => ((h.map _).mem_iff).symm
    have hmetric : ∀ name, categoryMetric arith name (group SampleResult.category results' name) =
        categoryMetric arith name (group SampleResult.category results name) :=
      fun name => categoryMetric_perm name (h.symm.filter _)
    simp only [aggregateResults, if_neg hne, if_neg hne', Option.map_some, hkeys, hmetric, h.length_eq,
      countCorrect_perm h, countInvalid_perm h, insertionSort_of_perm (h.map SampleResult.sampleId)]

end

/-! ## As JSON -/

/-- `asdict`. -/
def CategoryMetric.asDict (m : CategoryMetric) : Json :=
  .obj [(py "category", .str m.category), (py "total", .int m.total), (py "correct", .int m.correct),
    (py "invalid", .int m.invalid), (py "accuracy_percent", .float m.accuracyPercent)]

/-- The entries of a report without the ids of the samples. -/
def MetricSummary.entries (m : MetricSummary) : List (PyStr × Json) :=
  [(py "dataset_sha256", .str m.datasetSha256), (py "model_name", .str m.modelName),
    (py "template", .str m.template), (py "total", .int m.total), (py "correct", .int m.correct),
    (py "invalid", .int m.invalid), (py "accuracy_percent", .float m.accuracyPercent),
    (py "average_latency_ms", .float m.averageLatencyMs), (py "categories", .arr (m.categories.map CategoryMetric.asDict))]

def EvaluationReport.asDict (r : EvaluationReport) : Json :=
  .obj (r.entries ++ [(py "sample_ids", .arr (r.sampleIds.map Json.str))])

def CategoryChange.asDict (c : CategoryChange) : Json :=
  .obj [(py "category", .str c.category), (py "baseline_percent", .float c.baselinePercent),
    (py "candidate_percent", .float c.candidatePercent), (py "percentage_point_change", .float c.percentagePointChange)]

/-- A value, or `null`. -/
def optionalJson {α : Type} (f : α → Json) (a : Option α) : Json := (a.map f).getD .null

def ComparisonReport.asDict (c : ComparisonReport) : Json :=
  .obj [(py "dataset_sha256", .str c.datasetSha256), (py "baseline_model", .str c.baselineModel),
    (py "candidate_model", .str c.candidateModel), (py "baseline_percent", .float c.baselinePercent),
    (py "candidate_percent", .float c.candidatePercent), (py "percentage_point_change", .float c.percentagePointChange),
    (py "relative_change_percent", optionalJson Json.float c.relativeChangePercent),
    (py "comparable", .bool c.comparable), (py "reason", optionalJson Json.str c.reason),
    (py "category_changes", .arr (c.categoryChanges.map CategoryChange.asDict))]

/-- `PairReport`, as it is written to `pair-report.json`. -/
structure PairReport where
  baseline : EvaluationReport
  candidate : EvaluationReport
  comparison : ComparisonReport

def PairReport.asDict (p : PairReport) : Json :=
  .obj [(py "baseline", p.baseline.asDict), (py "candidate", p.candidate.asDict), (py "comparison", p.comparison.asDict)]

end OpenLLMOps.Evaluation
