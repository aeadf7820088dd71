import OpenLLMOps.Evaluation.ReportFile
import OpenLLMOps.Evaluation.SuccessMetadata

/-!
# The three parties of a pair report

What the evaluation writes, the agent accepts, and what the agent reports, the control plane accepts
(`pairReport_agrees`). A report of results that score the samples of a merged dataset is `Sound`
(`sound_aggregateResults`): its counts fit each other and those of its categories, and its percentages
are those of the counts. The agent reads a sound report as itself (`metricSummary_of_sound`) and the
comparison of two sound reports on the same samples as itself (`comparisonSummary_of_sound`), and the
control plane finds nothing else to object to.
-/

namespace OpenLLMOps.Evaluation

open Framework

/-- A number from 0 to 100. -/
structure IsPercentage (x : PyFloat) : Prop where
  finite : x.isFinite = true
  nonneg : x.ltZero = false
  le : x.le 100 0 = true

/-- What is known of the arithmetic of doubles and of `round`. -/
structure Arithmetic.Lawful (arith : Arithmetic) : Prop where
  percent : ∀ {c t : Nat}, 1 ≤ t → c ≤ t → IsPercentage (arith.percent c t)
  change : ∀ {x y : PyFloat}, IsPercentage x → IsPercentage y →
    (arith.change x y).isFinite = true ∧ isPointChange (arith.change x y) = true
  /-- The least percentage of a dataset that is not zero is far from where a quotient overflows. -/
  relative : ∀ {δ : PyFloat} {c t : Nat}, isPointChange δ = true → 1 ≤ t → t ≤ maxDatasetRecords → c ≤ t →
    (arith.percent c t).eqv zeroPercent = false → (arith.relative δ (arith.percent c t)).isFinite = true
  average : ∀ {xs : List PyFloat}, (∀ x ∈ xs, x.ltZero = false) → (arith.average xs).ltZero = false
  apart : ∀ {x : PyFloat}, x.isFinite = true → arith.apart x x = false

/-- A text of a merged dataset: safe, stripped and encodable. -/
structure IsMergedText (text : PyStr) : Prop where
  safe : isSafeText text 256 = true
  stripped : text.strip = text
  encodable : text.encodable = true

theorem isStrictText_of_merged {text : PyStr} (h : IsMergedText text) : isStrictText text 256 = true := by
  have hsafe := h.safe
  simp only [isSafeText, Bool.and_eq_true] at hsafe
  simp only [isStrictText, Bool.and_eq_true]
  exact ⟨hsafe.1, h.encodable⟩

/-- A metric of a category of a dataset with `total` samples. -/
structure CategoryMetric.Sound (arith : Arithmetic) (total : Nat) (m : CategoryMetric) : Prop where
  category : IsMergedText m.category
  positive : 1 ≤ m.total
  total : m.total ≤ total
  counts : m.correct + m.invalid ≤ m.total
  accuracy : m.accuracyPercent = arith.percent m.correct m.total

/-- A report whose numbers are derived from each other. -/
structure EvaluationReport.Sound (arith : Arithmetic) (r : EvaluationReport) : Prop where
  digest : isSha256 r.datasetSha256 = true
  modelName : IsMergedText r.modelName
  template : r.template = py "base" ∨ r.template = py "instruct"
  positive : 1 ≤ r.total
  total : r.total ≤ maxDatasetRecords
  counts : r.correct + r.invalid ≤ r.total
  accuracy : r.accuracyPercent = arith.percent r.correct r.total
  latency : r.averageLatencyMs.isFinite = true ∧ r.averageLatencyMs.ltZero = false
  categories : ∀ m ∈ r.categories, m.Sound arith r.total
  names : (r.categories.map CategoryMetric.category).Nodup
  sorted : (r.categories.map CategoryMetric.category).Pairwise (· ≤ ·)
  someCategory : 1 ≤ r.categories.length
  categoryLimit : r.categories.length ≤ maxReportCategories
  sums : sumsTo r.categories ⟨r.total, r.correct, r.invalid⟩ = true
  ids : r.sampleIds.length = r.total
  distinct : r.sampleIds.Nodup
  sampleIds : ∀ id ∈ r.sampleIds, IsMergedText id

/-! ## What a check makes of a sound value -/

section

variable {arith : Arithmetic}

theorem safeShortText_merged {text : PyStr} (h : IsMergedText text) (name : PyStr) :
    safeShortText (.str text) name 256 = .ok text := by
  rw [safeShortText, h.stripped, if_pos h.safe]

theorem require_true {p : Bool} (h : p = true) (message : PyStr) : require p message = .ok () := if_pos h

theorem checkedDigest_sha {s : PyStr} (h : isSha256 s = true) (message : PyStr) : checkedDigest (.str s) message = .ok s :=
  if_pos h

theorem checkedTemplate_known {s : PyStr} (h : s = py "base" ∨ s = py "instruct") (message : PyStr) :
    checkedTemplate (.str s) message = .ok s := if_pos h

theorem checkedList_fits {xs : List Json} {fits : List Json → Bool} (h : fits xs = true) (message : PyStr) :
    checkedList (.arr xs) fits message = .ok xs := if_pos h

theorem checkedCounts_fit {kvs : List (PyStr × Json)} {limit total correct invalid : Nat}
    (htotal : field kvs "total" = .int total) (hcorrect : field kvs "correct" = .int correct)
    (hinvalid : field kvs "invalid" = .int invalid) (hpos : 1 ≤ total) (hlimit : total ≤ limit)
    (hcounts : correct + invalid ≤ total) (message : PyStr) :
    checkedCounts kvs limit message = .ok ⟨total, correct, invalid⟩ := by
  have hfit : 1 ≤ (total : Int) ∧ (total : Int) ≤ limit ∧ 0 ≤ (correct : Int) ∧ (correct : Int) ≤ total ∧
      0 ≤ (invalid : Int) ∧ (invalid : Int) ≤ total ∧ (correct : Int) + invalid ≤ total := by omega
  simp only [checkedCounts, countsOf?, htotal, hcorrect, hinvalid, intOf?, if_pos hfit, Int.toNat_natCast]

theorem finiteNumber_float {x : PyFloat} {nonneg : Bool} (hfinite : x.isFinite = true)
    (hsign : nonneg = true → x.ltZero = false) (name : PyStr) : finiteNumber arith (.float x) name nonneg = .ok x := by
  have hgood : ¬ (!x.isFinite || (nonneg && x.ltZero)) = true := by
    cases nonneg with
    | false => simp [hfinite]
    | true => simp [hfinite, hsign rfl]
  simp only [finiteNumber, numberOf?, if_neg hgood]

theorem finiteNumber_percentage {x : PyFloat} (h : IsPercentage x) (name : PyStr) :
    finiteNumber arith (.float x) name true = .ok x :=
  finiteNumber_float h.finite (fun _ => h.nonneg) name

theorem checkAccuracy_percent {counts : Counts} (h : IsPercentage (arith.percent counts.correct counts.total))
    (tooHigh mismatch : PyStr) :
    checkAccuracy arith (arith.percent counts.correct counts.total) counts tooHigh mismatch = .ok () := by
  have hover : ¬ (!(arith.percent counts.correct counts.total).le 100 0) = true := by simp [h.le]
  have hequal : ¬ (!(arith.percent counts.correct counts.total).eqv (arith.percent counts.correct counts.total)) = true := by
    simp [PyFloat.eqv_self h.finite]
  rw [checkAccuracy, if_neg hover, if_neg hequal]

/-! ## The agent -/

theorem readCategory_of_sound (hlaws : arith.Lawful) {m : CategoryMetric} {total : Nat} (h : m.Sound arith total)
    (label : PyStr) (index : Nat) {seen : List PyStr} (hnew : m.category ∉ seen) :
    readCategory arith label total index seen m.asDict = .ok m := by
  have hcorrect : m.correct ≤ m.total := by have := h.counts; omega
  have hpercent : IsPercentage (arith.percent m.correct m.total) := hlaws.percent h.positive hcorrect
  have haccuracy : IsPercentage m.accuracyPercent := by rw [h.accuracy]; exact hpercent
  refine bind_eq_ok.mpr ⟨_, safeShortText_merged h.category _, ?_⟩
  refine bind_eq_ok.mpr ⟨_, require_true (decide_eq_true hnew) _, ?_⟩
  refine bind_eq_ok.mpr ⟨_, checkedCounts_fit rfl rfl rfl h.positive h.total h.counts _, ?_⟩
  refine bind_eq_ok.mpr ⟨_, finiteNumber_percentage haccuracy _, ?_⟩
  refine bind_eq_ok.mpr ⟨(), ?_, rfl⟩
  rw [h.accuracy]
  exact @checkAccuracy_percent _ ⟨m.total, m.correct, m.invalid⟩ hpercent _ _

theorem readCategories_of_sound (hlaws : arith.Lawful) {ms : List CategoryMetric} {total : Nat}
    (h : ∀ m ∈ ms, m.Sound arith total) (hnodup : (ms.map CategoryMetric.category).Nodup) (label : PyStr) (index : Nat)
    {seen : List PyStr} (hnew : ∀ m ∈ ms, m.category ∉ seen) :
    readCategories arith label total index seen (ms.map CategoryMetric.asDict) = .ok ms := by
  induction ms generalizing index seen with
  | nil => rfl
  | cons m ms ih =>
    have hrest : ∀ m' ∈ ms, m'.category ∉ m.category :: seen := by
      intro m' hm' hmem
      rcases List.mem_cons.mp hmem with heq | hseen
      · rw [List.map_cons, List.nodup_cons] at hnodup
        exact hnodup.1 (heq ▸ List.mem_map_of_mem hm')
      · exact hnew m' (List.mem_cons_of_mem _ hm') hseen
    have hread := readCategory_of_sound hlaws (h m List.mem_cons_self) label index (hnew m List.mem_cons_self)
    refine bind_eq_ok.mpr ⟨m, hread, bind_eq_ok.mpr ⟨ms, ?_, rfl⟩⟩
    exact ih (fun m' hm' => h m' (List.mem_cons_of_mem _ hm')) (List.nodup_cons.mp hnodup).2 (index + 1) hrest

theorem readSampleIds_of_merged {ids : List PyStr} (h : ∀ id ∈ ids, IsMergedText id) (label : PyStr) :
    readSampleIds label (ids.map Json.str) = .ok ids := by
  induction ids with
  | nil => rfl
  | cons id ids ih =>
    refine bind_eq_ok.mpr ⟨id, safeShortText_merged (h id List.mem_cons_self) _, bind_eq_ok.mpr ⟨ids, ?_, rfl⟩⟩
    exact ih fun id' hid' => h id' (List.mem_cons_of_mem _ hid')

/-- The agent reads a sound report as itself. -/
theorem metricSummary_of_sound (hlaws : arith.Lawful) {r : EvaluationReport} (h : r.Sound arith) (label : PyStr) :
    metricSummary arith r.asDict label = .ok r := by
  have hcorrect : r.correct ≤ r.total := by have := h.counts; omega
  have hpercent : IsPercentage (arith.percent r.correct r.total) := hlaws.percent h.positive hcorrect
  have haccuracy : IsPercentage r.accuracyPercent := by rw [h.accuracy]; exact hpercent
  have hcategories : decide ((r.categories.map CategoryMetric.asDict).length ≤ maxReportCategories) = true := by
    simpa using h.categoryLimit
  have hids : decide ((r.sampleIds.map Json.str).length = r.total) = true := by simpa using h.ids
  refine bind_eq_ok.mpr ⟨_, checkedDigest_sha h.digest _, ?_⟩
  refine bind_eq_ok.mpr ⟨_, safeShortText_merged h.modelName _, ?_⟩
  refine bind_eq_ok.mpr ⟨_, checkedTemplate_known h.template _, ?_⟩
  refine bind_eq_ok.mpr ⟨_, checkedCounts_fit rfl rfl rfl h.positive h.total h.counts _, ?_⟩
  refine bind_eq_ok.mpr ⟨_, finiteNumber_percentage haccuracy _, ?_⟩
  refine bind_eq_ok.mpr ⟨_, finiteNumber_float h.latency.1 (fun _ => h.latency.2) _, ?_⟩
  refine bind_eq_ok.mpr ⟨(), ?_, ?_⟩
  · rw [h.accuracy]
    exact @checkAccuracy_percent _ ⟨r.total, r.correct, r.invalid⟩ hpercent _ _
  refine bind_eq_ok.mpr ⟨_, checkedList_fits hcategories _, ?_⟩
  refine bind_eq_ok.mpr ⟨_, checkedList_fits hids _, ?_⟩
  refine bind_eq_ok.mpr ⟨_, readSampleIds_of_merged h.sampleIds _, ?_⟩
  refine bind_eq_ok.mpr ⟨_, require_true (decide_eq_true h.distinct) _, ?_⟩
  refine bind_eq_ok.mpr ⟨_, readCategories_of_sound hlaws h.categories h.names _ 0 (fun _ _ hmem => by cases hmem), ?_⟩
  exact bind_eq_ok.mpr ⟨_, require_true h.sums _, rfl⟩

/-- Two reports on the same samples. -/
structure SameSamples (b c : EvaluationReport) : Prop where
  digest : b.datasetSha256 = c.datasetSha256
  total : b.total = c.total
  sampleIds : b.sampleIds = c.sampleIds
  categories : b.categories.map (fun m => (m.category, m.total)) = c.categories.map fun m => (m.category, m.total)

theorem SameSamples.names {b c : EvaluationReport} (h : SameSamples b c) :
    b.categories.map CategoryMetric.category = c.categories.map CategoryMetric.category := by
  have := congrArg (List.map Prod.fst) h.categories
  simpa [Function.comp_def] using this

theorem metricsByCategory_of_sound {r : EvaluationReport} (h : r.Sound arith) :
    metricsByCategory r.toMetricSummary = r.categories.map fun m => (m.category, m) := by
  refine Dict.update_nil ?_
  simpa [Dict.keys, Function.comp_def] using h.names

theorem keys_metricsByCategory {r : EvaluationReport} (h : r.Sound arith) :
    Dict.keys (metricsByCategory r.toMetricSummary) = r.categories.map CategoryMetric.category := by
  simp [metricsByCategory_of_sound h, Dict.keys, Function.comp_def]

theorem get?_metricsByCategory {r : EvaluationReport} (h : r.Sound arith) {m : CategoryMetric} :
    Dict.get? (metricsByCategory r.toMetricSummary) m.category = some m ↔ m ∈ r.categories := by
  have hnodup : (Dict.keys (metricsByCategory r.toMetricSummary)).Nodup := by
    rw [keys_metricsByCategory h]
    exact h.names
  rw [← Dict.mem_iff_get? hnodup, metricsByCategory_of_sound h]
  simp

/-- The metrics of a category in both reports. -/
theorem SameSamples.metrics {b c : EvaluationReport} (h : SameSamples b c) (hb : b.Sound arith) (hc : c.Sound arith)
    {name : PyStr} (hname : name ∈ b.categories.map CategoryMetric.category) :
    ∃ mb ∈ b.categories, ∃ mc ∈ c.categories, mb.category = name ∧ mc.category = name ∧ mb.total = mc.total ∧
      Dict.get? (metricsByCategory b.toMetricSummary) name = some mb ∧
      Dict.get? (metricsByCategory c.toMetricSummary) name = some mc := by
  obtain ⟨mb, hmb, rfl⟩ := List.mem_map.mp hname
  have hpair : (mb.category, mb.total) ∈ c.categories.map fun m => (m.category, m.total) := by
    rw [← h.categories]
    exact List.mem_map.mpr ⟨mb, hmb, rfl⟩
  obtain ⟨mc, hmc, heq⟩ := List.mem_map.mp hpair
  obtain ⟨hcategory, htotal⟩ := Prod.mk.inj heq
  refine ⟨mb, hmb, mc, hmc, rfl, hcategory, htotal.symm, (get?_metricsByCategory hb).mpr hmb, ?_⟩
  rw [← hcategory]
  exact (get?_metricsByCategory hc).mpr hmc

theorem sharedCategories_of_sound {b c : EvaluationReport} (h : SameSamples b c) (hb : b.Sound arith)
    (hc : c.Sound arith) :
    sharedCategories b.toMetricSummary c.toMetricSummary = b.categories.map CategoryMetric.category := by
  have hall : (b.categories.map CategoryMetric.category).filter (fun name =>
      (Dict.get? (metricsByCategory c.toMetricSummary) name).isSome) = b.categories.map CategoryMetric.category := by
    refine List.filter_eq_self.mpr fun name hname => ?_
    obtain ⟨_, _, mc, _, _, _, _, _, hget⟩ := h.metrics hb hc hname
    rw [hget, Option.isSome_some]
  rw [sharedCategories, keys_metricsByCategory hb, hall]
  exact List.Pairwise.insertionSort_eq hb.sorted

/-- The change of a category of two sound reports. -/
theorem readChange_of_sound (hlaws : arith.Lawful) {b c : EvaluationReport} (hb : b.Sound arith) (hc : c.Sound arith)
    {mb mc : CategoryMetric} (hmb : mb ∈ b.categories) (hmc : mc ∈ c.categories)
    (hgetb : Dict.get? (metricsByCategory b.toMetricSummary) mb.category = some mb)
    (hgetc : Dict.get? (metricsByCategory c.toMetricSummary) mb.category = some mc) (index : Nat) :
    ∃ change, categoryChange arith b.toMetricSummary c.toMetricSummary mb.category = some change ∧
      readChange arith b.toMetricSummary c.toMetricSummary index mb.category change.asDict = .ok change := by
  have hpercent : ∀ {m : CategoryMetric} {t : Nat}, m.Sound arith t → IsPercentage m.accuracyPercent := by
    intro m t hm
    rw [hm.accuracy]
    exact hlaws.percent hm.positive (by have := hm.counts; omega)
  have hpb := hpercent (hb.categories mb hmb)
  have hpc := hpercent (hc.categories mc hmc)
  have hchange := (hlaws.change hpc hpb).1
  have haccb : accuracyOf b.toMetricSummary mb.category = mb.accuracyPercent := by rw [accuracyOf, hgetb]; rfl
  have haccc : accuracyOf c.toMetricSummary mb.category = mc.accuracyPercent := by rw [accuracyOf, hgetc]; rfl
  refine ⟨⟨mb.category, mb.accuracyPercent, mc.accuracyPercent, arith.change mc.accuracyPercent mb.accuracyPercent⟩,
    by simp [categoryChange, hgetb, hgetc], ?_⟩
  refine bind_eq_ok.mpr ⟨_, safeShortText_merged (hb.categories mb hmb).category _, ?_⟩
  refine bind_eq_ok.mpr ⟨_, finiteNumber_percentage hpb _, ?_⟩
  refine bind_eq_ok.mpr ⟨_, finiteNumber_percentage hpc _, ?_⟩
  refine bind_eq_ok.mpr ⟨_, finiteNumber_float hchange (fun hno => by cases hno) _, ?_⟩
  refine bind_eq_ok.mpr ⟨(), require_true ?_ _, rfl⟩
  simp only [haccb, haccc, PyFloat.eqv_self hpb.finite, PyFloat.eqv_self hpc.finite, PyFloat.eqv_self hchange, decide_true,
    Bool.and_self]

theorem readChanges_of_sound (hlaws : arith.Lawful) {b c : EvaluationReport} (h : SameSamples b c) (hb : b.Sound arith)
    (hc : c.Sound arith) (names : List PyStr) (hnames : ∀ name ∈ names, name ∈ b.categories.map CategoryMetric.category)
    (index : Nat) :
    readChanges arith b.toMetricSummary c.toMetricSummary index
        ((names.filterMap (categoryChange arith b.toMetricSummary c.toMetricSummary)).map CategoryChange.asDict) names =
      .ok (names.filterMap (categoryChange arith b.toMetricSummary c.toMetricSummary)) ∧
    (names.filterMap (categoryChange arith b.toMetricSummary c.toMetricSummary)).length = names.length := by
  induction names generalizing index with
  | nil => exact ⟨rfl, rfl⟩
  | cons name names ih =>
    obtain ⟨mb, hmb, mc, hmc, rfl, -, -, hgetb, hgetc⟩ := h.metrics hb hc (hnames name List.mem_cons_self)
    obtain ⟨change, hchange, hread⟩ := readChange_of_sound hlaws hb hc hmb hmc hgetb hgetc index
    obtain ⟨hreads, hlength⟩ := ih (fun name' hname' => hnames name' (List.mem_cons_of_mem _ hname')) (index + 1)
    rw [List.filterMap_cons_some hchange]
    refine ⟨bind_eq_ok.mpr ⟨change, hread, bind_eq_ok.mpr ⟨_, hreads, rfl⟩⟩, ?_⟩
    rw [List.length_cons, List.length_cons, hlength]

/-- The relative change of a sound report is a number, if there is one. -/
theorem relativeChange_finite (hlaws : arith.Lawful) {r : EvaluationReport} (h : r.Sound arith) {δ x : PyFloat}
    (hδ : isPointChange δ = true) (hx : relativeChange arith δ r.accuracyPercent = some x) : x.isFinite = true := by
  unfold relativeChange at hx
  split at hx
  · cases hx
  · rename_i hzero
    obtain rfl := Option.some.inj hx
    rw [h.accuracy] at hzero ⊢
    exact hlaws.relative hδ h.positive h.total (by have := h.counts; omega) (by simpa using hzero)

theorem readRelative_of_finite {o : Option PyFloat} (h : ∀ x ∈ o, x.isFinite = true) :
    readRelative arith (optionalJson Json.float o) = .ok o := by
  cases o with
  | none => rfl
  | some x => exact bind_eq_ok.mpr ⟨x, finiteNumber_float (h x rfl) (fun hno => by cases hno) _, rfl⟩

theorem eqvOption_self {o : Option PyFloat} (h : ∀ x ∈ o, x.isFinite = true) : eqvOption o o = true := by
  cases o with
  | none => rfl
  | some x => exact PyFloat.eqv_self (h x rfl)

theorem percentage_of_sound (hlaws : arith.Lawful) {r : EvaluationReport} (h : r.Sound arith) :
    IsPercentage r.accuracyPercent := by
  rw [h.accuracy]
  exact hlaws.percent h.positive (by have := h.counts; omega)

theorem compareReports_of_same {b c : EvaluationReport} (h : SameSamples b c) :
    (compareReports arith b c).comparable = true ∧ (compareReports arith b c).reason = none := by
  have hdigest : ¬ b.datasetSha256 ≠ c.datasetSha256 := not_not.mpr h.digest
  have hids : ¬ b.sampleIds ≠ c.sampleIds := not_not.mpr h.sampleIds
  have hreason : (compareReports arith b c).reason = none := by simp only [compareReports, if_neg hdigest, if_neg hids]
  exact ⟨by rw [show (compareReports arith b c).comparable = (compareReports arith b c).reason.isNone from rfl, hreason]; rfl,
    hreason⟩

theorem categoryChanges_of_sound {b c : EvaluationReport} (h : SameSamples b c) (hb : b.Sound arith)
    (hc : c.Sound arith) :
    (compareReports arith b c).categoryChanges = (b.categories.map CategoryMetric.category).filterMap
      (categoryChange arith b.toMetricSummary c.toMetricSummary) := by
  simp only [compareReports, sharedCategories_of_sound h hb hc]

theorem sameCategories_of_sound {b c : EvaluationReport} (h : SameSamples b c) (hb : b.Sound arith)
    (hc : c.Sound arith) : sameCategories b.toMetricSummary c.toMetricSummary = true := by
  simp only [sameCategories, keys_metricsByCategory hb, keys_metricsByCategory hc, h.names, Bool.and_self]
  exact List.all_eq_true.mpr fun name hname => decide_eq_true hname

theorem ComparisonReport.of_comparable {r : ComparisonReport} (hcomparable : r.comparable = true) (hreason : r.reason = none) :
    { r with comparable := true, reason := none } = r := by
  cases r
  cases hcomparable
  cases hreason
  rfl

/-- The agent reads the comparison of two sound reports as itself. -/
theorem comparisonSummary_of_sound (hlaws : arith.Lawful) {b c : EvaluationReport} (h : SameSamples b c)
    (hb : b.Sound arith) (hc : c.Sound arith) :
    comparisonSummary arith (compareReports arith b c).asDict b.toMetricSummary c.toMetricSummary =
      .ok (compareReports arith b c) := by
  have hpb := percentage_of_sound hlaws hb
  have hpc := percentage_of_sound hlaws hc
  obtain ⟨hchange, hpoint⟩ := hlaws.change hpc hpb
  obtain ⟨hcomparable, hreason⟩ := @compareReports_of_same arith b c h
  have hrelative : ∀ x ∈ (compareReports arith b c).relativeChangePercent, x.isFinite = true :=
    fun x hx => relativeChange_finite hlaws hb hpoint hx
  have hchanges := @categoryChanges_of_sound arith b c h hb hc
  obtain ⟨hreads, hlength⟩ := readChanges_of_sound hlaws h hb hc _ (fun _ hname => hname) 0
  have hlimit : (compareReports arith b c).categoryChanges.length ≤ maxReportCategories := by
    rw [hchanges, hlength, List.length_map]
    exact hb.categoryLimit
  refine bind_eq_ok.mpr ⟨(), require_true (decide_eq_true ?_) _, ?_⟩
  · exact congrArg Json.bool hcomparable
  refine bind_eq_ok.mpr ⟨_, checkedDigest_sha hb.digest _, ?_⟩
  refine bind_eq_ok.mpr ⟨_, safeShortText_merged hb.modelName _, ?_⟩
  refine bind_eq_ok.mpr ⟨_, safeShortText_merged hc.modelName _, ?_⟩
  refine bind_eq_ok.mpr ⟨_, finiteNumber_percentage hpb _, ?_⟩
  refine bind_eq_ok.mpr ⟨_, finiteNumber_percentage hpc _, ?_⟩
  refine bind_eq_ok.mpr ⟨_, finiteNumber_float hchange (fun hno => by cases hno) _, ?_⟩
  refine bind_eq_ok.mpr ⟨_, readRelative_of_finite hrelative, ?_⟩
  refine bind_eq_ok.mpr ⟨(), require_true (decide_eq_true ?_) _, ?_⟩
  · exact congrArg (optionalJson Json.str) hreason
  refine bind_eq_ok.mpr ⟨(), require_true ?_ _, ?_⟩
  · have hself : eqvOption (compareReports arith b c).relativeChangePercent
        (relativeChange arith (arith.change c.accuracyPercent b.accuracyPercent) b.accuracyPercent) = true :=
      eqvOption_self hrelative
    simp only [PyFloat.eqv_self hpb.finite, PyFloat.eqv_self hpc.finite, PyFloat.eqv_self hchange, hself, decide_true,
      Bool.and_self]
  refine bind_eq_ok.mpr ⟨_, checkedList_fits (decide_eq_true (by rw [List.length_map]; exact hlimit)) _, ?_⟩
  refine bind_eq_ok.mpr ⟨(), require_true (sameCategories_of_sound h hb hc) _, ?_⟩
  refine bind_eq_ok.mpr ⟨(), require_true ?_ _, ?_⟩
  · rw [keys_metricsByCategory hb, List.all_eq_true]
    intro name hname
    obtain ⟨mb, _, mc, _, _, _, htotal, hgetb, hgetc⟩ := h.metrics hb hc hname
    simp only [sameTotal, hgetb, hgetc, Option.map_some, htotal, decide_true]
  rw [sharedCategories_of_sound h hb hc]
  refine bind_eq_ok.mpr ⟨(compareReports arith b c).categoryChanges, ?_, ?_⟩
  · rw [hchanges]
    exact hreads
  refine bind_eq_ok.mpr ⟨(), require_true (decide_eq_true ?_) _, ?_⟩
  · rw [List.length_map, hchanges, hlength]
  · exact congrArg Except.ok (ComparisonReport.of_comparable hcomparable hreason)

/-! ## The control plane -/

theorem ge_zero {x : PyFloat} (hfinite : x.isFinite = true) (hnonneg : x.ltZero = false) : x.ge 0 0 = true := by
  cases x with
  | finite neg m e =>
    cases neg with
    | false => simp [PyFloat.ge, PyFloat.decimalLe]
    | true =>
      have hm : m = 0 := by simpa [PyFloat.ltZero] using hnonneg
      simp [PyFloat.ge, hm]
  | inf neg => cases hfinite
  | nan => cases hfinite

theorem isPercent_percentage {x : PyFloat} (h : IsPercentage x) : isPercent x = true := by
  rw [isPercent, ge_zero h.finite h.nonneg, h.le]
  rfl

theorem countsAgree_of_percent (hlaws : arith.Lawful) {total correct invalid : Nat} (hpos : 1 ≤ total)
    (hlimit : total ≤ maxDatasetRecords) (hcounts : correct + invalid ≤ total) :
    countsAgree arith total correct invalid (arith.percent correct total) = true := by
  have hpercent := hlaws.percent hpos (show correct ≤ total by omega)
  have hbounds : 1 ≤ total ∧ total ≤ maxDatasetRecords ∧ correct ≤ total ∧ invalid ≤ total ∧ correct + invalid ≤ total := by
    omega
  simp only [countsAgree, decide_eq_true hbounds, isPercent_percentage hpercent, hlaws.apart hpercent.finite, Bool.not_false,
    Bool.and_self]

theorem CategoryMetric.Sound.valid (hlaws : arith.Lawful) {m : CategoryMetric} {total : Nat} (h : m.Sound arith total)
    (hlimit : total ≤ maxDatasetRecords) : m.valid arith = true := by
  have htotal := h.total
  rw [CategoryMetric.valid, isStrictText_of_merged h.category, h.accuracy,
    countsAgree_of_percent hlaws h.positive (by omega) h.counts]
  rfl

theorem EvaluationReport.Sound.valid (hlaws : arith.Lawful) {r : EvaluationReport} (h : r.Sound arith) :
    r.toMetricSummary.valid arith = true := by
  have htemplate : (decide (r.template = py "base") || decide (r.template = py "instruct")) = true := by
    simpa using h.template
  have hcategories : r.categories.all (·.valid arith) = true :=
    List.all_eq_true.mpr fun m hm => (h.categories m hm).valid hlaws h.total
  have hcounts : countsAgree arith r.total r.correct r.invalid r.accuracyPercent = true := by
    rw [h.accuracy]
    exact countsAgree_of_percent hlaws h.positive h.total h.counts
  simp only [MetricSummary.valid, h.digest, isStrictText_of_merged h.modelName, htemplate, hcounts,
    ge_zero h.latency.1 h.latency.2, decide_eq_true (And.intro h.someCategory h.categoryLimit), hcategories,
    decide_eq_true h.names, h.sums, Bool.and_self]

/-- The changes are those of the categories, in their order. -/
theorem categoryChange_of_mem {b c : EvaluationReport} (h : SameSamples b c) (hb : b.Sound arith) (hc : c.Sound arith)
    {change : CategoryChange} (hmem : change ∈ (compareReports arith b c).categoryChanges) :
    ∃ mb ∈ b.categories, ∃ mc ∈ c.categories,
      change = ⟨mb.category, mb.accuracyPercent, mc.accuracyPercent, arith.change mc.accuracyPercent mb.accuracyPercent⟩ ∧
      accuracyOf b.toMetricSummary mb.category = mb.accuracyPercent ∧
      accuracyOf c.toMetricSummary mb.category = mc.accuracyPercent := by
  rw [categoryChanges_of_sound h hb hc, List.mem_filterMap] at hmem
  obtain ⟨name, hname, hchange⟩ := hmem
  obtain ⟨mb, hmb, mc, hmc, rfl, -, -, hgetb, hgetc⟩ := h.metrics hb hc hname
  have heq : change = ⟨mb.category, mb.accuracyPercent, mc.accuracyPercent,
      arith.change mc.accuracyPercent mb.accuracyPercent⟩ := by
    simpa [categoryChange, hgetb, hgetc] using hchange.symm
  exact ⟨mb, hmb, mc, hmc, heq, by rw [accuracyOf, hgetb]; rfl, by rw [accuracyOf, hgetc]; rfl⟩

theorem changeNames_of_sound {b c : EvaluationReport} (h : SameSamples b c) (hb : b.Sound arith) (hc : c.Sound arith) :
    (compareReports arith b c).categoryChanges.map CategoryChange.category = b.categories.map CategoryMetric.category := by
  rw [categoryChanges_of_sound h hb hc]
  have hmap : ∀ names : List PyStr, (∀ name ∈ names, name ∈ b.categories.map CategoryMetric.category) →
      (names.filterMap (categoryChange arith b.toMetricSummary c.toMetricSummary)).map CategoryChange.category = names := by
    intro names hnames
    induction names with
    | nil => rfl
    | cons name names ih =>
      obtain ⟨mb, _, mc, _, _, _, _, hgetb, hgetc⟩ := h.metrics hb hc (hnames name List.mem_cons_self)
      have hchange : categoryChange arith b.toMetricSummary c.toMetricSummary name =
          some ⟨name, mb.accuracyPercent, mc.accuracyPercent, arith.change mc.accuracyPercent mb.accuracyPercent⟩ := by
        simp [categoryChange, hgetb, hgetc]
      rw [List.filterMap_cons_some hchange, List.map_cons, ih fun name' hname' => hnames name' (List.mem_cons_of_mem _ hname')]
  exact hmap _ fun _ hname => hname

theorem CategoryMetric.Sound.percentage (hlaws : arith.Lawful) {m : CategoryMetric} {total : Nat} (h : m.Sound arith total) :
    IsPercentage m.accuracyPercent := by
  rw [h.accuracy]
  exact hlaws.percent h.positive (by have := h.counts; omega)

theorem relativeAgrees_self (hlaws : arith.Lawful) {o : Option PyFloat} (h : ∀ x ∈ o, x.isFinite = true) :
    relativeAgrees arith o o = true := by
  cases o with
  | none => rfl
  | some x => simp [relativeAgrees, hlaws.apart (h x rfl)]

theorem comparison_valid (hlaws : arith.Lawful) {b c : EvaluationReport} (h : SameSamples b c) (hb : b.Sound arith)
    (hc : c.Sound arith) : (compareReports arith b c).valid arith = true := by
  have hpb := percentage_of_sound hlaws hb
  have hpc := percentage_of_sound hlaws hc
  obtain ⟨hchange, hpoint⟩ := hlaws.change hpc hpb
  have hnames := @changeNames_of_sound arith b c h hb hc
  have hlength : (compareReports arith b c).categoryChanges.length = b.categories.length := by
    simpa using congrArg List.length hnames
  have hlimits : 1 ≤ (compareReports arith b c).categoryChanges.length ∧
      (compareReports arith b c).categoryChanges.length ≤ maxReportCategories := by
    rw [hlength]
    exact ⟨hb.someCategory, hb.categoryLimit⟩
  have hvalid : (compareReports arith b c).categoryChanges.all (·.valid arith) = true := by
    refine List.all_eq_true.mpr fun change hmem => ?_
    obtain ⟨mb, hmb, mc, hmc, rfl, -, -⟩ := categoryChange_of_mem h hb hc hmem
    have hmpb := (hb.categories mb hmb).percentage hlaws
    have hmpc := (hc.categories mc hmc).percentage hlaws
    obtain ⟨hfinite, hrange⟩ := hlaws.change hmpc hmpb
    simp only [CategoryChange.valid, isStrictText_of_merged (hb.categories mb hmb).category, isPercent_percentage hmpb,
      isPercent_percentage hmpc, hrange, hlaws.apart hfinite, Bool.not_false, Bool.and_self]
  have hrelative : relativeAgrees arith (compareReports arith b c).relativeChangePercent
      (relativeChange arith (arith.change c.accuracyPercent b.accuracyPercent) b.accuracyPercent) = true :=
    relativeAgrees_self hlaws fun x hx => relativeChange_finite hlaws hb hpoint hx
  have hnodup : ((compareReports arith b c).categoryChanges.map CategoryChange.category).Nodup := by
    rw [hnames]
    exact hb.names
  rw [ComparisonReport.valid, hvalid, decide_eq_true hlimits, decide_eq_true hnodup]
  have hbaseline : (compareReports arith b c).baselinePercent = b.accuracyPercent := rfl
  have hcandidate : (compareReports arith b c).candidatePercent = c.accuracyPercent := rfl
  have hdelta : (compareReports arith b c).percentagePointChange = arith.change c.accuracyPercent b.accuracyPercent := rfl
  rw [hbaseline, hcandidate, hdelta, hrelative, isPercent_percentage hpb, isPercent_percentage hpc, hpoint,
    hlaws.apart hchange, show (compareReports arith b c).datasetSha256 = b.datasetSha256 from rfl, hb.digest,
    show (compareReports arith b c).baselineModel = b.modelName from rfl, isStrictText_of_merged hb.modelName,
    show (compareReports arith b c).candidateModel = c.modelName from rfl, isStrictText_of_merged hc.modelName]
  rfl

theorem sameNames_self (xs : List PyStr) : sameNames xs xs = true := by
  simp [sameNames]

theorem consistent_of_sound (hlaws : arith.Lawful) {b c : EvaluationReport} (h : SameSamples b c) (hb : b.Sound arith)
    (hc : c.Sound arith) (hbaseline : b.modelName = py "baseline") (hcandidate : c.modelName = py "candidate")
    (resultPath manifestPath : PyStr) :
    EvaluationMetadata.consistent ⟨⟨b.toMetricSummary, c.toMetricSummary, compareReports arith b c, resultPath,
      warningsOf b.toMetricSummary c.toMetricSummary⟩, manifestPath⟩ = true := by
  have hpb := percentage_of_sound hlaws hb
  have hpc := percentage_of_sound hlaws hc
  have hchanges : (compareReports arith b c).categoryChanges.all (fun change =>
      change.baselinePercent.eqv (accuracyOf b.toMetricSummary change.category) &&
        change.candidatePercent.eqv (accuracyOf c.toMetricSummary change.category)) = true := by
    refine List.all_eq_true.mpr fun change hmem => ?_
    obtain ⟨mb, hmb, mc, hmc, rfl, haccb, haccc⟩ := categoryChange_of_mem h hb hc hmem
    simp only [haccb, haccc, PyFloat.eqv_self ((hb.categories mb hmb).percentage hlaws).finite,
      PyFloat.eqv_self ((hc.categories mc hmc).percentage hlaws).finite, Bool.and_self]
  simp only [EvaluationMetadata.consistent, hchanges, @changeNames_of_sound arith b c h hb hc, h.names, sameNames_self,
    decide_eq_true hbaseline, decide_eq_true hcandidate, Bool.and_true, Bool.true_and]
  simp only [compareReports, PyFloat.eqv_self hpb.finite, PyFloat.eqv_self hpc.finite, decide_true, Bool.and_self]

/-! ## The dictionary is read back -/

theorem strictNat?_natCast (n : Nat) : strictNat? (.int n) = some n := by
  simp [strictNat?, strictInt?]

theorem strictFloat?_finite {x : PyFloat} (h : x.isFinite = true) : strictFloat? (.float x) = some x := if_pos h

theorem parseCategoryMetric?_asDict {m : CategoryMetric} (h : m.accuracyPercent.isFinite = true) :
    parseCategoryMetric? m.asDict = some m := by
  rw [parseCategoryMetric?]
  refine bind_eq_some.mpr ⟨_, strictFields?_of_keys rfl, ?_⟩
  refine bind_eq_some.mpr ⟨m.category, rfl, ?_⟩
  refine bind_eq_some.mpr ⟨m.total, strictNat?_natCast m.total, ?_⟩
  refine bind_eq_some.mpr ⟨m.correct, strictNat?_natCast m.correct, ?_⟩
  refine bind_eq_some.mpr ⟨m.invalid, strictNat?_natCast m.invalid, ?_⟩
  exact bind_eq_some.mpr ⟨m.accuracyPercent, strictFloat?_finite h, rfl⟩

theorem parseMetricSummary?_entries {m : MetricSummary} (haccuracy : m.accuracyPercent.isFinite = true)
    (hlatency : m.averageLatencyMs.isFinite = true) (hcategories : ∀ c ∈ m.categories, c.accuracyPercent.isFinite = true) :
    parseMetricSummary? (.obj m.entries) = some m := by
  rw [parseMetricSummary?]
  refine bind_eq_some.mpr ⟨_, strictFields?_of_keys rfl, ?_⟩
  refine bind_eq_some.mpr ⟨m.datasetSha256, rfl, ?_⟩
  refine bind_eq_some.mpr ⟨m.modelName, rfl, ?_⟩
  refine bind_eq_some.mpr ⟨m.template, rfl, ?_⟩
  refine bind_eq_some.mpr ⟨m.total, strictNat?_natCast m.total, ?_⟩
  refine bind_eq_some.mpr ⟨m.correct, strictNat?_natCast m.correct, ?_⟩
  refine bind_eq_some.mpr ⟨m.invalid, strictNat?_natCast m.invalid, ?_⟩
  refine bind_eq_some.mpr ⟨m.accuracyPercent, strictFloat?_finite haccuracy, ?_⟩
  refine bind_eq_some.mpr ⟨m.averageLatencyMs, strictFloat?_finite hlatency, ?_⟩
  refine bind_eq_some.mpr ⟨m.categories, ?_, rfl⟩
  exact mapM_of_map fun c hc => parseCategoryMetric?_asDict (hcategories c hc)

theorem parseCategoryChange?_asDict {c : CategoryChange} (hbaseline : c.baselinePercent.isFinite = true)
    (hcandidate : c.candidatePercent.isFinite = true) (hchange : c.percentagePointChange.isFinite = true) :
    parseCategoryChange? c.asDict = some c := by
  rw [parseCategoryChange?]
  refine bind_eq_some.mpr ⟨_, strictFields?_of_keys rfl, ?_⟩
  refine bind_eq_some.mpr ⟨c.category, rfl, ?_⟩
  refine bind_eq_some.mpr ⟨c.baselinePercent, strictFloat?_finite hbaseline, ?_⟩
  refine bind_eq_some.mpr ⟨c.candidatePercent, strictFloat?_finite hcandidate, ?_⟩
  exact bind_eq_some.mpr ⟨c.percentagePointChange, strictFloat?_finite hchange, rfl⟩

theorem strictFloatOrNone?_finite {o : Option PyFloat} (h : ∀ x ∈ o, x.isFinite = true) :
    strictFloatOrNone? (optionalJson Json.float o) = some o := by
  cases o with
  | none => rfl
  | some x => simp [optionalJson, strictFloatOrNone?, strictFloat?_finite (h x rfl)]

theorem parseComparison?_asDict (hlaws : arith.Lawful) {b c : EvaluationReport} (h : SameSamples b c)
    (hb : b.Sound arith) (hc : c.Sound arith) :
    parseComparison? (compareReports arith b c).asDict = some (compareReports arith b c) := by
  have hpb := percentage_of_sound hlaws hb
  have hpc := percentage_of_sound hlaws hc
  obtain ⟨hchange, hpoint⟩ := hlaws.change hpc hpb
  obtain ⟨hcomparable, hreason⟩ := @compareReports_of_same arith b c h
  rw [parseComparison?]
  refine bind_eq_some.mpr ⟨_, strictFields?_of_keys rfl, ?_⟩
  refine bind_eq_some.mpr ⟨b.datasetSha256, rfl, ?_⟩
  refine bind_eq_some.mpr ⟨b.modelName, rfl, ?_⟩
  refine bind_eq_some.mpr ⟨c.modelName, rfl, ?_⟩
  refine bind_eq_some.mpr ⟨b.accuracyPercent, strictFloat?_finite hpb.finite, ?_⟩
  refine bind_eq_some.mpr ⟨c.accuracyPercent, strictFloat?_finite hpc.finite, ?_⟩
  refine bind_eq_some.mpr ⟨_, strictFloat?_finite hchange, ?_⟩
  refine bind_eq_some.mpr ⟨_, strictFloatOrNone?_finite fun x hx => relativeChange_finite hlaws hb hpoint hx, ?_⟩
  refine bind_eq_some.mpr ⟨true, congrArg (fun p => strictTrue? (.bool p)) hcomparable, ?_⟩
  refine bind_eq_some.mpr ⟨none, congrArg (fun o => strictNone? (optionalJson Json.str o)) hreason, ?_⟩
  refine bind_eq_some.mpr ⟨(compareReports arith b c).categoryChanges, mapM_of_map fun change hmem => ?_,
    congrArg some (ComparisonReport.of_comparable hcomparable hreason)⟩
  obtain ⟨mb, hmb, mc, hmc, rfl, -, -⟩ := categoryChange_of_mem h hb hc hmem
  have hmpb := (hb.categories mb hmb).percentage hlaws
  have hmpc := (hc.categories mc hmc).percentage hlaws
  exact parseCategoryChange?_asDict hmpb.finite hmpc.finite (hlaws.change hmpc hmpb).1

theorem parseMetadata?_toDict {m : EvaluationMetadata} (hb : parseMetricSummary? (.obj m.baseline.entries) = some m.baseline)
    (hc : parseMetricSummary? (.obj m.candidate.entries) = some m.candidate)
    (hcomparison : parseComparison? m.comparison.asDict = some m.comparison) : parseMetadata? m.toDict = some m := by
  obtain ⟨⟨baseline, candidate, comparison, resultPath, warnings⟩, manifestPath⟩ := m
  have hwarnings : (warnings.map Json.str).mapM strictStr? = some warnings := mapM_of_map fun _ _ => rfl
  have hmetrics : strictFields? ["baseline", "candidate"]
      (.obj [(py "baseline", .obj baseline.entries), (py "candidate", .obj candidate.entries)]) = some _ :=
    strictFields?_of_keys rfl
  rw [parseMetadata?]
  cases warnings with
  | nil =>
    have hnames : ["metrics", "comparison", "result_path", "dataset_manifest_path"].map py ⊆
        ["metrics", "comparison", "result_path", "dataset_manifest_path", "warnings"].map py := by decide
    refine bind_eq_some.mpr ⟨_, strictFields?_of_subset hnames, ?_⟩
    refine bind_eq_some.mpr ⟨_, requiredField_of_get? rfl hmetrics, ?_⟩
    refine bind_eq_some.mpr ⟨baseline, requiredField_of_get? rfl hb, ?_⟩
    refine bind_eq_some.mpr ⟨candidate, requiredField_of_get? rfl hc, ?_⟩
    refine bind_eq_some.mpr ⟨comparison, requiredField_of_get? rfl hcomparison, ?_⟩
    refine bind_eq_some.mpr ⟨resultPath, rfl, bind_eq_some.mpr ⟨manifestPath, rfl, ?_⟩⟩
    exact bind_eq_some.mpr ⟨[], rfl, rfl⟩
  | cons warning warnings =>
    have hnames : ["metrics", "comparison", "result_path", "warnings", "dataset_manifest_path"].map py ⊆
        ["metrics", "comparison", "result_path", "dataset_manifest_path", "warnings"].map py := by decide
    refine bind_eq_some.mpr ⟨_, strictFields?_of_subset hnames, ?_⟩
    refine bind_eq_some.mpr ⟨_, requiredField_of_get? rfl hmetrics, ?_⟩
    refine bind_eq_some.mpr ⟨baseline, requiredField_of_get? rfl hb, ?_⟩
    refine bind_eq_some.mpr ⟨candidate, requiredField_of_get? rfl hc, ?_⟩
    refine bind_eq_some.mpr ⟨comparison, requiredField_of_get? rfl hcomparison, ?_⟩
    refine bind_eq_some.mpr ⟨resultPath, rfl, bind_eq_some.mpr ⟨manifestPath, rfl, ?_⟩⟩
    exact bind_eq_some.mpr ⟨warning :: warnings, hwarnings, rfl⟩

/-- The metadata of two sound reports on the same samples is accepted. -/
theorem modelValidate_of_sound (hlaws : arith.Lawful) {b c : EvaluationReport} (h : SameSamples b c) (hb : b.Sound arith)
    (hc : c.Sound arith) (hbaseline : b.modelName = py "baseline") (hcandidate : c.modelName = py "candidate")
    {resultPath manifestPath : PyStr} (hresult : isStrictText resultPath 1024 = true)
    (hmanifest : isStrictText manifestPath 1024 = true) :
    (EvaluationSuccessMetadata.modelValidate arith (EvaluationMetadata.toDict
      ⟨⟨b.toMetricSummary, c.toMetricSummary, compareReports arith b c, resultPath,
        warningsOf b.toMetricSummary c.toMetricSummary⟩, manifestPath⟩)).isSome = true := by
  have hmetrics : ∀ {r : EvaluationReport}, r.Sound arith → parseMetricSummary? (.obj r.entries) = some r.toMetricSummary :=
    fun hr => parseMetricSummary?_entries (percentage_of_sound hlaws hr).finite hr.latency.1
      fun m hm => ((hr.categories m hm).percentage hlaws).finite
  have hparse := @parseMetadata?_toDict ⟨⟨b.toMetricSummary, c.toMetricSummary, compareReports arith b c, resultPath,
    warningsOf b.toMetricSummary c.toMetricSummary⟩, manifestPath⟩ (hmetrics hb) (hmetrics hc)
    (parseComparison?_asDict hlaws h hb hc)
  have hwarnings : (warningsOf b.toMetricSummary c.toMetricSummary).length ≤ 2 ∧
      (warningsOf b.toMetricSummary c.toMetricSummary).all (fun w =>
        w = py "baseline_all_outputs_invalid" || w = py "candidate_all_outputs_invalid") = true := by
    unfold warningsOf
    split <;> split <;> decide
  have hvalid : EvaluationMetadata.valid arith ⟨⟨b.toMetricSummary, c.toMetricSummary, compareReports arith b c, resultPath,
      warningsOf b.toMetricSummary c.toMetricSummary⟩, manifestPath⟩ = true := by
    simp only [EvaluationMetadata.valid, hb.valid hlaws, hc.valid hlaws, comparison_valid hlaws h hb hc, hresult, hmanifest,
      decide_eq_true hwarnings.1, hwarnings.2, decide_eq_true h.digest, decide_eq_true h.total,
      consistent_of_sound hlaws h hb hc hbaseline hcandidate, Bool.and_self]
  exact modelValidate_isSome arith hparse hvalid

/-- What is expected of the reports. -/
structure ExpectedReport.Matches (expected : ExpectedReport) (b c : EvaluationReport) : Prop where
  datasetSha256 : ∀ d ∈ expected.datasetSha256, b.datasetSha256 = d
  total : ∀ n ∈ expected.total, b.total = n
  baseTemplate : ∀ t ∈ expected.baseTemplate, b.template = t
  candidateTemplate : ∀ t ∈ expected.candidateTemplate, c.template = t

theorem all_of_forall {α : Type} {o : Option α} {p : α → Bool} (h : ∀ a ∈ o, p a = true) : o.all p = true := by
  cases o with
  | none => rfl
  | some a => exact h a rfl

theorem pairMetadata_of_sound (hlaws : arith.Lawful) {b c : EvaluationReport} (h : SameSamples b c) (hb : b.Sound arith)
    (hc : c.Sound arith) (hbaseline : b.modelName = py "baseline") (hcandidate : c.modelName = py "candidate")
    {expected : ExpectedReport} (hexpected : expected.Matches b c) (resultPath : PyStr) :
    pairMetadata arith expected resultPath (compareReports arith b c).asDict b c =
      .ok ⟨b.toMetricSummary, c.toMetricSummary, compareReports arith b c, resultPath,
        warningsOf b.toMetricSummary c.toMetricSummary⟩ := by
  have hnames : (decide (b.modelName = py "baseline") && decide (c.modelName = py "candidate")) = true := by
    rw [decide_eq_true hbaseline, decide_eq_true hcandidate]
    rfl
  refine bind_eq_ok.mpr ⟨(), require_true hnames _, ?_⟩
  refine bind_eq_ok.mpr ⟨(), require_true (all_of_forall fun t ht => decide_eq_true (hexpected.baseTemplate t ht)) _, ?_⟩
  refine bind_eq_ok.mpr ⟨(), require_true (all_of_forall fun t ht => decide_eq_true (hexpected.candidateTemplate t ht)) _, ?_⟩
  refine bind_eq_ok.mpr ⟨_, comparisonSummary_of_sound hlaws h hb hc, ?_⟩
  refine bind_eq_ok.mpr ⟨(), require_true ?_ _, ?_⟩
  · rw [decide_eq_true h.digest, decide_eq_true h.total, Bool.and_true, Bool.true_and]
    exact decide_eq_true rfl
  refine bind_eq_ok.mpr ⟨(), require_true (decide_eq_true h.sampleIds) _, ?_⟩
  refine bind_eq_ok.mpr ⟨(), require_true (all_of_forall fun d hd => decide_eq_true (hexpected.datasetSha256 d hd)) _, ?_⟩
  exact bind_eq_ok.mpr ⟨(), require_true (all_of_forall fun n hn => decide_eq_true (hexpected.total n hn)) _, rfl⟩

/-! ## The file of a sound pair -/

theorem isReportText_merged {text : PyStr} (h : IsMergedText text) (hunicode : IsUnicode text) : IsReportText text := by
  have hsafe := h.safe
  simp only [isSafeText, Bool.and_eq_true, decide_eq_true_eq] at hsafe
  exact ⟨hunicode, h.encodable, hsafe.1.2⟩

theorem isReportText_sha {s : PyStr} (h : isSha256 s = true) : IsReportText s := by
  obtain ⟨hlength, hdigits⟩ := Bool.and_eq_true_iff.mp h
  refine isReportText_key (Bool.and_eq_true_iff.mpr ⟨List.all_eq_true.mpr fun c hc => ?_, ?_⟩)
  · have hdigit := List.all_eq_true.mp hdigits c hc
    simp only [isDigit, Bool.or_eq_true, Bool.and_eq_true, decide_eq_true_eq] at hdigit ⊢
    omega
  · have := of_decide_eq_true hlength
    exact decide_eq_true (by omega)

/-- The texts of a report that come from the dataset are of code points. -/
structure EvaluationReport.Unicode (r : EvaluationReport) : Prop where
  sampleIds : ∀ id ∈ r.sampleIds, IsUnicode id
  categories : ∀ m ∈ r.categories, IsUnicode m.category

theorem CategoryMetric.Sound.fits {h : JsonDecoder} {height : Nat} {m : CategoryMetric} {total : Nat}
    (hm : m.Sound arith total) (htotal : total ≤ maxDatasetRecords) (hunicode : IsUnicode m.category)
    (hnumber : KeepsNumber h m.accuracyPercent) : Fits h m.asDict 6 (height + 1) := by
  have hle : m.total ≤ 200000 := Nat.le_trans hm.total htotal
  have hcounts := hm.counts
  have hkeys : [py "category", py "total", py "correct", py "invalid", py "accuracy_percent"].Nodup := by decide
  refine Fits.of_eq (.obj hkeys <| .cons (by decide) (.str (isReportText_merged hm.category hunicode)) <|
    .cons (by decide) (.nat ?_) <| .cons (by decide) (.nat ?_) <| .cons (by decide) (.nat ?_) <|
    .cons (by decide) (.float hnumber) .nil) rfl
  all_goals omega

/-- The report counts itself and its members, six for each category and one for each id. -/
theorem EvaluationReport.Sound.fits {h : JsonDecoder} {height : Nat} {r : EvaluationReport} (hr : r.Sound arith)
    (hname : IsUnicode r.modelName) (hunicode : r.Unicode) (hnumbers : ∀ x ∈ r.numbers, KeepsNumber h x) :
    Fits h r.asDict (6 * r.categories.length + r.total + 11) (height + 3) := by
  obtain ⟨haccuracy, hrest⟩ := List.forall_mem_cons.mp hnumbers
  obtain ⟨hlatency, hcategories⟩ := List.forall_mem_cons.mp hrest
  have hle : r.total ≤ 200000 := hr.total
  have hcounts := hr.counts
  have htemplate : IsReportText r.template := by
    rcases hr.template with heq | heq <;> rw [heq] <;> exact isReportText_key (by decide)
  have hmetrics : ∀ m ∈ r.categories, Fits h m.asDict 6 (height + 1) := fun m hm =>
    (hr.categories m hm).fits hr.total (hunicode.categories m hm) (hcategories _ (List.mem_map_of_mem hm))
  have hids : ∀ id ∈ r.sampleIds, Fits h (.str id) 1 (height + 1) := fun id hid =>
    .str (isReportText_merged (hr.sampleIds id hid) (hunicode.sampleIds id hid))
  have hkeys : [py "dataset_sha256", py "model_name", py "template", py "total", py "correct", py "invalid",
      py "accuracy_percent", py "average_latency_ms", py "categories", py "sample_ids"].Nodup := by decide
  refine Fits.of_eq (.obj hkeys <| .cons (by decide) (.str (isReportText_sha hr.digest)) <|
    .cons (by decide) (.str (isReportText_merged hr.modelName hname)) <| .cons (by decide) (.str htemplate) <|
    .cons (by decide) (.nat ?_) <| .cons (by decide) (.nat ?_) <| .cons (by decide) (.nat ?_) <|
    .cons (by decide) (.float haccuracy) <| .cons (by decide) (.float hlatency) <|
    .cons (by decide) (.arr (.map hmetrics)) <| .cons (by decide) (.arr (.map hids)) .nil) ?_
  · omega
  · omega
  · omega
  · rw [hr.ids]
    omega

theorem CategoryChange.fits {h : JsonDecoder} {height : Nat} {change : CategoryChange}
    (hcategory : IsReportText change.category) (hnumbers : ∀ x ∈ change.numbers, KeepsNumber h x) :
    Fits h change.asDict 5 (height + 1) := by
  obtain ⟨hbaseline, hrest⟩ := List.forall_mem_cons.mp hnumbers
  obtain ⟨hcandidate, hrest⟩ := List.forall_mem_cons.mp hrest
  have hkeys : [py "category", py "baseline_percent", py "candidate_percent", py "percentage_point_change"].Nodup := by
    decide
  exact Fits.of_eq (.obj hkeys <| .cons (by decide) (.str hcategory) <| .cons (by decide) (.float hbaseline) <|
    .cons (by decide) (.float hcandidate) <|
    .cons (by decide) (.float (List.forall_mem_singleton.mp hrest)) .nil) rfl

/-- The comparison counts itself and its members, and five for each category. -/
theorem comparison_fits {h : JsonDecoder} {height : Nat} {b c : EvaluationReport} (hsame : SameSamples b c)
    (hb : b.Sound arith) (hc : c.Sound arith) (hbname : IsUnicode b.modelName) (hcname : IsUnicode c.modelName)
    (hunicode : b.Unicode) (hnumbers : ∀ x ∈ (compareReports arith b c).numbers, KeepsNumber h x) :
    Fits h (compareReports arith b c).asDict (5 * b.categories.length + 11) (height + 3) := by
  obtain ⟨hnumbers, hchanges⟩ := List.forall_mem_append.mp hnumbers
  obtain ⟨hpercents, hrelative⟩ := List.forall_mem_append.mp hnumbers
  obtain ⟨hbaseline, hrest⟩ := List.forall_mem_cons.mp hpercents
  obtain ⟨hcandidate, hrest⟩ := List.forall_mem_cons.mp hrest
  have hpoint := List.forall_mem_singleton.mp hrest
  have hrelative : Fits h (optionalJson Json.float (compareReports arith b c).relativeChangePercent) 1 (height + 2) := by
    cases hvalue : (compareReports arith b c).relativeChangePercent with
    | none => exact .null
    | some x => exact .float (hrelative x (by rw [hvalue]; exact List.mem_singleton_self x))
  have hreason : Fits h (optionalJson Json.str (compareReports arith b c).reason) 1 (height + 2) := by
    rw [(compareReports_of_same hsame).2]
    exact .null
  have hentries : ∀ change ∈ (compareReports arith b c).categoryChanges, Fits h change.asDict 5 (height + 1) := by
    intro change hchange
    obtain ⟨mb, hmb, mc, -, rfl, -, -⟩ := categoryChange_of_mem hsame hb hc hchange
    refine CategoryChange.fits ?_ fun x hx => hchanges x (List.mem_flatMap.mpr ⟨_, hchange, hx⟩)
    exact isReportText_merged (hb.categories mb hmb).category (hunicode.categories mb hmb)
  have hlength : (compareReports arith b c).categoryChanges.length = b.categories.length := by
    have := congrArg List.length (changeNames_of_sound hsame hb hc)
    simpa using this
  have hkeys : [py "dataset_sha256", py "baseline_model", py "candidate_model", py "baseline_percent",
      py "candidate_percent", py "percentage_point_change", py "relative_change_percent", py "comparable", py "reason",
      py "category_changes"].Nodup := by decide
  refine Fits.of_eq (.obj hkeys <| .cons (by decide) (.str (isReportText_sha hb.digest)) <|
    .cons (by decide) (.str (isReportText_merged hb.modelName hbname)) <|
    .cons (by decide) (.str (isReportText_merged hc.modelName hcname)) <|
    .cons (by decide) (.float hbaseline) <| .cons (by decide) (.float hcandidate) <|
    .cons (by decide) (.float hpoint) <| .cons (by decide) hrelative <| .cons (by decide) (.bool _) <|
    .cons (by decide) hreason <| .cons (by decide) (.arr (.map hentries)) .nil) ?_
  rw [hlength]
  omega

/-- The file of two sound reports on the same samples is read back. -/
theorem read_back_of_sound {float : PyStr → PyFloat} {b c : EvaluationReport} (hsame : SameSamples b c)
    (hb : b.Sound arith) (hc : c.Sound arith) (hbname : IsUnicode b.modelName) (hcname : IsUnicode c.modelName)
    (hunicode : b.Unicode) (hnumbers : ∀ x ∈ (comparedPair arith b c).numbers, KeepsNumber (.strict float) x) :
    ∃ raw, (comparedPair arith b c).bytes = some raw ∧
      loads (.strict float) raw = .ok (comparedPair arith b c).asDict ∧
      (raw.length ≤ maxReportBytes →
        readPair (loads (.strict float)) (some (.file raw)) =
          .ok ⟨b.asDict, c.asDict, (compareReports arith b c).asDict⟩) := by
  obtain ⟨hreports, hcomparison⟩ := List.forall_mem_append.mp hnumbers
  obtain ⟨hbNumbers, hcNumbers⟩ := List.forall_mem_append.mp hreports
  have hcUnicode : c.Unicode := by
    refine ⟨hsame.sampleIds ▸ hunicode.sampleIds, fun mc hmc => ?_⟩
    have hname : mc.category ∈ b.categories.map CategoryMetric.category := by
      rw [hsame.names]
      exact List.mem_map_of_mem hmc
    obtain ⟨mb, hmb, heq⟩ := List.mem_map.mp hname
    exact heq ▸ hunicode.categories mb hmb
  have hkeys : [py "baseline", py "candidate", py "comparison"].Nodup := by decide
  have hcategories : c.categories.length = b.categories.length := by
    have := congrArg List.length hsame.categories
    simpa using this.symm
  have hfits : Fits (.strict float) (comparedPair arith b c).asDict _ 32 :=
    .obj hkeys <| .cons (by decide) (hb.fits hbname hunicode hbNumbers) <|
      .cons (by decide) (hc.fits hcname hcUnicode hcNumbers) <|
      .cons (by decide) (comparison_fits hsame hb hc hbname hcname hunicode hcomparison) .nil
  have hbTotal : b.total ≤ 200000 := hb.total
  have hbLimit : b.categories.length ≤ 4096 := hb.categoryLimit
  have hcTotal := hsame.total
  exact PairReport.read_back hfits (show _ ≤ 600000 by omega)

/-! ## Results on the samples of a merged dataset -/

/-- The samples of a merged dataset. -/
structure MergedSamples (samples : List Sample) : Prop where
  nonempty : samples ≠ []
  records : samples.length ≤ maxDatasetRecords
  categories : (groupKeys Sample.category samples).length ≤ maxReportCategories
  distinct : (samples.map Sample.sampleId).Nodup
  ids : ∀ s ∈ samples, IsMergedText s.sampleId
  names : ∀ s ∈ samples, IsMergedText s.category

/-- A sample with the prediction of a model, and its latency. -/
structure Answered where
  sample : Sample
  prediction : PyStr
  latencyMs : PyFloat

def Answered.result (u : UnicodeData) (a : Answered) : SampleResult := scoreAnswer u a.sample a.prediction a.latencyMs

/-- The results score the samples, each once and in any order. -/
def Scores (u : UnicodeData) (samples : List Sample) (results : List SampleResult) : Prop :=
  ∃ answers : List Answered, answers.map Answered.sample = samples ∧ (answers.map (Answered.result u)).Perm results

section

variable {u : UnicodeData} {samples : List Sample} {results : List SampleResult}

theorem scoreAnswer_latency (s : Sample) (prediction : PyStr) (latencyMs : PyFloat) :
    (scoreAnswer u s prediction latencyMs).latencyMs.ltZero = false := by
  simp only [scoreAnswer]
  split
  · rename_i hpos
    cases latencyMs with
    | finite neg m e =>
      cases neg with
      | false => rfl
      | true => cases hpos
    | inf neg =>
      cases neg with
      | false => rfl
      | true => cases hpos
    | nan => rfl
  · rfl

theorem scoreAnswer_valid (s : Sample) (prediction : PyStr) (latencyMs : PyFloat)
    (h : (scoreAnswer u s prediction latencyMs).correct = true) : (scoreAnswer u s prediction latencyMs).valid = true := by
  simp only [scoreAnswer] at h ⊢
  obtain ⟨parsed, hparsed, -⟩ := (Option.any_eq_true _ _).mp h
  rw [hparsed, Option.isSome_some]

theorem Scores.forall {P : SampleResult → Prop} (h : Scores u samples results)
    (hP : ∀ s prediction latencyMs, P (scoreAnswer u s prediction latencyMs)) : ∀ r ∈ results, P r := by
  obtain ⟨answers, -, hperm⟩ := h
  intro r hr
  obtain ⟨a, -, rfl⟩ := List.mem_map.mp (hperm.mem_iff.mpr hr)
  exact hP a.sample a.prediction a.latencyMs

theorem Scores.validity (h : Scores u samples results) : ∀ r ∈ results, r.correct = true → r.valid = true :=
  h.forall (P := fun r => r.correct = true → r.valid = true) scoreAnswer_valid

theorem Scores.latency (h : Scores u samples results) : ∀ r ∈ results, r.latencyMs.ltZero = false :=
  h.forall (P := fun r => r.latencyMs.ltZero = false) scoreAnswer_latency

theorem Scores.keys {κ : Type} {f : SampleResult → κ} {g : Sample → κ} (h : Scores u samples results)
    (hf : ∀ s prediction latencyMs, f (scoreAnswer u s prediction latencyMs) = g s) :
    (results.map f).Perm (samples.map g) := by
  obtain ⟨answers, rfl, hperm⟩ := h
  have hmap : (answers.map (Answered.result u)).map f = (answers.map Answered.sample).map g := by
    rw [List.map_map, List.map_map]
    exact List.map_congr_left fun a _ => hf a.sample a.prediction a.latencyMs
  rw [← hmap]
  exact (hperm.map f).symm

/-- What is correct can be read. -/
theorem counts_le (h : ∀ r ∈ results, r.correct = true → r.valid = true) :
    countCorrect results + countInvalid results ≤ results.length := by
  induction results with
  | nil => exact Nat.le_refl 0
  | cons r results ih =>
    have hr := h r List.mem_cons_self
    have hrest := ih fun r' hr' => h r' (List.mem_cons_of_mem _ hr')
    simp only [countCorrect, countInvalid, List.map_cons, List.sum_cons, List.length_cons] at hrest ⊢
    cases hcorrect : r.correct with
    | false =>
      have := Bool.toNat_le (!r.valid)
      simp only [Bool.toNat_false]
      omega
    | true =>
      rw [hr hcorrect]
      simp only [Bool.toNat_true, Bool.not_true, Bool.toNat_false]
      omega

/-- The metric of a category of results that score samples with merged texts. -/
theorem categoryMetric_sound (hs : MergedSamples samples) (hr : Scores u samples results) {name : PyStr}
    (hname : name ∈ groupKeys SampleResult.category results) :
    (categoryMetric arith name (group SampleResult.category results name)).Sound arith results.length := by
  have hcategories : (results.map SampleResult.category).Perm (samples.map Sample.category) :=
    hr.keys fun _ _ _ => rfl
  have hitems : ∀ r ∈ group SampleResult.category results name, r.correct = true → r.valid = true :=
    fun r hmem => hr.validity r (List.mem_of_mem_filter hmem)
  have hpos : 1 ≤ (group SampleResult.category results name).length :=
    List.length_pos_of_ne_nil (group_ne_nil hname)
  obtain ⟨r, hmem, rfl⟩ := mem_groupKeys.mp hname
  obtain ⟨s, hsample, hcategory⟩ := List.mem_map.mp (hcategories.mem_iff.mp (List.mem_map_of_mem hmem))
  refine ⟨hcategory ▸ hs.names s hsample, hpos, List.length_filter_le _ _, counts_le hitems, ?_⟩
  exact if_neg (Nat.pos_iff_ne_zero.mp hpos)

/-- A report of results that score the samples of a merged dataset. -/
theorem sound_aggregateResults (hlaws : arith.Lawful) (hs : MergedSamples samples) (hr : Scores u samples results)
    {datasetSha256 modelName template : PyStr} (hsha : isSha256 datasetSha256 = true) (hmodel : IsMergedText modelName)
    (htemplate : template = py "base" ∨ template = py "instruct")
    (hlatency : (arith.average (results.map SampleResult.latencyMs)).isFinite = true) :
    ∃ report, aggregateResults arith results datasetSha256 modelName template = some report ∧ report.Sound arith ∧
      report.datasetSha256 = datasetSha256 ∧ report.modelName = modelName ∧ report.template = template ∧
      report.total = samples.length ∧
      report.sampleIds = (samples.map Sample.sampleId).insertionSort (· ≤ ·) ∧
      report.categories.map (fun m => (m.category, m.total)) =
        (groupKeys Sample.category samples).map fun name => (name, (group Sample.category samples name).length) := by
  have hcategories : (results.map SampleResult.category).Perm (samples.map Sample.category) :=
    hr.keys fun _ _ _ => rfl
  have hids : (results.map SampleResult.sampleId).Perm (samples.map Sample.sampleId) := hr.keys fun _ _ _ => rfl
  have hlength : results.length = samples.length := by simpa using hids.length_eq
  have hpos : 1 ≤ results.length := by
    rw [hlength]
    exact List.length_pos_of_ne_nil hs.nonempty
  have hne : results ≠ [] := List.ne_nil_of_length_pos hpos
  have hkeys : groupKeys SampleResult.category results = groupKeys Sample.category samples :=
    groupKeys_congr fun k => hcategories.mem_iff
  have hreport : aggregateResults arith results datasetSha256 modelName template = some _ := if_neg hne
  have hsorted : ((results.map SampleResult.sampleId).insertionSort (· ≤ ·)).Perm (samples.map Sample.sampleId) :=
    (List.perm_insertionSort _ _).trans hids
  refine ⟨_, hreport, ?_, rfl, rfl, rfl, hlength, insertionSort_of_perm hids, ?_⟩
  · have hnames : (((groupKeys SampleResult.category results).map fun name =>
        categoryMetric arith name (group SampleResult.category results name)).map CategoryMetric.category) =
        groupKeys SampleResult.category results := by
      rw [List.map_map]
      exact List.map_id _
    obtain ⟨htotals, hcorrects, hinvalids⟩ := sum_categories hreport
    exact {
      digest := hsha
      modelName := hmodel
      template := htemplate
      positive := hpos
      total := by rw [hlength]; exact hs.records
      counts := counts_le hr.validity
      accuracy := if_neg (by omega)
      latency := ⟨hlatency, hlaws.average fun x hx => by
        obtain ⟨r, hmem, rfl⟩ := List.mem_map.mp hx
        exact hr.latency r hmem⟩
      categories := fun m hm => by
        obtain ⟨name, hname, rfl⟩ := List.mem_map.mp hm
        exact categoryMetric_sound hs hr hname
      names := by rw [hnames]; exact nodup_groupKeys
      sorted := by rw [hnames]; exact sorted_groupKeys
      someCategory := by
        obtain ⟨r, hmem⟩ := List.exists_mem_of_ne_nil _ hne
        rw [List.length_map]
        exact List.length_pos_of_mem (mem_groupKeys.mpr ⟨r, hmem, rfl⟩)
      categoryLimit := by
        rw [List.length_map, hkeys]
        exact hs.categories
      sums := by
        simp only [sumsTo, decide_eq_true htotals, decide_eq_true hcorrects, decide_eq_true hinvalids, Bool.and_self]
      ids := by rw [List.length_insertionSort, List.length_map]
      distinct := hsorted.nodup_iff.mpr hs.distinct
      sampleIds := fun id hid => by
        obtain ⟨s, hmem, rfl⟩ := List.mem_map.mp (hsorted.mem_iff.mp hid)
        exact hs.ids s hmem }
  · rw [List.map_map, hkeys]
    exact List.map_congr_left fun name _ => Prod.ext rfl (length_group_of_perm hcategories name)

/-- What the three parties make of two reports. -/
structure PairAgrees (arith : Arithmetic) (b c : EvaluationReport) : Prop where
  baseline : metricSummary arith b.asDict (py "baseline") = .ok b
  candidate : metricSummary arith c.asDict (py "candidate") = .ok c
  comparison : comparisonSummary arith (compareReports arith b c).asDict b.toMetricSummary c.toMetricSummary =
    .ok (compareReports arith b c)
  /-- The metadata is derived, and accepted under paths that are within their limits. -/
  metadata : ∀ (expected : ExpectedReport) (resultPath manifestPath : PyStr), expected.Matches b c →
    isStrictText resultPath 1024 = true → isStrictText manifestPath 1024 = true →
    ∃ m : PairMetadata, pairMetadata arith expected resultPath (compareReports arith b c).asDict b c = .ok m ∧
      (EvaluationSuccessMetadata.modelValidate arith (EvaluationMetadata.toDict ⟨m, manifestPath⟩)).isSome = true
  /-- The agent finds the three values in the file, if texts are of code points and numbers keep their `repr`. -/
  file : ∀ float : PyStr → PyFloat, b.Unicode →
    (∀ x ∈ (comparedPair arith b c).numbers, KeepsNumber (.strict float) x) →
    ∃ raw, (comparedPair arith b c).bytes = some raw ∧
      loads (.strict float) raw = .ok (comparedPair arith b c).asDict ∧
      (raw.length ≤ maxReportBytes → ∀ expected resultPath,
        loadPairReportMetadata arith (loads (.strict float)) (some (.file raw)) expected resultPath =
          pairMetadata arith expected resultPath (compareReports arith b c).asDict b c)

/-- The counts of the categories of a report sum to its own. -/
structure SumsUp (report : EvaluationReport) : Prop where
  total : (report.categories.map CategoryMetric.total).sum = report.total
  correct : (report.categories.map CategoryMetric.correct).sum = report.correct
  invalid : (report.categories.map CategoryMetric.invalid).sum = report.invalid

/-- Whatever the order of the results, the report is the same up to its mean latency. -/
def OrderIndependent (arith : Arithmetic) (results : List SampleResult) (datasetSha256 modelName template : PyStr)
    (report : EvaluationReport) : Prop :=
  ∀ results' : List SampleResult, results.Perm results' →
    aggregateResults arith results' datasetSha256 modelName template =
      some { report with averageLatencyMs := arith.average (results'.map SampleResult.latencyMs) }

/-- The evaluation, the agent and the control plane agree on the pair of reports of any results that score the samples of
a merged dataset. -/
theorem pairReport_agrees (hlaws : arith.Lawful) (hs : MergedSamples samples)
    {baselineResults candidateResults : List SampleResult} (hb : Scores u samples baselineResults)
    (hc : Scores u samples candidateResults)
    (hbLatency : (arith.average (baselineResults.map SampleResult.latencyMs)).isFinite = true)
    (hcLatency : (arith.average (candidateResults.map SampleResult.latencyMs)).isFinite = true)
    {datasetSha256 : PyStr} (hsha : isSha256 datasetSha256 = true) {baseTemplate candidateTemplate : PyStr}
    (hbTemplate : baseTemplate = py "base" ∨ baseTemplate = py "instruct")
    (hcTemplate : candidateTemplate = py "base" ∨ candidateTemplate = py "instruct") :
    ∃ b c, aggregateResults arith baselineResults datasetSha256 (py "baseline") baseTemplate = some b ∧
      aggregateResults arith candidateResults datasetSha256 (py "candidate") candidateTemplate = some c ∧
      PairAgrees arith b c ∧ SumsUp b ∧ SumsUp c ∧
      OrderIndependent arith baselineResults datasetSha256 (py "baseline") baseTemplate b ∧
      OrderIndependent arith candidateResults datasetSha256 (py "candidate") candidateTemplate c := by
  have hname : ∀ name : PyStr, name = py "baseline" ∨ name = py "candidate" → IsMergedText name := by
    rintro name (rfl | rfl) <;> exact ⟨by decide, by decide, by decide⟩
  obtain ⟨b, hbReport, hbSound, hbSha, hbName, -, hbTotal, hbIds, hbCategories⟩ :=
    sound_aggregateResults hlaws hs hb hsha (hname _ (.inl rfl)) hbTemplate hbLatency
  obtain ⟨c, hcReport, hcSound, hcSha, hcName, -, hcTotal, hcIds, hcCategories⟩ :=
    sound_aggregateResults hlaws hs hc hsha (hname _ (.inr rfl)) hcTemplate hcLatency
  have hsame : SameSamples b c :=
    ⟨hbSha.trans hcSha.symm, hbTotal.trans hcTotal.symm, hbIds.trans hcIds.symm, hbCategories.trans hcCategories.symm⟩
  refine ⟨b, c, hbReport, hcReport, ?_, ?_, ?_, ?_, ?_⟩
  · have hbaseline := metricSummary_of_sound hlaws hbSound (py "baseline")
    have hcandidate := metricSummary_of_sound hlaws hcSound (py "candidate")
    refine ⟨hbaseline, hcandidate, comparisonSummary_of_sound hlaws hsame hbSound hcSound, ?_, ?_⟩
    · intro expected resultPath manifestPath hexpected hresult hmanifest
      exact ⟨_, pairMetadata_of_sound hlaws hsame hbSound hcSound hbName hcName hexpected resultPath,
        modelValidate_of_sound hlaws hsame hbSound hcSound hbName hcName hresult hmanifest⟩
    · intro float hunicode hnumbers
      have hbUnicode : IsUnicode b.modelName := hbName ▸ (isReportText_key (by decide)).unicode
      have hcUnicode : IsUnicode c.modelName := hcName ▸ (isReportText_key (by decide)).unicode
      obtain ⟨raw, hraw, hloads, hread⟩ :=
        read_back_of_sound hsame hbSound hcSound hbUnicode hcUnicode hunicode hnumbers
      refine ⟨raw, hraw, hloads, fun hlength expected resultPath => ?_⟩
      rw [loadPairReportMetadata, hread hlength]
      simp only [bind, Except.bind, hbaseline, hcandidate]
  · obtain ⟨htotal, hcorrect, hinvalid⟩ := sum_categories hbReport
    exact ⟨htotal, hcorrect, hinvalid⟩
  · obtain ⟨htotal, hcorrect, hinvalid⟩ := sum_categories hcReport
    exact ⟨htotal, hcorrect, hinvalid⟩
  · intro results' hperm
    rw [aggregateResults_perm hperm, hbReport, Option.map_some]
  · intro results' hperm
    rw [aggregateResults_perm hperm, hcReport, Option.map_some]

end

end

/-! ## An arithmetic -/

/-- `m · 10^e` in units of `10^-4`, rounded down. -/
def scaled : PyFloat → Nat
  | .finite _ m e => if -4 ≤ e then m * 10 ^ (e + 4).toNat else m / 10 ^ (-4 - e).toNat
  | _ => 0

/-- The difference of two numbers that are not negative, in units of `10^-4`. -/
def scaledChange (x y : PyFloat) : PyFloat :=
  .finite (scaled x < scaled y) (if scaled x < scaled y then scaled y - scaled x else scaled x - scaled y) (-4)

/-- Four decimal places, rounded down. -/
def fourPlaces : Arithmetic where
  ofInt n := some (.finite (n < 0) n.natAbs 0)
  percent n d := .finite false (n * 1000000 / d) (-4)
  change := scaledChange
  relative δ base := match δ with
    | .finite neg m e => .finite neg (scaled (.finite neg m e) * 1000000 / scaled base) (-4)
    | _ => .nan
  average xs := .finite false ((xs.map scaled).sum / xs.length) (-4)
  apart x y := !x.eqv y

theorem scaled_le {x : PyFloat} (h : IsPercentage x) : scaled x ≤ 1000000 := by
  cases x with
  | inf neg => cases h.finite
  | nan => cases h.finite
  | finite neg m e =>
    have hle := h.le
    have hneg : neg = true → m = 0 := by
      intro hneg
      simpa [PyFloat.ltZero, hneg] using h.nonneg
    simp only [PyFloat.le, PyFloat.decimalLe, Bool.or_eq_true] at hle
    cases neg with
    | true => simp [scaled, hneg rfl]
    | false =>
      simp only [Bool.false_eq_true, false_or] at hle
      simp only [scaled]
      split at hle
      · rename_i he
        have hm : m * 10 ^ (e - 0).toNat ≤ 100 := by simpa using hle
        rw [if_pos (by omega)]
        have hsplit : 10 ^ (e + 4).toNat = 10 ^ (e - 0).toNat * 10 ^ 4 := by
          rw [← pow_add]
          congr 1
          omega
        calc m * 10 ^ (e + 4).toNat = m * 10 ^ (e - 0).toNat * 10 ^ 4 := by rw [hsplit, Nat.mul_assoc]
          _ ≤ 100 * 10 ^ 4 := Nat.mul_le_mul_right _ hm
          _ = 1000000 := by decide
      · rename_i he
        have hm : m ≤ 100 * 10 ^ (0 - e).toNat := by simpa using hle
        split
        · have hsplit : 10 ^ (0 - e).toNat * 10 ^ (e + 4).toNat = 10 ^ 4 := by
            rw [← pow_add]
            congr 1
            omega
          calc m * 10 ^ (e + 4).toNat ≤ 100 * 10 ^ (0 - e).toNat * 10 ^ (e + 4).toNat := Nat.mul_le_mul_right _ hm
            _ = 100 * 10 ^ 4 := by rw [Nat.mul_assoc, hsplit]
            _ = 1000000 := by decide
        · have hsplit : 10 ^ (0 - e).toNat = 10 ^ 4 * 10 ^ (-4 - e).toNat := by
            rw [← pow_add]
            congr 1
            omega
          refine Nat.div_le_of_le_mul ?_
          calc m ≤ 100 * 10 ^ (0 - e).toNat := hm
            _ = 10 ^ (-4 - e).toNat * 1000000 := by
              rw [hsplit]
              generalize 10 ^ (-4 - e).toNat = p
              omega

theorem fourPlaces_lawful : fourPlaces.Lawful where
  percent := by
    intro c t ht hct
    refine ⟨rfl, rfl, ?_⟩
    have hle : c * 1000000 / t ≤ 1000000 := Nat.div_le_of_le_mul (Nat.mul_le_mul_right _ hct)
    simpa [fourPlaces, PyFloat.le, PyFloat.decimalLe] using hle
  change := by
    intro x y hx hy
    refine ⟨rfl, ?_⟩
    have hsx := scaled_le hx
    have hsy := scaled_le hy
    have hle : (if scaled x < scaled y then scaled y - scaled x else scaled x - scaled y) ≤ 1000000 := by
      split <;> omega
    simpa [fourPlaces, scaledChange, isPointChange, PyFloat.absLe, PyFloat.decimalLe] using hle
  relative := by
    intro δ c t hδ _ _ _ _
    cases δ with
    | finite neg m e => rfl
    | inf neg => cases hδ
    | nan => cases hδ
  average := fun _ => rfl
  apart := by
    intro x hx
    simp [fourPlaces, PyFloat.eqv_self hx]

/-- Two samples of a merged dataset, of two sources. -/
def examSample : Sample :=
  { choiceSample "A" "B" "A" with sampleId := py "exam:1", category := py "exam/default" }

def lawSample : Sample :=
  { choiceSample "A" "B" "B" with sampleId := py "law:1", category := py "law/default" }

/-- A sample, answered in an eighth of a second. -/
def answeredWith (sample : Sample) (prediction : String) : SampleResult :=
  Answered.result plainText ⟨sample, py prediction, .finite false 125 (-3)⟩

/-- The first is wrong. -/
def baselineAnswers : List SampleResult := [answeredWith examSample "B", answeredWith lawSample "B"]

/-- In another order; the first has no label. -/
def candidateAnswers : List SampleResult := [answeredWith lawSample "none", answeredWith examSample "A"]

/-- `float`, of what is the `repr` of one of the numbers. -/
def readBack (numbers : List PyFloat) (s : PyStr) : PyFloat := (numbers.find? fun x => x.repr = s).getD .nan

/-- The numbers of the pair of reports. -/
def pairNumbers : List PyFloat :=
  [.finite false 500000 (-4), .finite false 1250 (-4), .finite false 0 (-4), .finite false 1000000 (-4),
    .finite true 1000000 (-4)]

theorem pairNumbers_kept : ∀ x ∈ pairNumbers, KeepsNumber (.strict (readBack pairNumbers)) x := by
  intro x hx
  have hread : ∀ x ∈ pairNumbers, readBack pairNumbers x.repr = x := by decide +kernel
  refine ⟨?_, hread x hx⟩
  simp only [pairNumbers, List.mem_cons, List.not_mem_nil, or_false] at hx
  rcases hx with rfl | rfl | rfl | rfl | rfl <;> exact fun _ => by decide

theorem twoSamples_merged : MergedSamples [examSample, lawSample] where
  nonempty := List.cons_ne_nil _ _
  records := by decide
  categories := by decide
  distinct := by decide
  ids := by
    refine List.forall_mem_cons.mpr ⟨?_, List.forall_mem_singleton.mpr ?_⟩ <;>
      exact ⟨by decide +kernel, by decide +kernel, by decide +kernel⟩
  names := by
    refine List.forall_mem_cons.mpr ⟨?_, List.forall_mem_singleton.mpr ?_⟩ <;>
      exact ⟨by decide +kernel, by decide +kernel, by decide +kernel⟩

theorem sample_pair_agrees :
    ∃ b c raw,
      aggregateResults fourPlaces baselineAnswers (List.replicate 64 48) (py "baseline") (py "base") = some b ∧
      aggregateResults fourPlaces candidateAnswers (List.replicate 64 48) (py "candidate") (py "instruct") = some c ∧
      PairAgrees fourPlaces b c ∧ SumsUp b ∧ SumsUp c ∧
      OrderIndependent fourPlaces baselineAnswers (List.replicate 64 48) (py "baseline") (py "base") b ∧
      OrderIndependent fourPlaces candidateAnswers (List.replicate 64 48) (py "candidate") (py "instruct") c ∧
      (comparedPair fourPlaces b c).bytes = some raw ∧
      loads (.strict (readBack pairNumbers)) raw = .ok (comparedPair fourPlaces b c).asDict := by
  have hbaseline : Scores plainText [examSample, lawSample] baselineAnswers :=
    ⟨[⟨examSample, py "B", .finite false 125 (-3)⟩, ⟨lawSample, py "B", .finite false 125 (-3)⟩], rfl, .refl _⟩
  have hcandidate : Scores plainText [examSample, lawSample] candidateAnswers :=
    ⟨[⟨examSample, py "A", .finite false 125 (-3)⟩, ⟨lawSample, py "none", .finite false 125 (-3)⟩], rfl, .swap _ _ _⟩
  obtain ⟨b, c, hb, hc, hagrees, hbSums, hcSums, hbOrder, hcOrder⟩ :=
    pairReport_agrees fourPlaces_lawful twoSamples_merged hbaseline hcandidate rfl rfl
      (show isSha256 (List.replicate 64 48) = true by decide) (.inl rfl) (.inr rfl)
  have hunicode : (aggregateResults fourPlaces baselineAnswers (List.replicate 64 48) (py "baseline") (py "base")).all
      (fun b => b.sampleIds.all (·.all (· < 0x110000)) && b.categories.all (·.category.all (· < 0x110000))) = true := by
    decide +kernel
  have hnumbers : ((aggregateResults fourPlaces baselineAnswers (List.replicate 64 48) (py "baseline") (py "base")).bind
      fun b => (aggregateResults fourPlaces candidateAnswers (List.replicate 64 48) (py "candidate")
        (py "instruct")).map fun c => (comparedPair fourPlaces b c).numbers).all
      (fun xs => xs.all fun x => decide (x ∈ pairNumbers)) = true := by
    decide +kernel
  rw [hb] at hunicode hnumbers
  rw [Option.bind_some, hc] at hnumbers
  simp only [Option.all_some, Bool.and_eq_true, List.all_eq_true, decide_eq_true_eq, Option.map_some]
    at hunicode hnumbers
  obtain ⟨raw, hraw, hloads, -⟩ := hagrees.file (readBack pairNumbers) ⟨hunicode.1, hunicode.2⟩ fun x hx =>
    pairNumbers_kept x (hnumbers x hx)
  exact ⟨b, c, raw, hb, hc, hagrees, hbSums, hcSums, hbOrder, hcOrder, hraw, hloads⟩

end OpenLLMOps.Evaluation
