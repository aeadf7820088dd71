import OpenLLMOps.Evaluation.PairReport
import OpenLLMOps.Framework.Json.Sorted

/-!
# The file of the pair report

`pair-report.json` as the orchestrator writes it (`PairReport.bytes`), and what becomes of it: a pair of short texts, of
numbers that keep their `repr` and of not too many values is read back by the agent (`PairReport.read_back`).
-/

namespace OpenLLMOps.Evaluation

open Framework

/-- The reports, and what has changed from one to the other. -/
def comparedPair (arith : Arithmetic) (baseline candidate : EvaluationReport) : PairReport :=
  ⟨baseline, candidate, compareReports arith baseline candidate⟩

/-- `indent=2`; keys are not sorted. -/
def pairStyle : JsonStyle := ⟨py ",", py ": ", some 2, false, true⟩

/-- What is written to `pair-report.json`. -/
def PairReport.bytes (p : PairReport) : Option Bytes := do
  let text ← dumps pairStyle 0 p.asDict
  text.encode

theorem pairStyle_spaced : pairStyle.Spaced :=
  ⟨⟨[], rfl, List.forall_mem_nil _⟩, ⟨[32], rfl, List.forall_mem_singleton.mpr rfl⟩⟩

/-! ## Numbers -/

def EvaluationReport.numbers (r : EvaluationReport) : List PyFloat :=
  r.accuracyPercent :: r.averageLatencyMs :: r.categories.map CategoryMetric.accuracyPercent

def CategoryChange.numbers (c : CategoryChange) : List PyFloat :=
  [c.baselinePercent, c.candidatePercent, c.percentagePointChange]

def ComparisonReport.numbers (c : ComparisonReport) : List PyFloat :=
  [c.baselinePercent, c.candidatePercent, c.percentagePointChange] ++ c.relativeChangePercent.toList ++
    c.categoryChanges.flatMap CategoryChange.numbers

/-- The floats of the pair. -/
def PairReport.numbers (p : PairReport) : List PyFloat :=
  p.baseline.numbers ++ p.candidate.numbers ++ p.comparison.numbers

/-- The `repr` of a number is read back as the number. -/
def KeepsNumber (h : JsonDecoder) (x : PyFloat) : Prop := x.Proper ∧ h.float x.repr = x

/-! ## Values that fit -/

/-- A text that can be written, within the limit of keys. -/
structure IsReportText (s : PyStr) : Prop where
  unicode : IsUnicode s
  encodable : s.encodable = true
  short : s.length ≤ 256

/-- A value that is read back, and that counts as `nodes` values of at most `height` levels. -/
structure Fits (h : JsonDecoder) (v : Json) (nodes height : Nat) : Prop where
  readable : v.Readable h
  texts : v.EachString IsReportText
  bounded : ∀ depth counter, depth + height ≤ 32 → counter + nodes ≤ maxReportJsonNodes →
    boundedJsonTree depth counter v = .ok (counter + nodes)

structure FitsItems (h : JsonDecoder) (xs : List Json) (nodes height : Nat) : Prop where
  readable : Json.readableItems h xs
  texts : Json.eachItem IsReportText xs
  bounded : ∀ depth counter, depth + height ≤ 32 → counter + nodes ≤ maxReportJsonNodes →
    boundedItems depth counter xs = .ok (counter + nodes)

structure FitsEntries (h : JsonDecoder) (kvs : List (PyStr × Json)) (nodes height : Nat) : Prop where
  readable : Json.readableEntries h kvs
  texts : Json.eachEntry IsReportText kvs
  bounded : ∀ depth counter, depth + height ≤ 32 → counter + nodes ≤ maxReportJsonNodes →
    boundedEntries depth counter kvs = .ok (counter + nodes)

section

variable {h : JsonDecoder} {height : Nat}

theorem isReportText_key {s : PyStr} (hs : (s.all (fun c => 32 < c && c < 127) && decide (s.length ≤ 256)) = true) :
    IsReportText s := by
  obtain ⟨hgraphic, hshort⟩ := Bool.and_eq_true_iff.mp hs
  have hlow : ∀ c ∈ s, 32 < c ∧ c < 127 := by
    intro c hc
    simpa using List.all_eq_true.mp hgraphic c hc
  refine ⟨fun c hc => ?_, List.all_eq_true.mpr fun c hc => ?_, of_decide_eq_true hshort⟩
  · have := hlow c hc
    omega
  · have := hlow c hc
    simp only [PyStr.isSurrogate, Bool.not_eq_true', Bool.and_eq_false_iff, decide_eq_false_iff_not]
    omega

theorem boundedJsonTree_inside {depth counter nodes : Nat} (hdepth : depth + height ≤ 32)
    (hnodes : counter + (nodes + 1) ≤ maxReportJsonNodes) : ¬(maxReportJsonNodes < counter + 1 ∨ 32 < depth) := by
  omega

namespace Fits

theorem of_eq {v : Json} {nodes nodes' : Nat} (hv : Fits h v nodes height) (heq : nodes = nodes') :
    Fits h v nodes' height := heq ▸ hv

theorem str {s : PyStr} (hs : IsReportText s) : Fits h (.str s) 1 height where
  readable := trivial
  texts := hs
  bounded depth counter hdepth hnodes := by
    have := hs.short
    rw [boundedJsonTree, if_neg (boundedJsonTree_inside hdepth hnodes)]
    exact if_neg (by omega)

theorem null : Fits h .null 1 height where
  readable := trivial
  texts := trivial
  bounded depth counter hdepth hnodes := by rw [boundedJsonTree, if_neg (boundedJsonTree_inside hdepth hnodes)]

theorem bool (b : Bool) : Fits h (.bool b) 1 height where
  readable := trivial
  texts := trivial
  bounded depth counter hdepth hnodes := by rw [boundedJsonTree, if_neg (boundedJsonTree_inside hdepth hnodes)]

theorem nat {n : Nat} (hn : n < 10 ^ 20) : Fits h (.int n) 1 height where
  readable := by
    have hlength : (decimal n).length ≤ 20 := length_decimal_le hn
    show (decimal n).length ≤ 4300
    omega
  texts := trivial
  bounded depth counter hdepth hnodes := by rw [boundedJsonTree, if_neg (boundedJsonTree_inside hdepth hnodes)]

theorem float {x : PyFloat} (hx : KeepsNumber h x) : Fits h (.float x) 1 height where
  readable := hx
  texts := trivial
  bounded depth counter hdepth hnodes := by
    have hfinite : x.isFinite = true := by
      cases x with
      | finite neg m e => rfl
      | inf neg => exact hx.1.elim
      | nan => exact hx.1.elim
    rw [boundedJsonTree, if_neg (boundedJsonTree_inside hdepth hnodes)]
    exact if_pos hfinite

theorem arr {xs : List Json} {nodes : Nat} (hxs : FitsItems h xs nodes height) :
    Fits h (.arr xs) (nodes + 1) (height + 1) where
  readable := hxs.readable
  texts := hxs.texts
  bounded depth counter hdepth hnodes := by
    rw [boundedJsonTree, if_neg (boundedJsonTree_inside hdepth hnodes)]
    exact (hxs.bounded (depth + 1) (counter + 1) (by omega) (by omega)).trans (congrArg Except.ok (by omega))

theorem obj {kvs : List (PyStr × Json)} {nodes : Nat} (hn : (kvs.map Prod.fst).Nodup)
    (hkvs : FitsEntries h kvs nodes height) : Fits h (.obj kvs) (nodes + 1) (height + 1) where
  readable := ⟨hn, hkvs.readable⟩
  texts := hkvs.texts
  bounded depth counter hdepth hnodes := by
    rw [boundedJsonTree, if_neg (boundedJsonTree_inside hdepth hnodes)]
    exact (hkvs.bounded (depth + 1) (counter + 1) (by omega) (by omega)).trans (congrArg Except.ok (by omega))

end Fits

namespace FitsItems

theorem nil : FitsItems h [] 0 height where
  readable := trivial
  texts := trivial
  bounded depth counter _ _ := by rw [boundedItems, Nat.add_zero]

theorem cons {x : Json} {xs : List Json} {nodes rest : Nat} (hx : Fits h x nodes height)
    (hxs : FitsItems h xs rest height) : FitsItems h (x :: xs) (nodes + rest) height where
  readable := ⟨hx.readable, hxs.readable⟩
  texts := ⟨hx.texts, hxs.texts⟩
  bounded depth counter hdepth hnodes := by
    rw [boundedItems, hx.bounded depth counter hdepth (by omega)]
    exact (hxs.bounded depth (counter + nodes) hdepth (by omega)).trans (congrArg Except.ok (by omega))

/-- Items that count alike. -/
theorem map {α : Type} {f : α → Json} {nodes : Nat} {as : List α} (has : ∀ a ∈ as, Fits h (f a) nodes height) :
    FitsItems h (as.map f) (nodes * as.length) height := by
  induction as with
  | nil => exact nil
  | cons a as ih =>
    obtain ⟨ha, has⟩ := List.forall_mem_cons.mp has
    have hcons := cons ha (ih has)
    rwa [Nat.add_comm, ← Nat.mul_succ] at hcons

end FitsItems

namespace FitsEntries

theorem nil : FitsEntries h [] 0 height where
  readable := trivial
  texts := trivial
  bounded depth counter _ _ := by rw [boundedEntries, Nat.add_zero]

theorem cons {key : PyStr} {v : Json} {kvs : List (PyStr × Json)} {nodes rest : Nat}
    (hkey : (key.all (fun c => 32 < c && c < 127) && decide (key.length ≤ 256)) = true) (hv : Fits h v nodes height)
    (hkvs : FitsEntries h kvs rest height) : FitsEntries h ((key, v) :: kvs) (nodes + rest) height where
  readable := ⟨hv.readable, hkvs.readable⟩
  texts := ⟨isReportText_key hkey, hv.texts, hkvs.texts⟩
  bounded depth counter hdepth hnodes := by
    have hshort := (isReportText_key hkey).short
    rw [boundedEntries, if_neg (by omega), hv.bounded depth counter hdepth (by omega)]
    exact (hkvs.bounded depth (counter + nodes) hdepth (by omega)).trans (congrArg Except.ok (by omega))

end FitsEntries

/-! ## Reading the file -/

/-- The agent reads what the orchestrator has written. -/
theorem PairReport.read_back {float : PyStr → PyFloat} {p : PairReport} {nodes : Nat}
    (hp : Fits (.strict float) p.asDict nodes 32) (hnodes : nodes ≤ maxReportJsonNodes) :
    ∃ raw, p.bytes = some raw ∧ loads (.strict float) raw = .ok p.asDict ∧
      (raw.length ≤ maxReportBytes →
        readPair (loads (.strict float)) (some (.file raw)) =
          .ok ⟨p.baseline.asDict, p.candidate.asDict, p.comparison.asDict⟩) := by
  have hunicode : p.asDict.EachString IsUnicode := Json.eachString_mono (fun s hs => hs.unicode) _ hp.texts
  have hencodable : p.asDict.EachString fun s => s.encodable = true :=
    Json.eachString_mono (fun s hs => hs.encodable) _ hp.texts
  obtain ⟨text, raw, htext, hraw, hloads⟩ :=
    loads_unsorted pairStyle_spaced rfl (JsonDecoder.strict_keepsDistinct float) hp.readable hunicode hencodable
  refine ⟨raw, bind_eq_some.mpr ⟨text, htext, hraw⟩, hloads, fun hlength => ?_⟩
  have hne : 1 ≤ raw.length := by
    rcases raw with _ | ⟨b, raw⟩
    · cases hloads
    · exact Nat.succ_pos _
  have hbytes : reportBytes (some (.file raw)) = .ok raw := if_pos ⟨hne, hlength⟩
  have hjson : loadsJson (loads (.strict float)) raw = .ok p.asDict := by rw [loadsJson, hloads]
  have htree : boundedJsonTree 0 0 p.asDict = .ok (0 + nodes) := hp.bounded 0 0 (by omega) (by omega)
  refine bind_eq_ok.mpr ⟨raw, hbytes, bind_eq_ok.mpr ⟨p.asDict, hjson, bind_eq_ok.mpr ⟨_, htree, rfl⟩⟩⟩

end

end OpenLLMOps.Evaluation
