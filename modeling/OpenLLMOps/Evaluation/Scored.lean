import OpenLLMOps.Datasets.Loaders
import OpenLLMOps.Evaluation.Exact

/-!
# The merged data set is scored

The evaluation loads what the node has merged. `load_jsonl` loads a file exactly if its lines are short enough and have
samples with ids of their own (`loadJsonl_eq_ok`). It follows that the merged file is loaded exactly if the sources
are and no line has become too long, and that its samples are those of the sources in their order
(`merged_sources_are_scored`).
-/

namespace OpenLLMOps.Evaluation

open Framework Datasets

/-! ## Loading -/

/-- The libraries of a node, as the evaluation uses them. -/
def Node.library (node : Node) (describe : JsonError → Bytes → PyStr) : DatasetLibrary :=
  ⟨node.unicode, node.float, describe, node.sha256⟩

section

variable {library : DatasetLibrary}

/-- The sample of a line and its number. -/
def LineSample (library : DatasetLibrary) (line : Bytes × Nat) (s : Sample) : Prop :=
  ∃ row, loads (.plain library.float) line.1 = .ok (.obj row) ∧ parseRow library.unicode row line.2 = .ok s

theorem loadRow_eq_ok {line : Nat} {raw : Bytes} {row : Row} :
    loadRow library line raw = .ok row ↔ loads (.plain library.float) raw = .ok (.obj row) := by
  unfold loadRow
  split
  · rename_i hload
    simp [hload]
  · rename_i hload
    simp [hload, lineError]
  · rename_i hload
    simp [hload]
  · rename_i hno hload
    refine iff_of_false (by simp [lineError]) fun heq => ?_
    exact hno row (Except.ok.inj (hload.symm.trans heq))

theorem loadLine_eq_ok {done all : List Sample} {line : Nat} {raw : Bytes} :
    loadLine library done line raw = .ok all ↔ raw.length ≤ maxEvaluationLineBytes ∧
      (isBlank raw = true ∧ all = done ∨ isBlank raw = false ∧ ∃ s, LineSample library (raw, line) s ∧
        s.sampleId ∉ done.map Sample.sampleId ∧ all = done ++ [s]) := by
  unfold loadLine
  rw [lineError, ite_error_eq_ok, Nat.not_lt]
  refine and_congr_right fun _ => ?_
  cases hblank : isBlank raw with
  | true =>
    rw [if_pos rfl, Except.ok.injEq]
    simp [eq_comm]
  | false =>
    rw [if_neg Bool.false_ne_true]
    constructor
    · intro h
      obtain ⟨row, hrow, h⟩ := bind_eq_ok.mp h
      obtain ⟨s, hs, h⟩ := bind_eq_ok.mp h
      obtain ⟨hfresh, h⟩ := ite_error_eq_ok.mp h
      obtain rfl := Except.ok.inj h
      exact .inr ⟨rfl, s, ⟨row, loadRow_eq_ok.mp hrow, mapError_eq_ok.mp hs⟩, hfresh, rfl⟩
    · rintro (⟨hno, -⟩ | ⟨-, s, ⟨row, hrow, hs⟩, hfresh, rfl⟩)
      · contradiction
      · refine bind_eq_ok.mpr ⟨row, loadRow_eq_ok.mpr hrow, bind_eq_ok.mpr ⟨s, mapError_eq_ok.mpr hs, ?_⟩⟩
        exact if_neg hfresh

/-- The loop succeeds exactly if every line that is not blank has a sample, with an id of its own. -/
theorem loadLines_eq_ok {lines : List Bytes} {n : Nat} {done all : List Sample}
    (hdone : (done.map Sample.sampleId).Nodup) :
    loadLines library n done lines = .ok all ↔ (∀ raw ∈ lines, raw.length ≤ maxEvaluationLineBytes) ∧
      ∃ samples, List.Forall₂ (LineSample library) (recordLines n lines) samples ∧
        ((done ++ samples).map Sample.sampleId).Nodup ∧ all = done ++ samples := by
  induction lines generalizing n done with
  | nil =>
    constructor
    · intro h
      obtain rfl := Except.ok.inj h
      exact ⟨List.forall_mem_nil _, [], .nil, by rwa [List.append_nil], (List.append_nil _).symm⟩
    · rintro ⟨-, samples, hsamples, -, rfl⟩
      cases hsamples
      rw [List.append_nil]
      rfl
  | cons raw rest ih =>
    rw [loadLines, bind_eq_ok, List.forall_mem_cons, recordLines_cons]
    constructor
    · rintro ⟨next, hnext, hrest⟩
      obtain ⟨hshort, hline⟩ := loadLine_eq_ok.mp hnext
      rcases hline with ⟨hblank, rfl⟩ | ⟨hblank, s, hs, hfresh, rfl⟩
      · obtain ⟨hshorts, samples, hsamples, hids, rfl⟩ := (ih hdone).mp hrest
        rw [hblank, if_pos rfl]
        exact ⟨⟨hshort, hshorts⟩, samples, hsamples, hids, rfl⟩
      · have hdone' : ((done ++ [s]).map Sample.sampleId).Nodup := by
          rw [List.map_append, List.map_singleton]
          exact hdone.append (List.nodup_singleton _) (by simpa using hfresh)
        obtain ⟨hshorts, samples, hsamples, hids, rfl⟩ := (ih hdone').mp hrest
        rw [hblank, if_neg Bool.false_ne_true]
        rw [← List.append_cons] at hids
        exact ⟨⟨hshort, hshorts⟩, s :: samples, .cons hs hsamples, hids, (List.append_cons _ _ _).symm⟩
    · rintro ⟨⟨hshort, hshorts⟩, samples, hsamples, hids, rfl⟩
      cases hblank : isBlank raw with
      | true =>
        rw [hblank, if_pos rfl] at hsamples
        exact ⟨done, loadLine_eq_ok.mpr ⟨hshort, .inl ⟨hblank, rfl⟩⟩,
          (ih hdone).mpr ⟨hshorts, samples, hsamples, hids, rfl⟩⟩
      | false =>
        rw [hblank, if_neg Bool.false_ne_true] at hsamples
        cases hsamples with
        | @cons _ s _ samples hs hsamples =>
          rw [List.append_cons] at hids
          have hdone' : ((done ++ [s]).map Sample.sampleId).Nodup := by
            rw [List.map_append] at hids
            exact (List.nodup_append.mp hids).1
          have hfresh : s.sampleId ∉ done.map Sample.sampleId := by
            rw [List.map_append] at hdone'
            exact fun hmem => (List.nodup_append.mp hdone').2.2 _ hmem _ (List.mem_singleton_self _) rfl
          refine ⟨done ++ [s], loadLine_eq_ok.mpr ⟨hshort, .inr ⟨hblank, s, hs, hfresh, rfl⟩⟩, ?_⟩
          exact (ih hdone').mpr ⟨hshorts, samples, hsamples, hids, List.append_cons _ _ _⟩

/-- A file is loaded exactly if its lines are short enough and have samples with ids of their own. -/
theorem loadJsonl_eq_ok {content : Bytes} {samples : List Sample} {digest : PyStr} :
    loadJsonl library content = .ok (samples, digest) ↔
      (∀ raw ∈ lines content, raw.length ≤ maxEvaluationLineBytes) ∧
      List.Forall₂ (LineSample library) (recordLines 1 (lines content)) samples ∧
      (samples.map Sample.sampleId).Nodup ∧ samples ≠ [] ∧ digest = library.sha256 content := by
  have hnil : (([] : List Sample).map Sample.sampleId).Nodup := List.nodup_nil
  unfold loadJsonl
  rw [bind_eq_ok, lines_flatten]
  constructor
  · rintro ⟨all, hall, h⟩
    obtain ⟨hshort, found, hfound, hids, rfl⟩ := (loadLines_eq_ok hnil).mp hall
    obtain ⟨hne, h⟩ := ite_error_eq_ok.mp h
    obtain ⟨rfl, rfl⟩ := Prod.mk.inj (Except.ok.inj h)
    exact ⟨hshort, hfound, hids, hne, rfl⟩
  · rintro ⟨hshort, hsamples, hids, hne, rfl⟩
    exact ⟨samples, (loadLines_eq_ok hnil).mpr ⟨hshort, samples, hsamples, hids, rfl⟩, if_neg hne⟩

end

/-! ## The merged file is scored -/

section

variable {node : Node} {describe : JsonError → Bytes → PyStr} {name : PyStr} {r : MergedRecord}

/-- A line of a source and the line of its record. -/
theorem record_scored (hfloat : (JsonDecoder.strict node.float).ReadsFloats) (hname : isDatasetName name = true)
    {line : Bytes × Nat} (hline : LineRecord node name line r) (n : Nat) :
    (∀ s, LineSample (node.library describe) line s → ∃ s', LineSample (node.library describe) (r.line, n) s' ∧
      s'.sampleId = r.id ∧ ScoredAs node.unicode name s s') ∧
    ∀ s', LineSample (node.library describe) (r.line, n) s' → ∃ s, LineSample (node.library describe) line s ∧
      s'.sampleId = r.id ∧ ScoredAs node.unicode name s s' := by
  obtain ⟨row, hload, hr⟩ := hline
  have hloaded := loads_loaded (JsonDecoder.strict_makesDicts node.float) hload
  obtain ⟨metadata, hmetadata, -, -, hwritten⟩ := line_written hfloat (datasetName_unicode hname) hr hloaded
  obtain ⟨hforth, hback⟩ := @parseRow_written node name line.2 n row metadata r hname hr hloaded.1 hmetadata
  constructor
  · rintro s ⟨row', hrow', hs⟩
    obtain rfl := Json.obj.inj (Except.ok.inj ((loads_plain hload).symm.trans hrow'))
    obtain ⟨s', hs', hid, hscored⟩ := hforth s hs
    exact ⟨s', ⟨_, hwritten, hs'⟩, hid, hscored⟩
  · rintro s' ⟨row', hrow', hs'⟩
    obtain rfl := Json.obj.inj (Except.ok.inj (hwritten.symm.trans hrow'))
    obtain ⟨s, hs⟩ := hback s' hs'
    obtain ⟨s'', hs'', hid, hscored⟩ := hforth s hs
    obtain rfl := Except.ok.inj (hs''.symm.trans hs')
    exact ⟨s, ⟨row, loads_plain hload, hs⟩, hid, hscored⟩

theorem recordLines_records {rs : List MergedRecord} (h : ∀ r ∈ rs, isBlank r.line = false) (n : Nat) :
    recordLines n (rs.map MergedRecord.line) = (rs.map MergedRecord.line).zipIdx n := by
  induction rs generalizing n with
  | nil => rfl
  | cons r rs ih =>
    obtain ⟨hr, hrs⟩ := List.forall_mem_cons.mp h
    rw [List.map_cons, recordLines_cons, hr, if_neg Bool.false_ne_true, ih hrs, List.zipIdx_cons]

/-- The lines of a source and the lines of its records. -/
theorem source_scored (hfloat : (JsonDecoder.strict node.float).ReadsFloats) (hname : isDatasetName name = true)
    {ls : List (Bytes × Nat)} {rs : List MergedRecord} (h : List.Forall₂ (LineRecord node name) ls rs) (n : Nat) :
    (∀ samples, List.Forall₂ (LineSample (node.library describe)) ls samples →
      ∃ part, List.Forall₂ (LineSample (node.library describe)) ((rs.map MergedRecord.line).zipIdx n) part ∧
        part.map Sample.sampleId = rs.map MergedRecord.id ∧
        List.Forall₂ (ScoredAs node.unicode name) samples part) ∧
    ∀ part, List.Forall₂ (LineSample (node.library describe)) ((rs.map MergedRecord.line).zipIdx n) part →
      ∃ samples, List.Forall₂ (LineSample (node.library describe)) ls samples ∧
        part.map Sample.sampleId = rs.map MergedRecord.id ∧
        List.Forall₂ (ScoredAs node.unicode name) samples part := by
  induction h generalizing n with
  | nil =>
    constructor
    · intro samples h
      cases h
      exact ⟨[], .nil, rfl, .nil⟩
    · intro part h
      cases h
      exact ⟨[], .nil, rfl, .nil⟩
  | cons hline hlines ih =>
    obtain ⟨hforth, hback⟩ := @record_scored node describe name _ hfloat hname _ hline n
    obtain ⟨ihforth, ihback⟩ := ih (n + 1)
    rw [List.map_cons, List.zipIdx_cons, List.map_cons]
    constructor
    · intro samples h
      cases h with
      | cons hs hsamples =>
        obtain ⟨s', hs', hid, hscored⟩ := hforth _ hs
        obtain ⟨part, hpart, hids, hrest⟩ := ihforth _ hsamples
        exact ⟨s' :: part, .cons hs' hpart, by rw [List.map_cons, hid, hids], .cons hscored hrest⟩
    · intro part h
      cases h with
      | cons hs' hpart =>
        obtain ⟨s, hs, hid, hscored⟩ := hback _ hs'
        obtain ⟨samples, hsamples, hids, hrest⟩ := ihback _ hpart
        exact ⟨s :: samples, .cons hs hsamples, by rw [List.map_cons, hid, hids], .cons hscored hrest⟩

/-- The samples of a source, and what the evaluation reads of them in the merged file. -/
def ScoredSource (node : Node) (describe : JsonError → Bytes → PyStr) (m : MergedSource) (part : List Sample) :
    Prop :=
  ∃ samples digest, loadJsonl (node.library describe) m.file.content = .ok (samples, digest) ∧
    List.Forall₂ (ScoredAs node.unicode m.source.source.name) samples part

theorem scored_ids {samples part : List Sample} {u : UnicodeData} (h : List.Forall₂ (ScoredAs u name) samples part) :
    part.map Sample.sampleId = (samples.map Sample.sampleId).map (mergedId name) := by
  induction h with
  | nil => rfl
  | cons hs _ ih => rw [List.map_cons, hs.sampleId, ih, List.map_cons, List.map_cons]

theorem scoredSource_of_lines {m : MergedSource} (hm : Readable node m)
    (hids : (m.records.map MergedRecord.id).Nodup) {samples part : List Sample}
    (hsamples : List.Forall₂ (LineSample (node.library describe)) (recordLines 1 (lines m.file.content)) samples)
    (hpart : part.map Sample.sampleId = m.records.map MergedRecord.id)
    (hscored : List.Forall₂ (ScoredAs node.unicode m.source.source.name) samples part) :
    ScoredSource node describe m part := by
  refine ⟨samples, _, loadJsonl_eq_ok.mpr ⟨hm.lineBytes, hsamples, ?_, ?_, rfl⟩, hscored⟩
  · rw [← hpart, scored_ids hscored] at hids
    exact hids.of_map _
  · rintro rfl
    cases hscored
    exact hm.someRecord (List.map_eq_nil_iff.mp hpart.symm)

theorem forall₂_split {α β : Type} {R : α → β → Prop} {xs ys : List α} {zs : List β}
    (h : List.Forall₂ R (xs ++ ys) zs) :
    ∃ as bs, zs = as ++ bs ∧ List.Forall₂ R xs as ∧ List.Forall₂ R ys bs := by
  induction xs generalizing zs with
  | nil => exact ⟨[], zs, rfl, .nil, h⟩
  | cons x xs ih =>
    cases h with
    | cons hz hzs =>
      obtain ⟨as, bs, rfl, has, hbs⟩ := ih hzs
      exact ⟨_ :: as, bs, rfl, .cons hz has, hbs⟩

/-- The samples of the merged file are those of the sources, in their order. -/
theorem sources_scored (hfloat : (JsonDecoder.strict node.float).ReadsFloats) {ms : List MergedSource}
    (hms : ∀ m ∈ ms, Readable node m ∧ isDatasetName m.source.source.name = true)
    (hids : ((MergeState.recordsOf ms).map MergedRecord.id).Nodup) (n : Nat) :
    ((∀ m ∈ ms, ∃ loaded, loadJsonl (node.library describe) m.file.content = .ok loaded) →
      ∃ all, List.Forall₂ (LineSample (node.library describe))
        (((MergeState.recordsOf ms).map MergedRecord.line).zipIdx n) all) ∧
    ∀ all, List.Forall₂ (LineSample (node.library describe))
        (((MergeState.recordsOf ms).map MergedRecord.line).zipIdx n) all →
      all.map Sample.sampleId = (MergeState.recordsOf ms).map MergedRecord.id ∧
        ∃ parts : List (List Sample), all = parts.flatten ∧
          List.Forall₂ (ScoredSource node describe) ms parts := by
  induction ms generalizing n with
  | nil =>
    refine ⟨fun _ => ⟨[], .nil⟩, fun all h => ?_⟩
    cases h
    exact ⟨rfl, [], rfl, .nil⟩
  | cons m ms ih =>
    obtain ⟨⟨hm, hname⟩, hms⟩ := List.forall_mem_cons.mp hms
    have hrecords : MergeState.recordsOf (m :: ms) = m.records ++ MergeState.recordsOf ms := List.flatMap_cons
    rw [hrecords, List.map_append, List.nodup_append] at hids
    obtain ⟨ihforth, ihback⟩ := ih hms hids.2.1 (n + (m.records.map MergedRecord.line).length)
    obtain ⟨hforth, hback⟩ := @source_scored node describe _ hfloat hname _ _ hm.records n
    rw [hrecords, List.map_append, List.zipIdx_append, List.map_append]
    constructor
    · intro hloads
      obtain ⟨⟨loaded, hloaded⟩, hloads⟩ := List.forall_mem_cons.mp hloads
      obtain ⟨-, hsamples, -⟩ := loadJsonl_eq_ok.mp hloaded
      obtain ⟨part, hpart, -⟩ := hforth _ hsamples
      obtain ⟨rest, hrest⟩ := ihforth hloads
      exact ⟨part ++ rest, List.rel_append hpart hrest⟩
    · intro all h
      obtain ⟨part, rest, rfl, hpart, hrest⟩ := forall₂_split h
      obtain ⟨samples, hsamples, hpartIds, hscored⟩ := hback part hpart
      obtain ⟨hrestIds, parts, rfl, hparts⟩ := ihback rest hrest
      refine ⟨by rw [List.map_append, hpartIds, hrestIds], part :: parts, rfl, .cons ?_ hparts⟩
      exact scoredSource_of_lines hm hids.1 hsamples hpartIds hscored

/-- The evaluation loads the merged file exactly if it loads the sources and no line has become too long, and scores
the samples of the sources in their order. -/
theorem merged_sources_are_scored (node : Node) (describe : JsonError → Bytes → PyStr)
    (sources : List DatasetSource) (w : EvaluationWorkspace) (hfloat : (JsonDecoder.strict node.float).ReadsFloats)
    (hnames : ∀ s ∈ sources, isDatasetName s.name = true) (h : prepareEvaluationWorkspace node sources = .ok w) :
    ∃ ms, Merged node sources ms ∧
      ((∃ loaded, loadJsonl (node.library describe) w.dataset = .ok loaded) ↔
        (∀ m ∈ ms, ∃ loaded, loadJsonl (node.library describe) m.file.content = .ok loaded) ∧
          ∀ raw ∈ lines w.dataset, raw.length ≤ maxEvaluationLineBytes) ∧
      ∀ samples digest, loadJsonl (node.library describe) w.dataset = .ok (samples, digest) →
        digest = node.sha256 w.dataset ∧
        ∃ parts : List (List Sample), samples = parts.flatten ∧
          List.Forall₂ (ScoredSource node describe) ms parts := by
  obtain ⟨hsome, -, -, -, -, workspace, ms, -, hms, -, -, hdataset, -⟩ := prepareEvaluationWorkspace_eq_ok.mp h
  have hmerged : w.dataset = ((MergeState.recordsOf ms).map MergedRecord.line).flatten := by
    rw [hdataset, MergeState.merged_addSources]
    rfl
  have hids := MergeState.nodup_addSources hms.admits List.nodup_nil
  rw [MergeState.seenIds_addSources] at hids
  have hready : ∀ m ∈ ms, Readable node m ∧ isDatasetName m.source.source.name = true := by
    intro m hm
    have hmem : m.source.source ∈ sortSources sources := hms.sources ▸ List.mem_map_of_mem hm
    exact ⟨hms.readable m hm, hnames _ ((List.perm_insertionSort _ _).mem_iff.mp hmem)⟩
  have hline : ∀ r ∈ MergeState.recordsOf ms, 10 ∉ r.body ∧ isBlank r.line = false := by
    intro r hr
    obtain ⟨m, hm, hr⟩ := List.mem_flatMap.mp hr
    obtain ⟨i, hi, rfl⟩ := List.getElem_of_mem hr
    have hrecords := (hready m hm).1.records
    have hi' : i < (recordLines 1 (lines m.file.content)).length := by rwa [hrecords.length_eq]
    exact record_line hfloat (datasetName_unicode (hready m hm).2) (hrecords.get hi' hi)
  have hlines : lines w.dataset = (MergeState.recordsOf ms).map MergedRecord.line := by
    rw [hmerged]
    exact lines_records fun r hr => (hline r hr).1
  have hnumbered : recordLines 1 (lines w.dataset) = ((MergeState.recordsOf ms).map MergedRecord.line).zipIdx 1 := by
    rw [hlines]
    exact recordLines_records (fun r hr => (hline r hr).2) 1
  obtain ⟨hforth, hback⟩ := @sources_scored node describe hfloat ms hready hids 1
  rw [← hnumbered] at hforth hback
  refine ⟨ms, hms, ⟨?_, ?_⟩, ?_⟩
  · rintro ⟨⟨samples, digest⟩, hloaded⟩
    obtain ⟨hshort, hsamples, -⟩ := loadJsonl_eq_ok.mp hloaded
    obtain ⟨-, parts, -, hparts⟩ := hback samples hsamples
    refine ⟨fun m hm => ?_, hshort⟩
    obtain ⟨i, hi, rfl⟩ := List.getElem_of_mem hm
    obtain ⟨found, digest, hfound, -⟩ := hparts.get hi (by rwa [← hparts.length_eq])
    exact ⟨_, hfound⟩
  · rintro ⟨hloads, hshort⟩
    obtain ⟨all, hall⟩ := hforth hloads
    obtain ⟨hallIds, -⟩ := hback all hall
    refine ⟨_, loadJsonl_eq_ok.mpr ⟨hshort, hall, ?_, ?_, rfl⟩⟩
    · rw [hallIds]
      exact hids
    · rintro rfl
      have hrecords : MergeState.recordsOf ms = [] := List.map_eq_nil_iff.mp hallIds.symm
      obtain ⟨m, hm⟩ : ∃ m, m ∈ ms := by
        refine List.exists_mem_of_ne_nil _ fun hnil => hsome ?_
        have hlength := congrArg List.length hms.sources
        rw [hnil, sortSources, List.length_insertionSort] at hlength
        exact List.length_eq_zero_iff.mp hlength.symm
      obtain ⟨r, hr⟩ := List.exists_mem_of_ne_nil _ (hready m hm).1.someRecord
      have hmem : r ∈ MergeState.recordsOf ms := List.mem_flatMap.mpr ⟨m, hm, hr⟩
      rw [hrecords] at hmem
      contradiction
  · intro samples digest hloaded
    obtain ⟨-, hsamples, -, -, rfl⟩ := loadJsonl_eq_ok.mp hloaded
    exact ⟨rfl, (hback samples hsamples).2⟩

end

/-- `{"question":"q","choices":{"B":"b","A":"a"},"answer":"A"}`. -/
def twoChoices : Bytes :=
  (py "\x7b\"question\":\"q\",\"choices\":\x7b\"B\":\"b\",\"A\":\"a\"\x7d,\"answer\":\"A\"\x7d\n").map .ofNat

def twoSources : List DatasetSource := [⟨py "b", py "/data/b.jsonl"⟩, ⟨py "a", py "/data/a.jsonl"⟩]

/-- A node where every file has this question. -/
def choiceNode : Node := { plainNode with sourceFile := fun _ => some ⟨twoChoices, true, true, true⟩ }

theorem choiceNode_readsFloats : (JsonDecoder.strict choiceNode.float).ReadsFloats := by
  intro s hfinite
  have hnan : PyFloat.nan.isFinite = true := hfinite
  contradiction

/-- Two sources with one question each are scored. -/
theorem two_questions_are_scored :
    ∃ w, prepareEvaluationWorkspace choiceNode twoSources = .ok w ∧
      ∃ loaded, loadJsonl (choiceNode.library fun _ _ => []) w.dataset = .ok loaded := by
  have hshort : ((prepareEvaluationWorkspace choiceNode twoSources).toOption.map fun w =>
        (lines w.dataset).all fun raw => raw.length ≤ maxEvaluationLineBytes) = some true := by decide +kernel
  have hloads : (loadJsonl (choiceNode.library fun _ _ => []) twoChoices).toOption.isSome = true := by decide +kernel
  cases hw : prepareEvaluationWorkspace choiceNode twoSources with
  | error e =>
    rw [hw] at hshort
    obtain ⟨w, hnone, -⟩ := Option.map_eq_some_iff.mp hshort
    cases hnone
  | ok w =>
    rw [hw] at hshort
    have hlines : ∀ raw ∈ lines w.dataset, raw.length ≤ maxEvaluationLineBytes := by
      intro raw hraw
      exact of_decide_eq_true (List.all_eq_true.mp (Option.some.inj hshort) raw hraw)
    obtain ⟨ms, hms, hiff, -⟩ := merged_sources_are_scored choiceNode (fun _ _ => []) _ w choiceNode_readsFloats
      (by decide) hw
    refine ⟨w, rfl, hiff.mpr ⟨fun m hm => ?_, hlines⟩⟩
    have hfile : some ⟨twoChoices, true, true, true⟩ = some m.file := (hms.readable m hm).sourceFile
    rw [← Option.some.inj hfile]
    cases hloaded : loadJsonl (choiceNode.library fun _ _ => []) twoChoices with
    | error e =>
      rw [hloaded] at hloads
      exact absurd hloads Bool.false_ne_true
    | ok loaded => exact ⟨loaded, rfl⟩

end OpenLLMOps.Evaluation
