import Mathlib.Data.List.Forall2
import OpenLLMOps.Evaluation.Workspace
import OpenLLMOps.Framework.Lists

/-!
# Merging evaluation sources

When the loops of `prepare_evaluation_workspace` succeed: every line that is not blank gives a record
(`MergedRecord`, `RecordOf`), every record is admitted by what has been merged before (`Admits`), and the state
at the end is the one at the beginning with the records added (`mergeLines_eq_ok`, `mergeSources_ok`).

The order of the sources does not matter (`prepareEvaluationWorkspace_perm`).
-/

namespace OpenLLMOps.Evaluation

open Framework

/-- What is merged for a line. -/
structure MergedRecord where
  name : PyStr
  originalId : PyStr
  category : PyStr
  idBytes : Bytes
  body : Bytes

namespace MergedRecord

/-- The id in the merged file. -/
def id (r : MergedRecord) : PyStr := mergedId r.name r.originalId

/-- The category in the merged file. -/
def fullCategory (r : MergedRecord) : PyStr := mergedCategory r.name r.category

/-- The line in the merged file. -/
def line (r : MergedRecord) : Bytes := r.body ++ [10]

end MergedRecord

/-- The record of a row. -/
structure RecordOf (node : Node) (name : PyStr) (line : Nat) (row : List (PyStr × Json)) (r : MergedRecord) : Prop where
  name : r.name = name
  originalId : originalId node.unicode row line = .ok r.originalId
  category : originalCategory row = .ok r.category
  idBytes : encodeText r.id = .ok r.idBytes
  body : ∃ metadata, originalMetadata row = .ok metadata ∧
    canonicalJson (.obj (mergedRow r.name r.originalId r.category metadata row)) = .ok r.body

/-- The record of a line and its number. -/
def LineRecord (node : Node) (name : PyStr) (line : Bytes × Nat) (r : MergedRecord) : Prop :=
  ∃ row, loads (.strict node.float) line.1 = .ok (.obj row) ∧ RecordOf node name line.2 row r

namespace MergeState

/-- `seen_categories` with another one. -/
def withCategory (state : MergeState) (r : MergedRecord) : List PyStr :=
  if r.fullCategory ∈ state.seenCategories then state.seenCategories else state.seenCategories ++ [r.fullCategory]

/-- With a record. -/
def add (state : MergeState) (r : MergedRecord) : MergeState :=
  { state with
    seenIds := state.seenIds ++ [r.id], seenCategories := state.withCategory r,
    sampleIdBytes := state.sampleIdBytes + r.idBytes.length, totalRecords := state.totalRecords + 1,
    merged := state.merged ++ r.line }

/-- The record keeps within the limits, and its id is new. -/
structure Admits (state : MergeState) (r : MergedRecord) : Prop where
  fresh : r.id ∉ state.seenIds
  sampleIdBytes : state.sampleIdBytes + r.idBytes.length ≤ maxSampleIdBytes
  categories : (state.withCategory r).length ≤ maxMergedCategories
  records : state.totalRecords + 1 ≤ maxMergedRecords

/-- The records are admitted one after the other. -/
def AdmitsAll : MergeState → List MergedRecord → Prop
  | _, [] => True
  | state, r :: rs => state.Admits r ∧ (state.add r).AdmitsAll rs

/-- With these records. -/
def addAll (state : MergeState) (rs : List MergedRecord) : MergeState := rs.foldl add state

end MergeState

variable {node : Node} {name : PyStr}

/-! ## One line -/

theorem mergeRow_eq_ok {state state' : MergeState} {line : Nat} {row : List (PyStr × Json)} :
    mergeRow node name state line row = .ok state' ↔
      ∃ r, RecordOf node name line row r ∧ state.Admits r ∧ state' = state.add r := by
  constructor
  · intro h
    obtain ⟨originalId, hid, h⟩ := bind_eq_ok.mp h
    obtain ⟨hfresh, h⟩ := ite_error_eq_ok.mp h
    obtain ⟨idBytes, hbytes, h⟩ := bind_eq_ok.mp h
    obtain ⟨hlimit, h⟩ := ite_error_eq_ok.mp h
    obtain ⟨category, hcategory, h⟩ := bind_eq_ok.mp h
    obtain ⟨metadata, hmetadata, h⟩ := bind_eq_ok.mp h
    obtain ⟨hcategories, h⟩ := ite_error_eq_ok.mp h
    obtain ⟨body, hbody, h⟩ := bind_eq_ok.mp h
    obtain ⟨hrecords, h⟩ := ite_error_eq_ok.mp h
    refine ⟨⟨name, originalId, category, idBytes, body⟩, ⟨rfl, hid, hcategory, hbytes, metadata, hmetadata, hbody⟩,
      ⟨hfresh, Nat.le_of_not_lt hlimit, Nat.le_of_not_lt hcategories, Nat.le_of_not_lt hrecords⟩, ?_⟩
    exact (Except.ok.inj h).symm
  · rintro ⟨r, ⟨rfl, hid, hcategory, hbytes, metadata, hmetadata, hbody⟩, hadmits, rfl⟩
    refine bind_eq_ok.mpr ⟨_, hid, ite_error_eq_ok.mpr ⟨hadmits.fresh, bind_eq_ok.mpr ⟨_, hbytes, ?_⟩⟩⟩
    refine ite_error_eq_ok.mpr ⟨Nat.not_lt.mpr hadmits.sampleIdBytes, bind_eq_ok.mpr ⟨_, hcategory, ?_⟩⟩
    refine bind_eq_ok.mpr ⟨_, hmetadata, ite_error_eq_ok.mpr ⟨Nat.not_lt.mpr hadmits.categories, ?_⟩⟩
    exact bind_eq_ok.mpr ⟨_, hbody, ite_error_eq_ok.mpr ⟨Nat.not_lt.mpr hadmits.records, rfl⟩⟩

theorem loadsJson_eq_ok {decode : Bytes → Except JsonError Json} {raw : Bytes} {v : Json} :
    loadsJson decode raw = .ok v ↔ decode raw = .ok v := by
  unfold loadsJson
  constructor
  · intro h
    split at h
    · rename_i hdecode
      rw [hdecode, Except.ok.inj h]
    all_goals cases h
  · intro h
    rw [h]

/-- The state behind a blank line. -/
def SourceState.skip (s : SourceState) (raw : Bytes) : SourceState :=
  { s with lineNumber := s.lineNumber + 1, digested := s.digested ++ raw }

/-- The state behind a record. -/
def SourceState.add (s : SourceState) (raw : Bytes) (r : MergedRecord) : SourceState :=
  ⟨s.lineNumber + 1, s.sourceRecords + 1, s.digested ++ raw, s.state.add r⟩

theorem mergeLine_eq_ok {s s' : SourceState} {raw : Bytes} :
    mergeLine node name s raw = .ok s' ↔ raw.length ≤ maxDatasetLineBytes ∧
      (isBlank raw = true ∧ s' = s.skip raw ∨ isBlank raw = false ∧
        ∃ r, LineRecord node name (raw, s.lineNumber + 1) r ∧ s.state.Admits r ∧ s' = s.add raw r) := by
  unfold mergeLine
  rw [inputError, ite_error_eq_ok, Nat.not_lt]
  refine and_congr_right fun _ => ?_
  cases hblank : isBlank raw with
  | true =>
    rw [if_pos rfl, Except.ok.injEq]
    simp [SourceState.skip, eq_comm]
  | false =>
    rw [if_neg Bool.false_ne_true]
    constructor
    · intro h
      obtain ⟨value, hvalue, h⟩ := bind_eq_ok.mp h
      cases value with
      | obj row =>
        obtain ⟨state, hstate, h⟩ := bind_eq_ok.mp h
        obtain ⟨r, hrecord, hadmits, rfl⟩ := mergeRow_eq_ok.mp hstate
        exact .inr ⟨rfl, r, ⟨row, loadsJson_eq_ok.mp hvalue, hrecord⟩, hadmits, (Except.ok.inj h).symm⟩
      | _ => cases h
    · rintro (⟨hno, -⟩ | ⟨-, r, ⟨row, hload, hrecord⟩, hadmits, rfl⟩)
      · cases hno
      · refine bind_eq_ok.mpr ⟨.obj row, loadsJson_eq_ok.mpr hload, bind_eq_ok.mpr ⟨_, ?_, rfl⟩⟩
        exact mergeRow_eq_ok.mpr ⟨r, hrecord, hadmits, rfl⟩

/-! ## The lines of a source -/

/-- The lines of a source and their records, from the number `n` on. -/
def LineRecords (node : Node) (name : PyStr) (n : Nat) (lines : List Bytes) (rs : List MergedRecord) : Prop :=
  List.Forall₂ (LineRecord node name) (recordLines n lines) rs

theorem mergeLine_foldlM {lines : List Bytes} {s s' : SourceState} :
    lines.foldlM (mergeLine node name) s = .ok s' ↔ (∀ raw ∈ lines, raw.length ≤ maxDatasetLineBytes) ∧
      ∃ rs, LineRecords node name (s.lineNumber + 1) lines rs ∧ s.state.AdmitsAll rs ∧
        s' = ⟨s.lineNumber + lines.length, s.sourceRecords + rs.length, s.digested ++ lines.flatten,
          s.state.addAll rs⟩ := by
  induction lines generalizing s with
  | nil =>
    constructor
    · intro h
      obtain rfl := Except.ok.inj h
      exact ⟨nofun, [], .nil, trivial, by simp [MergeState.addAll]⟩
    · rintro ⟨-, rs, hrs, -, rfl⟩
      cases hrs
      simp [MergeState.addAll, Pure.pure, Except.pure]
  | cons raw rest ih =>
    rw [List.foldlM_cons, bind_eq_ok, List.forall_mem_cons]
    unfold LineRecords
    rw [recordLines_cons]
    constructor
    · rintro ⟨t, ht, hrest⟩
      obtain ⟨hshort, hline⟩ := mergeLine_eq_ok.mp ht
      obtain ⟨hshorts, rs, hrs, hadmits, rfl⟩ := ih.mp hrest
      refine ⟨⟨hshort, hshorts⟩, ?_⟩
      rcases hline with ⟨hblank, rfl⟩ | ⟨hblank, r, hrecord, hadmitted, rfl⟩
      · rw [hblank, if_pos rfl]
        refine ⟨rs, hrs, hadmits, ?_⟩
        simp [SourceState.skip, Nat.add_assoc, Nat.add_comm 1]
      · rw [hblank, if_neg Bool.false_ne_true]
        refine ⟨r :: rs, .cons hrecord hrs, ⟨hadmitted, hadmits⟩, ?_⟩
        simp [SourceState.add, MergeState.addAll, Nat.add_assoc, Nat.add_comm 1]
    · rintro ⟨⟨hshort, hshorts⟩, rs, hrs, hadmits, rfl⟩
      cases hblank : isBlank raw with
      | true =>
        rw [hblank, if_pos rfl] at hrs
        refine ⟨s.skip raw, mergeLine_eq_ok.mpr ⟨hshort, .inl ⟨hblank, rfl⟩⟩, ih.mpr ⟨hshorts, rs, hrs, hadmits, ?_⟩⟩
        simp [SourceState.skip, Nat.add_assoc, Nat.add_comm 1]
      | false =>
        rw [hblank, if_neg Bool.false_ne_true] at hrs
        cases hrs with
        | @cons _ r _ rs hrecord hrecords =>
          obtain ⟨hadmitted, hadmits⟩ := hadmits
          refine ⟨s.add raw r, mergeLine_eq_ok.mpr ⟨hshort, .inr ⟨hblank, r, hrecord, hadmitted, rfl⟩⟩,
            ih.mpr ⟨hshorts, rs, hrecords, hadmits, ?_⟩⟩
          simp [SourceState.add, MergeState.addAll, Nat.add_assoc, Nat.add_comm 1]

/-- The loop over a source succeeds if and only if its lines have records that are admitted. -/
theorem mergeLines_eq_ok {content : Bytes} {state : MergeState} {s : SourceState} :
    mergeLines node name content state = .ok s ↔ (∀ raw ∈ lines content, raw.length ≤ maxDatasetLineBytes) ∧
      ∃ rs, LineRecords node name 1 (lines content) rs ∧ state.AdmitsAll rs ∧
        s = ⟨(lines content).length, rs.length, content, state.addAll rs⟩ := by
  have hlong : ∀ s, ∃ e, ∀ raw : Bytes, maxDatasetLineBytes < raw.length → mergeLine node name s raw = .error e :=
    fun s => ⟨_, fun raw hraw => if_pos hraw⟩
  rw [mergeLines, readLines_eq hlong _ (Nat.lt_succ_self _), mergeLine_foldlM, lines_flatten]
  simp

/-! ## The sources -/

/-- A source that has been merged. -/
structure MergedSource where
  source : ResolvedSource
  file : SourceFile
  records : List MergedRecord
  preparedManifestPath : Option PyStr

/-- Its entry of the manifest. -/
def MergedSource.manifest (node : Node) (m : MergedSource) : SourceManifest :=
  ⟨m.source.source.name, m.source.path, node.sha256 m.file.content, m.file.content.length, m.records.length,
    m.preparedManifestPath⟩

/-- Its file and its records. -/
structure Readable (node : Node) (m : MergedSource) : Prop where
  sourceFile : node.sourceFile m.source.path = some m.file
  regular : m.file.regular = true
  readable : m.file.readable = true
  unchanged : m.file.unchanged = true
  nonempty : m.file.content ≠ []
  fileBytes : m.file.content.length ≤ maxDatasetFileBytes
  lineBytes : ∀ raw ∈ lines m.file.content, raw.length ≤ maxDatasetLineBytes
  records : LineRecords node m.source.source.name 1 (lines m.file.content) m.records
  someRecord : m.records ≠ []
  prepared : preparedManifestOf node m.source.path m.source.inEvaluationRoot (node.sha256 m.file.content)
    m.records.length = .ok m.preparedManifestPath

namespace MergeState

/-- With the bytes of a source. -/
def addBytes (state : MergeState) (m : MergedSource) : MergeState :=
  { state with totalBytes := state.totalBytes + m.file.content.length }

/-- With a source. -/
def addSource (state : MergeState) (m : MergedSource) : MergeState := (state.addBytes m).addAll m.records

/-- A source keeps within the limits. -/
structure AdmitsSource (state : MergeState) (m : MergedSource) : Prop where
  totalBytes : (state.addBytes m).totalBytes ≤ maxDatasetTotalBytes
  records : (state.addBytes m).AdmitsAll m.records

/-- The sources are admitted one after the other. -/
def AdmitsSources : MergeState → List MergedSource → Prop
  | _, [] => True
  | state, m :: ms => state.AdmitsSource m ∧ (state.addSource m).AdmitsSources ms

/-- With these sources. -/
def addSources (state : MergeState) (ms : List MergedSource) : MergeState := ms.foldl addSource state

end MergeState

theorem mergeSource_eq_ok {state state' : MergeState} {s : ResolvedSource} {manifest : SourceManifest} :
    mergeSource node state s = .ok (state', manifest) ↔ ∃ m : MergedSource, m.source = s ∧ Readable node m ∧
      state.AdmitsSource m ∧ state' = state.addSource m ∧ manifest = m.manifest node := by
  unfold mergeSource
  constructor
  · intro h
    split at h
    · cases h
    · rename_i file hfile
      obtain ⟨hregular, h⟩ := ite_error_eq_ok.mp h
      obtain ⟨hsize, h⟩ := ite_error_eq_ok.mp h
      obtain ⟨htotal, h⟩ := ite_error_eq_ok.mp h
      obtain ⟨hreadable, h⟩ := ite_error_eq_ok.mp h
      obtain ⟨merged, hmerged, h⟩ := bind_eq_ok.mp h
      obtain ⟨hshort, rs, hrecords, hadmits, rfl⟩ := mergeLines_eq_ok.mp hmerged
      obtain ⟨hunchanged, h⟩ := ite_error_eq_ok.mp h
      obtain ⟨hsome, h⟩ := ite_error_eq_ok.mp h
      obtain ⟨prepared, hprepared, h⟩ := bind_eq_ok.mp h
      obtain ⟨rfl, rfl⟩ := Prod.mk.injEq _ _ _ _ ▸ Except.ok.inj h
      rw [not_or, Nat.not_lt] at hsize
      refine ⟨⟨s, file, rs, prepared⟩, rfl, ⟨hfile, not_not.mp hregular, not_not.mp hreadable, not_not.mp hunchanged,
        hsize.1, hsize.2, hshort, hrecords, ?_, hprepared⟩, ⟨Nat.le_of_not_lt htotal, hadmits⟩, rfl, rfl⟩
      exact fun hnil => hsome (List.length_eq_zero_iff.mpr hnil)
  · rintro ⟨m, rfl, hm, hadmits, rfl, rfl⟩
    rw [hm.sourceFile]
    refine ite_error_eq_ok.mpr ⟨not_not.mpr hm.regular, ite_error_eq_ok.mpr ⟨?_, ite_error_eq_ok.mpr
      ⟨Nat.not_lt.mpr hadmits.totalBytes, ite_error_eq_ok.mpr ⟨not_not.mpr hm.readable, ?_⟩⟩⟩⟩
    · rw [not_or, Nat.not_lt]
      exact ⟨hm.nonempty, hm.fileBytes⟩
    · refine bind_eq_ok.mpr ⟨_, mergeLines_eq_ok.mpr ⟨hm.lineBytes, m.records, hm.records, hadmits.records, rfl⟩, ?_⟩
      refine ite_error_eq_ok.mpr ⟨not_not.mpr hm.unchanged, ite_error_eq_ok.mpr ⟨?_, ?_⟩⟩
      · exact fun hzero => hm.someRecord (List.length_eq_zero_iff.mp hzero)
      · exact bind_eq_ok.mpr ⟨_, hm.prepared, rfl⟩

theorem mergeSources_eq_ok {state state' : MergeState} {sources : List ResolvedSource} {manifests : List SourceManifest} :
    mergeSources node state sources = .ok (state', manifests) ↔ ∃ ms : List MergedSource,
      ms.map MergedSource.source = sources ∧ (∀ m ∈ ms, Readable node m) ∧ state.AdmitsSources ms ∧
      state' = state.addSources ms ∧ manifests = ms.map (MergedSource.manifest node) := by
  induction sources generalizing state manifests with
  | nil =>
    constructor
    · intro h
      obtain ⟨rfl, rfl⟩ := Prod.mk.injEq _ _ _ _ ▸ Except.ok.inj h
      exact ⟨[], rfl, nofun, trivial, rfl, rfl⟩
    · rintro ⟨ms, hms, -, -, rfl, rfl⟩
      obtain rfl := List.map_eq_nil_iff.mp hms
      rfl
  | cons s rest ih =>
    unfold mergeSources
    constructor
    · intro h
      obtain ⟨⟨state₁, manifest⟩, hfirst, h⟩ := bind_eq_ok.mp h
      obtain ⟨⟨state₂, manifests'⟩, hrest, h⟩ := bind_eq_ok.mp h
      obtain ⟨rfl, rfl⟩ := Prod.mk.injEq _ _ _ _ ▸ Except.ok.inj h
      obtain ⟨m, rfl, hm, hadmits, rfl, rfl⟩ := mergeSource_eq_ok.mp hfirst
      obtain ⟨ms, rfl, hms, hadmitsAll, rfl, rfl⟩ := ih.mp hrest
      exact ⟨m :: ms, rfl, List.forall_mem_cons.mpr ⟨hm, hms⟩, ⟨hadmits, hadmitsAll⟩, rfl, rfl⟩
    · rintro ⟨ms, hsources, hms, hadmits, rfl, rfl⟩
      cases ms with
      | nil => cases hsources
      | cons m ms =>
        obtain ⟨rfl, rfl⟩ := List.cons.inj hsources
        obtain ⟨hm, hms⟩ := List.forall_mem_cons.mp hms
        refine bind_eq_ok.mpr ⟨_, mergeSource_eq_ok.mpr ⟨m, rfl, hm, hadmits.1, rfl, rfl⟩, ?_⟩
        exact bind_eq_ok.mpr ⟨_, ih.mpr ⟨ms, rfl, hms, hadmits.2, rfl, rfl⟩, rfl⟩

/-! ## What has been merged -/

namespace MergeState

/-- The records of the sources. -/
def recordsOf (ms : List MergedSource) : List MergedRecord := ms.flatMap MergedSource.records

theorem merged_addAll (state : MergeState) (rs : List MergedRecord) :
    (state.addAll rs).merged = state.merged ++ (rs.map MergedRecord.line).flatten := by
  induction rs generalizing state with
  | nil => simp [addAll]
  | cons r rs ih =>
    show ((state.add r).addAll rs).merged = _
    rw [ih, List.map_cons, List.flatten_cons, ← List.append_assoc]
    rfl

theorem seenIds_addAll (state : MergeState) (rs : List MergedRecord) :
    (state.addAll rs).seenIds = state.seenIds ++ rs.map MergedRecord.id := by
  induction rs generalizing state with
  | nil => simp [addAll]
  | cons r rs ih =>
    show ((state.add r).addAll rs).seenIds = _
    rw [ih, List.map_cons, List.append_cons state.seenIds r.id]
    rfl

theorem totalRecords_addAll (state : MergeState) (rs : List MergedRecord) :
    (state.addAll rs).totalRecords = state.totalRecords + rs.length := by
  induction rs generalizing state with
  | nil => rfl
  | cons r rs ih =>
    show ((state.add r).addAll rs).totalRecords = _
    rw [ih, List.length_cons, Nat.add_comm rs.length 1, ← Nat.add_assoc]
    rfl

theorem nodup_addAll {state : MergeState} {rs : List MergedRecord} (h : state.AdmitsAll rs)
    (hids : state.seenIds.Nodup) : (state.addAll rs).seenIds.Nodup := by
  induction rs generalizing state with
  | nil => exact hids
  | cons r rs ih =>
    refine ih h.2 ?_
    show (state.seenIds ++ [r.id]).Nodup
    refine List.Nodup.append hids (List.nodup_singleton _) ?_
    simpa using h.1.fresh

theorem merged_addSources (state : MergeState) (ms : List MergedSource) :
    (state.addSources ms).merged = state.merged ++ ((recordsOf ms).map MergedRecord.line).flatten := by
  induction ms generalizing state with
  | nil => simp [addSources, recordsOf]
  | cons m ms ih =>
    show ((state.addSource m).addSources ms).merged = _
    rw [ih, addSource, merged_addAll]
    simp [recordsOf, addBytes]

theorem seenIds_addSources (state : MergeState) (ms : List MergedSource) :
    (state.addSources ms).seenIds = state.seenIds ++ (recordsOf ms).map MergedRecord.id := by
  induction ms generalizing state with
  | nil => simp [addSources, recordsOf]
  | cons m ms ih =>
    show ((state.addSource m).addSources ms).seenIds = _
    rw [ih, addSource, seenIds_addAll]
    simp [recordsOf, addBytes]

theorem totalRecords_addSources (state : MergeState) (ms : List MergedSource) :
    (state.addSources ms).totalRecords = state.totalRecords + (recordsOf ms).length := by
  induction ms generalizing state with
  | nil => rfl
  | cons m ms ih =>
    show ((state.addSource m).addSources ms).totalRecords = _
    rw [ih, addSource, totalRecords_addAll]
    simp [recordsOf, addBytes, Nat.add_assoc]

theorem nodup_addSources {state : MergeState} {ms : List MergedSource} (h : state.AdmitsSources ms)
    (hids : state.seenIds.Nodup) : (state.addSources ms).seenIds.Nodup := by
  induction ms generalizing state with
  | nil => exact hids
  | cons m ms ih => exact ih h.2 (nodup_addAll h.1.records hids)

end MergeState

/-! ## The workspace -/

/-- A source and what its path resolves to. -/
structure Resolves (node : Node) (s : ResolvedSource) : Prop where
  existingPath : node.existingPath s.source.path = .ok (s.path, s.inEvaluationRoot)
  jsonl : isJsonlPath s.path = true

theorem resolveSources_eq_ok {seenPaths : List PyStr} {sources : List DatasetSource} {resolved : List ResolvedSource} :
    resolveSources node seenPaths sources = .ok resolved ↔ resolved.map ResolvedSource.source = sources ∧
      (∀ s ∈ resolved, Resolves node s) ∧ (resolved.map ResolvedSource.path).Nodup ∧
      ∀ s ∈ resolved, s.path ∉ seenPaths := by
  induction sources generalizing seenPaths resolved with
  | nil =>
    constructor
    · intro h
      obtain rfl := Except.ok.inj h
      exact ⟨rfl, nofun, List.nodup_nil, nofun⟩
    · rintro ⟨h, -⟩
      rw [List.map_eq_nil_iff.mp h]
      rfl
  | cons source rest ih =>
    unfold resolveSources
    constructor
    · intro h
      obtain ⟨⟨path, inEvaluationRoot⟩, hpath, h⟩ := bind_eq_ok.mp h
      obtain ⟨hjsonl, h⟩ := ite_error_eq_ok.mp h
      obtain ⟨hnew, h⟩ := ite_error_eq_ok.mp h
      obtain ⟨resolved', hrest, h⟩ := bind_eq_ok.mp h
      obtain rfl := Except.ok.inj h
      obtain ⟨rfl, hall, hdistinct, hfresh⟩ := ih.mp hrest
      refine ⟨rfl, List.forall_mem_cons.mpr ⟨⟨hpath, not_not.mp hjsonl⟩, hall⟩, ?_, ?_⟩
      · rw [List.map_cons, List.nodup_cons]
        refine ⟨fun hmem => ?_, hdistinct⟩
        obtain ⟨s, hs, heq⟩ := List.mem_map.mp hmem
        exact hfresh s hs (heq ▸ List.mem_cons_self)
      · exact List.forall_mem_cons.mpr ⟨hnew, fun s hs hmem => hfresh s hs (List.mem_cons_of_mem _ hmem)⟩
    · rintro ⟨hsources, hall, hdistinct, hfresh⟩
      cases resolved with
      | nil => cases hsources
      | cons s resolved =>
        obtain ⟨rfl, rfl⟩ := List.cons.inj hsources
        obtain ⟨hs, hall⟩ := List.forall_mem_cons.mp hall
        obtain ⟨hnew, hfresh⟩ := List.forall_mem_cons.mp hfresh
        rw [List.map_cons, List.nodup_cons] at hdistinct
        refine bind_eq_ok.mpr ⟨_, hs.existingPath, ite_error_eq_ok.mpr ⟨not_not.mpr hs.jsonl,
          ite_error_eq_ok.mpr ⟨hnew, bind_eq_ok.mpr ⟨resolved, ih.mpr ⟨rfl, hall, hdistinct.2, ?_⟩, rfl⟩⟩⟩⟩
        intro s' hs' hmem
        rcases List.mem_cons.mp hmem with heq | hmem
        · exact hdistinct.1 (List.mem_map.mpr ⟨s', hs', heq⟩)
        · exact hfresh s' hs' hmem

theorem onlyInputError_eq_ok {α : Type} {r : Checked α} {a : α} : onlyInputError r = .ok a ↔ r = .ok a := by
  unfold onlyInputError
  constructor
  · intro h
    split at h
    · cases h
    · cases h
    · exact h
  · rintro rfl
    rfl

/-- The sources that have been merged, in their order. -/
structure Merged (node : Node) (sources : List DatasetSource) (ms : List MergedSource) : Prop where
  sources : (ms.map fun m => m.source.source) = sortSources sources
  resolves : ∀ m ∈ ms, Resolves node m.source
  distinctPaths : (ms.map fun m => m.source.path).Nodup
  readable : ∀ m ∈ ms, Readable node m
  admits : MergeState.start.AdmitsSources ms

/-- The manifest of the merged sources. -/
def manifestOf (node : Node) (datasetPath : PyStr) (ms : List MergedSource) : Json :=
  workspaceManifest node datasetPath (MergeState.start.addSources ms) (ms.map (MergedSource.manifest node))

/-- The workspace is prepared if and only if the sources are merged and the directories and manifests are there. -/
theorem prepareEvaluationWorkspace_eq_ok {sources : List DatasetSource} {w : EvaluationWorkspace} :
    prepareEvaluationWorkspace node sources = .ok w ↔
      sources ≠ [] ∧ sources.length ≤ maxDatasetFiles ∧ (sources.map DatasetSource.name).Nodup ∧
      node.writable = true ∧ node.outputDirectory = .ok w.outputPath ∧
      ∃ workspace ms, node.runtimeDirectory = .ok workspace ∧ Merged node sources ms ∧
        w.datasetPath = workspace ++ py "/evaluation.jsonl" ∧ w.manifestPath = workspace ++ py "/dataset-manifest.json" ∧
        w.dataset = (MergeState.start.addSources ms).merged ∧
        canonicalJson (manifestOf node w.datasetPath ms) = .ok w.manifest := by
  unfold prepareEvaluationWorkspace
  rw [inputError, ite_error_eq_ok, inputError, ite_error_eq_ok, not_or, Nat.not_lt, not_not, and_assoc]
  refine and_congr_right fun hsome => and_congr_right fun _ => and_congr_right fun _ => ?_
  constructor
  · intro h
    obtain ⟨outputPath, houtput, h⟩ := bind_eq_ok.mp h
    obtain ⟨workspace, hworkspace, h⟩ := bind_eq_ok.mp h
    obtain ⟨resolved, hresolved, h⟩ := bind_eq_ok.mp h
    obtain ⟨⟨state, manifests⟩, hdatasets, h⟩ := bind_eq_ok.mp h
    obtain ⟨manifest, hmanifest, h⟩ := bind_eq_ok.mp h
    obtain rfl := Except.ok.inj h
    obtain ⟨⟨state', manifests'⟩, hmerged, hwritten⟩ := bind_eq_ok.mp (onlyInputError_eq_ok.mp hdatasets)
    obtain ⟨-, hwritten⟩ := ite_error_eq_ok.mp hwritten
    obtain ⟨hwritable, hwritten⟩ := ite_error_eq_ok.mp hwritten
    obtain ⟨rfl, rfl⟩ := Prod.mk.injEq _ _ _ _ ▸ Except.ok.inj hwritten
    obtain ⟨ms, rfl, hreadable, hadmits, rfl, rfl⟩ := mergeSources_eq_ok.mp hmerged
    obtain ⟨hsources, hresolves, hdistinct, -⟩ := resolveSources_eq_ok.mp hresolved
    refine ⟨not_not.mp hwritable, houtput, workspace, ms, hworkspace, ⟨?_, ?_, ?_, hreadable, hadmits⟩, rfl, rfl, rfl,
      hmanifest⟩
    · rw [List.map_map] at hsources
      exact hsources
    · exact fun m hm => hresolves m.source (List.mem_map_of_mem hm)
    · rw [List.map_map] at hdistinct
      exact hdistinct
  · rintro ⟨hwritable, houtput, workspace, ms, hworkspace, hms, hpath, hmanifestPath, hdataset, hmanifest⟩
    have hrecords : (MergeState.start.addSources ms).totalRecords ≠ 0 := by
      rw [MergeState.totalRecords_addSources]
      cases ms with
      | nil =>
        have hnil : sortSources sources = [] := hms.sources.symm
        have hlength := (List.perm_insertionSort (fun a b : DatasetSource => a.key ≤ b.key) sources).length_eq
        rw [← sortSources, hnil] at hlength
        exact absurd (List.length_eq_zero_iff.mp hlength.symm) hsome
      | cons m ms =>
        have hpos := List.length_pos_of_ne_nil (hms.readable m List.mem_cons_self).someRecord
        simp only [MergeState.recordsOf, List.flatMap_cons, List.length_append]
        omega
    refine bind_eq_ok.mpr ⟨_, houtput, bind_eq_ok.mpr ⟨_, hworkspace, bind_eq_ok.mpr ⟨ms.map MergedSource.source, ?_,
      bind_eq_ok.mpr ⟨_, onlyInputError_eq_ok.mpr (bind_eq_ok.mpr ⟨_, mergeSources_eq_ok.mpr
        ⟨ms, rfl, hms.readable, hms.admits, rfl, rfl⟩, ite_error_eq_ok.mpr ⟨hrecords,
          ite_error_eq_ok.mpr ⟨not_not.mpr hwritable, rfl⟩⟩⟩), ?_⟩⟩⟩⟩
    · have hsources : (ms.map MergedSource.source).map ResolvedSource.source = sortSources sources := by
        rw [List.map_map]
        exact hms.sources
      have hdistinct : ((ms.map MergedSource.source).map ResolvedSource.path).Nodup := by
        rw [List.map_map]
        exact hms.distinctPaths
      refine resolveSources_eq_ok.mpr ⟨hsources, ?_, hdistinct, fun _ _ => nofun⟩
      intro s hs
      obtain ⟨m, hm, rfl⟩ := List.mem_map.mp hs
      exact hms.resolves m hm
    · rw [hpath] at hmanifest
      refine bind_eq_ok.mpr ⟨_, hmanifest, ?_⟩
      rw [Except.ok.injEq, ← hpath, ← hmanifestPath, ← hdataset]

/-! ## Order and ids -/

theorem DatasetSource.key_injective {a b : DatasetSource} (h : a.key = b.key) : a = b := by
  obtain ⟨hname, hpath⟩ := Prod.mk.injEq _ _ _ _ ▸ toLex.injective h
  cases a
  cases b
  rw [DatasetSource.mk.injEq]
  exact ⟨hname, hpath⟩

/-- Sorting forgets the order of the sources. -/
theorem sortSources_of_perm {sources sources' : List DatasetSource} (h : sources.Perm sources') :
    sortSources sources = sortSources sources' :=
  insertionSort_key_of_perm h fun _ _ _ _ => DatasetSource.key_injective

/-- The order of the sources does not matter. -/
theorem prepareEvaluationWorkspace_perm {sources sources' : List DatasetSource} (h : sources.Perm sources') :
    prepareEvaluationWorkspace node sources = prepareEvaluationWorkspace node sources' := by
  have hnil : sources = [] ↔ sources' = [] := by
    rw [← List.length_eq_zero_iff, ← List.length_eq_zero_iff, h.length_eq]
  have hnames : (sources.map DatasetSource.name).Nodup ↔ (sources'.map DatasetSource.name).Nodup := (h.map _).nodup_iff
  unfold prepareEvaluationWorkspace
  simp only [hnil, h.length_eq, hnames, sortSources_of_perm h]

/-- The name and the id in front of and behind the first colon. -/
def splitId (id : PyStr) : PyStr × PyStr := (id.takeWhile (· ≠ 58), (id.dropWhile (· ≠ 58)).drop 1)

theorem splitId_mergedId {name originalId : PyStr} (h : 58 ∉ name) : splitId (mergedId name originalId) = (name, originalId) := by
  have hname : ∀ c ∈ name, (decide (c ≠ 58)) = true := fun c hc => decide_eq_true fun heq => h (heq ▸ hc)
  have hcolon : py ":" = [58] := rfl
  simp only [splitId, mergedId, hcolon, List.append_assoc]
  rw [List.takeWhile_append_of_pos hname, List.dropWhile_append_of_pos hname]
  simp

end OpenLLMOps.Evaluation
