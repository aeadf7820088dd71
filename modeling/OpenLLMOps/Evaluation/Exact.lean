import OpenLLMOps.Evaluation.Written

/-!
# Merging is exact

The order of the sources does not matter, and nothing is lost: the merged file has one line for each line of the
sources that is not blank, and whoever decodes it finds the row of the source under the id and the category of the
merged file, with its origin in the metadata (`line_found`, `merging_is_exact`).
-/

namespace OpenLLMOps.Evaluation

open Framework

section

variable {node : Node} {name : PyStr} {line : Bytes × Nat} {row metadata : Row} {r : MergedRecord}

/-- Where a record is from, in the metadata. -/
def origin (r : MergedRecord) : Json := .obj [(py "name", .str r.name), (py "original_id", .str r.originalId)]

/-- What is found in the line of a record: the row of the source with the keys of its values sorted, but for what the
merging has replaced. -/
structure Found (node : Node) (row : Row) (r : MergedRecord) (found : Row) : Prop where
  loads : loads (.plain node.float) r.line = .ok (.obj found)
  id : Json.get? found (py "id") = some (.str (r.name ++ py ":" ++ r.originalId))
  category : Json.get? found (py "category") = some (.str (r.name ++ py "/" ++ r.category))
  metadata : ∃ metadata found', (Json.get? row (py "metadata")).getD (.obj []) = .obj metadata ∧
    Json.get? found (py "metadata") = some (.obj found') ∧
    Json.get? found' (py "openllmops_source") = some (origin r) ∧
    ∀ k, py "openllmops_source" ≠ k → Json.get? found' k = (Json.get? metadata k).map (Json.sorted .canonical)
  fields : ∀ k, py "metadata" ≠ k → py "category" ≠ k → py "id" ≠ k →
    Json.get? found k = (Json.get? row k).map (Json.sorted .canonical)

/-- The record of a line and its number, as it is found in the merged file. -/
def LineFound (node : Node) (name : PyStr) (line : Bytes × Nat) (r : MergedRecord) : Prop :=
  ∃ row found, loads (.strict node.float) line.1 = .ok (.obj row) ∧ RecordOf node name line.2 row r ∧
    Found node row r found

theorem get?_writtenMetadata (hn : (metadata.map Prod.fst).Nodup) (k : PyStr) :
    Json.get? (Json.sortedFields .canonical (writtenMetadata r metadata)) k =
      if py "openllmops_source" = k then some (origin r) else (Json.get? metadata k).map (Json.sorted .canonical) := by
  have hkeys : ((writtenMetadata r metadata).map Prod.fst).Nodup := Dict.nodup_set hn _ _
  rw [Json.get?_sortedFields hkeys, Json.get?_eq, writtenMetadata, Dict.get?_set, ← Json.get?_eq]
  split
  · rfl
  · rfl

/-- What is written of a row is found. -/
theorem found_of_loaded (hload : (Json.obj row).Loaded (.strict node.float))
    (hmetadata : originalMetadata row = .ok metadata)
    (hwritten : loads (.plain node.float) r.line = .ok (.obj (writtenRow r metadata row))) :
    Found node row r (writtenRow r metadata row) := by
  have hkeys : (metadata.map Prod.fst).Nodup := (originalMetadata_loaded hload hmetadata).1
  refine ⟨hwritten, id_writtenRow hload.1, category_writtenRow hload.1, ?_, fun k hm hc hi =>
    get?_writtenRow hload.1 hm hc hi⟩
  refine ⟨metadata, _, originalMetadata_ok hmetadata, metadata_writtenRow hload.1, ?_, fun k hk => ?_⟩
  · rw [get?_writtenMetadata hkeys, if_pos rfl]
  · rw [get?_writtenMetadata hkeys, if_neg hk]

/-- The record of a line is found in the line that is written of it. -/
theorem line_found (hfloat : (JsonDecoder.strict node.float).ReadsFloats) (hname : IsUnicode name)
    (hline : LineRecord node name line r) : LineFound node name line r := by
  obtain ⟨row, hload, hr⟩ := hline
  have hloaded := loads_loaded (JsonDecoder.strict_makesDicts node.float) hload
  obtain ⟨metadata, hmetadata, -, -, hwritten⟩ := line_written hfloat hname hr hloaded
  exact ⟨row, _, hload, hr, found_of_loaded hloaded hmetadata hwritten⟩

/-- The records of a source are one line each. -/
theorem record_line (hfloat : (JsonDecoder.strict node.float).ReadsFloats) (hname : IsUnicode name)
    (hline : LineRecord node name line r) : 10 ∉ r.body ∧ isBlank r.line = false := by
  obtain ⟨row, hload, hr⟩ := hline
  have hloaded := loads_loaded (JsonDecoder.strict_makesDicts node.float) hload
  obtain ⟨-, -, hbreak, hblank, -⟩ := line_written hfloat hname hr hloaded
  exact ⟨hbreak, hblank⟩

theorem lines_records {rs : List MergedRecord} (h : ∀ r ∈ rs, 10 ∉ r.body) :
    lines (rs.map MergedRecord.line).flatten = rs.map MergedRecord.line := by
  induction rs with
  | nil => rfl
  | cons r rs ih =>
    obtain ⟨hr, hrs⟩ := List.forall_mem_cons.mp h
    rw [List.map_cons, List.flatten_cons, MergedRecord.line, List.append_assoc, List.singleton_append,
      lines_append_newline hr, ih hrs]

/-- Each record is that of a line. -/
theorem Readable.record {m : MergedSource} (hm : Readable node m) (hr : r ∈ m.records) :
    ∃ line, LineRecord node m.source.source.name line r := by
  obtain ⟨i, hi, rfl⟩ := List.getElem_of_mem hr
  have hi' : i < (recordLines 1 (lines m.file.content)).length := by rwa [hm.records.length_eq]
  exact ⟨_, hm.records.get hi' hi⟩

/-! ## The merged file -/

/-- A source, its file, and the records of the lines that are not blank, as they are found in the merged file. -/
structure LosesNothing (node : Node) (m : MergedSource) : Prop where
  existingPath : node.existingPath m.source.source.path = .ok (m.source.path, m.source.inEvaluationRoot)
  sourceFile : node.sourceFile m.source.path = some m.file
  records : List.Forall₂ (LineFound node m.source.source.name) (recordLines 1 (lines m.file.content)) m.records
  ids : ∀ r ∈ m.records, splitId r.id = (m.source.source.name, r.originalId)
  recordCount : m.records.length = (lines m.file.content).countP fun raw => !isBlank raw

/-- `combined` of the manifest. -/
def combinedEntry (path : PyStr) (recordCount : Nat) (sha256 : PyStr) (sizeBytes : Nat) : Json :=
  .obj [(py "path", .str path), (py "record_count", .int recordCount), (py "sha256", .str sha256),
    (py "size_bytes", .int sizeBytes)]

/-- The entry of a source. -/
def sourceEntry (node : Node) (m : MergedSource) : Json :=
  .obj [(py "name", .str m.source.source.name), (py "path", .str m.source.path),
    (py "sha256", .str (node.sha256 m.file.content)), (py "size_bytes", .int m.file.content.length),
    (py "record_count", .int ((lines m.file.content).countP fun raw => !isBlank raw)),
    (py "prepared_manifest_path", (m.preparedManifestPath.map Json.str).getD .null)]

/-- What a manifest says about the merged file and about the files of the sources. -/
def exactManifest (node : Node) (w : EvaluationWorkspace) (ms : List MergedSource) : Json :=
  .obj [(py "schema_version", .int 1),
    (py "combined", combinedEntry w.datasetPath (lines w.dataset).length (node.sha256 w.dataset) w.dataset.length),
    (py "sources", .arr (ms.map (sourceEntry node)))]

/-- The records of merged sources are one line each. -/
theorem Merged.lines {sources : List DatasetSource} {ms : List MergedSource} (hms : Merged node sources ms)
    (hfloat : (JsonDecoder.strict node.float).ReadsFloats) (hnames : ∀ s ∈ sources, IsUnicode s.name) :
    Framework.lines ((MergeState.recordsOf ms).map MergedRecord.line).flatten =
      (MergeState.recordsOf ms).map MergedRecord.line := by
  refine lines_records fun r hr => ?_
  obtain ⟨m, hm, hr⟩ := List.mem_flatMap.mp hr
  obtain ⟨line, hline⟩ := (hms.readable m hm).record hr
  have hmem : m.source.source ∈ sortSources sources := hms.sources ▸ List.mem_map_of_mem hm
  exact (record_line hfloat (hnames _ ((List.perm_insertionSort _ _).mem_iff.mp hmem)) hline).1

theorem losesNothing {m : MergedSource} (hm : Readable node m) (hresolves : Resolves node m.source)
    (hfloat : (JsonDecoder.strict node.float).ReadsFloats) (hunicode : IsUnicode m.source.source.name)
    (hcolon : 58 ∉ m.source.source.name) : LosesNothing node m := by
  refine ⟨hresolves.existingPath, hm.sourceFile, ?_, fun r hr => ?_, ?_⟩
  · exact hm.records.imp fun _ _ hline => line_found hfloat hunicode hline
  · obtain ⟨line, row, -, hrow⟩ := hm.record hr
    rw [MergedRecord.id, hrow.name]
    exact splitId_mergedId hcolon
  · rw [← length_recordLines 1, hm.records.length_eq]

end

/-- The sources are merged in any order to the same files, and nothing is lost. -/
theorem merging_is_exact (node : Node) (sources : List DatasetSource) (w : EvaluationWorkspace)
    (hfloat : (JsonDecoder.strict node.float).ReadsFloats)
    (hnames : ∀ s ∈ sources, IsUnicode s.name ∧ 58 ∉ s.name ∧ 47 ∉ s.name)
    (h : prepareEvaluationWorkspace node sources = .ok w) :
    (∀ sources', sources.Perm sources' → prepareEvaluationWorkspace node sources' = .ok w) ∧
    ∃ ms : List MergedSource, (ms.map fun m => m.source.source).Perm sources ∧ (∀ m ∈ ms, LosesNothing node m) ∧
      lines w.dataset = (MergeState.recordsOf ms).map MergedRecord.line ∧
      ((MergeState.recordsOf ms).map MergedRecord.id).Nodup ∧
      canonicalJson (exactManifest node w ms) = .ok w.manifest := by
  refine ⟨fun sources' hperm => (prepareEvaluationWorkspace_perm hperm).symm.trans h, ?_⟩
  obtain ⟨-, -, -, -, -, workspace, ms, -, hms, -, -, hdataset, hmanifest⟩ := prepareEvaluationWorkspace_eq_ok.mp h
  have hperm : (ms.map fun m => m.source.source).Perm sources := by
    rw [hms.sources]
    exact List.perm_insertionSort _ _
  have hmerged : w.dataset = ((MergeState.recordsOf ms).map MergedRecord.line).flatten := by
    rw [hdataset, MergeState.merged_addSources]
    rfl
  have hids := MergeState.nodup_addSources hms.admits List.nodup_nil
  rw [MergeState.seenIds_addSources] at hids
  have hnothing : ∀ m ∈ ms, LosesNothing node m := by
    intro m hm
    obtain ⟨hunicode, hcolon, -⟩ := hnames _ (hperm.mem_iff.mp (List.mem_map_of_mem hm))
    exact losesNothing (hms.readable m hm) (hms.resolves m hm) hfloat hunicode hcolon
  have hlines : lines w.dataset = (MergeState.recordsOf ms).map MergedRecord.line := by
    rw [hmerged]
    exact hms.lines hfloat fun s hs => (hnames s hs).1
  refine ⟨ms, hperm, hnothing, hlines, hids, ?_⟩
  have hcount : (MergeState.start.addSources ms).totalRecords = (lines w.dataset).length := by
    rw [MergeState.totalRecords_addSources, hlines, List.length_map]
    exact Nat.zero_add _
  have hentries : (ms.map (MergedSource.manifest node)).map SourceManifest.asDict = ms.map (sourceEntry node) := by
    rw [List.map_map]
    refine List.map_congr_left fun m hm => ?_
    rw [sourceEntry, ← (hnothing m hm).recordCount]
    rfl
  rw [← hmanifest, manifestOf, workspaceManifest, hcount, ← hdataset, hentries]
  rfl

/-- A node where every file is one empty object. -/
def plainNode : Node where
  unicode := plainText
  float := fun _ => .nan
  sha256 := fun b => b.map UInt8.toNat
  outputDirectory := .ok (py "/outputs/1")
  runtimeDirectory := .ok (py "/runtime/1")
  existingPath := fun path => .ok (path, false)
  sourceFile := fun _ => some ⟨[123, 125, 10], true, true, true⟩
  preparedManifest := fun _ => inputError []
  writable := true

theorem plainNode_readsFloats : (JsonDecoder.strict plainNode.float).ReadsFloats := by
  intro s hfinite
  have hnan : PyFloat.nan.isFinite = true := hfinite
  contradiction

/-- Two sources in both orders; each has a record. -/
theorem two_sources_in_any_order :
    ∃ w, prepareEvaluationWorkspace plainNode [⟨py "b", py "/data/b.jsonl"⟩, ⟨py "a", py "/data/a.jsonl"⟩] = .ok w ∧
      prepareEvaluationWorkspace plainNode [⟨py "a", py "/data/a.jsonl"⟩, ⟨py "b", py "/data/b.jsonl"⟩] = .ok w ∧
      ∃ ms : List MergedSource, ms.length = 2 ∧ (∀ m ∈ ms, LosesNothing plainNode m) ∧
        lines w.dataset = (MergeState.recordsOf ms).map MergedRecord.line := by
  have hsome : (prepareEvaluationWorkspace plainNode
      [⟨py "b", py "/data/b.jsonl"⟩, ⟨py "a", py "/data/a.jsonl"⟩]).toOption.isSome = true := by decide +kernel
  cases hw : prepareEvaluationWorkspace plainNode [⟨py "b", py "/data/b.jsonl"⟩, ⟨py "a", py "/data/a.jsonl"⟩] with
  | error e =>
    rw [hw] at hsome
    cases hsome
  | ok w =>
    have hnames : ∀ s ∈ [(⟨py "b", py "/data/b.jsonl"⟩ : DatasetSource), ⟨py "a", py "/data/a.jsonl"⟩],
        IsUnicode s.name ∧ 58 ∉ s.name ∧ 47 ∉ s.name := by
      unfold IsUnicode
      decide
    obtain ⟨hperm, ms, hms, hnothing, hlines, -⟩ := merging_is_exact plainNode _ w plainNode_readsFloats hnames hw
    have hlength := hms.length_eq
    rw [List.length_map] at hlength
    exact ⟨w, rfl, hperm _ (List.Perm.swap _ _ []), ms, hlength, hnothing, hlines⟩

end OpenLLMOps.Evaluation
