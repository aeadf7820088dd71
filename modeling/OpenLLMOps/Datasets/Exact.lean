import OpenLLMOps.Datasets.Accepted

/-!
# What is stored is the upload

`validate_and_store_jsonl` is exact: what it stores is the stream byte for byte, with the size, the digest and
the number of records of the stream, and with all of its lines within the rules; whatever it refuses leaves
neither a temporary nor a new final file (`validateAndStoreJsonl_exact`). Every error names a physical line
that breaks a rule, except for the one of a dataset without records, which has the line 0; and a temporary
file that cannot be removed stays (`line_zero_and_temporary_left`).
-/

namespace OpenLLMOps.Datasets

open Framework Effect Evaluation

/-- What is returned tells of the stream, and the stream follows the rules of the type. -/
structure Accepted (library : DatasetLibrary) (datasetType : DatasetType) (stream : Bytes) (r : StoredDataset) : Prop where
  sizeBytes : r.sizeBytes = stream.length
  withinLimit : stream.length ≤ byteLimit datasetType
  sha256 : r.sha256 = library.sha256 stream
  recordCount : r.recordCount = (lines stream).countP fun raw => !isBlank raw
  someRecord : r.recordCount ≠ 0
  recordLimit : r.recordCount ≤ recordLimit datasetType
  errors : r.errors = []
  lineLimit : ∀ raw ∈ lines stream, raw.length ≤ lineLimit datasetType
  fields : ∀ raw ∈ lines stream, isBlank raw = false → ∃ row, loadsLine library raw = .ok (.obj row) ∧
    ∀ key ∈ keysOf (.obj row), key.length ≤ maxFieldNameLength ∧ key ∈ r.fields
  fewFields : r.fields.length ≤ maxSchemaFields
  samples : datasetType = .evaluation →
    ∃ samples, SamplesOf library (recordLines 1 (lines stream)) samples ∧ (samples.map Sample.sampleId).Nodup
  format : datasetType ≠ .evaluation →
    ∃ format, r.recordFormat = some format ∧ ∀ raw ∈ lines stream, HasFormat library datasetType format raw

/-- An error that names a physical line and is one of its messages, or tells that there is no record. -/
def Offends (library : DatasetLibrary) (datasetType : DatasetType) (lines : List Bytes) (e : LineError) : Prop :=
  (∃ before raw after, lines = before ++ raw :: after ∧ e.line = before.length + 1 ∧
    e.message ∈ (lineMessages library datasetType (lineContext library datasetType .empty 0 before) e.line raw).1) ∨
  e = ⟨0, py "数据集没有有效记录"⟩ ∧ ∀ raw ∈ lines, NoRecord library datasetType raw

/-- What is left of the files, and what is returned or raised. -/
def Exact (library : DatasetLibrary) (around : Surroundings) (datasetType : DatasetType) (s : UploadState) :
    Except UploadError StoredDataset → UploadState → Prop
  | .ok r, s' => s'.final = some s.source ∧ s'.temporary = none ∧ Accepted library datasetType s.source r ∧
      ∀ op ∈ uploadOperations s, around op = false
  | .error e, s' => s'.final = s.final ∧ (around .removeTemporary = false → s'.temporary = none) ∧
      ∀ errors, e = .invalid errors → ∀ error ∈ errors, Offends library datasetType (lines s.source) error

variable {library : DatasetLibrary} {around : Surroundings} {datasetType : DatasetType} {s : UploadState}

theorem lineErrors_of_scan {lines : List Bytes} {p : Progress}
    (h : scanLines library datasetType .start lines = .ok p) (hp : p.errors = []) :
    lineErrors library datasetType .empty 0 lines = [] := by
  have hscan := scanLines_ok (Nat.zero_le _) h
  rw [hscan.errors] at hp
  by_contra hne
  have hpos := List.length_pos_of_ne_nil hne
  have hzero := congrArg List.length hp
  rw [List.length_take] at hzero
  have : 0 < min maxReportedErrors (lineErrors library datasetType .empty 0 lines).length := by
    rw [Nat.lt_min]
    exact ⟨by decide, hpos⟩
  exact absurd hzero (by simpa [Progress.start] using Nat.ne_of_gt this)

/-- A progress without errors tells of the stream. -/
theorem accepted_of_scan {stream : Bytes} {p : Progress}
    (h : scanLines library datasetType .start (lines stream) = .ok p) (hp : p.finalErrors = []) :
    p.digested = stream ∧ Accepted library datasetType stream (p.stored library) := by
  obtain ⟨herrors, hcount⟩ := errors_of_finalErrors hp
  have hscan := scanLines_ok (Nat.zero_le _) h
  have hclean := lineErrors_of_scan h herrors
  have hknown := linesKnown hclean
  have hcontext : p.context = lineContext library datasetType .empty 0 (lines stream) := hscan.context
  rw [← hcontext] at hknown
  have hdigested : p.digested = stream := by
    rw [hscan.digested hknown.short, lines_flatten]
    rfl
  have hrecords : p.context.recordCount = (lines stream).countP fun raw => !isBlank raw := by
    rw [hknown.recordCount, Context.empty, Nat.zero_add]
  have hbytes : p.totalBytes = stream.length := by
    rw [hscan.totalBytes, lines_flatten]
    exact Nat.zero_add _
  refine ⟨hdigested, hbytes, hbytes ▸ hscan.byteLimit (Nat.zero_le _), by rw [← hdigested]; rfl, hrecords, hcount,
    hscan.recordLimit (Nat.zero_le _), hp, hknown.short, fun raw hraw hrecord => ?_, ?_, fun htype => ?_,
    fun htype => ?_⟩
  · obtain ⟨row, hload, hkeys⟩ := hknown.fields raw hraw hrecord
    refine ⟨row, hload, fun key hkey => ⟨(hkeys key hkey).1, ?_⟩⟩
    exact (List.mem_insertionSort _).mpr (hkeys key hkey).2
  · show (p.context.fieldNames.insertionSort (· ≤ ·)).length ≤ _
    rw [List.length_insertionSort]
    exact hknown.few (Nat.zero_le _)
  · subst htype
    obtain ⟨samples, hsamples, hdistinct⟩ := evaluationLines hclean List.nodup_nil
    exact ⟨samples, hsamples, hdistinct⟩
  · have hlines : lines stream ≠ [] := by
      intro hnil
      rw [hnil] at hrecords
      exact hcount hrecords
    obtain ⟨format, hformat, hlast⟩ := trainingLines htype hlines hclean
    exact ⟨format, by rw [← hlast, ← hcontext]; rfl, hformat⟩

/-- The errors at the end are those of the lines, or the one about the whole dataset. -/
theorem offends_of_scan {lines : List Bytes} {p : Progress}
    (h : scanLines library datasetType .start lines = .ok p) {error : LineError} (herror : error ∈ p.finalErrors) :
    Offends library datasetType lines error := by
  have hscan := scanLines_ok (Nat.zero_le _) h
  have hline : error ∈ p.errors → Offends library datasetType lines error := by
    intro hmem
    rw [hscan.errors] at hmem
    obtain ⟨before, raw, after, hlines, hnumber, hmessage⟩ := mem_lineErrors (List.mem_of_mem_take hmem)
    exact .inl ⟨before, raw, after, hlines, by rw [hnumber]; show 0 + _ + 1 = _; omega, hmessage⟩
  unfold Progress.finalErrors at herror
  split at herror
  · rename_i hcount
    unfold recordError at herror
    split at herror
    · rcases List.mem_append.mp herror with hmem | hmem
      · exact hline hmem
      · refine .inr ⟨List.mem_singleton.mp hmem, ?_⟩
        refine (lineContext_recordCount lines .empty 0).2 ?_
        have hcontext : p.context = lineContext library datasetType .empty 0 lines := hscan.context
        rw [← hcontext]
        exact hcount
    · exact hline herror
  · exact hline herror

theorem exact_of_outcome {s' : UploadState} {r : Except UploadError StoredDataset} (htemporary : s.temporary = none)
    (h : Outcome library around datasetType s r s') : Exact library around datasetType s r s' := by
  cases r with
  | error e =>
    obtain ⟨hfinal, hrefused, hremoved⟩ := h
    refine ⟨hfinal, hremoved htemporary, fun errors he error hmem => ?_⟩
    subst he
    rcases hrefused with hraised | hscan | ⟨p, hscan, -, herrors⟩
    · cases hraised
    · exact absurd hscan (scanLines_ne_invalid _)
    · obtain rfl := UploadError.invalid.inj herrors
      exact offends_of_scan hscan hmem
  | ok r =>
    obtain ⟨p, hscan, herrors, rfl, htemporary', hfinal, hops⟩ := h
    obtain ⟨hdigested, haccepted⟩ := accepted_of_scan hscan herrors
    exact ⟨by rw [hfinal, hdigested], htemporary', haccepted, hops⟩

/-- What is stored is the upload; what is refused leaves nothing. -/
theorem validateAndStoreJsonl_exact (library : DatasetLibrary) (around : Surroundings) (datasetType : DatasetType)
    (s : UploadState) (htemporary : s.temporary = none) :
    wp (validateAndStoreJsonl library around datasetType) (Exact library around datasetType s) s :=
  wp_mono wp_validateAndStoreJsonl fun _ _ => exact_of_outcome htemporary

/-- A library for texts without letters beyond ASCII; its digests are the bytes themselves. -/
def plainLibrary : DatasetLibrary := ⟨plainText, fun _ => .nan, fun _ _ => [], fun b => b.map UInt8.toNat⟩

/-- `{"text":"a"}` and `{"text":"b"}`, of which the last has no newline. -/
def twoTexts : Bytes :=
  [123, 34, 116, 101, 120, 116, 34, 58, 34, 97, 34, 125, 10, 123, 34, 116, 101, 120, 116, 34, 58, 34, 98, 34, 125]

/-- No operation raises. -/
def undisturbed : Surroundings := fun _ => false

theorem two_texts_stored_exactly :
    (∃ r, (validateAndStoreJsonl plainLibrary undisturbed .cpt ⟨twoTexts, none, none, 0⟩).1 = .ok r ∧
      r.recordCount = 2 ∧ r.sizeBytes = 25 ∧ r.recordFormat = some .cptText) ∧
    wp (validateAndStoreJsonl plainLibrary undisturbed .cpt) (Exact plainLibrary undisturbed .cpt ⟨twoTexts, none, none, 0⟩)
      ⟨twoTexts, none, none, 0⟩ := by
  refine ⟨?_, validateAndStoreJsonl_exact plainLibrary undisturbed .cpt ⟨twoTexts, none, none, 0⟩ rfl⟩
  refine ⟨⟨2, 25, twoTexts.map UInt8.toNat, [], [py "text"], some .cptText⟩, ?_, rfl, rfl, rfl⟩
  decide +kernel

/-- Everything works, except that the temporary file cannot be removed. -/
def removalFails : Surroundings
  | .removeTemporary => true
  | _ => false

/-- An empty upload is refused with the line 0, which is no physical line; and if the temporary file cannot be
removed, it stays. -/
theorem line_zero_and_temporary_left :
    (validateAndStoreJsonl plainLibrary undisturbed .cpt ⟨[], none, none, 0⟩).1 =
      .error (.invalid [⟨0, py "数据集没有有效记录"⟩]) ∧
    (validateAndStoreJsonl plainLibrary removalFails .cpt ⟨[], none, none, 0⟩).1 = .error .operation ∧
    (validateAndStoreJsonl plainLibrary removalFails .cpt ⟨[], none, none, 0⟩).2.temporary = some [] := by
  decide +kernel

end OpenLLMOps.Datasets
