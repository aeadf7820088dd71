import OpenLLMOps.Datasets.Scan
import Mathlib.Data.List.Forall2

/-!
# Accepted lines

What the progress at the end of `scanLines` says about the lines: the errors are the first twenty messages of
the lines, each with the number of its line (`scanLines_ok`); and if there are none, every line is within the
limit and follows the rules of the type (`evaluationLines`, `trainingLines`).
-/

namespace OpenLLMOps.Datasets

open Framework Evaluation

section

variable (library : DatasetLibrary) (datasetType : DatasetType)

/-- The messages for a line, and the context behind it. -/
def lineMessages (context : Context) (line : Nat) (raw : Bytes) : List PyStr × Context :=
  if lineLimit datasetType < raw.length then ([longLineMessage datasetType], context)
  else checkLine library datasetType context line raw

/-- The errors of the lines behind the line `n`. -/
def lineErrors : Context → Nat → List Bytes → List LineError
  | _, _, [] => []
  | context, n, raw :: rest =>
    (lineMessages library datasetType context (n + 1) raw).1.map (LineError.mk (n + 1)) ++
      lineErrors (lineMessages library datasetType context (n + 1) raw).2 (n + 1) rest

/-- The context behind these lines. -/
def lineContext : Context → Nat → List Bytes → Context
  | context, _, [] => context
  | context, n, raw :: rest => lineContext (lineMessages library datasetType context (n + 1) raw).2 (n + 1) rest

end

variable {library : DatasetLibrary} {datasetType : DatasetType}

/-! ## The progress -/

theorem take_take_append {α : Type} (n : Nat) (xs ys : List α) : (xs.take n ++ ys).take n = (xs ++ ys).take n := by
  have hroom : n - min n xs.length = n - xs.length := by omega
  rw [List.take_append, List.take_append, List.take_take, Nat.min_self, List.length_take, hroom]

/-- The first twenty are kept. -/
theorem recordErrors_eq {errors : List LineError} (h : errors.length ≤ maxReportedErrors) (line : Nat)
    (messages : List PyStr) :
    recordErrors errors line messages = (errors ++ messages.map (LineError.mk line)).take maxReportedErrors := by
  induction messages generalizing errors with
  | nil => rw [List.map_nil, List.append_nil, List.take_of_length_le h, recordErrors, List.foldl_nil]
  | cons message messages ih =>
    show recordErrors (recordError errors line message) line messages = _
    unfold recordError
    split
    · rename_i hroom
      rw [ih (by rw [List.length_append, List.length_singleton]; omega), List.append_assoc]
      rfl
    · rename_i hfull
      have hall : errors.length = maxReportedErrors := by omega
      rw [ih h, List.take_append_of_le_length (Nat.le_of_eq hall.symm),
        List.take_append_of_le_length (Nat.le_of_eq hall.symm)]

/-- The progress behind a line. -/
theorem scanLine_ok {p q : Progress} {line : Bytes} (h : scanLine library datasetType p line = .ok q) :
    q.totalBytes = p.totalBytes + line.length ∧ q.totalBytes ≤ byteLimit datasetType ∧
      q.lineNumber = p.lineNumber + 1 ∧
      q.errors = recordErrors p.errors (p.lineNumber + 1)
        (lineMessages library datasetType p.context (p.lineNumber + 1) line).1 ∧
      q.context = (lineMessages library datasetType p.context (p.lineNumber + 1) line).2 ∧
      (line.length ≤ lineLimit datasetType → q.digested = p.digested ++ line) ∧
      (p.context.recordCount ≤ recordLimit datasetType → q.context.recordCount ≤ recordLimit datasetType) := by
  simp only [scanLine] at h
  split at h
  · cases h
  · rename_i hcount
    split at h
    · rename_i hlong
      cases h
      rw [lineMessages, if_pos hlong]
      exact ⟨rfl, Nat.le_of_not_lt hcount, rfl, rfl, rfl, fun hle => absurd hlong (Nat.not_lt.mpr hle), id⟩
    · rename_i hshort
      split at h
      · cases h
      · rename_i hmany
        cases h
        rw [lineMessages, if_neg hshort]
        exact ⟨rfl, Nat.le_of_not_lt hcount, rfl, rfl, rfl, fun _ => rfl, fun _ => Nat.le_of_not_lt hmany⟩

/-- The progress behind the lines. -/
structure Scanned (library : DatasetLibrary) (datasetType : DatasetType) (p : Progress) (lines : List Bytes)
    (q : Progress) : Prop where
  totalBytes : q.totalBytes = p.totalBytes + lines.flatten.length
  byteLimit : p.totalBytes ≤ byteLimit datasetType → q.totalBytes ≤ byteLimit datasetType
  errors : q.errors = (p.errors ++ lineErrors library datasetType p.context p.lineNumber lines).take maxReportedErrors
  context : q.context = lineContext library datasetType p.context p.lineNumber lines
  digested : (∀ line ∈ lines, line.length ≤ lineLimit datasetType) → q.digested = p.digested ++ lines.flatten
  recordLimit : p.context.recordCount ≤ recordLimit datasetType → q.context.recordCount ≤ recordLimit datasetType

theorem scanLines_ok {lines : List Bytes} {p q : Progress} (hp : p.errors.length ≤ maxReportedErrors)
    (h : scanLines library datasetType p lines = .ok q) : Scanned library datasetType p lines q := by
  induction lines generalizing p with
  | nil =>
    cases h
    exact ⟨rfl, id, by rw [lineErrors, List.append_nil, List.take_of_length_le hp], rfl,
      fun _ => (List.append_nil _).symm, id⟩
  | cons line rest ih =>
    obtain ⟨p', hp', hrest⟩ := bind_eq_ok.mp h
    obtain ⟨htotal, hlimit, hnumber, herrors, hcontext, hdigested, hrecords⟩ := scanLine_ok hp'
    rw [recordErrors_eq hp] at herrors
    have hlength : p'.errors.length ≤ maxReportedErrors := by
      rw [herrors]
      exact List.length_take_le _ _
    have hscan := ih hlength hrest
    refine ⟨?_, fun _ => hscan.byteLimit hlimit, ?_, ?_, fun hle => ?_, fun hle => hscan.recordLimit (hrecords hle)⟩
    · rw [hscan.totalBytes, htotal, List.flatten_cons, List.length_append, Nat.add_assoc]
    · rw [hscan.errors, herrors, hcontext, hnumber, lineErrors, ← List.append_assoc, take_take_append]
    · rw [hscan.context, hcontext, hnumber, lineContext]
    · rw [hscan.digested fun l hl => hle l (List.mem_cons_of_mem _ hl), hdigested (hle line List.mem_cons_self),
        List.flatten_cons, List.append_assoc]

/-! ## A line without a message -/

/-- The names of a record, when there is nothing to say about them. -/
structure FieldsKnown (names : List PyStr) (keys : List PyStr) (names' : List PyStr) : Prop where
  short : ∀ key ∈ keys, key.length ≤ maxFieldNameLength
  known : ∀ key ∈ keys, key ∈ names'
  kept : ∀ name ∈ names, name ∈ names'
  few : names.length ≤ maxSchemaFields → names'.length ≤ maxSchemaFields

theorem checkFieldNames_clean {names keys : List PyStr} (h : (checkFieldNames names keys).1 = []) :
    FieldsKnown names keys (checkFieldNames names keys).2 := by
  induction keys generalizing names with
  | nil => exact ⟨nofun, nofun, fun _ => id, id⟩
  | cons key keys ih =>
    unfold checkFieldNames at h ⊢
    split at h
    · cases h
    · rename_i hlength
      rw [if_neg hlength]
      split at h
      · cases h
      · rename_i hroom
        rw [if_neg hroom]
        obtain ⟨hshort, hknown, hkept, hfew⟩ := ih h
        refine ⟨fun k hk => ?_, fun k hk => ?_, fun name hname => hkept _ ?_, fun hle => hfew ?_⟩
        · rcases List.mem_cons.mp hk with rfl | hk
          · exact Nat.le_of_not_lt hlength
          · exact hshort k hk
        · rcases List.mem_cons.mp hk with rfl | hk
          · refine hkept _ ?_
            split
            · assumption
            · exact List.mem_append_right _ (List.mem_singleton_self _)
          · exact hknown k hk
        · split
          · exact hname
          · exact List.mem_append_left _ hname
        · split
          · exact hle
          · rename_i hnew
            have hlt : names.length < maxSchemaFields := Nat.lt_of_not_le fun hge => hroom ⟨hnew, hge⟩
            rw [List.length_append, List.length_singleton]
            exact hlt

/-- A line of an evaluation dataset and its sample. -/
structure EvaluationRecord (library : DatasetLibrary) (raw : Bytes) (line : Nat) (row : Evaluation.Row) (sample : Sample) : Prop where
  decoded : loadsLine library raw = .ok (.obj row)
  parsed : parseRow library.unicode row line = .ok sample
  category : categoryError row = []
  metadata : metadataError row = []
  sampleId : sourceTextError sample.sampleId "id" = []
  categoryText : sourceTextError sample.category "category" = []

/-- A line of an evaluation dataset without a message. -/
theorem checkLine_evaluation {context : Context} {line : Nat} {raw : Bytes}
    (h : (checkLine library .evaluation context line raw).1 = []) :
    isBlank raw = true ∧ (checkLine library .evaluation context line raw).2 = context ∨
    isBlank raw = false ∧ ∃ row sample, EvaluationRecord library raw line row sample ∧
      sample.sampleId ∉ context.sampleIds ∧ (checkFieldNames context.fieldNames (keysOf (.obj row))).1 = [] ∧
      (checkLine library .evaluation context line raw).2 =
        ⟨context.recordCount + 1, (checkFieldNames context.fieldNames (keysOf (.obj row))).2,
          context.sampleIds ++ [sample.sampleId], context.recordFormat⟩ := by
  unfold checkLine at h ⊢
  cases hblank : isBlank raw with
  | true => exact .inl ⟨rfl, by rw [if_pos rfl]⟩
  | false =>
    refine .inr ⟨rfl, ?_⟩
    rw [hblank] at h
    rw [if_neg Bool.false_ne_true] at h ⊢
    cases hload : loadsLine library raw with
    | error text =>
      rw [hload] at h
      cases h
    | ok item =>
      rw [hload] at h
      cases item with
      | obj row =>
        simp only [checkRecord, checkEvaluationRecord] at h ⊢
        cases hparse : parseRow library.unicode row line with
        | error e =>
          rw [hparse] at h
          exact absurd (List.append_eq_nil_iff.mp h).2 (List.cons_ne_nil _ _)
        | ok sample =>
          rw [hparse] at h
          dsimp only at h ⊢
          simp only [List.append_eq_nil_iff] at h
          obtain ⟨hfields, ⟨⟨⟨hcategory, hmetadata⟩, hid⟩, hcategoryText⟩, hnew⟩ := h
          have hfresh : sample.sampleId ∉ context.sampleIds := by
            intro hmem
            rw [if_pos hmem] at hnew
            cases hnew
          refine ⟨row, sample, ⟨hload, hparse, hcategory, hmetadata, hid, hcategoryText⟩, hfresh, hfields, ?_⟩
          rw [if_neg hfresh]
      | _ => exact absurd (List.append_eq_nil_iff.mp h).2 (List.cons_ne_nil _ _)

theorem checkRecord_training (htype : datasetType ≠ .evaluation) (context : Context) (line : Nat) (item : Json) :
    checkRecord library datasetType context line item =
      ((checkFieldNames context.fieldNames (keysOf item)).1 ++
          (checkTrainingRecord context.recordFormat item datasetType).1,
        ⟨context.recordCount, (checkFieldNames context.fieldNames (keysOf item)).2, context.sampleIds,
          (checkTrainingRecord context.recordFormat item datasetType).2⟩) := by
  cases datasetType with
  | evaluation => exact absurd rfl htype
  | cpt => rfl
  | sft => rfl

/-- An object that is a training record has a format. -/
theorem validateTrainingRecord_ok (htype : datasetType ≠ .evaluation) {item : Json} {format : Option RecordFormat}
    (h : validateTrainingRecord item datasetType = .ok format) : ∃ row f, item = .obj row ∧ format = some f := by
  cases item with
  | obj row =>
    refine ⟨row, ?_⟩
    have hmap : ∀ x : Except PyStr RecordFormat, x.map some = .ok format → ∃ f, Json.obj row = .obj row ∧ format = some f := by
      intro x hx
      cases x with
      | error e => cases hx
      | ok f => exact ⟨f, rfl, (Except.ok.inj hx).symm⟩
    cases datasetType with
    | evaluation => exact absurd rfl htype
    | cpt => exact hmap _ h
    | sft => exact hmap _ h
  | _ => cases h

/-- The first record decides about the format. -/
theorem checkTrainingRecord_clean (htype : datasetType ≠ .evaluation) {format : Option RecordFormat} {item : Json}
    (h : (checkTrainingRecord format item datasetType).1 = []) :
    ∃ row f, item = .obj row ∧ validateTrainingRecord item datasetType = .ok (some f) ∧
      (format = none ∨ format = some f) ∧ (checkTrainingRecord format item datasetType).2 = some f := by
  unfold checkTrainingRecord at h ⊢
  cases hvalid : validateTrainingRecord item datasetType with
  | error message =>
    rw [hvalid] at h
    cases h
  | ok recordFormat =>
    obtain ⟨row, f, hrow, hformat⟩ := validateTrainingRecord_ok htype hvalid
    rw [hvalid, hformat] at h
    refine ⟨row, f, hrow, by rw [hformat], ?_⟩
    rw [hformat]
    cases format with
    | none => exact ⟨.inl rfl, rfl⟩
    | some first =>
      have heq : first = f := by
        by_contra hne
        dsimp only at h
        rw [if_pos hne] at h
        cases h
      rw [heq]
      exact ⟨.inr rfl, rfl⟩

/-- A line of a training dataset without a message. -/
theorem checkLine_training (htype : datasetType ≠ .evaluation) {context : Context} {line : Nat} {raw : Bytes}
    (h : (checkLine library datasetType context line raw).1 = []) :
    isBlank raw = false ∧ ∃ row format, loadsLine library raw = .ok (.obj row) ∧
      validateTrainingRecord (.obj row) datasetType = .ok (some format) ∧
      (context.recordFormat = none ∨ context.recordFormat = some format) ∧
      (checkFieldNames context.fieldNames (keysOf (.obj row))).1 = [] ∧
      (checkLine library datasetType context line raw).2 =
        ⟨context.recordCount + 1, (checkFieldNames context.fieldNames (keysOf (.obj row))).2,
          context.sampleIds, some format⟩ := by
  unfold checkLine at h ⊢
  cases hblank : isBlank raw with
  | true =>
    rw [hblank, if_pos rfl, if_neg htype] at h
    cases h
  | false =>
    refine ⟨rfl, ?_⟩
    rw [hblank] at h
    rw [if_neg Bool.false_ne_true] at h ⊢
    cases hload : loadsLine library raw with
    | error text =>
      rw [hload] at h
      cases h
    | ok item =>
      rw [hload] at h
      dsimp only at h ⊢
      rw [checkRecord_training htype] at h ⊢
      obtain ⟨hfields, hrecord⟩ := List.append_eq_nil_iff.mp h
      obtain ⟨row, format, hrow, hvalid, hformat, hnext⟩ := checkTrainingRecord_clean htype hrecord
      subst hrow
      exact ⟨row, format, rfl, hvalid, hformat, hfields, by rw [hnext]⟩

/-- A line without a message, for every type. -/
theorem checkLine_record {context : Context} {line : Nat} {raw : Bytes}
    (h : (checkLine library datasetType context line raw).1 = []) :
    isBlank raw = true ∧ (checkLine library datasetType context line raw).2 = context ∨
    isBlank raw = false ∧ ∃ row, loadsLine library raw = .ok (.obj row) ∧
      (checkFieldNames context.fieldNames (keysOf (.obj row))).1 = [] ∧
      (checkLine library datasetType context line raw).2.recordCount = context.recordCount + 1 ∧
      (checkLine library datasetType context line raw).2.fieldNames =
        (checkFieldNames context.fieldNames (keysOf (.obj row))).2 := by
  by_cases htype : datasetType = .evaluation
  · subst htype
    rcases checkLine_evaluation h with hblank | ⟨hblank, row, sample, hrecord, -, hfields, hnext⟩
    · exact .inl hblank
    · exact .inr ⟨hblank, row, hrecord.decoded, hfields, by rw [hnext], by rw [hnext]⟩
  · obtain ⟨hblank, row, format, hload, -, -, hfields, hnext⟩ := checkLine_training htype h
    exact .inr ⟨hblank, row, hload, hfields, by rw [hnext], by rw [hnext]⟩

/-! ## Lines without a message -/

/-- The first of the lines, and the rest. -/
theorem lineErrors_cons {context : Context} {n : Nat} {raw : Bytes} {rest : List Bytes}
    (h : lineErrors library datasetType context n (raw :: rest) = []) :
    raw.length ≤ lineLimit datasetType ∧ (checkLine library datasetType context (n + 1) raw).1 = [] ∧
      lineErrors library datasetType (checkLine library datasetType context (n + 1) raw).2 (n + 1) rest = [] ∧
      lineContext library datasetType context n (raw :: rest) =
        lineContext library datasetType (checkLine library datasetType context (n + 1) raw).2 (n + 1) rest := by
  rw [lineErrors, List.append_eq_nil_iff, List.map_eq_nil_iff] at h
  rw [lineContext]
  unfold lineMessages at h ⊢
  split at h
  · cases h.1
  · rename_i hshort
    rw [if_neg hshort]
    exact ⟨Nat.le_of_not_lt hshort, h.1, h.2, rfl⟩

/-- The field names of lines without a message, and their number. -/
structure LinesKnown (library : DatasetLibrary) (datasetType : DatasetType) (context : Context) (lines : List Bytes)
    (context' : Context) : Prop where
  short : ∀ raw ∈ lines, raw.length ≤ lineLimit datasetType
  recordCount : context'.recordCount = context.recordCount + lines.countP fun raw => !isBlank raw
  fields : ∀ raw ∈ lines, isBlank raw = false → ∃ row, loadsLine library raw = .ok (.obj row) ∧
    ∀ key ∈ keysOf (.obj row), key.length ≤ maxFieldNameLength ∧ key ∈ context'.fieldNames
  kept : ∀ name ∈ context.fieldNames, name ∈ context'.fieldNames
  few : context.fieldNames.length ≤ maxSchemaFields → context'.fieldNames.length ≤ maxSchemaFields

theorem linesKnown {lines : List Bytes} {context : Context} {n : Nat}
    (h : lineErrors library datasetType context n lines = []) :
    LinesKnown library datasetType context lines (lineContext library datasetType context n lines) := by
  induction lines generalizing context n with
  | nil => exact ⟨nofun, rfl, nofun, fun _ => id, id⟩
  | cons raw rest ih =>
    obtain ⟨hshort, hclean, hrest, hcontext⟩ := lineErrors_cons h
    obtain ⟨ihshort, ihcount, ihfields, ihkept, ihfew⟩ := ih hrest
    rw [hcontext]
    have hall : ∀ line ∈ raw :: rest, line.length ≤ lineLimit datasetType := by
      intro line hline
      rcases List.mem_cons.mp hline with rfl | hline
      · exact hshort
      · exact ihshort line hline
    rcases checkLine_record hclean with ⟨hblank, hnext⟩ | ⟨hblank, row, hload, hnames, hcount, hnext⟩
    · rw [hnext] at ihcount ihfields ihkept ihfew ⊢
      refine ⟨hall, by simpa [hblank] using ihcount, fun line hline hrecord => ?_, ihkept, ihfew⟩
      rcases List.mem_cons.mp hline with rfl | hline
      · rw [hblank] at hrecord
        cases hrecord
      · exact ihfields line hline hrecord
    · obtain ⟨hkeys, hknown, hkept, hfew⟩ := checkFieldNames_clean hnames
      rw [hnext] at ihkept ihfew
      refine ⟨hall, ?_, fun line hline hrecord => ?_, fun name hname => ihkept name (hkept name hname),
        fun hle => ihfew (hfew hle)⟩
      · rw [ihcount, hcount, List.countP_cons_of_pos (by simp [hblank])]
        omega
      · rcases List.mem_cons.mp hline with rfl | hline
        · exact ⟨row, hload, fun key hkey => ⟨hkeys key hkey, ihkept key (hknown key hkey)⟩⟩
        · exact ihfields line hline hrecord

/-- The lines of an evaluation dataset and their samples. -/
def SamplesOf (library : DatasetLibrary) (records : List (Bytes × Nat)) (samples : List Sample) : Prop :=
  List.Forall₂ (fun line sample => ∃ row, EvaluationRecord library line.1 line.2 row sample) records samples

/-- The lines of an evaluation dataset without a message have samples, and their ids are distinct. -/
theorem evaluationLines {lines : List Bytes} {context : Context} {n : Nat}
    (h : lineErrors library .evaluation context n lines = []) (hids : context.sampleIds.Nodup) :
    ∃ samples, SamplesOf library (recordLines (n + 1) lines) samples ∧
      (context.sampleIds ++ samples.map Sample.sampleId).Nodup := by
  induction lines generalizing context n with
  | nil => exact ⟨[], .nil, by simpa using hids⟩
  | cons raw rest ih =>
    obtain ⟨-, hclean, hrest, -⟩ := lineErrors_cons h
    rw [recordLines_cons]
    rcases checkLine_evaluation hclean with ⟨hblank, hnext⟩ | ⟨hblank, row, sample, hrecord, hfresh, -, hnext⟩
    · rw [hnext] at hrest
      rw [hblank, if_pos rfl]
      exact ih hrest hids
    · rw [hnext] at hrest
      have hids' : (context.sampleIds ++ [sample.sampleId]).Nodup := by
        refine List.Nodup.append hids (List.nodup_singleton _) ?_
        simpa using hfresh
      obtain ⟨samples, hsamples, hdistinct⟩ := ih hrest hids'
      rw [hblank, if_neg Bool.false_ne_true]
      refine ⟨sample :: samples, .cons ⟨row, hrecord⟩ hsamples, ?_⟩
      simpa using hdistinct

/-- A line of a training dataset and its format. -/
def HasFormat (library : DatasetLibrary) (datasetType : DatasetType) (format : RecordFormat) (raw : Bytes) : Prop :=
  isBlank raw = false ∧ ∃ row, loadsLine library raw = .ok (.obj row) ∧
    validateTrainingRecord (.obj row) datasetType = .ok (some format)

/-- Behind the first record, the format stays. -/
theorem trainingLines_from (htype : datasetType ≠ .evaluation) {lines : List Bytes} {context : Context} {n : Nat}
    {format : RecordFormat} (h : lineErrors library datasetType context n lines = [])
    (hformat : context.recordFormat = some format) :
    (∀ raw ∈ lines, HasFormat library datasetType format raw) ∧
      (lineContext library datasetType context n lines).recordFormat = some format := by
  induction lines generalizing context n with
  | nil => exact ⟨nofun, hformat⟩
  | cons raw rest ih =>
    obtain ⟨-, hclean, hrest, hcontext⟩ := lineErrors_cons h
    obtain ⟨hblank, row, f, hload, hvalid, hsame, -, hnext⟩ := checkLine_training htype hclean
    have hf : format = f := by simpa [hformat] using hsame
    subst hf
    rw [hnext] at hrest
    obtain ⟨hlines, hlast⟩ := ih hrest rfl
    rw [hcontext, hnext]
    refine ⟨fun line hline => ?_, hlast⟩
    rcases List.mem_cons.mp hline with rfl | hline
    · exact ⟨hblank, row, hload, hvalid⟩
    · exact hlines line hline

/-- The lines of a training dataset without a message have one format. -/
theorem trainingLines (htype : datasetType ≠ .evaluation) {lines : List Bytes} {n : Nat} (hlines : lines ≠ [])
    (h : lineErrors library datasetType .empty n lines = []) :
    ∃ format, (∀ raw ∈ lines, HasFormat library datasetType format raw) ∧
      (lineContext library datasetType .empty n lines).recordFormat = some format := by
  cases lines with
  | nil => exact absurd rfl hlines
  | cons raw rest =>
    obtain ⟨-, hclean, hrest, hcontext⟩ := lineErrors_cons h
    obtain ⟨hblank, row, format, hload, hvalid, -, -, hnext⟩ := checkLine_training htype hclean
    rw [hnext] at hrest
    obtain ⟨hall, hlast⟩ := trainingLines_from htype hrest rfl
    rw [hcontext, hnext]
    refine ⟨format, fun line hline => ?_, hlast⟩
    rcases List.mem_cons.mp hline with rfl | hline
    · exact ⟨hblank, row, hload, hvalid⟩
    · exact hall line hline

/-! ## The errors of the lines -/

/-- Every error has the number of its line and one of its messages. -/
theorem mem_lineErrors {lines : List Bytes} {context : Context} {n : Nat} {e : LineError}
    (h : e ∈ lineErrors library datasetType context n lines) :
    ∃ before raw after, lines = before ++ raw :: after ∧ e.line = n + before.length + 1 ∧
      e.message ∈ (lineMessages library datasetType (lineContext library datasetType context n before) e.line raw).1 := by
  induction lines generalizing context n with
  | nil => cases h
  | cons raw rest ih =>
    rw [lineErrors, List.mem_append, List.mem_map] at h
    rcases h with ⟨message, hmessage, rfl⟩ | h
    · exact ⟨[], raw, rest, rfl, rfl, hmessage⟩
    · obtain ⟨before, raw', after, hlines, hline, hmessage⟩ := ih h
      refine ⟨raw :: before, raw', after, by rw [hlines]; rfl, ?_, hmessage⟩
      rw [List.length_cons, hline]
      omega

/-- A line that is no record: too long, blank, or no JSON. -/
def NoRecord (library : DatasetLibrary) (datasetType : DatasetType) (raw : Bytes) : Prop :=
  lineLimit datasetType < raw.length ∨ isBlank raw = true ∨ ∃ text, loadsLine library raw = .error text

theorem checkRecord_recordCount {context : Context} {line : Nat} {item : Json} :
    (checkRecord library datasetType context line item).2.recordCount = context.recordCount := by
  by_cases htype : datasetType = .evaluation
  · subst htype
    cases item <;> rfl
  · rw [checkRecord_training htype]

/-- Every other line is counted. -/
theorem lineMessages_recordCount (context : Context) (line : Nat) (raw : Bytes) :
    (lineMessages library datasetType context line raw).2 = context ∧ NoRecord library datasetType raw ∨
    (lineMessages library datasetType context line raw).2.recordCount = context.recordCount + 1 := by
  unfold lineMessages
  split
  · rename_i hlong
    exact .inl ⟨rfl, .inl hlong⟩
  · unfold checkLine
    split
    · rename_i hblank
      exact .inl ⟨rfl, .inr (.inl hblank)⟩
    · split
      · rename_i text hload
        exact .inl ⟨rfl, .inr (.inr ⟨text, hload⟩)⟩
      · exact .inr checkRecord_recordCount

theorem lineContext_recordCount (lines : List Bytes) (context : Context) (n : Nat) :
    context.recordCount ≤ (lineContext library datasetType context n lines).recordCount ∧
      ((lineContext library datasetType context n lines).recordCount = context.recordCount →
        ∀ raw ∈ lines, NoRecord library datasetType raw) := by
  induction lines generalizing context n with
  | nil => exact ⟨Nat.le_refl _, fun _ => nofun⟩
  | cons raw rest ih =>
    rw [lineContext]
    obtain ⟨hle, hsame⟩ := ih (lineMessages library datasetType context (n + 1) raw).2 (n + 1)
    rcases lineMessages_recordCount context (n + 1) raw with
      ⟨hnext, hno⟩ | hnext
    · rw [hnext] at hle hsame ⊢
      refine ⟨hle, fun h line hline => ?_⟩
      rcases List.mem_cons.mp hline with rfl | hline
      · exact hno
      · exact hsame h line hline
    · rw [hnext] at hle
      exact ⟨by omega, fun h => by omega⟩

end OpenLLMOps.Datasets
