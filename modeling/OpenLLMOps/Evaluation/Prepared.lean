import OpenLLMOps.Datasets.Loaders
import OpenLLMOps.Evaluation.Packaging
import OpenLLMOps.Framework.Json.JsonLines
import OpenLLMOps.Framework.Json.Sorted

/-!
# A prepared benchmark is a dataset

The records that a conversion writes are those of questions (`convert_questions`), and the file of their lines is read
back by the loader of the evaluation as the samples of these questions, unless a line is too long for it
(`prepared_is_read`); the upload of the file is not refused for what is in it (`prepared_is_stored`).
-/

namespace OpenLLMOps.Benchmarks

open Framework Effect Datasets Evaluation

/-! ## What a record says -/

structure Question where
  split : Split
  subject : PyStr
  number : Nat
  question : PyStr
  answer : PyStr
  choices : List (PyStr × PyStr)
  metadata : Evaluation.Row

/-- The metadata of a record. -/
def metadataOf (spec : BenchmarkSpec) (split : Split) (subject : PyStr) (sourceRow : Nat)
    (originalId explanation : PyStr) : Evaluation.Row :=
  [(py "benchmark", .str spec.name.text), (py "source_file", .str (canonicalSourcePath spec split subject)),
    (py "source_row", .int sourceRow), (py "split", .str split.text)] ++
  (if originalId = [] then [] else [(py "original_id", .str originalId)]) ++
  (if explanation = [] then [] else [(py "explanation", .str explanation)])

/-- A text of a field: it is stripped, and of code points. -/
structure Cell (s : PyStr) : Prop where
  strip : s.strip = s
  unicode : IsUnicode s

namespace Question

variable (spec : BenchmarkSpec) (q : Question)

def id : PyStr := recordId spec q.split q.subject q.number

/-- The members of the record, by their keys. -/
def members : Evaluation.Row :=
  [(py "answer", .str q.answer), (py "category", .str q.subject),
    (py "choices", .obj (q.choices.map fun choice => (choice.1, .str choice.2))), (py "id", .str (q.id spec)),
    (py "metadata", .obj q.metadata), (py "question", .str q.question), (py "task_type", .str (py "multiple_choice"))]

def record : Json := .obj (q.members spec)

/-- The sample of the question. Its metadata are sorted, as the writer sorts them. -/
def sample : Sample where
  sampleId := q.id spec
  taskType := .multipleChoice
  question := q.question
  answers := [q.answer]
  category := q.subject
  choices := q.choices
  context := none
  metadata := Json.sortedFields recordStyle q.metadata

/-- A question of a source. -/
structure Proper : Prop where
  subject : q.subject ∈ spec.subjects
  question : Cell q.question
  someQuestion : q.question ≠ []
  answer : q.answer ∈ choiceLabels.map Prod.fst
  labels : q.choices.map Prod.fst = choiceLabels.map Prod.fst
  choices : ∀ choice ∈ q.choices, Cell choice.2 ∧ choice.2 ≠ []
  metadata : ∃ originalId explanation, Cell originalId ∧ Cell explanation ∧
    q.metadata = metadataOf spec q.split q.subject (q.number + 1) originalId explanation

end Question

section

variable {library : BenchmarkLibrary} {spec : BenchmarkSpec}

theorem Cell.nil : Cell [] := ⟨rfl, fun _ hc => absurd hc List.not_mem_nil⟩

theorem Cell.of_strip {s : PyStr} (h : IsUnicode s) : Cell s.strip :=
  ⟨PyStr.strip_strip s, fun c hc => h c (PyStr.mem_of_mem_strip hc)⟩

/-- The columns of a normalized row are those of the raw row, stripped. -/
theorem normalizedColumns_value {columns : List (PyStr × Option PyStr)} {done row : List (PyStr × PyStr)}
    (h : normalizedColumns library done columns = .ok row) {name value : PyStr} (hmem : (name, value) ∈ row) :
    (name, value) ∈ done ∨ ∃ key text, (key, some text) ∈ columns ∧ value = text.strip := by
  induction columns generalizing done with
  | nil =>
    obtain rfl := Except.ok.inj h
    exact .inl hmem
  | cons column columns ih =>
    obtain ⟨key, content⟩ := column
    have hrest (done : List (PyStr × PyStr)) (h : normalizedColumns library done columns = .ok row) :
        (name, value) ∈ done ∨ ∃ key' text, (key', some text) ∈ (key, content) :: columns ∧ value = text.strip := by
      refine (ih h).imp_right ?_
      rintro ⟨key', text, hcolumn, hvalue⟩
      exact ⟨key', text, List.mem_cons_of_mem _ hcolumn, hvalue⟩
    unfold normalizedColumns at h
    simp only at h
    split at h
    · exact hrest done h
    · obtain ⟨-, h⟩ := ite_error_eq_ok.mp h
      cases content with
      | none => cases h
      | some text =>
        rcases hrest _ h with hdone | hfound
        · rcases List.mem_append.mp hdone with hdone | hlast
          · exact .inl hdone
          · exact .inr ⟨key, text, List.mem_cons_self, (Prod.ext_iff.mp (List.mem_singleton.mp hlast)).2⟩
        · exact .inr hfound

theorem normalizedRow_cell {raw : Csv.DictRow} {row : List (PyStr × PyStr)} (h : normalizedRow library raw = .ok row)
    (hunicode : ∀ key text, (key, some text) ∈ raw.columns → IsUnicode text) (name : PyStr) :
    Cell ((Dict.get? row name).getD []) := by
  obtain ⟨-, h⟩ := ite_error_eq_ok.mp h
  cases hget : Dict.get? row name with
  | none => exact .nil
  | some value =>
    rcases normalizedColumns_value h (Dict.mem_of_get? hget) with hdone | ⟨key, text, hcolumn, rfl⟩
    · exact absurd hdone List.not_mem_nil
    · exact .of_strip (hunicode key text hcolumn)

/-- The record of a row is that of a question. -/
theorem recordOf_question {split : Split} {subject : PyStr} (hsubject : subject ∈ spec.subjects) {number : Nat}
    {raw : Csv.DictRow} (hunicode : ∀ key text, (key, some text) ∈ raw.columns → IsUnicode text) {record : Json}
    (h : recordOf library spec split subject (number + 1) raw = .ok record) :
    ∃ q : Question, q.Proper spec ∧ record = q.record spec ∧ q.split = split ∧ q.subject = subject ∧
      q.number = number := by
  obtain ⟨row, hrow, h⟩ := bind_eq_ok.mp h
  have hcell := normalizedRow_cell (mapError_eq_ok.mp hrow) hunicode
  obtain ⟨hquestion, h⟩ := ite_error_eq_ok.mp h
  obtain ⟨hchoices, h⟩ := ite_error_eq_ok.mp h
  obtain ⟨hanswer, h⟩ := ite_error_eq_ok.mp h
  obtain rfl := Except.ok.inj h
  let choices := choiceLabels.map fun label => (label.1, (Dict.get? row label.2).getD [])
  have hlabels : choices.map Prod.fst = choiceLabels.map Prod.fst := by
    rw [List.map_map]
    rfl
  have hall : ∀ choice ∈ choices, Cell choice.2 ∧ choice.2 ≠ [] := by
    intro choice hchoice
    refine ⟨?_, fun hnil => hchoices (List.any_eq_true.mpr ⟨choice, hchoice, decide_eq_true hnil⟩)⟩
    obtain ⟨label, -, rfl⟩ := List.mem_map.mp hchoice
    exact hcell label.2
  exact ⟨⟨split, subject, number, column row "question", (column row "answer").upper library.unicode, choices,
    metadataOf spec split subject (number + 1) (column row "id") (column row "explanation")⟩,
    ⟨hsubject, hcell _, hquestion, not_not.mp hanswer, hlabels, hall, _, _, hcell _, hcell _, rfl⟩, rfl, rfl, rfl, rfl⟩

/-! ## The questions of a source -/

/-- `MAX_CSV_FILE_BYTES`, which the readers of a source check. -/
def maxCsvFileBytes : Nat := 16 * 1024 * 1024

theorem recordsOf_questions {split : Split} {subject : PyStr} (hsubject : subject ∈ spec.subjects) {number : Nat}
    {rows : List Csv.DictRow} (hunicode : ∀ raw ∈ rows, ∀ key text, (key, some text) ∈ raw.columns → IsUnicode text)
    {records : List Json} (h : recordsOf library spec split subject (number + 1) rows = .ok records) :
    ∃ questions : List Question, records = questions.map (Question.record spec) ∧
      ∀ q ∈ questions, q.Proper spec ∧ q.number < number + rows.length := by
  induction rows generalizing number records with
  | nil =>
    obtain rfl := Except.ok.inj h
    exact ⟨[], rfl, fun q hq => absurd hq List.not_mem_nil⟩
  | cons raw rows ih =>
    obtain ⟨record, hrecord, h⟩ := bind_eq_ok.mp h
    obtain ⟨rest, hrest, h⟩ := bind_eq_ok.mp h
    obtain rfl := Except.ok.inj h
    obtain ⟨q, hq, rfl, -, -, hnumber⟩ := recordOf_question hsubject (hunicode raw List.mem_cons_self) hrecord
    obtain ⟨questions, rfl, hquestions⟩ := ih (fun raw hraw => hunicode raw (List.mem_cons_of_mem _ hraw)) hrest
    refine ⟨q :: questions, rfl, fun q' hq' => ?_⟩
    rw [List.length_cons]
    rcases List.mem_cons.mp hq' with rfl | hq'
    · exact ⟨hq, by omega⟩
    · have := (hquestions q' hq').2
      exact ⟨(hquestions q' hq').1, by omega⟩

theorem decodeUtf8Sig_unicode {b : Bytes} {text : PyStr} (h : decodeUtf8Sig b = some text) :
    IsUnicode text ∧ text.length ≤ b.length := by
  obtain ⟨hdecode, -⟩ := Option.filter_eq_some_iff.mp h
  obtain ⟨hunicode, hlength⟩ := decodeUtf8_unicode hdecode
  refine ⟨hunicode, hlength.trans ?_⟩
  split
  · exact (List.drop_sublist 3 b).length_le
  · exact Nat.le_refl _

theorem parseCsv_questions {source : SourceCsv} {split : Split} {subject : PyStr} (hsubject : subject ∈ spec.subjects)
    {records : List Json} (h : parseCsv library spec source split subject = .ok records) :
    records ≠ [] ∧ ∃ questions : List Question, records = questions.map (Question.record spec) ∧
      ∀ q ∈ questions, q.Proper spec ∧ q.number ≤ source.content.length := by
  have hcontent := mapError_eq_ok.mp h
  unfold parseContent at hcontent
  split at hcontent
  · cases hcontent
  · rename_i text htext
    obtain ⟨hunicode, hlength⟩ := decodeUtf8Sig_unicode htext
    obtain ⟨-, hcontent⟩ := ite_error_eq_ok.mp hcontent
    simp only at hcontent
    split at hcontent
    · split at hcontent <;> cases hcontent
    · obtain ⟨records', hrecords, hcontent⟩ := bind_eq_ok.mp hcontent
      obtain ⟨-, hcontent⟩ := ite_error_eq_ok.mp hcontent
      obtain ⟨hne, hcontent⟩ := ite_error_eq_ok.mp hcontent
      obtain rfl := Except.ok.inj hcontent
      obtain ⟨questions, hquestions, hall⟩ := recordsOf_questions hsubject
        (fun raw hraw key value hvalue c hc => hunicode c (Csv.dictReader_value hraw hvalue c hc)) hrecords
      refine ⟨hne, questions, hquestions, fun q hq => ⟨(hall q hq).1, ?_⟩⟩
      have hrows := Csv.length_dictReader_rows text
      have := (hall q hq).2
      omega

theorem convertSelected_questions {selected : List Selected} {limit : Nat}
    (hfiles : ∀ s ∈ selected, s.category ∈ spec.subjects ∧ s.source.content.length ≤ limit) {c counted : Counted}
    (h : convertSelected library spec c selected = .ok counted) :
    ∃ questions : List Question, counted.records = c.records ++ questions.map (Question.record spec) ∧
      (selected ≠ [] → questions ≠ []) ∧ ∀ q ∈ questions, q.Proper spec ∧ q.number ≤ limit := by
  induction selected generalizing c with
  | nil =>
    obtain rfl := Except.ok.inj h
    exact ⟨[], (List.append_nil _).symm, fun hne => absurd rfl hne, fun q hq => absurd hq List.not_mem_nil⟩
  | cons s selected ih =>
    obtain ⟨hsubject, hlimit⟩ := hfiles s List.mem_cons_self
    obtain ⟨records, hrecords, h⟩ := bind_eq_ok.mp h
    obtain ⟨hne, questions, rfl, hquestions⟩ := parseCsv_questions hsubject hrecords
    obtain ⟨rest, hrest, -, hrestAll⟩ := ih (fun t ht => hfiles t (List.mem_cons_of_mem _ ht)) h
    refine ⟨questions ++ rest, ?_, fun _ hnil => ?_, fun q hq => ?_⟩
    · rw [hrest, List.map_append, ← List.append_assoc]
      rfl
    · rw [(List.append_eq_nil_iff.mp hnil).1] at hne
      exact hne rfl
    · rcases List.mem_append.mp hq with hq | hq
      · exact ⟨(hquestions q hq).1, (hquestions q hq).2.trans hlimit⟩
      · exact hrestAll q hq

/-- What is converted are questions with distinct ids. -/
theorem convert_questions {files : List SourceCsv} (hsize : ∀ source ∈ files, source.content.length ≤ maxCsvFileBytes)
    {splits : List Split} {allowPartial : Bool} {c : Converted}
    (h : convert library spec files splits allowPartial = .ok c) :
    ∃ questions : List Question, questions ≠ [] ∧ c.records = questions.map (Question.record spec) ∧
      (questions.map (Question.id spec)).Nodup ∧ ∀ q ∈ questions, q.Proper spec ∧ q.number ≤ maxCsvFileBytes := by
  obtain ⟨selected, counted, hne, hnodup, hfiles, hcounted, hrecords⟩ := convert_selected h
  obtain ⟨new, hnew, hids, -⟩ := convertSelected_ids hnodup hcounted
  have hlimits : ∀ s ∈ selected, s.category ∈ spec.subjects ∧ s.source.content.length ≤ maxCsvFileBytes := by
    intro s hs
    obtain ⟨-, hsubject, source, hsource, hcontent⟩ := hfiles s hs
    exact ⟨hsubject, hcontent ▸ hsize source hsource⟩
  obtain ⟨questions, hquestions, hsome, hall⟩ := convertSelected_questions hlimits hcounted
  have hnew : counted.records = new := hnew
  have hquestions : counted.records = questions.map (Question.record spec) := hquestions
  refine ⟨questions, hsome hne, hrecords.trans hquestions, ?_, hall⟩
  rw [← hnew, hquestions, List.map_map] at hids
  have hsomeIds : (questions.map (Question.id spec)).map some = questions.map (idOf ∘ Question.record spec) := by
    rw [List.map_map]
    rfl
  exact List.Nodup.of_map some (hsomeIds ▸ hids)

end

/-! ## The sample of a question -/

/-- A character of ASCII that is printed, and no space. -/
def IsGraphic (c : Nat) : Prop := 32 < c ∧ c < 127

theorem IsGraphic.not_space {c : Nat} (h : IsGraphic c) : PyStr.isSpace c = false := by
  obtain ⟨hlow, hhigh⟩ := h
  simp only [PyStr.isSpace, Bool.or_eq_false_iff, Bool.and_eq_false_iff, decide_eq_false_iff_not]
  omega

theorem isGraphic_digit {c : Nat} (h : isDigit c = true) : IsGraphic c := by
  rw [isDigit, Bool.and_eq_true, decide_eq_true_eq, decide_eq_true_eq] at h
  exact ⟨by omega, by omega⟩

theorem isGraphic_category {c : Nat} (h : isCategoryChar c = true) : IsGraphic c := by
  simp only [isCategoryChar, Bool.or_eq_true, Bool.and_eq_true, decide_eq_true_eq] at h
  rcases h with ((h | h) | rfl) | rfl
  · exact ⟨by omega, by omega⟩
  · exact isGraphic_digit h
  · exact ⟨by decide, by decide⟩
  · exact ⟨by decide, by decide⟩

theorem chars_graphic {s : PyStr} (h : s.all (fun c => 32 < c && c < 127) = true) : Chars IsGraphic s := by
  intro c hc
  have := List.all_eq_true.mp h c hc
  simpa [IsGraphic] using this

section

variable {benchmark : Benchmark} {q : Question} {subject : PyStr}

theorem subjects_named :
    ∀ subject ∈ benchmark.spec.subjects, subject ≠ [] ∧ subject.length ≤ 64 ∧ subject.all isCategoryChar = true := by
  cases benchmark <;> decide +kernel

theorem subject_graphic (h : subject ∈ benchmark.spec.subjects) : Chars IsGraphic subject := fun c hc =>
  isGraphic_category (List.all_eq_true.mp (subjects_named subject h).2.2 c hc)

theorem Benchmark.text_graphic (benchmark : Benchmark) : Chars IsGraphic benchmark.text := by
  cases benchmark <;> exact chars_graphic (by decide)

theorem Split.text_graphic (split : Split) : Chars IsGraphic split.text := by
  cases split <;> exact chars_graphic (by decide)

theorem decimal_graphic (n : Nat) : Chars IsGraphic (decimal n) := fun c hc => isGraphic_digit (decimal_digits n c hc)

theorem recordId_graphic {split : Split} {n : Nat} (h : subject ∈ benchmark.spec.subjects) :
    Chars IsGraphic (recordId benchmark.spec split subject n) := by
  have hcolon : Chars IsGraphic (py ":") := chars_graphic (by decide)
  refine .append (.append (.append (.append (.append (.append ?_ hcolon) split.text_graphic) hcolon) ?_) hcolon) ?_
  · exact Benchmark.text_graphic _
  · exact subject_graphic h
  · exact decimal_graphic n

theorem recordId_ne_nil {spec : BenchmarkSpec} {split : Split} {n : Nat} : recordId spec split subject n ≠ [] :=
  fun hnil => decimal_ne_nil n (List.append_eq_nil_iff.mp hnil).2

theorem canonicalSourcePath_graphic {split : Split} (h : subject ∈ benchmark.spec.subjects) :
    Chars IsGraphic (canonicalSourcePath benchmark.spec split subject) := by
  refine .append (.append split.text_graphic (chars_graphic (by decide))) ?_
  have hcsv : Chars IsGraphic (py ".csv") := chars_graphic (by decide)
  cases benchmark with
  | ceval =>
    have hunderscore : Chars IsGraphic (py "_") := chars_graphic (by decide)
    exact .append (.append (.append (subject_graphic h) hunderscore) split.text_graphic) hcsv
  | cmmlu => exact .append (subject_graphic h) hcsv

theorem graphic_unicode {s : PyStr} (h : Chars IsGraphic s) : IsUnicode s := fun c hc => by
  have := (h c hc).2
  omega

theorem graphic_strip {s : PyStr} (h : Chars IsGraphic s) : s.strip = s :=
  PyStr.strip_of_no_space fun c hc => (h c hc).not_space

/-- The id is short, as the source is of a limited size. -/
theorem length_recordId {split : Split} {n : Nat} (h : subject ∈ benchmark.spec.subjects) (hn : n ≤ maxCsvFileBytes) :
    (recordId benchmark.spec split subject n).length ≤ 191 := by
  have hname : benchmark.spec.name.text.length ≤ 5 := by cases benchmark <;> decide
  have hsplit : split.text.length ≤ 4 := by cases split <;> decide
  have hsubject := (subjects_named subject h).2.1
  have hdecimal : (decimal n).length ≤ 8 := length_decimal_le (Nat.lt_of_le_of_lt hn (by decide))
  have hcolon : (py ":").length = 1 := rfl
  simp only [recordId, List.length_append, hcolon]
  omega

/-- A label of a choice is a capital letter. -/
theorem label_capital {label : PyStr} (h : label ∈ choiceLabels.map Prod.fst) :
    ∃ c, label = [c] ∧ isCapital c = true := by
  have hlabels : choiceLabels.map Prod.fst = [[65], [66], [67], [68]] := by decide
  rw [hlabels] at h
  simp only [List.mem_cons, List.not_mem_nil, or_false] at h
  rcases h with rfl | rfl | rfl | rfl <;> exact ⟨_, rfl, by decide⟩

theorem label_strip {label : PyStr} (h : label ∈ choiceLabels.map Prod.fst) : label.strip = label := by
  obtain ⟨c, rfl, hc⟩ := label_capital h
  exact PyStr.strip_singleton (isSpace_capital hc)

theorem label_upper (u : UnicodeData) {label : PyStr} (h : label ∈ choiceLabels.map Prod.fst) :
    label.upper u = label := by
  obtain ⟨c, rfl, hc⟩ := label_capital h
  exact PyStr.upper_capital u hc

theorem text?_cell {s : PyStr} (h : s.strip = s) (hne : s ≠ []) : text? (.str s) = some s :=
  text?_eq_some.mpr ⟨s, rfl, h.symm, h.symm ▸ hne⟩

/-! ### The row that is read -/

/-- The members as they are written. -/
def Question.row (spec : BenchmarkSpec) (q : Question) : Evaluation.Row :=
    Json.sortedFields recordStyle (q.members spec)

variable {spec : BenchmarkSpec}

theorem Question.keys_members : (q.members spec).map Prod.fst =
    [py "answer", py "category", py "choices", py "id", py "metadata", py "question", py "task_type"] := rfl

theorem Question.row_get? (k : PyStr) :
    Json.get? (q.row spec) k = (Json.get? (q.members spec) k).map (Json.sorted recordStyle) :=
  Json.get?_sortedFields (by rw [Question.keys_members]; decide) k

/-- The choices of the row are in the order of their labels. -/
theorem Question.Proper.sortedFields_choices (hq : q.Proper spec) :
    Json.sortedFields recordStyle (q.choices.map fun choice => (choice.1, .str choice.2)) =
      q.choices.map fun choice => (choice.1, .str choice.2) := by
  have hentries (choices : List (PyStr × PyStr)) :
      Json.sortedEntries recordStyle (choices.map fun choice => (choice.1, .str choice.2)) =
        choices.map fun choice => (choice.1, .str choice.2) := by
    induction choices with
    | nil => rfl
    | cons choice choices ih => rw [List.map_cons, Json.sortedEntries, ih]; rfl
  rw [Json.sortedFields, hentries]
  refine JsonStyle.sortKvs_sorted ?_
  have hkeys : (q.choices.map fun choice => (choice.1, Json.str choice.2)).map Prod.fst = q.choices.map Prod.fst := by
    rw [List.map_map]
    rfl
  rw [hkeys, hq.labels]
  decide

theorem Question.Proper.parseChoices (hq : q.Proper spec) (u : UnicodeData) (line : Nat) :
    parseChoices u (q.row spec) line = .ok q.choices := by
  have hget : Json.get? (q.row spec) (py "choices") =
      some (.obj (Json.sortedFields recordStyle (q.choices.map fun choice => (choice.1, .str choice.2)))) :=
    q.row_get? _
  have hlabel : ∀ choice ∈ q.choices, choice.1 ∈ choiceLabels.map Prod.fst := fun choice hchoice =>
    hq.labels ▸ List.mem_map_of_mem hchoice
  have hmap : (q.choices.map fun choice => (choice.1, Json.str choice.2)).mapM (choice? u) = some q.choices := by
    rw [mapM_eq_some, List.map_map]
    refine List.map_congr_left fun choice hchoice => ?_
    obtain ⟨hcell, hne⟩ := hq.choices choice hchoice
    show (text? (.str choice.2)).map _ = some choice
    rw [text?_cell hcell.strip hne, label_strip (hlabel choice hchoice), label_upper u (hlabel choice hchoice)]
    rfl
  rw [Evaluation.parseChoices, hget, hq.sortedFields_choices]
  show normalizeChoices u _ line = _
  rw [normalizeChoices, hmap]
  refine if_neg (not_or.mpr ⟨?_, not_not.mpr ?_⟩)
  · have hlength := congrArg List.length hq.labels
    rw [List.length_map, List.length_map] at hlength
    rw [hlength]
    decide
  · rw [hq.labels]
    decide

theorem Question.Proper.parseAnswers (hq : q.Proper spec) (line : Nat) :
    parseAnswers (q.row spec) line = .ok [q.answer] := by
  have hne : q.answer ≠ [] := by
    obtain ⟨c, hc, -⟩ := label_capital hq.answer
    rw [hc]
    exact List.cons_ne_nil _ _
  have hvalues : answerValues (q.row spec) = [.str q.answer] := by
    rw [answerValues, q.row_get?, q.row_get?]
    rfl
  refine parseAnswers_eq_ok.mpr ⟨?_, List.cons_ne_nil _ _⟩
  rw [hvalues, mapM_eq_some, List.map_singleton, text?_cell (label_strip hq.answer) hne]
  rfl

/-- The row of a question is read as its sample. -/
theorem Question.Proper.parseRow (hq : q.Proper benchmark.spec) (u : UnicodeData) (line : Nat) :
    parseRow u (q.row benchmark.spec) line = .ok (q.sample benchmark.spec) := by
  have hsubject := subject_graphic hq.subject
  have hidstrip : (q.id benchmark.spec).strip = q.id benchmark.spec := graphic_strip (recordId_graphic hq.subject)
  have hidne : q.id benchmark.spec ≠ [] := recordId_ne_nil
  have htask : parseTaskType (q.row benchmark.spec) line = .ok .multipleChoice := by
    refine parseTaskType_eq_ok.mpr ?_
    rw [taskType?, q.row_get?]
    rfl
  have hparseId : parseId u (q.row benchmark.spec) line = .ok (q.id benchmark.spec) := by
    have hget : Json.get? (q.row benchmark.spec) (py "id") = some (.str (q.id benchmark.spec)) := q.row_get? _
    rw [parseId, hget]
    show (if PyStr.strip (q.id benchmark.spec) = [] then _ else Except.ok (PyStr.strip (q.id benchmark.spec))) = _
    rw [hidstrip, if_neg hidne]
  have hexpected : expectedAnswers u .multipleChoice q.choices [q.answer] line = .ok [q.answer] := by
    show (if q.answer.upper u ∈ q.choices.map Prod.fst then Except.ok [q.answer.upper u] else _) = _
    rw [label_upper u hq.answer, hq.labels, if_pos hq.answer]
  have hmetadata : parseMetadata (q.row benchmark.spec) line = .ok (Json.sortedFields recordStyle q.metadata) := by
    rw [parseMetadata, q.row_get?]
    rfl
  have hquestion : requiredQuestion (q.row benchmark.spec) line = .ok q.question := by
    have hget : Json.get? (q.row benchmark.spec) (py "question") = some (.str q.question) := q.row_get? _
    rw [requiredQuestion, hget, Option.bind_some, text?_cell hq.question.strip hq.someQuestion]
  have hcategory : categoryOf u (q.row benchmark.spec) = q.subject := by
    have hget : Json.get? (q.row benchmark.spec) (py "category") = some (.str q.subject) := q.row_get? _
    rw [categoryOf, hget]
    show (if PyStr.strip q.subject = [] then _ else PyStr.strip q.subject) = _
    rw [graphic_strip hsubject, if_neg (subjects_named _ hq.subject).1]
  have hcontext : contextOf u (q.row benchmark.spec) = none := by
    rw [contextOf, q.row_get?]
    rfl
  refine bind_eq_ok.mpr ⟨_, htask, bind_eq_ok.mpr ⟨_, hparseId, bind_eq_ok.mpr ⟨_, hq.parseChoices u line, ?_⟩⟩⟩
  refine bind_eq_ok.mpr ⟨_, hq.parseAnswers line, bind_eq_ok.mpr ⟨_, hexpected, bind_eq_ok.mpr ⟨_, hmetadata, ?_⟩⟩⟩
  refine bind_eq_ok.mpr ⟨_, hquestion, ?_⟩
  rw [hcategory, hcontext]
  rfl

/-! ### The line that is written -/

/-- The members of an object are texts and small numbers. -/
def Leaf (h : JsonDecoder) (kv : PyStr × Json) : Prop :=
  IsUnicode kv.1 ∧ kv.2.Readable h ∧ kv.2.EachString IsUnicode

theorem leaf_str {h : JsonDecoder} {key s : PyStr}
    (hkey : key.all (fun c => 32 < c && c < 127) = true) (hs : IsUnicode s) :
    Leaf h (key, .str s) :=
  ⟨graphic_unicode (chars_graphic hkey), trivial, hs⟩

theorem metadataOf_keys (split : Split) (sourceRow : Nat) (originalId explanation : PyStr) :
    ((metadataOf spec split subject sourceRow originalId explanation).map Prod.fst).Nodup ∧
      py "openllmops_source" ∉ (metadataOf spec split subject sourceRow originalId explanation).map Prod.fst := by
  unfold metadataOf
  split <;> split <;> simp only [List.map_append, List.map_cons, List.map_nil] <;> decide

theorem metadataOf_leaf {h : JsonDecoder} {split : Split} (hsubject : subject ∈ benchmark.spec.subjects) {number : Nat}
    (hn : number ≤ maxCsvFileBytes) {originalId explanation : PyStr} (hid : Cell originalId)
    (hexplanation : Cell explanation) :
    ∀ kv ∈ metadataOf benchmark.spec split subject (number + 1) originalId explanation, Leaf h kv := by
  have hrow : Leaf h (py "source_row", .int (number + 1 : Nat)) := by
    have hlength : (decimal (number + 1)).length ≤ 8 :=
      length_decimal_le (Nat.lt_of_le_of_lt (Nat.succ_le_succ hn) (by decide))
    have hkey : IsUnicode (py "source_row") := graphic_unicode (chars_graphic (by decide))
    refine ⟨hkey, ?_, trivial⟩
    show (decimal (number + 1)).length ≤ 4300
    omega
  unfold metadataOf
  refine List.forall_mem_append.mpr ⟨List.forall_mem_append.mpr ⟨?_, ?_⟩, ?_⟩
  · refine List.forall_mem_cons.mpr ⟨leaf_str (by decide) (graphic_unicode (Benchmark.text_graphic _)), ?_⟩
    refine List.forall_mem_cons.mpr ⟨leaf_str (by decide) (graphic_unicode (canonicalSourcePath_graphic hsubject)), ?_⟩
    refine List.forall_mem_cons.mpr ⟨hrow, ?_⟩
    exact List.forall_mem_singleton.mpr (leaf_str (by decide) (graphic_unicode split.text_graphic))
  · split
    · exact fun kv hkv => absurd hkv List.not_mem_nil
    · exact List.forall_mem_singleton.mpr (leaf_str (by decide) hid.unicode)
  · split
    · exact fun kv hkv => absurd hkv List.not_mem_nil
    · exact List.forall_mem_singleton.mpr (leaf_str (by decide) hexplanation.unicode)

/-- An object of leaves under distinct keys. -/
theorem leaf_obj {h : JsonDecoder} {key : PyStr} {kvs : List (PyStr × Json)}
    (hkey : key.all (fun c => 32 < c && c < 127) = true) (hn : (kvs.map Prod.fst).Nodup)
    (hkvs : ∀ kv ∈ kvs, Leaf h kv) : Leaf h (key, .obj kvs) :=
  ⟨graphic_unicode (chars_graphic hkey), ⟨hn, Json.readableEntries_of_forall fun kv hkv => (hkvs kv hkv).2.1⟩,
    Json.eachEntry_of_entries fun kv hkv => ⟨(hkvs kv hkv).1, (hkvs kv hkv).2.2⟩⟩

theorem Question.Proper.leaf (hq : q.Proper benchmark.spec) (hn : q.number ≤ maxCsvFileBytes) (h : JsonDecoder) :
    ∀ kv ∈ q.members benchmark.spec, Leaf h kv := by
  have hanswer : IsUnicode q.answer := by
    obtain ⟨c, hc, hcapital⟩ := label_capital hq.answer
    rw [hc]
    simp only [isCapital, Bool.and_eq_true, decide_eq_true_eq] at hcapital
    exact List.forall_mem_singleton.mpr (by omega)
  have hchoices : Leaf h (py "choices", .obj (q.choices.map fun choice => (choice.1, .str choice.2))) := by
    refine leaf_obj (by decide) ?_ fun kv hkv => ?_
    · rw [List.map_map]
      show (q.choices.map Prod.fst).Nodup
      rw [hq.labels]
      decide
    · obtain ⟨choice, hchoice, rfl⟩ := List.mem_map.mp hkv
      obtain ⟨c, hc, hcapital⟩ := label_capital (hq.labels ▸ List.mem_map_of_mem (f := Prod.fst) hchoice)
      refine ⟨?_, trivial, (hq.choices choice hchoice).1.unicode⟩
      rw [hc]
      simp only [isCapital, Bool.and_eq_true, decide_eq_true_eq] at hcapital
      exact List.forall_mem_singleton.mpr (by omega)
  obtain ⟨originalId, explanation, hid, hexplanation, hmetadata⟩ := hq.metadata
  have hmetadata : Leaf h (py "metadata", .obj q.metadata) := by
    rw [hmetadata]
    exact leaf_obj (by decide) (metadataOf_keys ..).1 (metadataOf_leaf hq.subject hn hid hexplanation)
  refine List.forall_mem_cons.mpr ⟨leaf_str (by decide) hanswer, ?_⟩
  refine List.forall_mem_cons.mpr ⟨leaf_str (by decide) (graphic_unicode (subject_graphic hq.subject)), ?_⟩
  refine List.forall_mem_cons.mpr ⟨hchoices, ?_⟩
  refine List.forall_mem_cons.mpr ⟨leaf_str (by decide) (graphic_unicode (recordId_graphic hq.subject)), ?_⟩
  refine List.forall_mem_cons.mpr ⟨hmetadata, ?_⟩
  refine List.forall_mem_cons.mpr ⟨leaf_str (by decide) hq.question.unicode, ?_⟩
  exact List.forall_mem_singleton.mpr (leaf_str (by decide) (graphic_unicode (chars_graphic (by decide))))

theorem Question.Proper.record_leaf (hq : q.Proper benchmark.spec) (hn : q.number ≤ maxCsvFileBytes) (h : JsonDecoder) :
    (q.record benchmark.spec).Readable h ∧ (q.record benchmark.spec).EachString IsUnicode := by
  have hkeys : ((q.members benchmark.spec).map Prod.fst).Nodup := by
    rw [Question.keys_members]
    decide
  have hobj := @leaf_obj h [] _ rfl hkeys (hq.leaf hn h)
  exact ⟨hobj.2.1, hobj.2.2⟩

theorem sourceTextError_graphic {s : PyStr} (h : Chars IsGraphic s) (hne : s ≠ []) (hlength : s.length ≤ 191)
    (field : String) : sourceTextError s field = [] := by
  refine if_neg ?_
  rintro (hnil | hlong | hcontrol)
  · exact hne hnil
  · exact absurd hlong (Nat.not_lt.mpr hlength)
  · obtain ⟨c, hc, hlow⟩ := List.any_eq_true.mp hcontrol
    have := (h c hc).1
    have := of_decide_eq_true hlow
    omega

theorem recordStyle_spaced : recordStyle.Spaced :=
  ⟨⟨[], rfl, fun _ hc => absurd hc List.not_mem_nil⟩, ⟨[], rfl, fun _ hc => absurd hc List.not_mem_nil⟩⟩

theorem recordStyle_flat : recordStyle.Flat := by
  have hone {c : Nat} (hc : 32 ≤ c ∧ c < 0x110000) : Chars (fun c => 32 ≤ c ∧ c < 0x110000) [c] :=
    List.forall_mem_singleton.mpr hc
  exact ⟨hone (by decide), hone (by decide), fun _ _ hc => absurd hc List.not_mem_nil⟩

theorem Question.Proper.not_blank (hq : q.Proper benchmark.spec) (hn : q.number ≤ maxCsvFileBytes) {raw : Bytes}
    (hraw : LineOf recordStyle (q.record benchmark.spec) raw) : isBlank raw = false :=
  hraw.not_blank recordStyle_spaced (JsonDecoder.strict_keepsDistinct fun _ => .nan) (hq.record_leaf hn _).1

/-- The line of a question is a record of an evaluation dataset. -/
theorem Question.Proper.evaluationRecord (hq : q.Proper benchmark.spec) (hn : q.number ≤ maxCsvFileBytes)
    {reader : DatasetLibrary} {raw : Bytes} (hraw : LineOf recordStyle (q.record benchmark.spec) raw) (line : Nat) :
    EvaluationRecord reader raw line (q.row benchmark.spec) (q.sample benchmark.spec) := by
  obtain ⟨hreadable, hunicode⟩ := hq.record_leaf hn (.strict reader.float)
  have hloads := hraw.loads recordStyle_spaced (JsonDecoder.strict_keepsDistinct reader.float) hreadable hunicode
  obtain ⟨originalId, explanation, -, -, hmetadata⟩ := hq.metadata
  obtain ⟨hnodup, hreserved⟩ := @metadataOf_keys q.subject benchmark.spec q.split (q.number + 1) originalId explanation
  refine ⟨?_, hq.parseRow reader.unicode line, ?_, ?_, ?_, ?_⟩
  · exact mapError_eq_ok.mpr hloads
  · rw [categoryError, q.row_get?]
    rfl
  · have hget : Json.get? (q.row benchmark.spec) (py "metadata") =
        some (.obj (Json.sortedFields recordStyle q.metadata)) := q.row_get? _
    have hnone : Json.get? (Json.sortedFields recordStyle q.metadata) (py "openllmops_source") = none := by
      rw [hmetadata, Json.get?_sortedFields hnodup, Json.get?_eq, Dict.get?_eq_none.mpr hreserved]
      rfl
    rw [metadataError, hget]
    exact if_neg (by rw [hnone]; exact Bool.false_ne_true)
  · refine sourceTextError_graphic (recordId_graphic hq.subject) ?_ (length_recordId hq.subject hn) _
    exact recordId_ne_nil
  · obtain ⟨hne, hlength, -⟩ := subjects_named q.subject hq.subject
    exact sourceTextError_graphic (subject_graphic hq.subject) hne (by omega) _

/-! ## The file -/

/-- The keys of every record. -/
def memberKeys : List PyStr :=
  [py "answer", py "category", py "choices", py "id", py "metadata", py "question", py "task_type"]

theorem Question.keys_row : keysOf (.obj (q.row spec)) = memberKeys := by
  have hkeys : (Json.sortedEntries recordStyle (q.members spec)).map Prod.fst = memberKeys :=
    Json.keys_sortedEntries (q.members spec)
  show (Json.sortedFields recordStyle (q.members spec)).map Prod.fst = _
  rw [Json.sortedFields, JsonStyle.sortKvs_sorted (by rw [hkeys]; decide), hkeys]

variable {reader : DatasetLibrary}

/-- A record of an evaluation dataset that is checked without a message. -/
theorem checkLine_of_record {context : Context} {line : Nat} {raw : Bytes} {row : Evaluation.Row} {sample : Sample}
    (h : EvaluationRecord reader raw line row sample) (hblank : isBlank raw = false)
    (hfresh : sample.sampleId ∉ context.sampleIds) {names : List PyStr}
    (hnames : checkFieldNames context.fieldNames (keysOf (.obj row)) = ([], names)) :
    checkLine reader .evaluation context line raw =
      ([], ⟨context.recordCount + 1, names, context.sampleIds ++ [sample.sampleId], context.recordFormat⟩) := by
  rw [checkLine, hblank, if_neg Bool.false_ne_true, h.decoded]
  simp only [checkRecord, hnames, checkEvaluationRecord, h.parsed, h.category, h.metadata, h.sampleId, h.categoryText,
    if_neg hfresh, List.append_nil]

/-- What is known after some questions. -/
structure After (p : Progress) (ids : List PyStr) : Prop where
  errors : p.errors = []
  names : p.context.fieldNames = [] ∨ p.context.fieldNames = memberKeys
  ids : p.context.sampleIds = ids

theorem After.checkFieldNames {p : Progress} {ids : List PyStr} (h : After p ids) :
    checkFieldNames p.context.fieldNames memberKeys = ([], memberKeys) := by
  rcases h.names with hnil | hkeys
  · rw [hnil]
    decide
  · rw [hkeys]
    decide

/-- The lines of questions with distinct ids are accepted as long as there is room for them. -/
theorem scanLines_questions {questions : List Question} {raws : List Bytes}
    (hlines : List.Forall₂ (fun q raw => LineOf recordStyle (q.record benchmark.spec) raw) questions raws)
    (hproper : ∀ q ∈ questions, q.Proper benchmark.spec ∧ q.number ≤ maxCsvFileBytes)
    (hshort : ∀ raw ∈ raws, raw.length ≤ maxEvaluationLineBytes) {p : Progress} {ids : List PyStr} (hp : After p ids)
    (hids : (ids ++ questions.map (Question.id benchmark.spec)).Nodup)
    (hbytes : p.totalBytes + raws.flatten.length ≤ byteLimit .evaluation)
    (hcount : p.context.recordCount + questions.length ≤ maxEvaluationRecords) :
    ∃ p', scanLines reader .evaluation p raws = .ok p' ∧ p'.errors = [] ∧
      p'.context.recordCount = p.context.recordCount + questions.length := by
  induction hlines generalizing p ids with
  | nil => exact ⟨p, rfl, hp.errors, rfl⟩
  | @cons q raw questions raws hraw _ ih =>
    obtain ⟨hq, hn⟩ := hproper q List.mem_cons_self
    rw [List.map_cons, List.append_cons] at hids
    rw [List.flatten_cons, List.length_append] at hbytes
    rw [List.length_cons] at hcount
    have hfresh : q.id benchmark.spec ∉ p.context.sampleIds := by
      rw [hp.ids]
      intro hmem
      exact (List.nodup_append.mp (List.nodup_append.mp hids).1).2.2 _ hmem _ (List.mem_singleton_self _) rfl
    have hblank := hq.not_blank hn hraw
    have hrecord : EvaluationRecord reader raw (p.lineNumber + 1) (q.row benchmark.spec) (q.sample benchmark.spec) :=
      hq.evaluationRecord hn hraw _
    have hcheck := checkLine_of_record hrecord hblank hfresh (Question.keys_row ▸ hp.checkFieldNames)
    let p' : Progress := p.checked reader .evaluation (p.totalBytes + raw.length) raw
    have hchecked : p' = ⟨p.totalBytes + raw.length, p.lineNumber + 1, p.errors, p.digested ++ raw,
        ⟨p.context.recordCount + 1, memberKeys,
          p.context.sampleIds ++ [q.id benchmark.spec], p.context.recordFormat⟩⟩ := by
      show Progress.checked _ _ _ _ _ = _
      rw [Progress.checked, hcheck]
      rfl
    have hline : scanLine reader .evaluation p raw = .ok p' := by
      have hroom : ¬ recordLimit .evaluation < p'.context.recordCount := by
        rw [hchecked]
        show ¬ maxEvaluationRecords < p.context.recordCount + 1
        omega
      have hlimit : ¬ lineLimit .evaluation < raw.length := Nat.not_lt.mpr (hshort raw List.mem_cons_self)
      show (if byteLimit .evaluation < p.totalBytes + raw.length then _ else _) = _
      rw [if_neg (by omega), if_neg hlimit, if_neg hroom]
    have hafter : After p' (ids ++ [q.id benchmark.spec]) := by
      rw [hchecked]
      exact ⟨hp.errors, .inr rfl, by rw [hp.ids]⟩
    obtain ⟨last, hlast, herrors, hrecords⟩ := ih (fun q hq => hproper q (List.mem_cons_of_mem _ hq))
      (fun raw hraw => hshort raw (List.mem_cons_of_mem _ hraw)) hafter hids (by rw [hchecked]; dsimp only; omega)
      (by rw [hchecked]; dsimp only; omega)
    refine ⟨last, bind_eq_ok.mpr ⟨p', hline, hlast⟩, herrors, ?_⟩
    rw [hrecords, hchecked, List.length_cons]
    dsimp only
    omega

/-- A line that is too long is refused. -/
theorem loadLines_short {raws : List Bytes} {line : Nat} {done samples : List Sample}
    (h : loadLines reader line done raws = .ok samples) : ∀ raw ∈ raws, raw.length ≤ maxEvaluationLineBytes := by
  induction raws generalizing line done with
  | nil => exact fun raw hraw => absurd hraw List.not_mem_nil
  | cons raw raws ih =>
    obtain ⟨done', hfirst, hrest⟩ := bind_eq_ok.mp h
    refine List.forall_mem_cons.mpr ⟨Nat.le_of_not_lt fun hlong => ?_, ih hrest⟩
    rw [loadLine, if_pos hlong] at hfirst
    cases hfirst

theorem not_blank_of_lines {questions : List Question} {raws : List Bytes}
    (hlines : List.Forall₂ (fun q raw => LineOf recordStyle (q.record benchmark.spec) raw) questions raws)
    (hproper : ∀ q ∈ questions, q.Proper benchmark.spec ∧ q.number ≤ maxCsvFileBytes) :
    ∀ raw ∈ raws, isBlank raw = false := by
  induction hlines with
  | nil => exact fun raw hraw => absurd hraw List.not_mem_nil
  | cons hraw _ ih =>
    obtain ⟨⟨hq, hn⟩, hproper⟩ := List.forall_mem_cons.mp hproper
    exact List.forall_mem_cons.mpr ⟨hq.not_blank hn hraw, ih hproper⟩

/-- The lines of questions are those of their samples. -/
theorem samplesOf_questions {questions : List Question} {raws : List Bytes}
    (hlines : List.Forall₂ (fun q raw => LineOf recordStyle (q.record benchmark.spec) raw) questions raws)
    (hproper : ∀ q ∈ questions, q.Proper benchmark.spec ∧ q.number ≤ maxCsvFileBytes) (n : Nat) :
    SamplesOf reader (recordLines n raws) (questions.map (Question.sample benchmark.spec)) := by
  induction hlines generalizing n with
  | nil => exact .nil
  | @cons q raw questions raws hraw _ ih =>
    obtain ⟨hq, hn⟩ := hproper q List.mem_cons_self
    have hblank := hq.not_blank hn hraw
    rw [recordLines_cons, hblank, if_neg Bool.false_ne_true, List.map_cons]
    exact .cons ⟨_, hq.evaluationRecord hn hraw n⟩ (ih (fun q hq => hproper q (List.mem_cons_of_mem _ hq)) (n + 1))

variable {library : BenchmarkLibrary} {files : List SourceCsv} {splits : List Split}
  {allowPartial : Bool} {c : Converted}
  {b : Bytes}

/-- The lines of a prepared dataset are those of its questions. -/
theorem prepared_lines (hsize : ∀ source ∈ files, source.content.length ≤ maxCsvFileBytes)
    (h : convert library benchmark.spec files splits allowPartial = .ok c) (hb : jsonlBytes c.records = some b) :
    ∃ questions : List Question, questions ≠ [] ∧ c.records = questions.map (Question.record benchmark.spec) ∧
      (questions.map (Question.id benchmark.spec)).Nodup ∧
      (∀ q ∈ questions, q.Proper benchmark.spec ∧ q.number ≤ maxCsvFileBytes) ∧
      List.Forall₂ (fun q raw => LineOf recordStyle (q.record benchmark.spec) raw) questions (lines b) := by
  obtain ⟨questions, hne, hrecords, hids, hproper⟩ := convert_questions hsize h
  have hunicode : ∀ v ∈ c.records, v.EachString IsUnicode := by
    intro v hv
    rw [hrecords] at hv
    obtain ⟨q, hq, rfl⟩ := List.mem_map.mp hv
    exact ((hproper q hq).1.record_leaf (hproper q hq).2 (.strict fun _ => .nan)).2
  have hsome : c.records ≠ [] := fun hnil => hne (List.map_eq_nil_iff.mp (hrecords.symm.trans hnil))
  have hlines := lines_jsonLines recordStyle_flat hsome hunicode hb
  rw [hrecords, List.forall₂_map_left_iff] at hlines
  exact ⟨questions, hne, hrecords, hids, hproper, hlines⟩

/-- A prepared dataset has one line for each record. -/
theorem prepared_count (hsize : ∀ source ∈ files, source.content.length ≤ maxCsvFileBytes)
    (h : convert library benchmark.spec files splits allowPartial = .ok c) (hb : jsonlBytes c.records = some b) :
    ((lines b).countP fun raw => !isBlank raw) = c.records.length := by
  obtain ⟨questions, -, hrecords, -, hproper, hlines⟩ := prepared_lines hsize h hb
  rw [hrecords, List.length_map, hlines.length_eq]
  refine List.countP_eq_length.mpr fun raw hraw => ?_
  rw [not_blank_of_lines hlines hproper raw hraw]
  rfl

/-- Reading a prepared dataset. -/
theorem prepared_read (reader : DatasetLibrary) (hsize : ∀ source ∈ files, source.content.length ≤ maxCsvFileBytes)
    (h : convert library benchmark.spec files splits allowPartial = .ok c) (hb : jsonlBytes c.records = some b) :
    ∃ questions : List Question, c.records = questions.map (Question.record benchmark.spec) ∧
      ((∀ raw ∈ lines b, raw.length ≤ maxEvaluationLineBytes) →
        loadJsonl reader b = .ok (questions.map (Question.sample benchmark.spec), reader.sha256 b)) := by
  obtain ⟨questions, hne, hrecords, hids, hproper, hlines⟩ := prepared_lines hsize h hb
  refine ⟨questions, hrecords, fun hshort => ?_⟩
  have hsamples : SamplesOf reader (recordLines 1 (lines b)) (questions.map (Question.sample benchmark.spec)) :=
    samplesOf_questions hlines hproper 1
  refine bind_eq_ok.mpr ⟨_, loadLines_records hshort hsamples ?_, ?_⟩
  · rw [List.map_map]
    exact hids
  · rw [List.nil_append, if_neg (fun hnil => hne (List.map_eq_nil_iff.mp hnil)), lines_flatten]

theorem loadJsonl_short {result : List Sample × PyStr} (h : loadJsonl reader b = .ok result) :
    ∀ raw ∈ lines b, raw.length ≤ maxEvaluationLineBytes := by
  obtain ⟨samples, hsamples, -⟩ := bind_eq_ok.mp h
  exact loadLines_short hsamples

/-- A prepared dataset is read if no line is too long for the reader, and then as the samples of its questions. -/
theorem prepared_is_read (reader : DatasetLibrary) (hsize : ∀ source ∈ files, source.content.length ≤ maxCsvFileBytes)
    (h : convert library benchmark.spec files splits allowPartial = .ok c) (hb : jsonlBytes c.records = some b) :
    ∃ questions : List Question, c.records = questions.map (Question.record benchmark.spec) ∧
      ((∃ result, loadJsonl reader b = .ok result) ↔ ∀ raw ∈ lines b, raw.length ≤ maxEvaluationLineBytes) ∧
      ∀ result, loadJsonl reader b = .ok result →
        result = (questions.map (Question.sample benchmark.spec), reader.sha256 b) := by
  obtain ⟨questions, hrecords, hread⟩ := prepared_read reader hsize h hb
  refine ⟨questions, hrecords, ⟨fun hresult => hresult.elim fun _ => loadJsonl_short, fun hshort =>
    ⟨_, hread hshort⟩⟩, ?_⟩
  exact fun result hresult => Except.ok.inj (hresult.symm.trans (hread (loadJsonl_short hresult)))

/-- One file and two questions; the dataset is short. -/
theorem law_prepared : ∃ c b, convert asciiLibrary Benchmark.ceval.spec [lawFile] [.dev] true = .ok c ∧
    jsonlBytes c.records = some b ∧ (∀ raw ∈ lines b, raw.length ≤ maxEvaluationLineBytes) ∧ c.records.length = 2 ∧
    b.length ≤ byteLimit .evaluation := by
  have hshort : ((convert asciiLibrary Benchmark.ceval.spec [lawFile] [.dev] true).toOption.bind fun c =>
      (jsonlBytes c.records).map fun b => (lines b).all (fun raw => raw.length ≤ maxEvaluationLineBytes) &&
        c.records.length = 2 && b.length ≤ byteLimit .evaluation) = some true := by
    decide +kernel
  cases hc : convert asciiLibrary Benchmark.ceval.spec [lawFile] [.dev] true with
  | error e =>
    rw [hc] at hshort
    cases hshort
  | ok c =>
    rw [hc] at hshort
    obtain ⟨b, hb, hall⟩ := Option.map_eq_some_iff.mp hshort
    simp only [Bool.and_eq_true, List.all_eq_true, decide_eq_true_eq] at hall
    exact ⟨c, b, rfl, hb, hall.1.1, hall.1.2, hall.2⟩

theorem lawFile_small : ∀ source ∈ [lawFile], source.content.length ≤ maxCsvFileBytes :=
  List.forall_mem_singleton.mpr (by decide +kernel)

theorem law_is_read : ∃ c b, ∃ questions : List Question,
    convert asciiLibrary Benchmark.ceval.spec [lawFile] [.dev] true = .ok c ∧ jsonlBytes c.records = some b ∧
    c.records = questions.map (Question.record Benchmark.ceval.spec) ∧ questions.length = 2 ∧
    loadJsonl plainLibrary b = .ok (questions.map (Question.sample Benchmark.ceval.spec), plainLibrary.sha256 b) := by
  obtain ⟨c, b, hc, hb, hshort, hcount, -⟩ := law_prepared
  obtain ⟨questions, hrecords, hiff, hresults⟩ := prepared_is_read plainLibrary lawFile_small hc hb
  obtain ⟨result, hresult⟩ := hiff.mpr hshort
  refine ⟨c, b, questions, hc, hb, hrecords, ?_, ?_⟩
  · rw [← hcount, hrecords, List.length_map]
  · rw [hresult, hresults result hresult]

/-- The upload of a prepared dataset is stored, as it is, if and only if it is within the limits of an upload, unless an
operation on the files raises. -/
theorem prepared_is_stored (reader : DatasetLibrary) (around : Datasets.Surroundings) {s : UploadState}
    (hsize : ∀ source ∈ files, source.content.length ≤ maxCsvFileBytes)
    (h : convert library benchmark.spec files splits allowPartial = .ok c) (hb : jsonlBytes c.records = some s.source) :
    (∃ op, around op = true) ∧ (validateAndStoreJsonl reader around .evaluation s).1 = .error .operation ∨
      ((∃ r, (validateAndStoreJsonl reader around .evaluation s).1 = .ok r ∧ r.recordCount = c.records.length ∧
          r.sha256 = reader.sha256 s.source ∧
          (validateAndStoreJsonl reader around .evaluation s).2.final = some s.source) ↔
        (∀ raw ∈ lines s.source, raw.length ≤ maxEvaluationLineBytes) ∧ s.source.length ≤ byteLimit .evaluation ∧
          c.records.length ≤ maxEvaluationRecords) := by
  obtain ⟨questions, hne, hrecords, hids, hproper, hlines⟩ := prepared_lines hsize h hb
  have hrecordCount := prepared_count hsize h hb
  have houtcome : wp (validateAndStoreJsonl reader around .evaluation) (Outcome reader around .evaluation s) s :=
    wp_validateAndStoreJsonl
  unfold wp at houtcome
  cases hresult : (validateAndStoreJsonl reader around .evaluation s).1 with
  | ok r =>
    refine .inr ?_
    rw [hresult] at houtcome
    obtain ⟨p, hscan, herrors, rfl, -, hfinal, -⟩ := houtcome
    obtain ⟨hdigested, haccepted⟩ := accepted_of_scan hscan herrors
    refine ⟨fun _ => ⟨haccepted.lineLimit, haccepted.withinLimit, ?_⟩, fun _ => ?_⟩
    · rw [← hrecordCount, ← haccepted.recordCount]
      exact haccepted.recordLimit
    · refine ⟨_, rfl, haccepted.recordCount.trans hrecordCount, haccepted.sha256, ?_⟩
      rw [hfinal, hdigested]
  | error e =>
    rw [hresult] at houtcome
    obtain ⟨-, hrefused, -⟩ := houtcome
    rcases hrefused with rfl | hrefused
    · exact .inl ⟨raises_validateAndStoreJsonl s _ hresult rfl, rfl⟩
    · refine .inr ⟨?_, fun hlimits => ?_⟩
      · rintro ⟨r, hr, -⟩
        cases hr
      · -- within the limits, the lines are scanned without an error
        obtain ⟨hshort, hbytes, hcount⟩ := hlimits
        rw [hrecords, List.length_map] at hcount
        have hstart : After .start [] := ⟨rfl, .inl rfl, rfl⟩
        have hroom : 0 + (lines s.source).flatten.length ≤ byteLimit .evaluation := by
          rw [lines_flatten]
          omega
        obtain ⟨p, hscan, herrors, hscanned⟩ := @scanLines_questions _ reader _ _ hlines hproper
          hshort _ _ hstart hids hroom
          (by show 0 + _ ≤ _; omega)
        have hfinal : p.finalErrors = [] := by
          have hlength := List.length_pos_iff.mpr hne
          have hcount : p.context.recordCount = 0 + questions.length := hscanned
          rw [Progress.finalErrors, if_neg (by omega), herrors]
        rcases hrefused with hscan' | ⟨p', hscan', herrors', -⟩
        · rw [hscan] at hscan'
          cases hscan'
        · obtain rfl := Except.ok.inj (hscan.symm.trans hscan')
          exact absurd hfinal herrors'

theorem law_is_stored : ∃ c b r, convert asciiLibrary Benchmark.ceval.spec [lawFile] [.dev] true = .ok c ∧
    jsonlBytes c.records = some b ∧
    (validateAndStoreJsonl plainLibrary undisturbed .evaluation ⟨b, none, none, 0⟩).1 = .ok r ∧ r.recordCount = 2 ∧
    (validateAndStoreJsonl plainLibrary undisturbed .evaluation ⟨b, none, none, 0⟩).2.final = some b := by
  obtain ⟨c, b, hc, hb, hshort, hcount, hbytes⟩ := law_prepared
  rcases prepared_is_stored plainLibrary undisturbed (s := ⟨b, none, none, 0⟩) lawFile_small hc hb
    with ⟨⟨op, hop⟩, -⟩ | hstored
  · exact absurd hop Bool.false_ne_true
  · obtain ⟨r, hr, hrecords, -, hfinal⟩ := hstored.mpr ⟨hshort, hbytes, by rw [hcount]; decide⟩
    exact ⟨c, b, r, hc, hb, hr, hrecords.trans hcount, hfinal⟩

end

end OpenLLMOps.Benchmarks
