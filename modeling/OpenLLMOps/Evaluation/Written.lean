import OpenLLMOps.Evaluation.Merging
import OpenLLMOps.Evaluation.Samples
import OpenLLMOps.Framework.Json.JsonLines
import OpenLLMOps.Framework.Json.Loaded
import OpenLLMOps.Framework.Json.Objects
import OpenLLMOps.Framework.Json.Sorted

/-!
# What is written of a record

A record of the merged file is written as canonical JSON, and the evaluation decodes it again (`line_written`). It
reads the sample of the source, with the id and the category of the merged file (`parseRow_written`); what the
source has as an object is in the order of its keys.
-/

namespace OpenLLMOps.Evaluation

open Framework

/-! ## Values with sorted keys -/

section

variable {style : JsonStyle}

theorem text?_sorted (v : Json) : text? (v.sorted style) = text? v := by
  cases v <;> rfl

theorem ofJson?_sorted (v : Json) : TaskType.ofJson? (v.sorted style) = TaskType.ofJson? v := by
  cases v <;> rfl

theorem sortedItems_eq_map (xs : List Json) : Json.sortedItems style xs = xs.map (Json.sorted style) := by
  induction xs with
  | nil => rfl
  | cons x xs ih => rw [Json.sortedItems, List.map_cons, ih]

theorem sortedEntries_eq_map (kvs : List (PyStr × Json)) :
    Json.sortedEntries style kvs = kvs.map fun kv => (kv.1, kv.2.sorted style) := by
  induction kvs with
  | nil => rfl
  | cons kv kvs ih => rw [Json.sortedEntries, List.map_cons, ih]

theorem texts_sorted (xs : List Json) (ys : List PyStr) :
    (xs.map (Json.sorted style)).mapM text? = some ys ↔ xs.mapM text? = some ys := by
  have htext : text? ∘ Json.sorted style = text? := funext text?_sorted
  rw [mapM_eq_some, mapM_eq_some, List.map_map, htext]

variable {u : UnicodeData}

theorem choice?_sorted (kv : PyStr × Json) : choice? u (kv.1, kv.2.sorted style) = choice? u kv := by
  rw [choice?, text?_sorted]
  rfl

/-- What is given for a part of the entries, in another order. -/
theorem mapM_perm {α β : Type} {f : α → Option β} {xs xs' : List α} {ys : List β} (hp : xs.Perm xs')
    (h : xs.mapM f = some ys) : ∃ ys', xs'.mapM f = some ys' ∧ ys'.Perm ys := by
  have hforall : ∀ x ∈ xs', ∃ y, f x = some y := by
    intro x hx
    have hmem : f x ∈ ys.map some := mapM_eq_some.mp h ▸ List.mem_map_of_mem (hp.mem_iff.mpr hx)
    obtain ⟨y, -, hy⟩ := List.mem_map.mp hmem
    exact ⟨y, hy.symm⟩
  have hsome : xs'.map f = (xs'.filterMap f).map some := by
    clear hp
    induction xs' with
    | nil => rfl
    | cons x rest ih =>
      obtain ⟨⟨y, hy⟩, hrest⟩ := List.forall_mem_cons.mp hforall
      rw [List.map_cons, List.filterMap_cons_some hy, List.map_cons, hy, ih hrest]
  refine ⟨xs'.filterMap f, mapM_eq_some.mpr hsome, ?_⟩
  have hys : xs.filterMap f = ys := by
    have := congrArg (List.filterMap id) (mapM_eq_some.mp h)
    simpa [List.filterMap_map] using this
  exact hys ▸ (hp.symm.filterMap f)

/-- Choices in another order. -/
theorem normalizeChoices_perm {pairs pairs' : List (PyStr × Json)} {choices : List (PyStr × PyStr)} {line line' : Nat}
    (hp : pairs.Perm pairs') (h : normalizeChoices u pairs line = .ok choices) :
    ∃ choices', normalizeChoices u pairs' line' = .ok choices' ∧ choices'.Perm choices := by
  unfold normalizeChoices at h
  split at h
  · contradiction
  · rename_i found hfound
    obtain ⟨hchoices, h⟩ := ite_error_eq_ok.mp h
    obtain rfl := Except.ok.inj h
    obtain ⟨choices', hchoices', hperm⟩ := mapM_perm hp hfound
    refine ⟨choices', ?_, hperm⟩
    rw [normalizeChoices, hchoices']
    refine if_neg fun hbad => hchoices ?_
    rwa [hperm.length_eq, (hperm.map Prod.fst).nodup_iff] at hbad

end

/-! ## Names and ids -/

/-- `^[A-Za-z0-9][A-Za-z0-9._-]{0,63}$`, the names that a command has for data sets. -/
def isDatasetName (name : PyStr) : Bool :=
  match name with
  | [] => false
  | c :: rest => isAlnum c && rest.length ≤ 63 && rest.all fun c => isAlnum c || c = 46 || c = 95 || c = 45
where
  isAlnum (c : Nat) : Bool := isDigit c || (65 ≤ c && c ≤ 90) || (97 ≤ c && c ≤ 122)

theorem not_space_alnum {c : Nat} (h : isDatasetName.isAlnum c = true) : PyStr.isSpace c = false := by
  simp only [isDatasetName.isAlnum, isDigit, Bool.or_eq_true, Bool.and_eq_true, decide_eq_true_eq] at h
  rw [← Bool.not_eq_true]
  simp only [PyStr.isSpace, Bool.or_eq_true, Bool.and_eq_true, decide_eq_true_eq]
  omega

/-- A text that begins with no space and ends with a stripped text is stripped. -/
theorem strip_append {c : Nat} {s t : PyStr} (hc : PyStr.isSpace c = false) (ht : t.strip = t) (hne : t ≠ []) :
    PyStr.strip (c :: s ++ t) = c :: s ++ t := by
  have hstart : (c :: s ++ t).dropWhile PyStr.isSpace = c :: s ++ t := by
    rw [List.cons_append, List.dropWhile_cons_of_neg (by simp [hc])]
  have hlast : ¬ PyStr.isSpace (t.getLast hne) = true := by
    have hstripped : ∀ x (hx : x ≠ []), x = t.strip → ¬ PyStr.isSpace (x.getLast hx) = true := by
      rintro x hx rfl
      exact List.rdropWhile_last_not PyStr.isSpace (t.dropWhile PyStr.isSpace) hx
    exact hstripped t hne ht.symm
  show ((c :: s ++ t).dropWhile PyStr.isSpace).rdropWhile PyStr.isSpace = _
  rw [hstart, List.rdropWhile_eq_self_iff]
  intro hl
  rwa [List.getLast_append_of_ne_nil _ hne]

/-! ## What is written of a row -/

section

variable {node : Node} {name : PyStr} {line line' : Nat} {row : Row} {r : MergedRecord}

/-- The metadata that is written. -/
def writtenMetadata (r : MergedRecord) (metadata : Row) : Row :=
  Dict.set metadata (py "openllmops_source")
    (.obj [(py "name", .str r.name), (py "original_id", .str r.originalId)])

/-- The row that the evaluation finds in the merged file. -/
def writtenRow (r : MergedRecord) (metadata row : Row) : Row :=
  Json.sortedFields .canonical (mergedRow r.name r.originalId r.category metadata row)

theorem keys_mergedRow (hn : (row.map Prod.fst).Nodup) (metadata : Row) :
    ((mergedRow r.name r.originalId r.category metadata row).map Prod.fst).Nodup :=
  Dict.nodup_set (Dict.nodup_set (Dict.nodup_set hn _ _) _ _) _ _

variable {metadata : Row}

theorem get?_mergedRow (k : PyStr) :
    Json.get? (mergedRow r.name r.originalId r.category metadata row) k =
      if py "metadata" = k then some (.obj (writtenMetadata r metadata))
      else if py "category" = k then some (.str r.fullCategory)
      else if py "id" = k then some (.str r.id)
      else Json.get? row k := by
  rw [Json.get?_eq, mergedRow, Dict.get?_set, Dict.get?_set, Dict.get?_set, ← Json.get?_eq]
  rfl

/-- Every other field is there with its keys sorted. -/
theorem get?_writtenRow (hn : (row.map Prod.fst).Nodup) {k : PyStr} (hmetadata : py "metadata" ≠ k)
    (hcategory : py "category" ≠ k) (hid : py "id" ≠ k) :
    Json.get? (writtenRow r metadata row) k = (Json.get? row k).map (Json.sorted .canonical) := by
  rw [writtenRow, Json.get?_sortedFields (keys_mergedRow hn metadata), get?_mergedRow, if_neg hmetadata,
    if_neg hcategory, if_neg hid]

theorem id_writtenRow (hn : (row.map Prod.fst).Nodup) :
    Json.get? (writtenRow r metadata row) (py "id") = some (.str r.id) := by
  rw [writtenRow, Json.get?_sortedFields (keys_mergedRow hn metadata), get?_mergedRow, if_neg (by decide),
    if_neg (by decide), if_pos rfl]
  rfl

theorem category_writtenRow (hn : (row.map Prod.fst).Nodup) :
    Json.get? (writtenRow r metadata row) (py "category") = some (.str r.fullCategory) := by
  rw [writtenRow, Json.get?_sortedFields (keys_mergedRow hn metadata), get?_mergedRow, if_neg (by decide), if_pos rfl]
  rfl

theorem metadata_writtenRow (hn : (row.map Prod.fst).Nodup) :
    Json.get? (writtenRow r metadata row) (py "metadata") =
      some (.obj (Json.sortedFields .canonical (writtenMetadata r metadata))) := by
  rw [writtenRow, Json.get?_sortedFields (keys_mergedRow hn metadata), get?_mergedRow, if_pos rfl]
  rfl

/-! ## What is read of it -/

variable {u : UnicodeData}

theorem taskType_written (hn : (row.map Prod.fst).Nodup) :
    taskType? (writtenRow r metadata row) = taskType? row := by
  rw [taskType?, get?_writtenRow hn (by decide) (by decide) (by decide), Option.map_map, taskType?]
  have hread : TaskType.ofJson? ∘ Json.sorted .canonical = TaskType.ofJson? := funext ofJson?_sorted
  rw [hread]

theorem question_written (hn : (row.map Prod.fst).Nodup) {question : PyStr} :
    requiredQuestion (writtenRow r metadata row) line' = .ok question ↔ requiredQuestion row line = .ok question := by
  have hread : ∀ v : Option Json, (v.map (Json.sorted .canonical)).bind text? = v.bind text? := by
    intro v
    cases v with
    | none => rfl
    | some v => exact text?_sorted v
  rw [requiredQuestion, requiredQuestion, get?_writtenRow hn (by decide) (by decide) (by decide), hread]
  cases (Json.get? row (py "question")).bind text? with
  | none => exact iff_of_false (by simp [invalidLine]) (by simp [invalidLine])
  | some text => exact Iff.rfl

theorem answerValues_written (hn : (row.map Prod.fst).Nodup) :
    answerValues (writtenRow r metadata row) = (answerValues row).map (Json.sorted .canonical) := by
  have hanswers := @get?_writtenRow row r metadata hn (py "answers") (by decide) (by decide) (by decide)
  have hanswer := @get?_writtenRow row r metadata hn (py "answer") (by decide) (by decide) (by decide)
  have hvalue : (Json.get? (writtenRow r metadata row) (py "answers")).getD
      ((Json.get? (writtenRow r metadata row) (py "answer")).getD .null) =
      ((Json.get? row (py "answers")).getD ((Json.get? row (py "answer")).getD .null)).sorted .canonical := by
    rw [hanswers, hanswer]
    cases Json.get? row (py "answers") with
    | none => cases Json.get? row (py "answer") <;> rfl
    | some v => rfl
  rw [answerValues, hvalue, answerValues]
  cases (Json.get? row (py "answers")).getD ((Json.get? row (py "answer")).getD .null) with
  | arr xs => exact sortedItems_eq_map xs
  | _ => rfl

theorem answers_written (hn : (row.map Prod.fst).Nodup) {answers : List PyStr} :
    parseAnswers (writtenRow r metadata row) line' = .ok answers ↔ parseAnswers row line = .ok answers := by
  rw [parseAnswers_eq_ok, parseAnswers_eq_ok, answerValues_written hn, texts_sorted]

theorem normalizeChoices_sorted (pairs : Row) :
    normalizeChoices u (Json.sortedEntries .canonical pairs) line = normalizeChoices u pairs line := by
  have hmap : (Json.sortedEntries .canonical pairs).mapM (choice? u) = pairs.mapM (choice? u) := by
    induction pairs with
    | nil => rfl
    | cons kv pairs ih => rw [Json.sortedEntries, List.mapM_cons, choice?_sorted, ih, List.mapM_cons]
  rw [normalizeChoices, hmap, normalizeChoices]

theorem labelled_sorted (texts : List Json) :
    labelled (texts.map (Json.sorted .canonical)) = Json.sortedEntries .canonical (labelled texts) := by
  rw [sortedEntries_eq_map, labelled, labelled, List.zipIdx_map, List.map_map, List.map_map]
  rfl

/-- The same choices, in an order of their own, or an error. -/
def SameChoices (x y : Except DatasetValidationError (List (PyStr × PyStr))) : Prop :=
  (∀ choices, x = .ok choices → ∃ choices', y = .ok choices' ∧ choices'.Perm choices) ∧
    ∀ choices', y = .ok choices' → ∃ choices, x = .ok choices

theorem sameChoices_perm {pairs pairs' : Row} (hp : pairs.Perm pairs') :
    SameChoices (normalizeChoices u pairs line) (normalizeChoices u pairs' line') := by
  refine ⟨fun choices h => normalizeChoices_perm hp h, fun choices' h => ?_⟩
  obtain ⟨choices, hchoices, -⟩ := @normalizeChoices_perm u pairs' pairs choices' line' line hp.symm h
  exact ⟨choices, hchoices⟩

theorem sameChoices_invalid (text text' : String) :
    SameChoices (invalidLine line text) (invalidLine line' text') :=
  ⟨fun _ h => by contradiction, fun _ h => by contradiction⟩

/-- Choices are those of the row; those of an object are in the order of its keys. -/
theorem parseChoices_written (hn : (row.map Prod.fst).Nodup) :
    SameChoices (parseChoices u row line) (parseChoices u (writtenRow r metadata row) line') := by
  have hget := @get?_writtenRow row r metadata hn (py "choices") (by decide) (by decide) (by decide)
  cases hrow : Json.get? row (py "choices") with
  | none =>
    rw [hrow] at hget
    rw [parseChoices, hrow, parseChoices, hget]
    exact sameChoices_invalid _ _
  | some v =>
    rw [hrow] at hget
    rw [parseChoices, hrow, parseChoices, hget]
    cases v with
    | obj pairs =>
      show SameChoices (normalizeChoices u pairs line)
        (normalizeChoices u (Json.sortedFields .canonical pairs) line')
      rw [← normalizeChoices_sorted pairs]
      exact sameChoices_perm (JsonStyle.sortKvs_perm _).symm
    | arr texts =>
      show SameChoices (if 26 < texts.length then _ else normalizeChoices u (labelled texts) line)
        (if 26 < (Json.sortedItems .canonical texts).length then _
          else normalizeChoices u (labelled (Json.sortedItems .canonical texts)) line')
      rw [sortedItems_eq_map, List.length_map, labelled_sorted, normalizeChoices_sorted]
      split
      · exact sameChoices_invalid _ _
      · exact sameChoices_perm (List.Perm.refl _)
    | _ => exact sameChoices_invalid _ _

end

/-! ## Samples -/

section

variable {node : Node} {name : PyStr} {line line' : Nat} {row metadata : Row} {r : MergedRecord} {u : UnicodeData}

theorem joined_strip (hname : isDatasetName name = true) (separator : PyStr) {t : PyStr} (ht : t.strip = t)
    (hne : t ≠ []) :
    PyStr.strip (name ++ separator ++ t) = name ++ separator ++ t ∧ name ++ separator ++ t ≠ [] := by
  cases name with
  | nil => contradiction
  | cons c rest =>
    simp only [isDatasetName, Bool.and_eq_true] at hname
    refine ⟨?_, List.cons_ne_nil _ _⟩
    rw [List.cons_append]
    exact strip_append (not_space_alnum hname.1.1) ht hne

theorem safe_ne_nil {text : PyStr} {maxLength : Nat} (h : isSafeText text maxLength = true) : text ≠ [] := by
  rintro rfl
  contradiction

/-- The id of a row is the one that the evaluation gives its sample. -/
theorem originalId_parsed {id : PyStr} (h : originalId u row line = .ok id) :
    parseId u row line = .ok id ∧ id.strip = id ∧ id ≠ [] := by
  obtain ⟨s, hs, rfl, hsafe⟩ := safeShortText_ok h
  obtain rfl := Json.str.inj hs
  have hne := safe_ne_nil hsafe
  exact ⟨if_neg hne, PyStr.strip_strip _, hne⟩

/-- The category of a row is its text, or the default if it has none. -/
theorem originalCategory_text {category : PyStr} (h : originalCategory row = .ok category) :
    ∃ s : PyStr, category = s.strip ∧ category ≠ [] ∧ (Json.get? row (py "category") = some (.str s) ∨
      s = py "default" ∧ (Json.get? row (py "category") = none ∨ Json.get? row (py "category") = some .null)) := by
  obtain ⟨s, hs, rfl, hsafe⟩ := safeShortText_ok h
  refine ⟨s, rfl, safe_ne_nil hsafe, ?_⟩
  cases hget : Json.get? row (py "category") with
  | none =>
    rw [field, hget] at hs
    exact .inr ⟨(Json.str.inj hs).symm, .inl rfl⟩
  | some v =>
    rw [field, hget] at hs
    cases v with
    | null => exact .inr ⟨(Json.str.inj hs).symm, .inr rfl⟩
    | str t =>
      obtain rfl := Json.str.inj hs
      exact .inl rfl
    | _ => contradiction

/-- The category of a row is the one that the evaluation gives its sample, unless it is null. -/
theorem originalCategory_parsed {category : PyStr} (h : originalCategory row = .ok category) :
    (category.strip = category ∧ category ≠ []) ∧
      (categoryOf u row = category ∨ categoryOf u row = py "None" ∧ category = py "default") := by
  obtain ⟨s, rfl, hne, hget⟩ := originalCategory_text h
  refine ⟨⟨PyStr.strip_strip _, hne⟩, ?_⟩
  rcases hget with hget | ⟨rfl, hget | hget⟩
  · rw [categoryOf, hget]
    exact .inl (if_neg hne)
  · rw [categoryOf, hget]
    exact .inl rfl
  · rw [categoryOf, hget]
    exact .inr ⟨rfl, rfl⟩

theorem originalMetadata_ok (h : originalMetadata row = .ok metadata) :
    (Json.get? row (py "metadata")).getD (.obj []) = .obj metadata := by
  unfold originalMetadata at h
  split at h
  · rename_i found hfound
    obtain ⟨-, h⟩ := ite_error_eq_ok.mp h
    obtain rfl := Except.ok.inj h
    exact hfound
  · contradiction

theorem parseMetadata_obj (h : (Json.get? row (py "metadata")).getD (.obj []) = .obj metadata) :
    parseMetadata row line = .ok metadata := by
  rw [parseMetadata, h]

theorem parseRow_of_parsed {s : Sample} (h : Parsed u row line s) : parseRow u row line = .ok s := by
  obtain ⟨answers, hanswers, hexpected⟩ := h.answers
  refine bind_eq_ok.mpr ⟨_, h.taskType, bind_eq_ok.mpr ⟨_, h.sampleId, bind_eq_ok.mpr ⟨_, h.choices, ?_⟩⟩⟩
  refine bind_eq_ok.mpr ⟨_, hanswers, bind_eq_ok.mpr ⟨_, hexpected, bind_eq_ok.mpr ⟨_, h.metadata, ?_⟩⟩⟩
  refine bind_eq_ok.mpr ⟨_, h.question, ?_⟩
  rw [← h.category, ← h.context]

theorem choices_written (hn : (row.map Prod.fst).Nodup) (taskType : TaskType) :
    SameChoices (choicesFor u taskType row line) (choicesFor u taskType (writtenRow r metadata row) line') := by
  cases taskType with
  | multipleChoice => exact parseChoices_written hn
  | _ =>
    refine ⟨fun choices h => ⟨choices, h, .refl _⟩, fun choices' h => ⟨choices', h⟩⟩

theorem expected_perm {taskType : TaskType} {choices choices' : List (PyStr × PyStr)} (hp : choices'.Perm choices)
    {answers expected : List PyStr} :
    expectedAnswers u taskType choices' answers line' = .ok expected ↔
      expectedAnswers u taskType choices answers line = .ok expected := by
  cases taskType with
  | multipleChoice =>
    have hlabels := @List.Perm.mem_iff _ ((answers.headD []).upper u) _ _ (hp.map Prod.fst)
    simp only [expectedAnswers, hlabels]
    split
    · exact Iff.rfl
    · exact iff_of_false (by simp [invalidLine]) (by simp [invalidLine])
  | _ => exact Iff.rfl

/-- A sample of a source and what the evaluation reads of it in the merged file. -/
structure ScoredAs (u : UnicodeData) (name : PyStr) (s s' : Sample) : Prop where
  sampleId : s'.sampleId = mergedId name s.sampleId
  category : ∃ category, s'.category = mergedCategory name category ∧
    (s.category = category ∨ s.category = py "None" ∧ category = py "default")
  taskType : s'.taskType = s.taskType
  question : s'.question = s.question
  answers : s'.answers = s.answers
  /-- In the order of their labels, if the source has them as an object. -/
  choices : s'.choices.Perm s.choices
  /-- A context that is no text is written with its keys sorted. -/
  context : s'.context = s.context ∨ ∃ v : Json, v.isScalar = false ∧ s.context = some (v.toStr u) ∧
    s'.context = some ((v.sorted .canonical).toStr u)
  metadata : s'.metadata = Json.sortedFields .canonical (Dict.set s.metadata (py "openllmops_source")
    (.obj [(py "name", .str name), (py "original_id", .str s.sampleId)]))

theorem sorted_scalar {v : Json} (h : v.isScalar = true) : v.sorted .canonical = v := by
  cases v with
  | arr xs => contradiction
  | obj kvs => contradiction
  | _ => rfl

theorem context_written (hn : (row.map Prod.fst).Nodup) :
    contextOf u (writtenRow r metadata row) = contextOf u row ∨ ∃ v : Json, v.isScalar = false ∧
      contextOf u row = some (v.toStr u) ∧
      contextOf u (writtenRow r metadata row) = some ((v.sorted .canonical).toStr u) := by
  have hget := @get?_writtenRow row r metadata hn (py "context") (by decide) (by decide) (by decide)
  cases hrow : Json.get? row (py "context") with
  | none =>
    rw [hrow] at hget
    rw [contextOf, contextOf, hget, hrow]
    exact .inl rfl
  | some v =>
    rw [hrow] at hget
    rw [contextOf, contextOf, hget, hrow]
    cases hscalar : v.isScalar with
    | true =>
      rw [Option.map_some, sorted_scalar hscalar]
      exact .inl rfl
    | false =>
      cases v with
      | arr xs => exact .inr ⟨_, rfl, rfl, rfl⟩
      | obj kvs => exact .inr ⟨_, rfl, rfl, rfl⟩
      | float x => exact .inl rfl
      | _ => contradiction

theorem parseId_written (hn : (row.map Prod.fst).Nodup) (hname : isDatasetName r.name = true)
    (hstrip : r.originalId.strip = r.originalId) (hne : r.originalId ≠ []) :
    parseId u (writtenRow r metadata row) line' = .ok r.id := by
  obtain ⟨hstrip, hne⟩ := joined_strip hname (py ":") hstrip hne
  rw [parseId, id_writtenRow hn]
  show (if PyStr.strip r.id = [] then _ else Except.ok (PyStr.strip r.id)) = _
  rw [MergedRecord.id, mergedId, hstrip, if_neg hne]

theorem categoryOf_written (hn : (row.map Prod.fst).Nodup) (hname : isDatasetName r.name = true)
    (hstrip : r.category.strip = r.category) (hne : r.category ≠ []) :
    categoryOf u (writtenRow r metadata row) = r.fullCategory := by
  obtain ⟨hstrip, hne⟩ := joined_strip hname (py "/") hstrip hne
  rw [categoryOf, category_writtenRow hn]
  show (if PyStr.strip r.fullCategory = [] then _ else PyStr.strip r.fullCategory) = _
  rw [MergedRecord.fullCategory, mergedCategory, hstrip, if_neg hne]

theorem parseMetadata_written (hn : (row.map Prod.fst).Nodup) :
    parseMetadata (writtenRow r metadata row) line' =
      .ok (Json.sortedFields .canonical (writtenMetadata r metadata)) := by
  refine parseMetadata_obj ?_
  rw [metadata_writtenRow hn]
  rfl

/-- A row and what is written of it are read alike. -/
theorem parseRow_written (hname : isDatasetName name = true) (h : RecordOf node name line row r)
    (hn : (row.map Prod.fst).Nodup) (hmetadata : originalMetadata row = .ok metadata) :
    (∀ s, parseRow node.unicode row line = .ok s →
      ∃ s', parseRow node.unicode (writtenRow r metadata row) line' = .ok s' ∧ s'.sampleId = r.id ∧
        ScoredAs node.unicode name s s') ∧
    ∀ s', parseRow node.unicode (writtenRow r metadata row) line' = .ok s' →
      ∃ s, parseRow node.unicode row line = .ok s := by
  obtain ⟨hid, hidStrip, hidne⟩ := originalId_parsed h.originalId
  obtain ⟨⟨hcategoryStrip, hcategoryne⟩, hcategory⟩ := @originalCategory_parsed row node.unicode _ h.category
  have hrname : isDatasetName r.name = true := h.name ▸ hname
  have hobj := originalMetadata_ok hmetadata
  constructor
  · intro s hs
    have hparsed := parseRow_ok hs
    obtain ⟨answers, hanswers, hexpected⟩ := hparsed.answers
    obtain ⟨choices', hchoices', hperm⟩ := (choices_written hn s.taskType).1 _ hparsed.choices
    have hsid : s.sampleId = r.originalId := Except.ok.inj (hparsed.sampleId.symm.trans hid)
    have hsmetadata : s.metadata = metadata := Except.ok.inj (hparsed.metadata.symm.trans (parseMetadata_obj hobj))
    refine ⟨⟨r.id, s.taskType, s.question, s.answers, r.fullCategory, choices',
      contextOf node.unicode (writtenRow r metadata row), Json.sortedFields .canonical (writtenMetadata r metadata)⟩,
      parseRow_of_parsed ?_, rfl, ?_⟩
    · refine ⟨?_, parseId_written hn hrname hidStrip hidne, hchoices',
        ⟨answers, (answers_written hn).mpr hanswers, ?_⟩, parseMetadata_written hn,
        (question_written hn).mpr hparsed.question,
        (categoryOf_written hn hrname hcategoryStrip hcategoryne).symm, rfl⟩
      · rw [parseTaskType_eq_ok, taskType_written hn]
        exact parseTaskType_eq_ok.mp hparsed.taskType
      · exact (expected_perm hperm).mpr hexpected
    · refine ⟨?_, ⟨r.category, ?_, ?_⟩, rfl, rfl, rfl, hperm, ?_, ?_⟩
      · rw [hsid, ← h.name]
        rfl
      · rw [← h.name]
        rfl
      · rw [hparsed.category]
        exact hcategory
      · rw [hparsed.context]
        exact context_written hn
      · rw [hsmetadata, hsid, ← h.name]
        rfl
  · intro s' hs'
    have hparsed := parseRow_ok hs'
    obtain ⟨answers, hanswers, hexpected⟩ := hparsed.answers
    obtain ⟨choices, hchoices⟩ := (choices_written hn s'.taskType).2 _ hparsed.choices
    obtain ⟨choices', hchoices', hperm⟩ :=
      (@choices_written line line' row metadata r node.unicode hn s'.taskType).1 _ hchoices
    obtain rfl : choices' = s'.choices := Except.ok.inj (hchoices'.symm.trans hparsed.choices)
    refine ⟨⟨r.originalId, s'.taskType, s'.question, s'.answers, categoryOf node.unicode row, choices,
      contextOf node.unicode row, metadata⟩, parseRow_of_parsed ?_⟩
    refine ⟨?_, hid, hchoices, ⟨answers, (answers_written hn).mp hanswers, (expected_perm hperm).mp hexpected⟩,
      parseMetadata_obj hobj, (question_written hn).mp hparsed.question, rfl, rfl⟩
    rw [parseTaskType_eq_ok, ← @taskType_written row r metadata hn]
    exact parseTaskType_eq_ok.mp hparsed.taskType

end

/-! ## The lines that are written -/

section

variable {node : Node} {name : PyStr} {line : Nat} {row metadata : Row} {r : MergedRecord} {h : JsonDecoder}

theorem datasetName_unicode (hname : isDatasetName name = true) : IsUnicode name := by
  have halnum {c : Nat} (hc : isDatasetName.isAlnum c = true) : c < 0x110000 := by
    simp only [isDatasetName.isAlnum, isDigit, Bool.or_eq_true, Bool.and_eq_true, decide_eq_true_eq] at hc
    omega
  cases name with
  | nil => contradiction
  | cons c rest =>
    simp only [isDatasetName, Bool.and_eq_true, List.all_eq_true, Bool.or_eq_true, decide_eq_true_eq] at hname
    refine List.forall_mem_cons.mpr ⟨halnum hname.1.1, fun d hd => ?_⟩
    rcases hname.2 d hd with ((hd | hd) | hd) | hd
    · exact halnum hd
    all_goals omega

theorem get?_loaded {kvs : Row} (hkvs : Json.loadedEntries h kvs) {k : PyStr} {v : Json}
    (hv : Json.get? kvs k = some v) : v.Loaded h := by
  rw [Json.get?_eq] at hv
  exact (Json.loadedEntries_iff.mp hkvs _ (Dict.mem_of_get? hv)).2

theorem set_loaded {kvs : Row} (hkvs : (Json.obj kvs).Loaded h) {k : PyStr} (hk : IsUnicode k) {v : Json}
    (hv : v.Loaded h) : (Json.obj (Dict.set kvs k v)).Loaded h := by
  refine ⟨Dict.nodup_set hkvs.1 _ _, Json.loadedEntries_iff.mpr fun kv hkv => ?_⟩
  rcases Dict.mem_set hkv with hkv | rfl
  · exact Json.loadedEntries_iff.mp hkvs.2 kv hkv
  · exact ⟨hk, hv⟩

theorem originalId_unicode (hrow : (Json.obj row).Loaded h) {id : PyStr} {u : UnicodeData}
    (hid : originalId u row line = .ok id) : IsUnicode id := by
  obtain ⟨s, hs, rfl, -⟩ := safeShortText_ok hid
  obtain rfl := Json.str.inj hs
  have hstr : IsUnicode (((Json.get? row (py "id")).getD (.int line)).toStr u) := by
    cases hget : Json.get? row (py "id") with
    | none => exact chars_strInt unicode_of_ascii line
    | some v => exact (get?_loaded hrow.2 hget).toStr_unicode u
  exact hstr.mono fun c hc => PyStr.mem_of_mem_strip hc

theorem originalCategory_unicode (hrow : (Json.obj row).Loaded h) {category : PyStr}
    (hcategory : originalCategory row = .ok category) : IsUnicode category := by
  obtain ⟨s, rfl, -, hget⟩ := originalCategory_text hcategory
  have hstr : IsUnicode s := by
    rcases hget with hget | ⟨rfl, -⟩
    · exact get?_loaded hrow.2 hget
    · exact unicode_of_ascii.chars (by decide)
  exact hstr.mono fun c hc => PyStr.mem_of_mem_strip hc

theorem originalMetadata_loaded (hrow : (Json.obj row).Loaded h) (hmetadata : originalMetadata row = .ok metadata) :
    (Json.obj metadata).Loaded h := by
  have hobj := originalMetadata_ok hmetadata
  cases hget : Json.get? row (py "metadata") with
  | none =>
    rw [hget] at hobj
    obtain rfl := Json.obj.inj hobj
    exact ⟨List.nodup_nil, loadedEntries_nil⟩
  | some v =>
    rw [hget] at hobj
    obtain rfl : v = .obj metadata := hobj
    exact get?_loaded hrow.2 hget

/-- What is written of a decoded row could have been decoded. -/
theorem mergedRow_loaded (hname : IsUnicode name) (hr : RecordOf node name line row r)
    (hrow : (Json.obj row).Loaded h) (hmetadata : originalMetadata row = .ok metadata) :
    (Json.obj (mergedRow r.name r.originalId r.category metadata row)).Loaded h := by
  have hword {s : String} (hs : (py s).all (fun c => 32 ≤ c && c < 127) = true) : IsUnicode (py s) :=
    unicode_of_ascii.chars hs
  have hrname : IsUnicode r.name := hr.name ▸ hname
  have hid : IsUnicode r.originalId := originalId_unicode hrow hr.originalId
  have hcategory : IsUnicode r.category := originalCategory_unicode hrow hr.category
  have horigin : (Json.obj [(py "name", .str r.name), (py "original_id", .str r.originalId)]).Loaded h := by
    have hkeys : [py "name", py "original_id"].Nodup := by decide
    refine ⟨hkeys, Json.loadedEntries_iff.mpr ?_⟩
    exact List.forall_mem_cons.mpr ⟨⟨hword (by decide), hrname⟩,
      List.forall_mem_singleton.mpr ⟨hword (by decide), hid⟩⟩
  refine set_loaded (set_loaded (set_loaded hrow (hword (by decide)) ?_) (hword (by decide)) ?_) (hword (by decide)) ?_
  · exact Chars.append (Chars.append hrname (hword (by decide))) hid
  · exact Chars.append (Chars.append hrname (hword (by decide))) hcategory
  · exact set_loaded (originalMetadata_loaded hrow hmetadata) (hword (by decide)) horigin

theorem flat_canonical : JsonStyle.canonical.Flat :=
  JsonStyle.adds_canonical fun c _ hc => ⟨by omega, by omega⟩

/-- The line of a record: it has no other line break, and is decoded to the row that is written. -/
theorem line_written (hfloat : (JsonDecoder.strict node.float).ReadsFloats) (hname : IsUnicode name)
    (hr : RecordOf node name line row r) (hload : (Json.obj row).Loaded (.strict node.float)) :
    ∃ metadata, originalMetadata row = .ok metadata ∧ 10 ∉ r.body ∧ isBlank r.line = false ∧
      loads (.plain node.float) r.line = .ok (.obj (writtenRow r metadata row)) := by
  obtain ⟨metadata, hmetadata, hbody⟩ := hr.body
  have hloaded := mergedRow_loaded hname hr hload hmetadata
  unfold canonicalJson at hbody
  split at hbody
  · rename_i text htext
    unfold encodeText at hbody
    split at hbody
    · rename_i b hb
      obtain rfl := Except.ok.inj hbody
      have hreadable := hloaded.readable hfloat rfl htext
      have hflat := dumps_flat flat_canonical hloaded.unicode htext
      have hline : LineOf .canonical (.obj (mergedRow r.name r.originalId r.category metadata row)) r.line :=
        ⟨text, htext, encode_append.mpr ⟨_, [10], hb, rfl, rfl⟩⟩
      have hdistinct := JsonDecoder.strict_keepsDistinct node.float
      refine ⟨metadata, hmetadata, fun hmem => ?_, ?_, ?_⟩
      · have hprintable := (hflat 10 (ascii_of_encode (by decide) (fun c hc => (hflat c hc).2) hb hmem)).1
        omega
      · exact hline.not_blank JsonStyle.spaced_canonical hdistinct hreadable
      · exact loads_plain (hline.loads JsonStyle.spaced_canonical hdistinct hreadable hloaded.unicode)
    · contradiction
  · contradiction

end

end OpenLLMOps.Evaluation
