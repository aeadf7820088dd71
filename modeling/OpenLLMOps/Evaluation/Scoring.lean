import OpenLLMOps.Evaluation.Samples

/-!
# Scoring an answer

`normalize_text`, `_extract_choice` and `score_answer`. A prediction that cannot be read is counted
apart from a wrong one, so a sample is worth its place in a dataset only if its own expected answer
can be read (`answers_score_iff`): for a choice, if the label is one of the letters `A` to `Z` that
`_extract_choice` looks for (`score_label_iff`), and else, if the normal form is not empty
(`score_text_iff`).
-/

namespace OpenLLMOps.Evaluation

open Framework

/-- The characters that `normalize_text` removes besides space. -/
def punctuation : PyStr := py "，。！？；：、,.!?;:'\"\x60()[]\x7b\x7d<>《》"

/-- The words before a choice, of which one may be missing. -/
def choiceWords : List PyStr := [py "答案", py "选项", py "选择"]

/-- `A` to `Z`. -/
def letter? : PyStr → Option (Nat × PyStr)
  | c :: rest => if isCapital c then some (c, rest) else none
  | [] => none

/-- What is left behind a colon, if there is one. -/
def skipColon : PyStr → PyStr
  | c :: rest => if c = 58 ∨ c = 0xFF1A then rest else c :: rest
  | [] => []

/-- What is left behind the first of the words that the text starts with. -/
def skipWord (s : PyStr) : PyStr :=
  match choiceWords.find? (·.isPrefixOf s) with
  | some word => s.drop word.length
  | none => s

/-- `(?:答案|选项|选择)?\s*[:：]?\s*([A-Z])` at the start of a text, and what is left. No character can
be matched by two of its parts that follow each other, so there is nothing to go back to. -/
def matchChoice (s : PyStr) : Option (Nat × PyStr) :=
  letter? ((skipColon ((skipWord s).dropWhile PyStr.isSpace)).dropWhile PyStr.isSpace)

section

variable (u : UnicodeData)

/-- `normalize_text`. -/
def normalizeText (value : PyStr) : PyStr :=
  let value := ((value.nfkc u).strip).casefold u
  let value := value.filter fun c => !(PyStr.isSpace c || c = 0x3000)
  value.filter fun c => !punctuation.contains c

/-- `direct`: nothing but the choice, and perhaps a full stop. -/
def directChoice (upper : PyStr) : Option PyStr :=
  match matchChoice upper with
  | some (c, rest) =>
    let rest := rest.dropWhile PyStr.isSpace
    if rest = [] ∨ rest = [46] ∨ rest = [0x3002] then some [c] else none
  | none => none

/-- `leading`: the choice ends where the word ends, or at a punctuation mark. -/
def leadingChoice (upper : PyStr) : Option PyStr :=
  match matchChoice upper with
  | some (c, []) => some [c]
  | some (c, d :: _) => if !u.isWord d || (py ".、，。:：").contains d then some [c] else none
  | none => none

/-- `_extract_choice`. -/
def extractChoice (prediction : PyStr) (labels : List PyStr) : Option PyStr :=
  let upper := ((prediction.nfkc u).upper u).strip
  match (directChoice upper).filter (labels.contains ·) with
  | some choice => some choice
  | none => (leadingChoice u upper).filter (labels.contains ·)

structure SampleResult where
  sampleId : PyStr
  category : PyStr
  prediction : PyStr
  expected : List PyStr
  correct : Bool
  valid : Bool
  latencyMs : PyFloat

/-- `score_answer`. -/
def scoreAnswer (sample : Sample) (prediction : PyStr) (latencyMs : PyFloat) : SampleResult :=
  let parsed : Option PyStr := match sample.taskType with
    | .multipleChoice => extractChoice u prediction (sample.choices.map Prod.fst)
    | _ => if normalizeText u prediction = [] then none else some (normalizeText u prediction)
  let correct : PyStr → Bool := match sample.taskType with
    | .multipleChoice => fun choice => sample.answers.head? = some choice
    | _ => fun text => (sample.answers.map (normalizeText u)).contains text
  { sampleId := sample.sampleId
    category := sample.category
    prediction := prediction
    expected := sample.answers
    correct := parsed.any correct
    valid := parsed.isSome
    latencyMs := if latencyMs.gtZero then latencyMs else .finite false 0 0 }

/-! ## What can be extracted -/

theorem choiceWords_eq : choiceWords = [[0x7B54, 0x6848], [0x9009, 0x9879], [0x9009, 0x62E9]] := by decide

theorem letter?_capital {s rest : PyStr} {c : Nat} (h : letter? s = some (c, rest)) : isCapital c = true := by
  cases s with
  | nil => cases h
  | cons d s =>
    simp only [letter?] at h
    split at h
    · rename_i hd
      cases h
      exact hd
    · cases h

/-- A letter alone is a choice. -/
theorem matchChoice_capital {c : Nat} (h : isCapital c = true) : matchChoice [c] = some (c, []) := by
  have hword : skipWord [c] = [c] := by simp [skipWord, choiceWords_eq]
  have hcolon : skipColon [c] = [c] := by
    have : ¬ (c = 58 ∨ c = 0xFF1A) := by
      simp only [isCapital, Bool.and_eq_true, decide_eq_true_eq] at h
      omega
    simp [skipColon, this]
  have hspace : [c].dropWhile PyStr.isSpace = [c] := by simp [isSpace_capital h]
  rw [matchChoice, hword, hspace, hcolon, hspace, letter?, if_pos h]

theorem directChoice_spec {upper choice : PyStr} (h : directChoice upper = some choice) :
    ∃ c, isCapital c = true ∧ choice = [c] := by
  simp only [directChoice] at h
  split at h
  · rename_i c rest hm
    split at h
    · exact ⟨c, letter?_capital hm, (Option.some.inj h).symm⟩
    · cases h
  · cases h

theorem leadingChoice_spec {upper choice : PyStr} (h : leadingChoice u upper = some choice) :
    ∃ c, isCapital c = true ∧ choice = [c] := by
  unfold leadingChoice at h
  split at h
  · rename_i c hm
    exact ⟨c, letter?_capital hm, (Option.some.inj h).symm⟩
  · rename_i c d rest hm
    split at h
    · exact ⟨c, letter?_capital hm, (Option.some.inj h).symm⟩
    · cases h
  · cases h

/-- What is extracted is one of the labels, and a capital letter. -/
theorem extractChoice_spec {prediction choice : PyStr} {labels : List PyStr}
    (h : extractChoice u prediction labels = some choice) :
    choice ∈ labels ∧ ∃ c, isCapital c = true ∧ choice = [c] := by
  simp only [extractChoice] at h
  split at h
  · rename_i direct hdirect
    obtain rfl := Option.some.inj h
    obtain ⟨hdirect, hlabel⟩ := Option.filter_eq_some_iff.mp hdirect
    exact ⟨by simpa using hlabel, directChoice_spec hdirect⟩
  · obtain ⟨hleading, hlabel⟩ := Option.filter_eq_some_iff.mp h
    exact ⟨by simpa using hlabel, leadingChoice_spec u hleading⟩

/-- A label that is a capital letter is extracted from itself. -/
theorem extractChoice_capital {c : Nat} (hc : isCapital c = true) {labels : List PyStr} (hlabel : [c] ∈ labels) :
    extractChoice u [c] labels = some [c] := by
  have hupper : (((PyStr.nfkc u [c]).upper u).strip : PyStr) = [c] := by
    rw [PyStr.nfkc_capital u hc, PyStr.upper_capital u hc, PyStr.strip_singleton (isSpace_capital hc)]
  have hdirect : directChoice [c] = some [c] := by
    simp [directChoice, matchChoice_capital hc]
  simp [extractChoice, hupper, hdirect, Option.filter, hlabel]

/-! ## A sample's own answer -/

variable {u}

/-- The sample's own answer is scored as valid and correct. -/
def ScoresCorrect (s : Sample) (answer : PyStr) : Prop :=
  ∀ latencyMs : PyFloat, (scoreAnswer u s answer latencyMs).valid = true ∧ (scoreAnswer u s answer latencyMs).correct = true

/-- The label of a choice scores if and only if it is a capital letter. -/
theorem score_label_iff {s : Sample} (htask : s.taskType = .multipleChoice) {label : PyStr}
    (hanswers : s.answers = [label]) (hlabel : label ∈ s.choices.map Prod.fst) :
    ScoresCorrect (u := u) s label ↔ ∃ c, isCapital c = true ∧ label = [c] := by
  constructor
  · intro h
    obtain ⟨hvalid, hcorrect⟩ := h .nan
    simp only [scoreAnswer, htask, hanswers] at hvalid hcorrect
    obtain ⟨choice, hchoice⟩ := Option.isSome_iff_exists.mp hvalid
    simp only [hchoice, Option.any_some, List.head?_cons, decide_eq_true_eq, Option.some.injEq] at hcorrect
    rw [hcorrect]
    exact (extractChoice_spec u hchoice).2
  · rintro ⟨c, hc, rfl⟩ latencyMs
    simp [scoreAnswer, htask, hanswers, extractChoice_capital u hc hlabel]

/-- A text scores if and only if something is left of it. -/
theorem score_text_iff {s : Sample} (htask : s.taskType ≠ .multipleChoice) {answer : PyStr} (hmem : answer ∈ s.answers) :
    ScoresCorrect (u := u) s answer ↔ normalizeText u answer ≠ [] := by
  have hscore : ∀ latencyMs,
      (scoreAnswer u s answer latencyMs).valid = decide (normalizeText u answer ≠ []) ∧
        (scoreAnswer u s answer latencyMs).correct = decide (normalizeText u answer ≠ []) := by
    intro latencyMs
    have hself : normalizeText u answer ∈ s.answers.map (normalizeText u) := List.mem_map_of_mem hmem
    by_cases hempty : normalizeText u answer = []
    · cases hs : s.taskType with
      | multipleChoice => exact absurd hs htask
      | _ => simp [scoreAnswer, hs, hempty]
    · cases hs : s.taskType with
      | multipleChoice => exact absurd hs htask
      | _ => simpa [scoreAnswer, hs, hempty] using hself
  constructor
  · intro h
    simpa [hscore] using (h .nan).1
  · intro h latencyMs
    simp [hscore, h]

variable (u)

/-- The sample's own expected answers score: of a choice, its label. -/
def Answerable (s : Sample) : Prop :=
  (∃ answer, s.answers.head? = some answer ∧ ScoresCorrect (u := u) s answer) ∧
    (s.taskType ≠ .multipleChoice → ∀ answer ∈ s.answers, ScoresCorrect (u := u) s answer)

/-- The answer of a choice is a capital letter, and something is left of any other. -/
def AnswersReadable (row : Row) : Prop :=
  match taskType? row with
  | some .multipleChoice =>
    ∃ (s : PyStr) (c : Nat), (answerValues row).head? = some (.str s) ∧ isCapital c = true ∧ s.strip.upper u = [c]
  | _ => ∀ s : PyStr, Json.str s ∈ answerValues row → normalizeText u s.strip ≠ []

variable {u}

theorem answersReadable_choice {row : Row} (h : taskType? row = some .multipleChoice) :
    AnswersReadable u row ↔
      ∃ (s : PyStr) (c : Nat), (answerValues row).head? = some (.str s) ∧ isCapital c = true ∧ s.strip.upper u = [c] := by
  rw [AnswersReadable, h]

theorem answersReadable_text {row : Row} (h : taskType? row ≠ some .multipleChoice) :
    AnswersReadable u row ↔ ∀ s : PyStr, Json.str s ∈ answerValues row → normalizeText u s.strip ≠ [] := by
  unfold AnswersReadable
  split
  · rename_i htask
    exact absurd htask h
  · rfl

/-- The answers of an accepted row are the stripped texts of its values. -/
theorem mem_answers_iff {row : Row} {line : Nat} {answers : List PyStr} (h : parseAnswers row line = .ok answers)
    {answer : PyStr} : answer ∈ answers ↔ ∃ s : PyStr, Json.str s ∈ answerValues row ∧ s.strip = answer := by
  obtain ⟨hmap, -⟩ := parseAnswers_eq_ok.mp h
  have hblank : ∀ {v : Json}, v ∈ answerValues row → (text? v).isSome = true := fun hv => by
    have : text? _ ∈ (answerValues row).map text? := List.mem_map_of_mem hv
    rw [mapM_eq_some.mp hmap] at this
    obtain ⟨text, -, htext⟩ := List.mem_map.mp this
    rw [← htext]; rfl
  rw [mem_of_mapM hmap]
  constructor
  · rintro ⟨v, hv, htext⟩
    obtain ⟨s, rfl, rfl, -⟩ := text?_eq_some.mp htext
    exact ⟨s, hv, rfl⟩
  · rintro ⟨s, hs, rfl⟩
    obtain ⟨text, htext⟩ := Option.isSome_iff_exists.mp (hblank hs)
    obtain ⟨s', hs', rfl, -⟩ := text?_eq_some.mp htext
    cases hs'
    exact ⟨_, hs, htext⟩

theorem head_answers {row : Row} {line : Nat} {answers : List PyStr} (h : parseAnswers row line = .ok answers) :
    ∃ s : PyStr, (answerValues row).head? = some (.str s) ∧ answers.head? = some s.strip := by
  obtain ⟨hmap, hne⟩ := parseAnswers_eq_ok.mp h
  obtain ⟨answer, rest, rfl⟩ := List.exists_cons_of_ne_nil hne
  have hvalues := mapM_eq_some.mp hmap
  cases hv : answerValues row with
  | nil => simp [hv] at hvalues
  | cons v vs =>
    rw [hv, List.map_cons, List.map_cons, List.cons.injEq] at hvalues
    obtain ⟨s, rfl, rfl, -⟩ := text?_eq_some.mp hvalues.1
    exact ⟨s, rfl, rfl⟩

/-- An accepted row is answerable exactly if its answers are readable. -/
theorem answerable_iff {row : Row} {line : Nat} {s : Sample} (h : parseRow u row line = .ok s) :
    Answerable u s ↔ AnswersReadable u row := by
  have hs := parseRow_ok h
  have htask := parseTaskType_eq_ok.mp hs.taskType
  obtain ⟨answers, hanswers, hexpected⟩ := hs.answers
  by_cases hchoice : s.taskType = .multipleChoice
  · rw [hchoice] at htask hexpected
    obtain ⟨hone, hlabel⟩ := expectedAnswers_choice hexpected
    obtain ⟨text, hvalue, hfirst⟩ := head_answers hanswers
    have hhead : answers.headD [] = text.strip := by
      rw [List.headD_eq_head?_getD, hfirst, Option.getD_some]
    rw [hhead] at hone hlabel
    rw [answersReadable_choice htask]
    have hscore := score_label_iff (u := u) hchoice hone hlabel
    constructor
    · rintro ⟨⟨answer, ha, hcorrect⟩, -⟩
      obtain rfl : _ = answer := by simpa [hone] using ha
      obtain ⟨c, hc, heq⟩ := hscore.mp hcorrect
      exact ⟨text, c, hvalue, hc, heq⟩
    · rintro ⟨text', c, hvalue', hc, heq⟩
      obtain rfl : text = text' := by simpa [hvalue] using hvalue'
      exact ⟨⟨_, by rw [hone, List.head?_cons], hscore.mpr ⟨c, hc, heq⟩⟩, fun hne => absurd hchoice hne⟩
  · rw [expectedAnswers_other hchoice, Except.ok.injEq] at hexpected
    subst hexpected
    have hmem : ∀ answer, answer ∈ s.answers ↔ ∃ t : PyStr, Json.str t ∈ answerValues row ∧ t.strip = answer :=
      fun _ => mem_answers_iff hanswers
    obtain ⟨text, -, hfirst⟩ := head_answers hanswers
    rw [answersReadable_text (by rw [htask]; simpa using hchoice)]
    constructor
    · rintro ⟨-, hall⟩ t ht
      have hin : t.strip ∈ s.answers := (hmem _).mpr ⟨t, ht, rfl⟩
      exact (score_text_iff hchoice hin).mp (hall hchoice _ hin)
    · intro hall
      have hcorrect : ∀ answer ∈ s.answers, ScoresCorrect (u := u) s answer := by
        intro answer hin
        obtain ⟨t, ht, rfl⟩ := (hmem answer).mp hin
        exact (score_text_iff hchoice hin).mpr (hall t ht)
      exact ⟨⟨_, hfirst, hcorrect _ (List.mem_of_mem_head? hfirst)⟩, fun _ => hcorrect⟩

/-- A row whose answer is the label of one of its two choices. -/
def choiceRow (first second answer : String) : Row :=
  [(py "question", .str (py "1+1=?")), (py "choices", .obj [(py first, .str (py "2")), (py second, .str (py "3"))]),
    (py "answer", .str (py answer))]

def choiceSample (first second answer : String) : Sample where
  sampleId := py "1"
  taskType := .multipleChoice
  question := py "1+1=?"
  answers := [py answer]
  category := py "default"
  choices := [(py first, py "2"), (py second, py "3")]
  context := none
  metadata := []

theorem lettered_row_is_answerable : Answerable plainText (choiceSample "A" "B" "A") :=
  have hrow : parseRow plainText (choiceRow "A" "B" "A") 1 = .ok (choiceSample "A" "B" "A") := by decide +kernel
  (answerable_iff hrow).mpr ⟨py "A", 65, by decide +kernel, rfl, by decide +kernel⟩

/-- Choices may be numbered, but no number is a prediction that can be read. -/
theorem numbered_row_is_unanswerable :
    ¬ ∀ (u : UnicodeData) (row : Row) (line : Nat) (s : Sample), parseRow u row line = .ok s → Answerable u s := by
  intro hall
  have hrow : parseRow plainText (choiceRow "1" "2" "1") 1 = .ok (choiceSample "1" "2" "1") := by decide +kernel
  obtain ⟨⟨answer, hhead, hcorrect⟩, -⟩ := hall plainText _ 1 _ hrow
  obtain rfl : py "1" = answer := Option.some.inj hhead
  have hvalid : (scoreAnswer plainText (choiceSample "1" "2" "1") (py "1") .nan).valid = false := by decide +kernel
  exact Bool.false_ne_true (hvalid.symm.trans (hcorrect .nan).1)

end

end OpenLLMOps.Evaluation
