import OpenLLMOps.Framework.Csv
import OpenLLMOps.Framework.Except
import OpenLLMOps.Framework.Json.Dumps
import OpenLLMOps.Framework.Json.Utf8
import OpenLLMOps.Framework.Text
import OpenLLMOps.ModelImport.Directory

/-!
# The benchmarks

How `builtin_benchmarks.py` makes a dataset of the CSV files of C-Eval or CMMLU: the split
and the subject of a file by its path, the records of its rows, and the two fingerprints.
-/

namespace OpenLLMOps.Benchmarks

open Framework

inductive Benchmark
  | ceval
  | cmmlu
  deriving DecidableEq

def Benchmark.text : Benchmark → PyStr
  | ceval => py "ceval"
  | cmmlu => py "cmmlu"

inductive Split
  | dev
  | val
  | test
  deriving DecidableEq

namespace Split

def text : Split → PyStr
  | dev => py "dev"
  | val => py "val"
  | test => py "test"

/-- `SPLIT_ORDER`. -/
def order : List Split := [dev, val, test]

/-- The place in the order. -/
def index : Split → Nat
  | dev => 0
  | val => 1
  | test => 2

def ofText? (s : PyStr) : Option Split := order.find? fun split => split.text = s

end Split

/-- `CEVAL_SUBJECTS`. -/
def cevalSubjects : List PyStr :=
  [py "accountant", py "advanced_mathematics", py "art_studies", py "basic_medicine", py "business_administration",
    py "chinese_language_and_literature", py "civil_servant", py "clinical_medicine", py "college_chemistry",
    py "college_economics", py "college_physics", py "college_programming", py "computer_architecture",
    py "computer_network", py "discrete_mathematics", py "education_science", py "electrical_engineer",
    py "environmental_impact_assessment_engineer", py "fire_engineer", py "high_school_biology",
    py "high_school_chemistry", py "high_school_chinese", py "high_school_geography", py "high_school_history",
    py "high_school_mathematics", py "high_school_physics", py "high_school_politics",
    py "ideological_and_moral_cultivation", py "law", py "legal_professional", py "logic", py "mao_zedong_thought",
    py "marxism", py "metrology_engineer", py "middle_school_biology", py "middle_school_chemistry",
    py "middle_school_geography", py "middle_school_history", py "middle_school_mathematics",
    py "middle_school_physics", py "middle_school_politics", py "modern_chinese_history", py "operating_system",
    py "physician", py "plant_protection", py "probability_and_statistics", py "professional_tour_guide",
    py "sports_science", py "tax_accountant", py "teacher_qualification", py "urban_and_rural_planner",
    py "veterinary_medicine"]

/-- `CMMLU_SUBJECTS`. -/
def cmmluSubjects : List PyStr :=
  [py "agronomy", py "anatomy", py "ancient_chinese", py "arts", py "astronomy", py "business_ethics",
    py "chinese_civil_service_exam", py "chinese_driving_rule", py "chinese_food_culture",
    py "chinese_foreign_policy", py "chinese_history", py "chinese_literature", py "chinese_teacher_qualification",
    py "clinical_knowledge", py "college_actuarial_science", py "college_education",
    py "college_engineering_hydrology", py "college_law", py "college_mathematics", py "college_medical_statistics",
    py "college_medicine", py "computer_science", py "computer_security", py "conceptual_physics",
    py "construction_project_management", py "economics", py "education", py "electrical_engineering",
    py "elementary_chinese", py "elementary_commonsense", py "elementary_information_and_technology",
    py "elementary_mathematics", py "ethnology", py "food_science", py "genetics", py "global_facts",
    py "high_school_biology", py "high_school_chemistry", py "high_school_geography", py "high_school_mathematics",
    py "high_school_physics", py "high_school_politics", py "human_sexuality", py "international_law",
    py "journalism", py "jurisprudence", py "legal_and_moral_basis", py "logical", py "machine_learning",
    py "management", py "marketing", py "marxist_theory", py "modern_chinese", py "nutrition", py "philosophy",
    py "professional_accounting", py "professional_law", py "professional_medicine", py "professional_psychology",
    py "public_relations", py "security_study", py "sociology", py "sports_science",
    py "traditional_chinese_medicine", py "virology", py "world_history", py "world_religions"]

/-- `BenchmarkSpec`, with what a preparation reads. -/
structure BenchmarkSpec where
  name : Benchmark
  title : PyStr
  repositoryUrl : PyStr
  licenseUrl : PyStr
  onlineRevision : PyStr
  downloadUrl : PyStr
  artifactSha256 : PyStr
  defaultSplits : List Split
  subjects : List PyStr

/-- `BENCHMARK_SPECS`. -/
def Benchmark.spec : Benchmark → BenchmarkSpec
  | ceval =>
    { name := ceval
      title := py "C-Eval"
      repositoryUrl := py "https://huggingface.co/datasets/ceval/ceval-exam"
      licenseUrl := py "https://github.com/hkust-nlp/ceval/blob/cba65ae93bcf189149ced9f66ae0c958201faed9/LICENSE-DATA"
      onlineRevision := py "3923b519fd180e689d0961bf3a032ece929742f3"
      downloadUrl := py ("https://huggingface.co/datasets/ceval/ceval-exam/resolve/" ++
        "3923b519fd180e689d0961bf3a032ece929742f3/ceval-exam.zip")
      artifactSha256 := py "68786deeea68ff089c56563ee48fab8160da857b77b913437bb504d681fd8e20"
      defaultSplits := [.dev, .val]
      subjects := cevalSubjects }
  | cmmlu =>
    { name := cmmlu
      title := py "CMMLU"
      repositoryUrl := py "https://github.com/haonan-li/CMMLU"
      licenseUrl := py ("https://github.com/haonan-li/CMMLU/blob/" ++
        "d6e7b716d8ac694f38969a6c0407437d1fded799/README.md#license")
      onlineRevision := py "d6e7b716d8ac694f38969a6c0407437d1fded799"
      downloadUrl := py "https://github.com/haonan-li/CMMLU/archive/d6e7b716d8ac694f38969a6c0407437d1fded799.zip"
      artifactSha256 := py "154593336d5074d793ed990222876b83490b0aed97638a62618d1fe2da7c2cac"
      defaultSplits := [.dev, .test]
      subjects := cmmluSubjects }

/-- A relative path that has been validated: `PurePosixPath` leaves its parts as they are. -/
structure LogicalPath where
  parts : RelativePath
  ne_nil : parts ≠ []
  proper : parts.Proper
  unicode : ∀ part ∈ parts, IsUnicode part

/-- `logical_path`. -/
def LogicalPath.text (p : LogicalPath) : PyStr := p.parts.posix

structure SourceCsv where
  path : LogicalPath
  content : Bytes
  rootHint : Option PyStr

/-- What is called of the standard library. -/
structure BenchmarkLibrary where
  casing : Casing
  unicode : UnicodeData

/-- The text of a `BenchmarkPreparationError`, or a result. -/
abbrev Prepared (α : Type) : Type := Except PyStr α

/-! ## Splits and subjects -/

section

variable (library : BenchmarkLibrary) (spec : BenchmarkSpec)

/-- The splits that the path of a file names. -/
def splitMatches (source : SourceCsv) : List Split :=
  let parts := source.path.parts.dropLast.map (PyStr.lower library.casing)
  let parts := match source.rootHint with
    | some hint => if (Split.ofText? hint).isSome then hint :: parts else parts
    | none => parts
  parts.filterMap Split.ofText?

/-- `_detect_split`. -/
def detectSplit (source : SourceCsv) : Prepared (Option Split) :=
  let found := splitMatches library source
  if 1 < found.dedup.length then .error (py "CSV 路径包含多个 split: " ++ source.path.text)
  else .ok found.getLast?

/-- `stem`. -/
def stem (p : RelativePath) : PyStr := p.name.take (p.name.length - p.suffix.length)

/-- `[a-z0-9_\-]`. -/
def isCategoryChar (c : Nat) : Bool := (97 ≤ c && c ≤ 122) || isDigit c || c = 95 || c = 45

/-- A subject of what is left of a stem. -/
def subjectOf (source : SourceCsv) (stem : PyStr) : Prepared PyStr :=
  let category := stem.strip.lower library.casing
  if category = [] ∨ ¬ category.all isCategoryChar then .error (py "无法识别科目名: " ++ source.path.text)
  else .ok category

/-- `_category`. -/
def category (source : SourceCsv) (split : Split) : Prepared (Option PyStr) :=
  let stem := stem source.path.parts
  match spec.name with
  | .ceval =>
    let suffix := py "_" ++ split.text
    if suffix.isSuffixOf (stem.lower library.casing) then
      some <$> subjectOf library source (stem.take (stem.length - suffix.length))
    else .ok none
  | .cmmlu => some <$> subjectOf library source stem

/-- `_canonical_source_path`. -/
def canonicalSourcePath (split : Split) (category : PyStr) : PyStr :=
  split.text ++ py "/" ++ match spec.name with
    | .ceval => category ++ py "_" ++ split.text ++ py ".csv"
    | .cmmlu => category ++ py ".csv"

/-! ## Rows -/

/-- The loop of `_normalized_row`. -/
def normalizedColumns (done : List (PyStr × PyStr)) : List (PyStr × Option PyStr) → Prepared (List (PyStr × PyStr))
  | [] => .ok done
  | (key, value) :: columns =>
    let name := PyStr.lower library.casing (PyStr.strip (key.dropWhile (· = 0xFEFF)))
    if name = [] then normalizedColumns done columns
    else if name ∈ Dict.keys done then .error (py "CSV 包含重复字段: " ++ key)
    else
      match value with
      | none => .error (py "CSV 字段缺失: " ++ key)
      | some value => normalizedColumns (done ++ [(name, value.strip)]) columns

/-- `_normalized_row`. -/
def normalizedRow (raw : Csv.DictRow) : Prepared (List (PyStr × PyStr)) :=
  if raw.rest ≠ [] then .error (py "CSV 行的列数多于表头") else normalizedColumns library [] raw.columns

/-- `CHOICE_LABELS`, each with its column. -/
def choiceLabels : List (PyStr × PyStr) :=
  [(py "A", py "a"), (py "B", py "b"), (py "C", py "c"), (py "D", py "d")]

/-- `row.get(name, "")`. -/
def column (row : List (PyStr × PyStr)) (name : String) : PyStr := (Dict.get? row (py name)).getD []

/-- `id`. -/
def recordId (split : Split) (category : PyStr) (number : Nat) : PyStr :=
  spec.name.text ++ py ":" ++ split.text ++ py ":" ++ category ++ py ":" ++ decimal number

/-- The record of a row. An error is a function of the path of the file. -/
def recordOf (split : Split) (category : PyStr) (sourceRow : Nat) (raw : Csv.DictRow) :
    Except (PyStr → PyStr) Json := do
  let row ← (normalizedRow library raw).mapError fun text _ => text
  let question := column row "question"
  let answer := (column row "answer").upper library.unicode
  let choices := choiceLabels.map fun label => (label.1, (Dict.get? row label.2).getD [])
  if question = [] then .error fun path => path ++ py ":" ++ decimal sourceRow ++ py " 缺少有效 question"
  else if choices.any fun choice => choice.2 = [] then
    .error fun path => path ++ py ":" ++ decimal sourceRow ++ py " 缺少 A/B/C/D 选项"
  else if answer ∉ choiceLabels.map Prod.fst then
    .error fun path => path ++ py ":" ++ decimal sourceRow ++ py " 缺少有效 answer" ++
      if spec.name = .ceval ∧ split = .test then py "；该固定 C-Eval CSV 的 test split 未发布答案" else []
  else
    let originalId := column row "id"
    let explanation := column row "explanation"
    let metadata :=
      [(py "benchmark", .str spec.name.text), (py "source_file", .str (canonicalSourcePath spec split category)),
        (py "source_row", .int sourceRow), (py "split", .str split.text)] ++
      (if originalId = [] then [] else [(py "original_id", .str originalId)]) ++
      (if explanation = [] then [] else [(py "explanation", .str explanation)])
    .ok (.obj [(py "answer", .str answer), (py "category", .str category),
      (py "choices", .obj (choices.map fun choice => (choice.1, .str choice.2))),
      (py "id", .str (recordId spec split category (sourceRow - 1))), (py "metadata", .obj metadata),
      (py "question", .str question), (py "task_type", .str (py "multiple_choice"))])

/-- The records of the rows from the number `sourceRow` on. -/
def recordsOf (split : Split) (category : PyStr) : Nat → List Csv.DictRow → Except (PyStr → PyStr) (List Json)
  | _, [] => .ok []
  | sourceRow, raw :: rows => do
    let record ← recordOf library spec split category sourceRow raw
    let records ← recordsOf split category (sourceRow + 1) rows
    .ok (record :: records)

/-- `_parse_csv`, but for the path of the file. -/
def parseContent (split : Split) (category : PyStr) (content : Bytes) : Except (PyStr → PyStr) (List Json) :=
  match decodeUtf8Sig content with
  | none => .error fun path => py "CSV 不是有效 UTF-8: " ++ path
  | some text =>
    if 0 ∈ text then .error fun path => py "CSV 包含 NUL 字节: " ++ path
    else
      let reader := Csv.dictReader text
      match reader.fieldnames with
      | none =>
        if reader.failed then .error fun path => py "CSV 格式错误: " ++ path else .error fun path => py "CSV 缺少表头: " ++ path
      | some _ => do
        let records ← recordsOf library spec split category 2 reader.rows
        if reader.failed then .error fun path => py "CSV 格式错误: " ++ path
        else if records = [] then .error fun path => py "CSV 不含样本: " ++ path
        else .ok records

/-- `_parse_csv`. -/
def parseCsv (source : SourceCsv) (split : Split) (category : PyStr) : Prepared (List Json) :=
  (parseContent library spec split category source.content).mapError fun message => message source.path.text

/-! ## Conversion -/

/-- `_normalize_splits`. -/
def normalizeSplits (requested : Option (List PyStr)) : Prepared (List Split) :=
  let selected := match requested with
    | some (first :: rest) => first :: rest
    | _ => spec.defaultSplits.map Split.text
  let invalid := selected.filter fun text => (Split.ofText? text).isNone
  if invalid ≠ [] then
    .error (py "不支持的 split: " ++ (py ", ").intercalate (invalid.dedup.insertionSort (· ≤ ·)))
  else if selected = [] then .error (py "至少选择一个 split")
  else .ok (Split.order.filter fun split => split.text ∈ selected)

/-- A file with its split and its subject. -/
structure Selected where
  split : Split
  category : PyStr
  source : SourceCsv

/-- What identifies a selected file. -/
def Selected.identity (s : Selected) : Split × PyStr := (s.split, s.category)

/-- The split and the subject of a file, unless it is passed over. -/
def classify (source : SourceCsv) : Prepared (Option Selected) := do
  match ← detectSplit library source with
  | none => .ok none
  | some split => do
    match ← category library spec source split with
    | none => .ok none
    | some category => .ok (some ⟨split, category, source⟩)

/-- The files of the splits, behind those that have been selected. -/
def selectFiles (splits : List Split) (selected : List Selected) : List SourceCsv → Prepared (List Selected)
  | [] => .ok selected
  | source :: files => do
    match ← detectSplit library source with
    | none => selectFiles splits selected files
    | some split =>
      if split ∉ splits then selectFiles splits selected files
      else do
        match ← category library spec source split with
        | none => selectFiles splits selected files
        | some category =>
          if (split, category) ∈ selected.map Selected.identity then
            .error (py "split/科目 CSV 重复: " ++ split.text ++ py "/" ++ category)
          else selectFiles splits (selected ++ [⟨split, category, source⟩]) files

/-- `category_sets[split]`. -/
def categoriesOf (selected : List Selected) (split : Split) : List PyStr :=
  (selected.filter fun s => s.split = split).map Selected.category

/-- Equality of sets. -/
def sameSet (a b : List PyStr) : Bool := a.all (· ∈ b) && b.all (· ∈ a)

/-- The sets of subjects are not the official ones, or differ. -/
def isPartial (selected : List Selected) (splits : List Split) : Bool :=
  splits.any (fun split => !sameSet (categoriesOf selected split) spec.subjects) ||
    !splits.all fun split => sameSet (categoriesOf selected split) ((splits.head?.map (categoriesOf selected)).getD [])

/-- The records and the counts so far. -/
structure Counted where
  records : List Json
  splitCounts : List (PyStr × Nat)
  categoryCounts : List (PyStr × Nat)

/-- `counter[key] += n`. -/
def addCount (counter : List (PyStr × Nat)) (key : PyStr) (n : Nat) : List (PyStr × Nat) :=
  Dict.set counter key ((Dict.get? counter key).getD 0 + n)

/-- The records of a file are counted. -/
def Counted.add (c : Counted) (split : Split) (category : PyStr) (converted : List Json) : Counted :=
  ⟨c.records ++ converted, addCount c.splitCounts split.text converted.length,
    addCount c.categoryCounts category converted.length⟩

/-- The loop over the selected files. -/
def convertSelected (c : Counted) : List Selected → Prepared Counted
  | [] => .ok c
  | s :: selected => do
    let converted ← parseCsv library spec s.source s.split s.category
    convertSelected (c.add s.split s.category converted) selected

/-- What `_convert` returns. -/
structure Converted where
  records : List Json
  splitCounts : List (PyStr × Nat)
  categoryCounts : List (PyStr × Nat)
  sourceFileCount : Nat
  isPartial : Bool

/-- `dict(sorted(counter.items()))`. -/
def sortedCounts (counter : List (PyStr × Nat)) : List (PyStr × Nat) := counter.insertionSort fun a b => a.1 ≤ b.1

/-- The key of the sort: it is compared as a tuple is. -/
def Selected.key (s : Selected) : List PyStr := [[s.split.index], s.category, s.source.path.text]

/-- `_convert`. -/
def convert (files : List SourceCsv) (splits : List Split) (allowPartial : Bool) : Prepared Converted := do
  let selected ← selectFiles library spec splits [] files
  let missing := splits.eraseDups.filter fun split => categoriesOf selected split = []
  let unknown := (selected.map Selected.category).filter (· ∉ spec.subjects)
  if selected = [] then .error (py "来源中没有找到所选 split 的官方 CSV")
  else if missing ≠ [] then
    .error (py "所选 split 未找到任何 CSV: " ++ (py ", ").intercalate (missing.map Split.text))
  else if unknown ≠ [] then
    .error (py "来源包含非官方科目名: " ++ (py ", ").intercalate (unknown.dedup.insertionSort (· ≤ ·)))
  else if isPartial spec selected splits ∧ ¬ allowPartial then
    .error (py "科目集合不完整或 split 间不一致（期望每个 split " ++ decimal spec.subjects.length ++ py " 科；" ++
      (py ", ").intercalate (splits.map fun split =>
        split.text ++ py "=" ++ decimal (categoriesOf selected split).length) ++
      py "）。如确为测试子集，请显式使用 --allow-partial")
  else
    let counted ← convertSelected library spec ⟨[], [], []⟩ (selected.insertionSort fun a b => a.key ≤ b.key)
    .ok ⟨counted.records, sortedCounts counted.splitCounts, sortedCounts counted.categoryCounts, selected.length,
      isPartial spec selected splits⟩

/-! ## Fingerprints -/

/-- `n.to_bytes(width, "big")` of a number that is small enough. -/
def bigEndian : Nat → Nat → Bytes
  | 0, _ => []
  | width + 1, n => bigEndian width (n / 256) ++ [.ofNat (n % 256)]

/-- The length of some bytes, in eight; `none` is an `OverflowError`. -/
def lengthBytes (b : Bytes) : Option Bytes := if b.length < 2 ^ 64 then some (bigEndian 8 b.length) else none

/-- What `_canonical_csv_sha256` hashes of the sorted files. -/
def csvTreeInput : List (PyStr × Bytes) → Option Bytes
  | [] => some []
  | (path, content) :: files => do
    let name ← path.encode
    let nameLength ← lengthBytes name
    let contentLength ← lengthBytes content
    let rest ← csvTreeInput files
    some (nameLength ++ (name ++ (contentLength ++ (content ++ rest))))

/-- `_canonical_csv_sha256`, of the paths and the contents of the files. -/
def canonicalCsvSha256 {D : Type} (hash : Bytes → D) (files : List (PyStr × Bytes)) : Option D :=
  (csvTreeInput (files.insertionSort fun a b => a.1 ≤ b.1)).map hash

/-- The loop of `_benchmark_content_sha256`. -/
def normalizedFiles (done : List (PyStr × Bytes)) : List SourceCsv → Prepared (List (PyStr × Bytes))
  | [] => .ok done
  | source :: files => do
    match ← classify library spec source with
    | none => normalizedFiles done files
    | some s =>
      let path := canonicalSourcePath spec s.split s.category
      if path ∈ done.map Prod.fst then .error (py "规范化后的 CSV 路径重复: " ++ path)
      else normalizedFiles (done ++ [(path, source.content)]) files

/-- `_benchmark_content_sha256`; `none` is an exception of `_canonical_csv_sha256`. -/
def benchmarkContentSha256 {D : Type} (hash : Bytes → D) (files : List SourceCsv) : Prepared (Option D) := do
  let normalized ← normalizedFiles library spec [] files
  .ok (canonicalCsvSha256 hash normalized)

/-! ## The dataset -/

/-- `ensure_ascii=False, sort_keys=True, separators=(",", ":")`. -/
def recordStyle : JsonStyle := ⟨py ",", py ":", none, true, true⟩

/-- `_jsonl_bytes`; `none` is an exception of `json.dumps` or of `encode`. -/
def jsonlBytes (records : List Json) : Option Bytes := do
  let lines ← records.mapM (dumps recordStyle 0)
  PyStr.encode ((py "\n").intercalate lines ++ py "\n")

end

end OpenLLMOps.Benchmarks
