import Mathlib.Data.List.ProdSigma
import OpenLLMOps.Evaluation.Prepared

/-!
# The manifest of a benchmark

What `prepare_builtin_benchmark` writes beside a dataset. Its texts are of code points and its numbers are small
(`convert_tallied`, `Manifest.Proper`), so that whoever decodes the file finds the digest and the number of the records
(`Manifest.Proper.tells`).
-/

namespace OpenLLMOps.Benchmarks

open Framework Effect Datasets Evaluation

/-! ## Counts -/

/-- Counts of distinct names, none of them above `total`. -/
structure Tallied (counts : List (PyStr × Nat)) (total : Nat) : Prop where
  distinct : (counts.map Prod.fst).Nodup
  unicode : ∀ count ∈ counts, IsUnicode count.1
  bounded : ∀ count ∈ counts, count.2 ≤ total

theorem Tallied.nil (total : Nat) : Tallied [] total :=
  ⟨List.nodup_nil, List.forall_mem_nil _, List.forall_mem_nil _⟩

theorem Tallied.addCount {counts : List (PyStr × Nat)} {total : Nat} (h : Tallied counts total) {key : PyStr}
    (hkey : IsUnicode key) (n : Nat) : Tallied (addCount counts key n) (total + n) := by
  have hold : (Dict.get? counts key).getD 0 ≤ total := by
    cases hget : Dict.get? counts key with
    | none => exact Nat.zero_le _
    | some m => exact h.bounded _ (Dict.mem_of_get? hget)
  refine ⟨Dict.nodup_set h.distinct _ _, fun count hcount => ?_, fun count hcount => ?_⟩
  · rcases Dict.mem_set hcount with hcount | rfl
    · exact h.unicode count hcount
    · exact hkey
  · rcases Dict.mem_set hcount with hcount | rfl
    · exact Nat.le_add_right_of_le (h.bounded count hcount)
    · exact Nat.add_le_add_right hold n

theorem Tallied.perm {counts counts' : List (PyStr × Nat)} {total : Nat} (h : Tallied counts total)
    (hperm : counts'.Perm counts) : Tallied counts' total :=
  ⟨(hperm.map _).nodup_iff.mpr h.distinct, fun count hcount => h.unicode count (hperm.mem_iff.mp hcount),
    fun count hcount => h.bounded count (hperm.mem_iff.mp hcount)⟩

theorem Tallied.sortedCounts {counts : List (PyStr × Nat)} {total : Nat} (h : Tallied counts total) :
    Tallied (sortedCounts counts) total :=
  h.perm (List.perm_insertionSort _ _)

section

variable {library : BenchmarkLibrary} {benchmark : Benchmark}

theorem convertSelected_tallied {selected : List Selected} (hsubjects : ∀ s ∈ selected, IsUnicode s.category)
    {c counted : Counted} (h : convertSelected library benchmark.spec c selected = .ok counted)
    (hsplits : Tallied c.splitCounts c.records.length) (hcategories : Tallied c.categoryCounts c.records.length) :
    Tallied counted.splitCounts counted.records.length ∧ Tallied counted.categoryCounts counted.records.length := by
  induction selected generalizing c with
  | nil =>
    obtain rfl := Except.ok.inj h
    exact ⟨hsplits, hcategories⟩
  | cons s selected ih =>
    obtain ⟨hs, hsubjects⟩ := List.forall_mem_cons.mp hsubjects
    obtain ⟨records, -, h⟩ := bind_eq_ok.mp h
    refine ih hsubjects h ?_ ?_
    · rw [Counted.add, List.length_append]
      exact hsplits.addCount (graphic_unicode s.split.text_graphic) _
    · rw [Counted.add, List.length_append]
      exact hcategories.addCount hs _

theorem mem_order (split : Split) : split ∈ Split.order := by cases split <;> decide

theorem length_subjects : benchmark.spec.subjects.length ≤ 100 := by cases benchmark <;> decide

/-- Files of different splits or subjects are few. -/
theorem length_identities {identities : List (Split × PyStr)} (hn : identities.Nodup)
    (hsubjects : ∀ i ∈ identities, i.2 ∈ benchmark.spec.subjects) : identities.length ≤ 300 := by
  have hsub : identities ⊆ Split.order ×ˢ benchmark.spec.subjects := fun i hi =>
    List.mem_product.mpr ⟨mem_order _, hsubjects i hi⟩
  have hle := (List.subperm_of_subset hn hsub).length_le
  have hfew := @length_subjects benchmark
  have horder : Split.order.length = 3 := rfl
  rw [List.length_product, horder] at hle
  omega

/-- Questions with different ids are not too many for a numeral. -/
theorem length_questions {questions : List Question} (hn : (questions.map (Question.id benchmark.spec)).Nodup)
    (hproper : ∀ q ∈ questions, q.Proper benchmark.spec ∧ q.number ≤ maxCsvFileBytes) :
    questions.length < 10 ^ 20 := by
  let place (q : Question) : Split × PyStr × Nat := (q.split, q.subject, q.number)
  have hplaces : (questions.map place).Nodup := by
    refine List.Nodup.of_map (fun p => recordId benchmark.spec p.1 p.2.1 p.2.2) ?_
    rw [List.map_map]
    exact hn
  have hsub : questions.map place ⊆
      Split.order ×ˢ (benchmark.spec.subjects ×ˢ List.range (maxCsvFileBytes + 1)) := by
    intro p hp
    obtain ⟨q, hq, rfl⟩ := List.mem_map.mp hp
    obtain ⟨hproper, hnumber⟩ := hproper q hq
    exact List.mem_product.mpr ⟨mem_order _, List.mem_product.mpr ⟨hproper.subject, List.mem_range.mpr (by
      show q.number < maxCsvFileBytes + 1
      omega)⟩⟩
  have hle := (List.subperm_of_subset hplaces hsub).length_le
  have hfew := @length_subjects benchmark
  have horder : Split.order.length = 3 := rfl
  have hlimit : maxCsvFileBytes + 1 ≤ 10 ^ 8 := by decide
  rw [List.length_map, List.length_product, List.length_product, List.length_range, horder] at hle
  calc questions.length ≤ 3 * (benchmark.spec.subjects.length * (maxCsvFileBytes + 1)) := hle
    _ ≤ 3 * (100 * 10 ^ 8) := Nat.mul_le_mul_left _ (Nat.mul_le_mul hfew hlimit)
    _ < 10 ^ 20 := by decide

/-- The counts of a conversion are those of its records. -/
theorem convert_tallied {files : List SourceCsv} (hsize : ∀ source ∈ files, source.content.length ≤ maxCsvFileBytes)
    {splits : List Split} {allowPartial : Bool} {c : Converted}
    (h : convert library benchmark.spec files splits allowPartial = .ok c) :
    Tallied c.splitCounts c.records.length ∧ Tallied c.categoryCounts c.records.length ∧
      c.records.length < 10 ^ 20 ∧ c.sourceFileCount ≤ 300 := by
  obtain ⟨questions, -, hrecords, hids, hproper⟩ := convert_questions hsize h
  have hlength : c.records.length < 10 ^ 20 := by
    rw [hrecords, List.length_map]
    exact length_questions hids hproper
  obtain ⟨selected, counted, hselected, -, -, hsubjects, -, hcounted, rfl⟩ := convert_eq_ok.mp h
  obtain ⟨-, -, -, hnodup⟩ := selectFiles_chosen hselected List.nodup_nil
  have hunicode : ∀ s ∈ selected.insertionSort fun a b => a.key ≤ b.key, IsUnicode s.category := by
    intro s hs
    have hs := (List.perm_insertionSort _ selected).mem_iff.mp hs
    exact graphic_unicode (subject_graphic (hsubjects _ (List.mem_map_of_mem hs)))
  obtain ⟨hsplitCounts, hcategoryCounts⟩ := convertSelected_tallied hunicode hcounted (.nil _) (.nil _)
  have hfiles := length_identities hnodup hsubjects
  rw [List.length_map] at hfiles
  exact ⟨hsplitCounts.sortedCounts, hcategoryCounts.sortedCounts, hlength, hfiles⟩

end

/-! ## The manifest -/

inductive SourceMode
  | online
  | offline
  deriving DecidableEq

def SourceMode.text : SourceMode → PyStr
  | online => py "online"
  | offline => py "offline"

/-- What the manifest tells, but for what is the same in every one. -/
structure Manifest where
  benchmark : Benchmark
  allowPartial : Bool
  isPartial : Bool
  sourceFileCount : Nat
  splits : List Split
  acceptedLicense : Bool
  categoryCounts : List (PyStr × Nat)
  recordCount : Nat
  jsonlSha256 : PyStr
  splitCounts : List (PyStr × Nat)
  contentSha256 : PyStr
  inputName : PyStr
  mode : SourceMode
  revision : PyStr
  revisionVerified : Bool
  sourceSha256 : PyStr
  sha256Scope : PyStr

/-- `LICENSE_ID`. -/
def licenseId : PyStr := py "CC-BY-NC-SA-4.0"

def countsJson (counts : List (PyStr × Nat)) : Json := .obj (counts.map fun count => (count.1, .int count.2))

namespace Manifest

variable (m : Manifest)

/-- `manifest["conversion"]`. -/
def conversion : List (PyStr × Json) :=
  [(py "allow_partial", .bool m.allowPartial), (py "format", .str (py "openllmops-eval-jsonl-v1")),
    (py "partial", .bool m.isPartial), (py "source_file_count", .int m.sourceFileCount),
    (py "splits", .arr (m.splits.map fun split => .str split.text))]

/-- `manifest["dataset_license"]`. -/
def datasetLicense : List (PyStr × Json) :=
  [(py "accepted_noncommercial_by_cli", .bool m.acceptedLicense), (py "id", .str licenseId),
    (py "url", .str m.benchmark.spec.licenseUrl)]

/-- `manifest["output"]`. -/
def output : List (PyStr × Json) :=
  [(py "category_counts", countsJson m.categoryCounts), (py "path", .str (m.benchmark.text ++ py ".jsonl")),
    (py "record_count", .int m.recordCount), (py "sha256", .str m.jsonlSha256),
    (py "split_counts", countsJson m.splitCounts)]

/-- `manifest["source"]`. -/
def source : List (PyStr × Json) :=
  [(py "content_sha256", .str m.contentSha256), (py "input_name", .str m.inputName), (py "mode", .str m.mode.text),
    (py "repository", .str m.benchmark.spec.repositoryUrl), (py "revision", .str m.revision),
    (py "revision_verified", .bool m.revisionVerified), (py "sha256", .str m.sourceSha256),
    (py "sha256_scope", .str m.sha256Scope),
    (py "url", if m.mode = .online then .str m.benchmark.spec.downloadUrl else .null)]

/-- `manifest`. -/
def fields : List (PyStr × Json) :=
  [(py "benchmark", .str m.benchmark.text), (py "conversion", .obj m.conversion),
    (py "dataset_license", .obj m.datasetLicense), (py "output", .obj m.output), (py "schema_version", .int 1),
    (py "source", .obj m.source)]

/-- `ensure_ascii=False, indent=2, sort_keys=True`. -/
def style : JsonStyle := ⟨py ",", py ": ", some 2, true, true⟩

/-- The bytes of the manifest. -/
def bytes : Option Bytes := do
  let text ← dumps style 0 (.obj m.fields)
  PyStr.encode (text ++ py "\n")

/-- A manifest whose texts are of code points and whose counts are those of its records. -/
structure Proper : Prop where
  jsonlSha256 : IsUnicode m.jsonlSha256
  contentSha256 : IsUnicode m.contentSha256
  inputName : IsUnicode m.inputName
  revision : IsUnicode m.revision
  sourceSha256 : IsUnicode m.sourceSha256
  sha256Scope : IsUnicode m.sha256Scope
  sourceFileCount : m.sourceFileCount ≤ 300
  recordCount : m.recordCount < 10 ^ 20
  categoryCounts : Tallied m.categoryCounts m.recordCount
  splitCounts : Tallied m.splitCounts m.recordCount

end Manifest

/-! ## It is read back -/

/-- What a manifest says of its dataset, to whoever decodes it. -/
def Tells (float : PyStr → PyFloat) (manifest : Bytes) (sha256 : PyStr) (recordCount : Nat) : Prop :=
  ∃ fields output, loads (.plain float) manifest = .ok (.obj fields) ∧
    Json.get? fields (py "output") = some (.obj output) ∧ Json.get? output (py "sha256") = some (.str sha256) ∧
    Json.get? output (py "record_count") = some (.int recordCount)

section

variable {h : JsonDecoder}

theorem leaf_graphic {key s : PyStr} (hkey : key.all (fun c => 32 < c && c < 127) = true)
    (hs : s.all (fun c => 32 < c && c < 127) = true) : Leaf h (key, .str s) :=
  leaf_str hkey (graphic_unicode (chars_graphic hs))

theorem leaf_bool {key : PyStr} (hkey : key.all (fun c => 32 < c && c < 127) = true) (b : Bool) :
    Leaf h (key, .bool b) :=
  ⟨graphic_unicode (chars_graphic hkey), trivial, trivial⟩

theorem leaf_nat {key : PyStr} (hkey : IsUnicode key) {n : Nat} (hn : n < 10 ^ 20) : Leaf h (key, .int n) := by
  refine ⟨hkey, ?_, trivial⟩
  show (decimal n).length ≤ 4300
  have hlength : (decimal n).length ≤ 20 := length_decimal_le hn
  omega

theorem leaf_counts {key : PyStr} (hkey : key.all (fun c => 32 < c && c < 127) = true) {counts : List (PyStr × Nat)}
    {total : Nat} (hcounts : Tallied counts total) (htotal : total < 10 ^ 20) : Leaf h (key, countsJson counts) := by
  refine leaf_obj hkey ?_ fun kv hkv => ?_
  · rw [List.map_map]
    exact hcounts.distinct
  · obtain ⟨count, hcount, rfl⟩ := List.mem_map.mp hkv
    exact leaf_nat (hcounts.unicode count hcount) (Nat.lt_of_le_of_lt (hcounts.bounded count hcount) htotal)

theorem leaf_splits {key : PyStr} (hkey : key.all (fun c => 32 < c && c < 127) = true) (splits : List Split) :
    Leaf h (key, .arr (splits.map fun split => .str split.text)) := by
  refine ⟨graphic_unicode (chars_graphic hkey), ?_, ?_⟩
  · show Json.readableItems h _
    induction splits with
    | nil => trivial
    | cons split splits ih => exact ⟨trivial, ih⟩
  · show Json.eachItem IsUnicode _
    induction splits with
    | nil => trivial
    | cons split splits ih => exact ⟨graphic_unicode split.text_graphic, ih⟩

variable {m : Manifest}

theorem Manifest.conversion_leaf (hm : m.Proper) : ∀ kv ∈ m.conversion, Leaf h kv := by
  have hfiles : m.sourceFileCount < 10 ^ 20 := Nat.lt_of_le_of_lt hm.sourceFileCount (by decide)
  refine List.forall_mem_cons.mpr ⟨leaf_bool (by decide) _, List.forall_mem_cons.mpr ⟨leaf_graphic (by decide)
    (by decide), List.forall_mem_cons.mpr ⟨leaf_bool (by decide) _, List.forall_mem_cons.mpr ⟨?_, ?_⟩⟩⟩⟩
  · exact leaf_nat (graphic_unicode (chars_graphic (by decide))) hfiles
  · exact List.forall_mem_singleton.mpr (leaf_splits (by decide) _)

theorem Manifest.datasetLicense_leaf : ∀ kv ∈ m.datasetLicense, Leaf h kv := by
  have hurl : m.benchmark.spec.licenseUrl.all (fun c => 32 < c && c < 127) = true := by
    cases m.benchmark <;> decide +kernel
  exact List.forall_mem_cons.mpr ⟨leaf_bool (by decide) _, List.forall_mem_cons.mpr ⟨leaf_graphic (by decide)
    (by decide), List.forall_mem_singleton.mpr (leaf_graphic (by decide) hurl)⟩⟩

theorem Manifest.output_leaf (hm : m.Proper) : ∀ kv ∈ m.output, Leaf h kv := by
  have hpath : (m.benchmark.text ++ py ".jsonl").all (fun c => 32 < c && c < 127) = true := by
    cases m.benchmark <;> decide
  refine List.forall_mem_cons.mpr ⟨leaf_counts (by decide) hm.categoryCounts hm.recordCount,
    List.forall_mem_cons.mpr ⟨leaf_graphic (by decide) hpath, List.forall_mem_cons.mpr ⟨?_, ?_⟩⟩⟩
  · exact leaf_nat (graphic_unicode (chars_graphic (by decide))) hm.recordCount
  · exact List.forall_mem_cons.mpr ⟨leaf_str (by decide) hm.jsonlSha256,
      List.forall_mem_singleton.mpr (leaf_counts (by decide) hm.splitCounts hm.recordCount)⟩

theorem Manifest.source_leaf (hm : m.Proper) : ∀ kv ∈ m.source, Leaf h kv := by
  have hmode : m.mode.text.all (fun c => 32 < c && c < 127) = true := by cases m.mode <;> decide
  have hrepository : m.benchmark.spec.repositoryUrl.all (fun c => 32 < c && c < 127) = true := by
    cases m.benchmark <;> decide +kernel
  have hdownload : m.benchmark.spec.downloadUrl.all (fun c => 32 < c && c < 127) = true := by
    cases m.benchmark <;> decide +kernel
  have hurl : Leaf h (py "url", if m.mode = .online then .str m.benchmark.spec.downloadUrl else .null) := by
    split
    · exact leaf_graphic (by decide) hdownload
    · exact ⟨graphic_unicode (chars_graphic (by decide)), trivial, trivial⟩
  refine List.forall_mem_cons.mpr ⟨leaf_str (by decide) hm.contentSha256,
    List.forall_mem_cons.mpr ⟨leaf_str (by decide) hm.inputName,
    List.forall_mem_cons.mpr ⟨leaf_graphic (by decide) hmode,
    List.forall_mem_cons.mpr ⟨leaf_graphic (by decide) hrepository, ?_⟩⟩⟩⟩
  exact List.forall_mem_cons.mpr ⟨leaf_str (by decide) hm.revision,
    List.forall_mem_cons.mpr ⟨leaf_bool (by decide) _,
    List.forall_mem_cons.mpr ⟨leaf_str (by decide) hm.sourceSha256,
    List.forall_mem_cons.mpr ⟨leaf_str (by decide) hm.sha256Scope, List.forall_mem_singleton.mpr hurl⟩⟩⟩⟩

theorem Manifest.keys_output : (m.output.map Prod.fst).Nodup := by
  show [py "category_counts", py "path", py "record_count", py "sha256", py "split_counts"].Nodup
  decide

theorem Manifest.keys_fields : (m.fields.map Prod.fst).Nodup := by
  show [py "benchmark", py "conversion", py "dataset_license", py "output", py "schema_version", py "source"].Nodup
  decide

theorem Manifest.fields_leaf (hm : m.Proper) : ∀ kv ∈ m.fields, Leaf h kv := by
  have hconversion : (m.conversion.map Prod.fst).Nodup := by
    show [py "allow_partial", py "format", py "partial", py "source_file_count", py "splits"].Nodup
    decide
  have hlicense : (m.datasetLicense.map Prod.fst).Nodup := by
    show [py "accepted_noncommercial_by_cli", py "id", py "url"].Nodup
    decide
  have hsource : (m.source.map Prod.fst).Nodup := by
    show [py "content_sha256", py "input_name", py "mode", py "repository", py "revision", py "revision_verified",
      py "sha256", py "sha256_scope", py "url"].Nodup
    decide
  refine List.forall_mem_cons.mpr ⟨leaf_str (by decide) (graphic_unicode (Benchmark.text_graphic _)),
    List.forall_mem_cons.mpr ⟨leaf_obj (by decide) hconversion (conversion_leaf hm),
    List.forall_mem_cons.mpr ⟨leaf_obj (by decide) hlicense datasetLicense_leaf,
    List.forall_mem_cons.mpr ⟨leaf_obj (by decide) keys_output (output_leaf hm), ?_⟩⟩⟩⟩
  have hversion : Leaf h (py "schema_version", .int (1 : Nat)) :=
    leaf_nat (graphic_unicode (chars_graphic (by decide))) (by decide)
  exact List.forall_mem_cons.mpr ⟨hversion,
    List.forall_mem_singleton.mpr (leaf_obj (by decide) hsource (source_leaf hm))⟩

theorem Manifest.style_spaced : style.Spaced := by
  refine ⟨⟨[], rfl, List.forall_mem_nil _⟩, ⟨[32], rfl, ?_⟩⟩
  exact List.forall_mem_singleton.mpr rfl

/-- Whoever decodes a manifest finds the digest and the number of the records. -/
theorem Manifest.Proper.tells (hm : m.Proper) {manifest : Bytes} (hbytes : m.bytes = some manifest)
    (float : PyStr → PyFloat) : Tells float manifest m.jsonlSha256 m.recordCount := by
  obtain ⟨text, htext, hencode⟩ := bind_eq_some.mp hbytes
  have hobj : Leaf (.plain float) ([], .obj m.fields) := leaf_obj rfl keys_fields (fields_leaf hm)
  have hspace : Spaces (py "\n") := List.forall_mem_singleton.mpr rfl
  have hloads := loads_dumps style_spaced (JsonDecoder.plain_keepsDistinct float) hobj.2.1 hobj.2.2 htext hspace hencode
  refine ⟨Json.sortedFields style m.fields, Json.sortedFields style m.output, hloads, ?_, ?_, ?_⟩
  · rw [Json.get?_sortedFields keys_fields]
    rfl
  · rw [Json.get?_sortedFields keys_output]
    rfl
  · rw [Json.get?_sortedFields keys_output]
    rfl

end

end OpenLLMOps.Benchmarks
