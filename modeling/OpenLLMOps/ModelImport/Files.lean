import Mathlib.Algebra.GroupWithZero.Nat
import Mathlib.Data.List.Dedup
import Mathlib.Data.List.Sort
import OpenLLMOps.Framework.Dict
import OpenLLMOps.Framework.Except
import OpenLLMOps.Framework.Json.Loads

/-!
# Model files

What the two validators of a model directory look at: the regular files by their paths below
the directory, the names of shards, and the header of a safetensors file. The importer checks a
directory before it enters the store (`Validation.lean`), the control plane checks it before a
training (`Deployable.lean`).
-/

namespace OpenLLMOps

open Framework

/-- A path below a directory: its parts. -/
abbrev RelativePath := List PyStr

/-- The regular files of a directory. -/
abbrev ModelFiles := List (RelativePath × Bytes)

namespace RelativePath

/-- `as_posix()`. -/
def posix (p : RelativePath) : PyStr := (py "/").intercalate p

/-- `name`. -/
def name (p : RelativePath) : PyStr := p.getLastD []

/-- `suffix`: from the last dot on, unless the name starts or ends with it. -/
def suffix (p : RelativePath) : PyStr :=
  let last := (p.name.reverse.takeWhile (· ≠ 46)).reverse
  if last.length + 1 < p.name.length ∧ last ≠ [] then 46 :: last else []

theorem posix_singleton (s : PyStr) : posix [s] = s := by
  simp [posix, List.intercalate]

theorem mem_posix {p : RelativePath} {c : Nat} (h : c ∈ p.posix) : c = 47 ∨ ∃ part ∈ p, c ∈ part := by
  induction p with
  | nil => cases h
  | cons part p ih =>
    by_cases hp : p = []
    · subst hp
      rw [posix_singleton] at h
      exact .inr ⟨part, List.mem_cons_self, h⟩
    · rw [posix, List.intercalate_cons_of_ne_nil hp, List.mem_append, List.mem_append] at h
      rcases h with (h | h) | h
      · exact .inr ⟨part, List.mem_cons_self, h⟩
      · exact .inl (List.mem_singleton.mp h)
      · exact (ih h).imp_right List.exists_mem_cons_of_exists

end RelativePath

/-! ## Letter case -/

/-- `lower()` of a character, as far as it is ASCII: no other character becomes one that is. -/
def lowerChar (c : Nat) : PyStr :=
  if c < 128 then [PyStr.asciiLower c]
  else if c = 0x212A then py "k"
  else if c = 0x130 then [105, 0x307]
  else [c]

/-- `casefold()` of a character, as far as it is ASCII. -/
def casefoldChar (c : Nat) : PyStr :=
  if c < 128 then [PyStr.asciiLower c]
  else if c = 0x212A then py "k"
  else if c = 0x17F then py "s"
  else if c = 0xDF ∨ c = 0x1E9E then py "ss"
  else if c = 0xFB00 then py "ff"
  else if c = 0xFB01 then py "fi"
  else if c = 0xFB02 then py "fl"
  else if c = 0xFB03 then py "ffi"
  else if c = 0xFB04 then py "ffl"
  else if c = 0xFB05 ∨ c = 0xFB06 then py "st"
  else if c = 0x130 then [105, 0x307]
  else if c = 0x149 then [0x2BC, 110]
  else if c = 0x1F0 then [106, 0x30C]
  else if c = 0x1E96 then [104, 0x331]
  else if c = 0x1E97 then [116, 0x308]
  else if c = 0x1E98 then [119, 0x30A]
  else if c = 0x1E99 then [121, 0x30A]
  else if c = 0x1E9A then [97, 0x2BE]
  else [c]

/-- `s.lower()`, to be compared with ASCII texts. -/
def lowerText (s : PyStr) : PyStr := s.flatMap lowerChar

/-- `s.casefold()`, to be compared with ASCII texts. -/
def casefoldText (s : PyStr) : PyStr := s.flatMap casefoldChar

def isAscii (s : PyStr) : Bool := s.all (· < 128)

theorem casefoldChar_of_lowerChar {c : Nat} (h : isAscii (lowerChar c) = true) : casefoldChar c = lowerChar c := by
  unfold lowerChar at h ⊢
  unfold casefoldChar
  by_cases hc : c < 128
  · simp only [if_pos hc]
  by_cases hk : c = 0x212A
  · subst hk
    rfl
  by_cases hi : c = 0x130
  · subst hi
    exact absurd h (by decide)
  · simp only [if_neg hc, if_neg hk, if_neg hi, isAscii, List.all_cons, decide_eq_false hc] at h
    cases h

/-- What is lowered to an ASCII text is folded to it. -/
theorem casefoldText_of_lowerText {s : PyStr} (h : isAscii (lowerText s) = true) : casefoldText s = lowerText s := by
  induction s with
  | nil => rfl
  | cons c s ih =>
    have hparts : isAscii (lowerChar c) = true ∧ isAscii (lowerText s) = true := by
      simpa [lowerText, isAscii, List.all_append] using h
    show casefoldChar c ++ casefoldText s = lowerChar c ++ lowerText s
    rw [casefoldChar_of_lowerChar hparts.1, ih hparts.2]

/-- A suffix that is its own case folding is a suffix of the folded text. -/
theorem casefoldText_suffix {s t : PyStr} (h : t <:+ s) (ht : casefoldText t = t) : t <:+ casefoldText s := by
  obtain ⟨r, rfl⟩ := h
  refine ⟨casefoldText r, ?_⟩
  simp only [casefoldText, List.flatMap_append] at ht ⊢
  rw [ht]

/-! ## Shards -/

/-- The text behind a prefix. -/
def dropPrefix? (start s : PyStr) : Option PyStr := if start.isPrefixOf s then some (s.drop start.length) else none

theorem dropPrefix?_spec {start s rest : PyStr} (h : dropPrefix? start s = some rest) : s = start ++ rest := by
  unfold dropPrefix? at h
  split at h <;> cases h
  rename_i hp
  obtain ⟨t, rfl⟩ := List.isPrefixOf_iff_prefix.mp hp
  rw [List.drop_left]

/-- Digits at the start of a text, at least one, and what is behind. -/
def digits? (s : PyStr) : Option (PyStr × PyStr) :=
  if s.takeWhile isDigit = [] then none else some (s.takeWhile isDigit, s.dropWhile isDigit)

/-- The groups of a full match of `model-([0-9]+)-of-([0-9]+)\.safetensors`. -/
def shardName? (s : PyStr) : Option (PyStr × PyStr) := do
  let s ← dropPrefix? (py "model-") s
  let (ordinal, s) ← digits? s
  let s ← dropPrefix? (py "-of-") s
  let (total, s) ← digits? s
  if s = py ".safetensors" then pure (ordinal, total) else none

/-! ## Errors -/

/-- How a check fails. -/
inductive ModelFileError
  /-- The error of the validator, and the names that the text ends with. -/
  | refused (text : PyStr) (names : List PyStr)
  /-- A `ValueError` that no handler turns into one. -/
  | valueError
  /-- A `TypeError`. -/
  | typeError
  deriving DecidableEq

abbrev FileCheck (α : Type) : Type := Except ModelFileError α

/-- An error without names. -/
def refuse {α : Type} (text : PyStr) : FileCheck α := .error (.refused text [])

/-- `sorted` of texts. -/
def sortTexts (names : List PyStr) : List PyStr := names.insertionSort fun a b => decide (a ≤ b)

/-! ## Metadata -/

/-- The truth value of a decoded value. -/
def Json.truthy : Json → Bool
  | .null => false
  | .bool b => b
  | .int n => n ≠ 0
  | .float (.finite _ m _) => m ≠ 0
  | .float _ => true
  | .str s => s ≠ []
  | .arr xs => match xs with
    | [] => false
    | _ => true
  | .obj kvs => match kvs with
    | [] => false
    | _ => true

/-- `MAX_JSON_METADATA_BYTES`. -/
def maxJsonMetadataBytes : Nat := 16 * 1024 * 1024

/-- `MAX_SAFETENSORS_HEADER_BYTES`. -/
def maxSafetensorsHeaderBytes : Nat := 100 * 1024 * 1024

/-- `TOKENIZER_PAYLOADS`. -/
def tokenizerPayloads : List PyStr :=
  [py "tokenizer.json", py "tokenizer.model", py "sentencepiece.bpe.model", py "spiece.model", py "vocab.json"]

/-- `int.from_bytes(b, "little", signed=False)`. -/
def littleEndian (b : Bytes) : Nat := b.foldr (fun x n => n * 256 + x.toNat) 0

/-- The dimensions of a tensor: a list of natural numbers. -/
def shape? : Option Json → Option (List Nat)
  | some (.arr xs) => xs.mapM fun
    | .int (.ofNat n) => some n
    | _ => none
  | _ => none

/-- `data_offsets`: two integers in order, not above the size of the data. -/
def offsets? (dataSize : Nat) : Option Json → Option (Nat × Nat)
  | some (.arr [.int (.ofNat start), .int (.ofNat stop)]) =>
    if start ≤ stop ∧ stop ≤ dataSize then some (start, stop) else none
  | _ => none

/-- The files at the top level, by name. -/
def topLevelFiles (files : ModelFiles) : List (PyStr × Bytes) :=
  files.filterMap fun file =>
    match file.1 with
    | [name] => some (name, file.2)
    | _ => none

theorem mem_topLevelFiles {files : ModelFiles} {name : PyStr} {content : Bytes} :
    (name, content) ∈ topLevelFiles files ↔ ([name], content) ∈ files := by
  rw [topLevelFiles, List.mem_filterMap]
  constructor
  · rintro ⟨⟨path, bytes⟩, hmem, h⟩
    simp only at h
    split at h <;> cases h
    exact hmem
  · intro h
    exact ⟨_, h, rfl⟩

theorem nodup_topLevelFiles {files : ModelFiles} (h : (Dict.keys files).Nodup) :
    (Dict.keys (topLevelFiles files)).Nodup := by
  have hsub : ((Dict.keys (topLevelFiles files)).map fun name => [name]).Sublist (Dict.keys files) := by
    clear h
    induction files with
    | nil => exact List.Sublist.slnil
    | cons file files ih =>
      obtain ⟨path, content⟩ := file
      rcases path with _ | ⟨name, _ | ⟨part, path⟩⟩
      · exact ih.cons _
      · exact ih.cons_cons _
      · exact ih.cons _
  exact (hsub.nodup h).of_map _

end OpenLLMOps
