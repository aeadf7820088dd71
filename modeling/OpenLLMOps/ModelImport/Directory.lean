import Mathlib.Data.List.AList
import OpenLLMOps.ModelImport.Files

/-!
# Directories

What is below a directory: files, directories, symbolic links and special files by their
paths. `walk` lists it as `os.walk` does, `create` and `append` write a file.
-/

namespace OpenLLMOps

open Framework

/-- The path of a file below a directory. -/
structure FilePath where
  parts : RelativePath
  parts_ne : parts ≠ []
  names : ∀ part ∈ parts, part ≠ [] ∧ 47 ∉ part
  deriving DecidableEq

inductive DirectoryEntry
  | file (content : Bytes)
  | directory
  | symlink
  /-- A device, a FIFO or a socket. -/
  | special
  deriving DecidableEq

/-- What is below a directory. -/
abbrev FileTree := AList fun _ : FilePath => DirectoryEntry

namespace FilePath

/-- A file at the top level. -/
def top (name : PyStr) (h : name ≠ [] ∧ 47 ∉ name) : FilePath where
  parts := [name]
  parts_ne := List.cons_ne_nil _ _
  names := fun part hpart => by rwa [List.mem_singleton.mp hpart]

/-- The directories above a file. -/
def parents (p : FilePath) : List FilePath :=
  (List.range (p.parts.length - 1)).map fun i =>
    { parts := p.parts.take (i + 1)
      parts_ne := fun h => p.parts_ne (List.take_eq_nil_iff.mp h |>.resolve_left (Nat.succ_ne_zero i))
      names := fun part hpart => p.names part (List.mem_of_mem_take hpart) }

theorem posix_injective {p q : FilePath} (h : p.parts.posix = q.parts.posix) : p = q := by
  have hp : (p.parts.posix).splitOn 47 = p.parts :=
    List.splitOn_intercalate 47 (fun part hpart => (p.names part hpart).2) p.parts_ne
  have hq : (q.parts.posix).splitOn 47 = q.parts :=
    List.splitOn_intercalate 47 (fun part hpart => (q.names part hpart).2) q.parts_ne
  have hparts : p.parts = q.parts := by rw [← hp, h, hq]
  cases p
  cases q
  cases hparts
  rfl

end FilePath

namespace FileTree

/-- `os.walk` reaches an entry: it passes over the directories that it cannot list. -/
def reached (unreadable : RelativePath → Bool) (p : FilePath) : Bool :=
  (List.range p.parts.length).all fun i => !unreadable (p.parts.take i)

/-- The entries that `os.walk` reaches. -/
def walk (unreadable : RelativePath → Bool) (d : FileTree) : List (FilePath × DirectoryEntry) :=
  (d.entries.map fun e => (e.1, e.2)).filter fun e => reached unreadable e.1

/-- The regular files among them. -/
def walkFiles (unreadable : RelativePath → Bool) (d : FileTree) : List (FilePath × Bytes) :=
  (d.walk unreadable).filterMap fun e =>
    match e.2 with
    | .file content => some (e.1, content)
    | _ => none

/-- A file is created, and the directories above it. -/
def create (d : FileTree) (p : FilePath) : FileTree :=
  (p.parents.foldl (fun d q => if (d.lookup q).isSome then d else d.insert q .directory) d).insert p (.file [])

/-- Bytes are written to a file. -/
def append (d : FileTree) (p : FilePath) (bytes : Bytes) : FileTree :=
  match d.lookup p with
  | some (.file content) => d.insert p (.file (content ++ bytes))
  | _ => d

section Walk

variable {unreadable : RelativePath → Bool} {d : FileTree}

theorem mem_walk {p : FilePath} {entry : DirectoryEntry} :
    (p, entry) ∈ d.walk unreadable ↔
      d.lookup p = some entry ∧ reached unreadable p = true := by
  rw [walk, List.mem_filter, List.mem_map]
  constructor
  · rintro ⟨⟨e, he, hpair⟩, hreached⟩
    cases hpair
    exact ⟨AList.mem_lookup_iff.mpr he, hreached⟩
  · rintro ⟨hlookup, hreached⟩
    exact ⟨⟨⟨p, entry⟩, AList.mem_lookup_iff.mp hlookup, rfl⟩, hreached⟩

theorem mem_walkFiles {p : FilePath} {content : Bytes} :
    (p, content) ∈ d.walkFiles unreadable ↔
      d.lookup p = some (.file content) ∧ reached unreadable p = true := by
  rw [walkFiles, List.mem_filterMap, ← mem_walk]
  constructor
  · rintro ⟨⟨q, entry⟩, hmem, h⟩
    simp only at h
    split at h <;> cases h
    exact hmem
  · exact fun h => ⟨_, h, rfl⟩

end Walk

/-! ## Files -/

/-- Something else than a directory is at the path. -/
def Occupied (d : FileTree) (p : FilePath) : Prop := ∃ entry, d.lookup p = some entry ∧ entry ≠ .directory

theorem occupied_insert_file {d : FileTree} {p q : FilePath} {content : Bytes} :
    Occupied (AList.insert p (.file content) d) q ↔ Occupied d q ∨ q = p := by
  unfold Occupied
  by_cases hq : q = p
  · subst hq
    simp
  · simp [hq, AList.lookup_insert_ne hq]

theorem occupied_insert_directory {d : FileTree} {p q : FilePath} (hp : d.lookup p = none) :
    Occupied (AList.insert p .directory d) q ↔ Occupied d q := by
  unfold Occupied
  by_cases hq : q = p
  · subst hq
    simp [hp]
  · simp [AList.lookup_insert_ne hq]

theorem occupied_create {d : FileTree} {p q : FilePath} :
    Occupied (d.create p) q ↔ Occupied d q ∨ q = p := by
  rw [create, occupied_insert_file]
  refine or_congr_left ?_
  induction p.parents generalizing d with
  | nil => exact Iff.rfl
  | cons parent parents ih =>
    rw [List.foldl_cons, ih]
    split
    · exact Iff.rfl
    · rename_i hparent
      exact occupied_insert_directory (Option.not_isSome_iff_eq_none.mp hparent)

theorem occupied_append {d : FileTree} {p q : FilePath} {bytes : Bytes} :
    Occupied (d.append p bytes) q ↔ Occupied d q := by
  unfold append
  split
  · rename_i content hlookup
    rw [occupied_insert_file]
    refine ⟨fun h => h.elim id fun hq => ?_, .inl⟩
    rw [hq]
    exact ⟨.file content, hlookup, by simp⟩
  · exact Iff.rfl

/-- The entries by the parts of their paths. -/
def listing (d : FileTree) : List (RelativePath × DirectoryEntry) := d.entries.map fun e => (e.1.parts, e.2)

end FileTree

/-! ## Absolute paths -/

/-- `str` of the path with root `/` and these parts. -/
def RelativePath.absolute (p : RelativePath) : PyStr := 47 :: p.posix

/-- The parts of `Path(s)` if its root is `/`: neither two slashes begin it nor none. -/
def pathParts? (s : PyStr) : Option RelativePath :=
  if s[0]? = some 47 ∧ (s[1]? = some 47 → s[2]? = some 47) then
    some ((s.splitOn 47).filter fun part => part ≠ [] ∧ part ≠ py ".")
  else none

/-- The parts are those of a path. -/
def RelativePath.Proper (p : RelativePath) : Prop := ∀ part ∈ p, part ≠ [] ∧ 47 ∉ part ∧ part ≠ py "."

theorem pathParts?_absolute {p : RelativePath} (h : p.Proper) : pathParts? p.absolute = some p := by
  cases p with
  | nil => decide
  | cons part parts =>
    obtain ⟨hne, hslash, -⟩ := h part List.mem_cons_self
    obtain ⟨c, cs, rfl⟩ := List.exists_cons_of_ne_nil hne
    have habsolute : RelativePath.absolute ((c :: cs) :: parts) = (py "/").intercalate ([] :: (c :: cs) :: parts) := by
      simp [RelativePath.absolute, RelativePath.posix, List.intercalate, py]
    have hsplit : (RelativePath.absolute ((c :: cs) :: parts)).splitOn 47 = [] :: (c :: cs) :: parts := by
      rw [habsolute]
      refine List.splitOn_intercalate 47 (fun part hpart => ?_) (List.cons_ne_nil _ _)
      rcases List.mem_cons.mp hpart with rfl | hpart
      · exact List.not_mem_nil
      · exact (h part hpart).2.1
    have hsecond : (RelativePath.absolute ((c :: cs) :: parts))[1]? ≠ some 47 := by
      have hc : c ≠ 47 := fun hc => hslash (hc ▸ List.mem_cons_self)
      cases parts <;> simpa [RelativePath.absolute, RelativePath.posix, List.intercalate] using hc
    have hfilter : ([] :: (c :: cs) :: parts).filter (fun part => part ≠ [] ∧ part ≠ py ".") = (c :: cs) :: parts := by
      rw [List.filter_cons_of_neg (by simp), List.filter_eq_self]
      intro part hpart
      exact decide_eq_true ⟨(h part hpart).1, (h part hpart).2.2⟩
    rw [pathParts?, if_pos ⟨rfl, fun h => absurd h hsecond⟩, hsplit, hfilter]

/-- A `Path` with root `/`. -/
structure AbsolutePath where
  parts : RelativePath
  proper : parts.Proper

end OpenLLMOps
