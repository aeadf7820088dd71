import OpenLLMOps.Framework.Lists
import OpenLLMOps.ModelImport.Directory
import OpenLLMOps.Training.Export

/-!
# The fingerprint of a tree

`_tree_content_fingerprint` hashes the paths and the contents of the files one after the
other, each with a null byte behind it. A path has no null byte, a content may have some:
two files can look like one. So the fingerprint identifies a tree if and only if it has
one file only, whose content does not name another one (`fingerprint_identifies_iff`).
-/

namespace OpenLLMOps.TrainingControl

open Framework

/-- What `_tree_content_fingerprint` hashes. -/
def fingerprintInput : ModelFiles → Option Bytes
  | [] => some []
  | (path, content) :: files => do
    let name ← path.posix.encode
    let rest ← fingerprintInput files
    some (name ++ 0 :: (content ++ 0 :: rest))

/-- `_tree_content_fingerprint`; `none` is a `UnicodeEncodeError`. -/
def treeContentFingerprint {D : Type} (hash : Bytes → D) (tree : ArtifactTree) : Option D :=
  (fingerprintInput (filesOf tree.nodes)).map hash

/-! ## Paths -/

section Paths

variable {p q : RelativePath}

theorem SafePath.posix_spec (h : SafePath p) : (p.posix).encodable = true ∧ IsUnicode p.posix ∧ 0 ∉ p.posix := by
  have hpart (part : PyStr) (hpart : part ∈ p) : part.encodable = true ∧ IsUnicode part ∧ 0 ∉ part := by
    obtain ⟨hsafe, -, hunicode⟩ := h.safe part hpart
    unfold safeComponent at hsafe
    simp only [refuse, ite_error_eq_ok, not_not, not_or, not_exists, not_and] at hsafe
    obtain ⟨hencodable, ⟨-, -, -, -, hcontrol⟩, -⟩ := hsafe
    exact ⟨hencodable, hunicode, fun h0 => (hcontrol 0 h0).1 (by decide)⟩
  refine ⟨List.all_eq_true.mpr fun c hc => ?_, fun c hc => ?_, fun hc => ?_⟩
  · rcases RelativePath.mem_posix hc with rfl | ⟨part, hmem, hc⟩
    · decide
    · exact List.all_eq_true.mp (hpart part hmem).1 c hc
  · rcases RelativePath.mem_posix hc with rfl | ⟨part, hmem, hc⟩
    · decide
    · exact (hpart part hmem).2.1 c hc
  · rcases RelativePath.mem_posix hc with hc | ⟨part, hmem, hc⟩
    · cases hc
    · exact (hpart part hmem).2.2 hc

/-- A path is encoded, without a null byte. -/
theorem SafePath.encode (h : SafePath p) : ∃ name, p.posix.encode = some name ∧ 0 ∉ name := by
  obtain ⟨hencodable, hunicode, hnull⟩ := h.posix_spec
  obtain ⟨name, hname⟩ := encode_of_encodable hencodable
  exact ⟨name, hname, fun h0 => hnull (ascii_of_encode (n := 0) (by decide) hunicode hname h0)⟩

/-- Its bytes are those of no other path. -/
theorem SafePath.eq_of_encode (hp : SafePath p) (hq : SafePath q) {name : Bytes} (h : p.posix.encode = some name)
    (h' : q.posix.encode = some name) : p = q := by
  have hposix : p.posix = q.posix :=
    Option.some.inj ((decodeUtf8_encode hp.posix_spec.2.1 h).symm.trans (decodeUtf8_encode hq.posix_spec.2.1 h'))
  have hproper {r : RelativePath} (hr : SafePath r) : ∀ part ∈ r, part ≠ [] ∧ 47 ∉ part := fun part hpart => by
    obtain ⟨hsafe, hslash, -⟩ := hr.safe part hpart
    refine ⟨?_, hslash⟩
    rintro rfl
    exact absurd hsafe (by decide)
  exact congrArg FilePath.parts (@FilePath.posix_injective ⟨p, hp.ne_nil, hproper hp⟩ ⟨q, hq.ne_nil, hproper hq⟩ hposix)

end Paths

/-! ## What is hashed -/

theorem fingerprintInput_cons {p : RelativePath} {content : Bytes} {files : ModelFiles} {input : Bytes} :
    fingerprintInput ((p, content) :: files) = some input ↔ ∃ name rest, p.posix.encode = some name ∧
      fingerprintInput files = some rest ∧ input = name ++ 0 :: (content ++ 0 :: rest) := by
  rw [fingerprintInput]
  simp only [Option.bind_eq_bind, Option.bind_eq_some_iff, Option.some.injEq, eq_comm (b := input)]
  constructor
  · rintro ⟨name, hname, rest, hrest, rfl⟩
    exact ⟨name, rest, hname, hrest, rfl⟩
  · rintro ⟨name, rest, hname, hrest, rfl⟩
    exact ⟨name, hname, rest, hrest, rfl⟩

theorem fingerprintInput_single {p : RelativePath} {name : Bytes} (h : p.posix.encode = some name) (content : Bytes) :
    fingerprintInput [(p, content)] = some (name ++ 0 :: (content ++ [0])) :=
  fingerprintInput_cons.mpr ⟨name, [], h, rfl, rfl⟩

/-- What is hashed begins with the path of the first file and ends with a null byte. -/
theorem fingerprintInput_ends {p : RelativePath} {content : Bytes} {files : ModelFiles} {input : Bytes}
    (h : fingerprintInput ((p, content) :: files) = some input) :
    ∃ name between, p.posix.encode = some name ∧ input = name ++ 0 :: between ++ [0] := by
  induction files generalizing p content input with
  | nil =>
    obtain ⟨name, rest, hname, hrest, rfl⟩ := fingerprintInput_cons.mp h
    obtain rfl := Option.some.inj hrest
    exact ⟨name, content, hname, by rw [List.append_assoc]; rfl⟩
  | cons file files ih =>
    obtain ⟨name, rest, hname, hrest, rfl⟩ := fingerprintInput_cons.mp h
    obtain ⟨name', between, -, rfl⟩ := ih hrest
    exact ⟨name, content ++ 0 :: (name' ++ 0 :: between), hname, by simp only [List.append_assoc, List.cons_append]⟩

/-- The files of a tree are hashed. -/
theorem fingerprintInput_isSome {files : ModelFiles} (h : ∀ file ∈ files, SafePath file.1) :
    ∃ input, fingerprintInput files = some input := by
  induction files with
  | nil => exact ⟨[], rfl⟩
  | cons file files ih =>
    obtain ⟨name, hname, -⟩ := (h file List.mem_cons_self).encode
    obtain ⟨rest, hrest⟩ := ih fun file' hfile' => h file' (List.mem_cons_of_mem _ hfile')
    exact ⟨_, fingerprintInput_cons.mpr ⟨name, rest, hname, hrest, rfl⟩⟩

/-! ## Trees with one or two files -/

namespace Forest

/-- A file below new directories, before the entries `rest`. -/
def place : RelativePath → Bytes → Forest → Forest
  | [], _, rest => rest
  | [name], content, rest => .file name content rest
  | name :: part :: path, content, rest => .directory name (place (part :: path) content .nil) rest

/-- Two files, the first before the second. -/
def pair : RelativePath → Bytes → RelativePath → Bytes → Forest
  | name :: path, content, name' :: path', content' =>
    if name = name' then .directory name (pair path content path' content') .nil
    else place (name :: path) content (place (name' :: path') content' .nil)
  | _, _, _, _ => .nil

section Place

variable {path : RelativePath} {content : Bytes} {rest : Forest}

theorem filesOf_place (hne : path ≠ []) (directory : RelativePath) :
    filesOf ((place path content rest).nodes directory) = (directory ++ path, content) :: filesOf (rest.nodes directory) := by
  induction path, content, rest using place.induct generalizing directory with
  | case1 => exact absurd rfl hne
  | case2 => rfl
  | case3 name part path content rest ih =>
    have h := ih (List.cons_ne_nil _ _) (directory ++ [name])
    rw [List.append_assoc] at h
    show filesOf (_ ++ rest.nodes directory) = _
    rw [filesOf_append, h]
    rfl

theorem names_place {name : PyStr} : (place (name :: path) content rest).names = name :: rest.names := by
  cases path <;> rfl

theorem ordered_place (hsafe : ∀ part ∈ path, SafeName part) (hrest : rest.Ordered)
    (hlt : ∀ name ∈ path.head?, ∀ n ∈ rest.names, name < n) : (place path content rest).Ordered := by
  induction path, content, rest using place.induct with
  | case1 => exact hrest
  | case2 name content rest => exact ⟨(hsafe name List.mem_cons_self).2, hlt name rfl, hrest⟩
  | case3 name part path content rest ih =>
    refine ⟨(hsafe name List.mem_cons_self).2, hlt name rfl, ih (fun n hn => hsafe n (List.mem_cons_of_mem _ hn)) trivial ?_, hrest⟩
    intro _ _ n hn
    exact (List.not_mem_nil hn).elim

theorem plain_place (hsafe : ∀ part ∈ path, SafeName part) {depth : Nat} (hdepth : depth + path.length ≤ maxTreeDepth + 1)
    (hrest : rest.Plain depth) : (place path content rest).Plain depth := by
  induction path, content, rest using place.induct generalizing depth with
  | case1 => exact hrest
  | case2 name content rest => exact ⟨(hsafe name List.mem_cons_self).1, hrest⟩
  | case3 name part path content rest ih =>
    rw [List.length_cons, List.length_cons] at hdepth
    refine ⟨(hsafe name List.mem_cons_self).1, by omega, ih (fun n hn => hsafe n (List.mem_cons_of_mem _ hn)) ?_ trivial, hrest⟩
    rw [List.length_cons]
    omega

end Place

section Pair

variable {p q : RelativePath} {content content' : Bytes}

/-- The paths of two files, the first before the second. -/
structure Apart (p q : RelativePath) : Prop where
  lt : p < q
  beside : ¬ p <+: q

/-- Two files are in different entries, or in one directory. -/
theorem Apart.cases (h : Apart p q) : ∃ n p' m q', p = n :: p' ∧ q = m :: q' ∧ (n < m ∨ n = m ∧ Apart p' q') := by
  obtain ⟨hlt, hbeside⟩ := h
  cases p with
  | nil => exact absurd List.nil_prefix hbeside
  | cons n p' =>
    cases q with
    | nil => exact absurd hlt (List.not_lt_nil _)
    | cons m q' =>
      refine ⟨n, p', m, q', rfl, rfl, (List.cons_lt_cons_iff.mp hlt).imp_right fun h => ⟨h.1, h.2, ?_⟩⟩
      rw [h.1, List.prefix_cons_inj] at hbeside
      exact hbeside

theorem pair_lt {n m : PyStr} {p' q' : RelativePath} (h : n < m) :
    pair (n :: p') content (m :: q') content' = place (n :: p') content (place (m :: q') content' .nil) :=
  if_neg (ne_of_lt h)

theorem pair_same (n : PyStr) (p' q' : RelativePath) :
    pair (n :: p') content (n :: q') content' = .directory n (pair p' content q' content') .nil :=
  if_pos rfl

theorem filesOf_pair (h : Apart p q) (directory : RelativePath) :
    filesOf ((pair p content q content').nodes directory) = [(directory ++ p, content), (directory ++ q, content')] := by
  induction p generalizing q directory with
  | nil => exact absurd List.nil_prefix h.beside
  | cons n p' ih =>
    obtain ⟨n, p', m, q', he, rfl, hcases⟩ := h.cases
    cases he
    rcases hcases with hlt | ⟨rfl, hapart⟩
    · rw [pair_lt hlt, filesOf_place (List.cons_ne_nil _ _), filesOf_place (List.cons_ne_nil _ _)]
      rfl
    · have hfiles := ih hapart (directory ++ [n])
      rw [List.append_assoc, List.append_assoc] at hfiles
      rw [pair_same]
      show filesOf (_ ++ []) = _
      rw [List.append_nil, hfiles]
      rfl

theorem ordered_pair (h : Apart p q) (hp : ∀ part ∈ p, SafeName part) (hq : ∀ part ∈ q, SafeName part) :
    (pair p content q content').Ordered := by
  induction p generalizing q with
  | nil => exact absurd List.nil_prefix h.beside
  | cons n p' ih =>
    obtain ⟨n, p', m, q', he, rfl, hcases⟩ := h.cases
    cases he
    rcases hcases with hlt | ⟨rfl, hapart⟩
    · have hsecond : (place (m :: q') content' .nil).Ordered := by
        refine ordered_place hq trivial fun _ _ n hn => ?_
        exact (List.not_mem_nil hn).elim
      rw [pair_lt hlt]
      refine ordered_place hp hsecond fun name hname n' hn' => ?_
      obtain rfl := Option.some.inj hname
      rw [names_place] at hn'
      obtain rfl := List.mem_singleton.mp hn'
      exact hlt
    · rw [pair_same]
      refine ⟨(hp n List.mem_cons_self).2, fun n' hn' => (List.not_mem_nil hn').elim, ?_, trivial⟩
      exact ih hapart (fun part hpart => hp part (List.mem_cons_of_mem _ hpart))
        fun part hpart => hq part (List.mem_cons_of_mem _ hpart)

theorem plain_pair (h : Apart p q) (hp : ∀ part ∈ p, SafeName part) (hq : ∀ part ∈ q, SafeName part) {depth : Nat}
    (hdepth : depth + p.length ≤ maxTreeDepth + 1) (hdepth' : depth + q.length ≤ maxTreeDepth + 1) :
    (pair p content q content').Plain depth := by
  induction p generalizing q depth with
  | nil => exact absurd List.nil_prefix h.beside
  | cons n p' ih =>
    obtain ⟨n, p', m, q', he, rfl, hcases⟩ := h.cases
    cases he
    rcases hcases with hlt | ⟨rfl, hapart⟩
    · rw [pair_lt hlt]
      exact plain_place hp hdepth (plain_place hq hdepth' trivial)
    · have hne : p' ≠ [] := by
        rintro rfl
        exact hapart.beside List.nil_prefix
      have hlen : 0 < p'.length := List.length_pos_iff.mpr hne
      rw [List.length_cons] at hdepth hdepth'
      rw [pair_same]
      refine ⟨(hp n List.mem_cons_self).1, by omega, ?_, trivial⟩
      exact ih hapart (fun part hpart => hp part (List.mem_cons_of_mem _ hpart))
        (fun part hpart => hq part (List.mem_cons_of_mem _ hpart)) (by omega) (by omega)

end Pair

/-- A directory that could be scanned is scanned with limits that are large enough. -/
theorem scanned {t : Forest} (hordered : t.Ordered) (hplain : t.Plain 0) (hne : filesOf (t.nodes []) ≠ []) :
    ∃ tree, Scanned tree ∧ filesOf tree.nodes = filesOf (t.nodes []) := by
  refine ⟨⟨.full, t.nodes [], (filesOf (t.nodes [])).length, totalBytes (t.nodes [])⟩, ⟨⟨?_, ?_⟩, .full, ⟨t, hordered⟩, ?_⟩, rfl⟩
  · exact (t.nodes []).length
  · exact totalBytes (t.nodes [])
  · exact scanTree_eq_ok.mpr ⟨⟨hplain, ⟨le_refl _, le_refl _⟩, hne⟩, rfl⟩

end Forest

theorem SafePath.scanned {p : RelativePath} (h : SafePath p) (content : Bytes) :
    ∃ tree, Scanned tree ∧ filesOf tree.nodes = [(p, content)] := by
  have hfiles : filesOf ((Forest.place p content .nil).nodes []) = [(p, content)] := Forest.filesOf_place h.ne_nil []
  have hordered : (Forest.place p content .nil).Ordered := by
    refine Forest.ordered_place h.safe trivial fun _ _ n hn => ?_
    exact (List.not_mem_nil hn).elim
  have hplain : (Forest.place p content .nil).Plain 0 := Forest.plain_place h.safe (by have := h.depth; omega) trivial
  rw [← hfiles]
  exact Forest.scanned hordered hplain (hfiles ▸ List.cons_ne_nil _ _)

theorem Forest.Apart.scanned {p q : RelativePath} (h : Forest.Apart p q) (hp : SafePath p) (hq : SafePath q)
    (content content' : Bytes) : ∃ tree, Scanned tree ∧ filesOf tree.nodes = [(p, content), (q, content')] := by
  have hfiles : filesOf ((Forest.pair p content q content').nodes []) = [(p, content), (q, content')] :=
    Forest.filesOf_pair h []
  have hplain : (Forest.pair p content q content').Plain 0 :=
    Forest.plain_pair h hp.safe hq.safe (by have := hp.depth; omega) (by have := hq.depth; omega)
  rw [← hfiles]
  exact Forest.scanned (Forest.ordered_pair h hp.safe hq.safe) hplain (hfiles ▸ List.cons_ne_nil _ _)

/-! ## What the fingerprint identifies -/

/-- The trees have the same files, with the same contents. -/
def SameFiles (tree tree' : ArtifactTree) : Prop := ∀ file, file ∈ filesOf tree.nodes ↔ file ∈ filesOf tree'.nodes

/-- The content has, between two null bytes, the path of a file that could be beside `p` and come later. -/
def NamesAnother (p : RelativePath) (content : Bytes) : Prop :=
  ∃ before q name after, content = before ++ 0 :: (name ++ 0 :: after) ∧ SafePath q ∧ q.posix.encode = some name ∧
    Forest.Apart p q

section Identifies

variable {D : Type} {hash : Bytes → D} {tree tree' : ArtifactTree}

theorem Scanned.input (h : Scanned tree) : ∃ input, fingerprintInput (filesOf tree.nodes) = some input := by
  refine fingerprintInput_isSome fun file hfile => ?_
  exact h.safePath (mem_filesOf.mp hfile)

theorem treeContentFingerprint_eq (hhash : Function.Injective hash) :
    treeContentFingerprint hash tree' = treeContentFingerprint hash tree ↔
      fingerprintInput (filesOf tree'.nodes) = fingerprintInput (filesOf tree.nodes) :=
  (Option.map_injective hhash).eq_iff

/-- Two files of a tree in the order of its nodes. -/
theorem Scanned.apart (h : Scanned tree) {file file' : RelativePath × Bytes} {files : ModelFiles}
    (he : filesOf tree.nodes = file :: file' :: files) : Forest.Apart file.1 file'.1 := by
  have hsorted : (filesOf tree.nodes).Pairwise fun a b => a.1 < b.1 := by
    refine List.pairwise_filterMap.mpr (h.sorted.imp fun hlt a ha b hb => ?_)
    obtain ⟨_, -, rfl⟩ := Option.map_eq_some_iff.mp ha
    obtain ⟨_, -, rfl⟩ := Option.map_eq_some_iff.mp hb
    exact hlt
  have hlt : file.1 < file'.1 := by
    rw [he] at hsorted
    exact (List.pairwise_cons.mp hsorted).1 file' List.mem_cons_self
  refine ⟨hlt, fun hprefix => ?_⟩
  have hfile : ⟨file.1, some file.2⟩ ∈ tree.nodes := mem_filesOf.mp (he ▸ List.mem_cons_self)
  have hfile' : ⟨file'.1, some file'.2⟩ ∈ tree.nodes := mem_filesOf.mp (he ▸ List.mem_cons_of_mem _ List.mem_cons_self)
  have hdirectory := h.ancestor hfile' hprefix (h.safePath hfile).ne_nil (ne_of_lt hlt)
  cases h.eq_of_path hfile hdirectory rfl

/-- A tree with the fingerprint of one file has that file only, or its content names another. -/
theorem eq_of_input (ht : Scanned tree') {p : RelativePath} (hp : SafePath p) {content input : Bytes}
    (h : fingerprintInput [(p, content)] = some input) (h' : fingerprintInput (filesOf tree'.nodes) = some input)
    (hno : ¬ NamesAnother p content) : filesOf tree'.nodes = [(p, content)] := by
  obtain ⟨name, rest, hname, hrest, rfl⟩ := fingerprintInput_cons.mp h
  obtain rfl := Option.some.inj hrest
  cases hfiles : filesOf tree'.nodes with
  | nil => exact absurd hfiles ht.counts.2.2
  | cons file files =>
    rw [hfiles] at h'
    obtain ⟨name', rest', hname', hrest', he⟩ := fingerprintInput_cons.mp h'
    have hsafe' : SafePath file.1 := ht.safePath (mem_filesOf.mp (hfiles ▸ List.mem_cons_self))
    have hnull {q : RelativePath} (hq : SafePath q) {b : Bytes} (hb : q.posix.encode = some b) : 0 ∉ b := by
      obtain ⟨b', hb', h0⟩ := hq.encode
      rwa [← Option.some.inj (hb'.symm.trans hb)]
    obtain ⟨rfl, hcut⟩ := cut_first_unique he (hnull hp hname) (hnull hsafe' hname')
    have hpath : file.1 = p := hsafe'.eq_of_encode hp hname' hname
    cases files with
    | nil =>
      obtain rfl := Option.some.inj hrest'
      rw [← hpath, (List.append_left_inj [0]).mp hcut]
    | cons file' files =>
      obtain ⟨name'', between, hname'', rfl⟩ := fingerprintInput_ends hrest'
      have hcontent : content = file.2 ++ 0 :: (name'' ++ 0 :: between) := by
        refine (List.append_left_inj [0]).mp ?_
        rw [hcut]
        simp only [List.append_assoc, List.cons_append]
      have hsafe'' : SafePath file'.1 :=
        ht.safePath (mem_filesOf.mp (hfiles ▸ List.mem_cons_of_mem _ List.mem_cons_self))
      exact absurd ⟨file.2, file'.1, name'', between, hcontent, hsafe'', hname'', hpath ▸ ht.apart hfiles⟩ hno

/-- The fingerprint identifies the files of a tree if and only if the tree has one file only, whose content
does not name another one. -/
theorem fingerprint_identifies_iff (hhash : Function.Injective hash) (ht : Scanned tree) :
    (∀ tree', Scanned tree' → treeContentFingerprint hash tree' = treeContentFingerprint hash tree → SameFiles tree' tree) ↔
      ∃ p content, filesOf tree.nodes = [(p, content)] ∧ ¬ NamesAnother p content := by
  obtain ⟨input, hinput⟩ := ht.input
  simp only [treeContentFingerprint_eq hhash]
  constructor
  · intro hidentifies
    cases hfiles : filesOf tree.nodes with
    | nil => exact absurd hfiles ht.counts.2.2
    | cons file files =>
      have hp : SafePath file.1 := ht.safePath (mem_filesOf.mp (hfiles ▸ List.mem_cons_self))
      rw [hfiles] at hinput hidentifies
      cases files with
      | nil =>
        refine ⟨file.1, file.2, rfl, ?_⟩
        rintro ⟨before, q, name, after, hcontent, hq, hname, hapart⟩
        obtain ⟨first, hfirst, -⟩ := hp.encode
        obtain ⟨tree', ht', hfiles'⟩ := hapart.scanned hp hq before after
        have hinput' : fingerprintInput (filesOf tree'.nodes) = fingerprintInput [file] := by
          have hpair : fingerprintInput [(file.1, before), (q, after)] =
              some (first ++ 0 :: (before ++ 0 :: (name ++ 0 :: (after ++ [0])))) :=
            fingerprintInput_cons.mpr ⟨first, _, hfirst, fingerprintInput_single hname after, rfl⟩
          rw [hfiles', hpair, fingerprintInput_single hfirst, hcontent]
          simp only [List.append_assoc, List.cons_append]
        have hsame := hidentifies tree' ht' hinput' (q, after)
        rw [hfiles', hfiles, List.mem_singleton] at hsame
        have heq := hsame.mp (List.mem_cons_of_mem _ List.mem_cons_self)
        exact hapart.beside (heq ▸ List.prefix_refl _)
      | cons file' files =>
        have hapart := ht.apart hfiles
        obtain ⟨name, rest, hname, hrest, rfl⟩ := fingerprintInput_cons.mp hinput
        obtain ⟨name', between, -, rfl⟩ := fingerprintInput_ends hrest
        obtain ⟨tree', ht', hfiles'⟩ := hp.scanned (file.2 ++ 0 :: (name' ++ 0 :: between))
        have hinput' : fingerprintInput (filesOf tree'.nodes) = fingerprintInput (file :: file' :: files) := by
          rw [hfiles', hinput, fingerprintInput_single hname]
          simp only [List.append_assoc, List.cons_append]
        have hsame := hidentifies tree' ht' hinput' file'
        rw [hfiles', hfiles, List.mem_singleton] at hsame
        have heq := hsame.mpr (List.mem_cons_of_mem _ List.mem_cons_self)
        exact (hapart.beside (heq ▸ List.prefix_refl _)).elim
  · rintro ⟨p, content, hfiles, hno⟩ tree' ht' heq file
    have hp : SafePath p := ht.safePath (mem_filesOf.mp (hfiles ▸ List.mem_cons_self))
    rw [hinput] at heq
    rw [hfiles] at hinput
    rw [eq_of_input ht' hp hinput heq hno, hfiles]

end Identifies

/-! ## A content that names another file -/

namespace Sample

/-- The least model before the entries `rest`. -/
def model (rest : Forest) : Forest :=
  .file (py "config.json") (Importer.Sample.text "\x7b\"model_type\":\"llama\"\x7d")
    (.file (py "model.safetensors") Importer.Sample.weights
      (.file (py "tokenizer.json") (Importer.Sample.text "\x7b\x7d")
        (.file (py "tokenizer_config.json") (Importer.Sample.text "\x7b\x7d") rest)))

/-- In `vocab.txt` stand a null byte, the name `zz.txt`, and another null byte. -/
def merged : Forest := model (.file (py "vocab.txt") (Importer.Sample.text "x\x00zz.txt\x00y") .nil)

def separate : Forest :=
  model (.file (py "vocab.txt") (Importer.Sample.text "x") (.file (py "zz.txt") (Importer.Sample.text "y") .nil))

theorem merged_ordered : merged.Ordered := by
  unfold merged model
  repeat unfold Forest.Ordered
  repeat unfold Forest.names
  unfold IsUnicode
  decide +kernel

theorem separate_ordered : separate.Ordered := by
  unfold separate model
  repeat unfold Forest.Ordered
  repeat unfold Forest.names
  unfold IsUnicode
  decide +kernel

def mergedTree : ArtifactTree := ⟨.full, merged.nodes [], 5, totalBytes (merged.nodes [])⟩

def separateTree : ArtifactTree := ⟨.full, separate.nodes [], 6, totalBytes (separate.nodes [])⟩

end Sample

/-- Both directories have a model that can be deployed, and the same fingerprint; one of them has a file more. -/
theorem merged_looks_separate : Function.Injective (id : Bytes → Bytes) ∧
    Scanned Sample.mergedTree ∧ Scanned Sample.separateTree ∧
    validateDeployableModel Importer.Sample.float (filesOf Sample.mergedTree.nodes) = .ok () ∧
    validateDeployableModel Importer.Sample.float (filesOf Sample.separateTree.nodes) = .ok () ∧
    treeContentFingerprint id Sample.mergedTree = treeContentFingerprint id Sample.separateTree ∧
    ¬ SameFiles Sample.mergedTree Sample.separateTree := by
  refine ⟨Function.injective_id, ⟨Sample.limits, .full, ⟨_, Sample.merged_ordered⟩, by decide +kernel⟩,
    ⟨Sample.limits, .full, ⟨_, Sample.separate_ordered⟩, by decide +kernel⟩, by decide +kernel, by decide +kernel,
    by decide +kernel, fun h => ?_⟩
  have hmem := (h ([py "zz.txt"], Importer.Sample.text "y")).mpr (by decide +kernel)
  exact absurd hmem (by decide +kernel)

/-- A tree with one file, in which no null byte stands. -/
def Sample.plainTree : ArtifactTree := ⟨.checkpoint, [⟨[py "state.json"], some [123, 125]⟩], 1, 2⟩

theorem plain_is_identified : Scanned Sample.plainTree ∧
    ∀ tree', Scanned tree' → treeContentFingerprint id tree' = treeContentFingerprint id Sample.plainTree →
      SameFiles tree' Sample.plainTree := by
  have hscan : Scanned Sample.plainTree := ⟨Sample.limits, .checkpoint, Sample.plain, by decide +kernel⟩
  refine ⟨hscan, (fingerprint_identifies_iff Function.injective_id hscan).mpr ⟨[py "state.json"], [123, 125], rfl, ?_⟩⟩
  rintro ⟨before, q, name, after, hcontent, -⟩
  have hnull : (0 : UInt8) ∈ ([123, 125] : Bytes) := hcontent ▸ List.mem_append_right _ List.mem_cons_self
  exact absurd hnull (by decide)

end OpenLLMOps.TrainingControl
