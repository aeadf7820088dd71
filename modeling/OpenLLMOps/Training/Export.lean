import OpenLLMOps.Framework.Lists
import OpenLLMOps.Training.Tree

/-!
# What is exported

The filters of `training_control.py` go by `Path.suffix`, which a name like `.bin` does
not have. So a file leaves with a checkpoint or a model although its name ends with an
unsafe suffix if and only if its name is that suffix (`endsWith_iff`,
`exportsSafely_iff`).
-/

namespace OpenLLMOps.TrainingControl

open Framework

/-- `UNSAFE_SERIALIZATION_SUFFIXES`. -/
def unsafeSerializationSuffixes : List PyStr :=
  [py ".bin", py ".ckpt", py ".joblib", py ".pkl", py ".pickle", py ".pt", py ".pth"]

/-- `_filter_checkpoint_tree`. -/
def filterCheckpointTree (tree : ArtifactTree) : FileCheck ArtifactTree :=
  let safeFiles := tree.nodes.filter fun node =>
    !node.isDirectory && decide (lowerText node.path.suffix ∉ unsafeSerializationSuffixes)
  if safeFiles = [] then refuse (py "checkpoint 不含可安全导出的文件")
  else
    let safeDirectories := tree.nodes.filter fun node =>
      node.isDirectory && safeFiles.any fun file => node.path.isPrefixOf file.path
    .ok ⟨.checkpoint, (safeDirectories ++ safeFiles).insertionSort fun a b => decide (a.path ≤ b.path), safeFiles.length,
      totalBytes safeFiles⟩

/-- `_reject_unsafe_export_files`. -/
def rejectUnsafeExportFiles (tree : ArtifactTree) : FileCheck Unit :=
  let unsafeFiles := (tree.nodes.filter fun node =>
    !node.isDirectory && decide (lowerText node.path.suffix ∈ unsafeModelSuffixes)).map fun node => node.path.posix
  if unsafeFiles ≠ [] then .error (.refused (py "训练产物包含不安全的可执行/反序列化文件：") (unsafeFiles.take 3)) else .ok ()

/-! ## Suffixes -/

/-- The name of a file ends with one of the suffixes, ignoring case. -/
def EndsWith (suffixes : List PyStr) (path : RelativePath) : Prop := ∃ s ∈ suffixes, s <:+ lowerText path.name

/-- The name of a file is one of the suffixes, ignoring case. -/
def IsSuffix (suffixes : List PyStr) (path : RelativePath) : Prop := lowerText path.name ∈ suffixes

theorem mem_lowerChar_dot {c : Nat} : 46 ∈ lowerChar c ↔ c = 46 := by
  unfold lowerChar PyStr.asciiLower
  split
  · split <;> simp only [List.mem_singleton, Bool.and_eq_true, decide_eq_true_eq] at * <;> omega
  · split
    · simp [py]; omega
    · split <;> simp <;> omega

theorem dot_mem_lowerText {s : PyStr} : 46 ∈ lowerText s ↔ 46 ∈ s := by
  simp only [lowerText, List.mem_flatMap, mem_lowerChar_dot, exists_eq_right]

/-- `suffix` of a name with a last dot. -/
theorem suffix_of_last_dot {p : RelativePath} {stem last : PyStr} (h : p.name = stem ++ 46 :: last) (hlast : 46 ∉ last) :
    p.suffix = if stem ≠ [] ∧ last ≠ [] then 46 :: last else [] := by
  have htake : (p.name.reverse.takeWhile (· ≠ 46)).reverse = last := by
    rw [h, List.reverse_append, List.reverse_cons, List.append_assoc, List.takeWhile_append_of_pos, List.singleton_append,
      List.takeWhile_cons_of_neg (by decide), List.append_nil, List.reverse_reverse]
    intro c hc
    exact decide_eq_true fun e => hlast (e ▸ List.mem_reverse.mp hc)
  have hlen : last.length + 1 < p.name.length ↔ stem ≠ [] := by
    rw [h, List.length_append, List.length_cons, ← List.length_pos_iff]
    omega
  unfold RelativePath.suffix
  rw [htake]
  simp only [hlen]

theorem suffix_of_no_dot {p : RelativePath} (h : 46 ∉ p.name) : p.suffix = [] := by
  have htake : (p.name.reverse.takeWhile (· ≠ 46)).reverse = p.name := by
    rw [List.takeWhile_eq_self_iff.mpr, List.reverse_reverse]
    intro c hc
    exact decide_eq_true fun e => h (e ▸ List.mem_reverse.mp hc)
  unfold RelativePath.suffix
  rw [htake]
  exact if_neg fun hlen => by omega

/-- A suffix: a dot, and behind it a text without one. -/
def DotText (s : PyStr) : Prop := s.head? = some 46 ∧ s.tail ≠ [] ∧ 46 ∉ s.tail

instance (s : PyStr) : Decidable (DotText s) := by
  unfold DotText
  exact inferInstance

theorem DotText.cut {s : PyStr} (h : DotText s) : ∃ w, s = 46 :: w ∧ w ≠ [] ∧ 46 ∉ w := by
  obtain ⟨hdot, hne, hrest⟩ := h
  cases s with
  | nil => cases hdot
  | cons c w =>
    cases hdot
    exact ⟨w, rfl, hne, hrest⟩

theorem dotText_serialization : ∀ s ∈ unsafeSerializationSuffixes, DotText s := by decide

theorem dotText_model : ∀ s ∈ unsafeModelSuffixes, DotText s := by decide

/-- The names that end with a suffix are those whose `suffix` it is, and the suffix itself. -/
theorem endsWith_iff {suffixes : List PyStr} (hs : ∀ s ∈ suffixes, DotText s) {path : RelativePath} :
    EndsWith suffixes path ↔ lowerText path.suffix ∈ suffixes ∨ IsSuffix suffixes path := by
  constructor
  · rintro ⟨s, hmem, hend⟩
    obtain ⟨w, rfl, hw, hdot⟩ := (hs s hmem).cut
    obtain ⟨pre, he⟩ := hend
    have hname : 46 ∈ path.name := by
      rw [← dot_mem_lowerText, ← he]
      exact List.mem_append_right _ List.mem_cons_self
    obtain ⟨stem, last, hcut, hlast⟩ := exists_cut_last hname
    have hlower : lowerText path.name = lowerText stem ++ 46 :: lowerText last := by
      rw [hcut, lowerText, List.flatMap_append, List.flatMap_cons]
      rfl
    obtain ⟨rfl, rfl⟩ := cut_last_unique (he.trans hlower) hdot fun h => hlast (dot_mem_lowerText.mp h)
    by_cases hstem : stem = []
    · subst hstem
      exact .inr (show lowerText path.name ∈ suffixes from hlower ▸ hmem)
    · have hne : last ≠ [] := fun h => hw (by rw [h]; rfl)
      rw [suffix_of_last_dot hcut hlast, if_pos ⟨hstem, hne⟩]
      exact .inl hmem
  · rintro (h | h)
    · have hne : path.suffix ≠ [] := fun hnil => by
        obtain ⟨w, hw, -⟩ := (hs _ h).cut
        rw [hnil] at hw
        cases hw
      have hname : 46 ∈ path.name := by
        by_contra hno
        exact hne (suffix_of_no_dot hno)
      obtain ⟨stem, last, hcut, hlast⟩ := exists_cut_last hname
      have hsuffix : path.suffix = 46 :: last := by
        rw [suffix_of_last_dot hcut hlast] at hne ⊢
        split at hne
        · rename_i hboth
          rw [if_pos hboth]
        · exact absurd rfl hne
      refine ⟨_, h, lowerText stem, ?_⟩
      rw [hsuffix, hcut, lowerText, lowerText, lowerText, List.flatMap_append]
    · exact ⟨_, h, List.suffix_refl _⟩

/-! ## Checkpoints -/

/-- What leaves with a checkpoint: `build_training_archive` adds a member for each node, in their order. -/
structure CheckpointExport (tree kept : ArtifactTree) : Prop where
  /-- No file ends with an unsafe suffix, -/
  safe : ∀ file ∈ filesOf kept.nodes, ¬ EndsWith unsafeSerializationSuffixes file.1
  /-- every other one is there, -/
  complete : ∀ file ∈ filesOf tree.nodes, ¬ EndsWith unsafeSerializationSuffixes file.1 → file ∈ filesOf kept.nodes
  only : ∀ node ∈ kept.nodes, node ∈ tree.nodes
  /-- with the directories above the files that are kept, -/
  directories : ∀ p, ⟨p, none⟩ ∈ kept.nodes ↔ p ≠ [] ∧ ∃ file ∈ filesOf kept.nodes, p <+: file.1 ∧ p ≠ file.1
  /-- each before everything that is below it. -/
  order : kept.nodes.Pairwise fun a b => ¬ b.path <+: a.path
  counts : kept.fileCount = (filesOf kept.nodes).length ∧ kept.sizeBytes = ((filesOf kept.nodes).map fun file => file.2.length).sum

theorem mem_filesOf {nodes : List TreeNode} {p : RelativePath} {content : Bytes} :
    (p, content) ∈ filesOf nodes ↔ ⟨p, some content⟩ ∈ nodes := by
  simp only [filesOf, List.mem_filterMap, Option.map_eq_some_iff, Prod.mk.injEq]
  constructor
  · rintro ⟨⟨path, c⟩, hmem, content', rfl, rfl, rfl⟩
    exact hmem
  · exact fun h => ⟨_, h, _, rfl, rfl, rfl⟩

section Checkpoint

variable {tree kept : ArtifactTree}

/-- The files that `_filter_checkpoint_tree` keeps. -/
def safeNode (node : TreeNode) : Bool :=
  !node.isDirectory && decide (lowerText node.path.suffix ∉ unsafeSerializationSuffixes)

/-- The directories that it keeps. -/
def aboveSafe (tree : ArtifactTree) (node : TreeNode) : Bool :=
  node.isDirectory && (tree.nodes.filter safeNode).any fun file => node.path.isPrefixOf file.path

theorem filterCheckpointTree_eq_ok : filterCheckpointTree tree = .ok kept ↔
    tree.nodes.filter safeNode ≠ [] ∧
      kept = ⟨.checkpoint, (tree.nodes.filter (aboveSafe tree) ++ tree.nodes.filter safeNode).insertionSort
        fun a b => decide (a.path ≤ b.path), (tree.nodes.filter safeNode).length,
        totalBytes (tree.nodes.filter safeNode)⟩ := by
  show (if tree.nodes.filter safeNode = [] then refuse _ else _) = _ ↔ _
  rw [refuse, ite_error_eq_ok]
  exact and_congr_right fun _ => ⟨fun h => (Except.ok.inj h).symm, fun h => congrArg Except.ok h.symm⟩

theorem mem_kept (h : filterCheckpointTree tree = .ok kept) {node : TreeNode} :
    node ∈ kept.nodes ↔ node ∈ tree.nodes ∧ (aboveSafe tree node = true ∨ safeNode node = true) := by
  obtain ⟨-, rfl⟩ := filterCheckpointTree_eq_ok.mp h
  simp only [(List.perm_insertionSort _ _).mem_iff, List.mem_append, List.mem_filter, and_or_left]

theorem mem_keptFiles (h : filterCheckpointTree tree = .ok kept) {file : RelativePath × Bytes} :
    file ∈ filesOf kept.nodes ↔
      file ∈ filesOf tree.nodes ∧ lowerText file.1.suffix ∉ unsafeSerializationSuffixes := by
  obtain ⟨p, content⟩ := file
  rw [mem_filesOf, mem_filesOf, mem_kept h]
  simp [aboveSafe, safeNode, TreeNode.isDirectory]

/-- The nodes that are kept are in the order of their paths. -/
theorem kept_sorted (ht : Scanned tree) (h : filterCheckpointTree tree = .ok kept) :
    kept.nodes.Pairwise fun a b => a.path < b.path := by
  have hnodup : (kept.nodes.map TreeNode.path).Nodup := by
    have hall : (tree.nodes.map TreeNode.path).Nodup := List.pairwise_map.mpr (ht.sorted.imp fun hlt => ne_of_lt hlt)
    obtain ⟨-, rfl⟩ := filterCheckpointTree_eq_ok.mp h
    refine ((List.perm_insertionSort _ _).map _).nodup_iff.mpr ?_
    rw [List.map_append]
    refine List.Nodup.append (hall.sublist (List.filter_sublist.map _)) (hall.sublist (List.filter_sublist.map _)) ?_
    intro p hp hp'
    obtain ⟨a, ha, rfl⟩ := List.mem_map.mp hp
    obtain ⟨b, hb, he⟩ := List.mem_map.mp hp'
    obtain ⟨ha, hdir⟩ := List.mem_filter.mp ha
    obtain ⟨hb, hfile⟩ := List.mem_filter.mp hb
    obtain rfl := ht.eq_of_path hb ha he
    simp only [aboveSafe, safeNode, Bool.and_eq_true, Bool.not_eq_true'] at hdir hfile
    rw [hdir.1] at hfile
    cases hfile.1
  have hsorted : kept.nodes.Pairwise fun a b => a.path ≤ b.path := by
    obtain ⟨-, rfl⟩ := filterCheckpointTree_eq_ok.mp h
    have htotal : Std.Total fun a b : TreeNode => decide (a.path ≤ b.path) = true :=
      ⟨fun a b => by simpa only [decide_eq_true_eq] using le_total a.path b.path⟩
    have htrans : IsTrans TreeNode fun a b => decide (a.path ≤ b.path) = true :=
      ⟨fun a b c => by simpa only [decide_eq_true_eq] using le_trans⟩
    exact (List.pairwise_insertionSort _ _).imp fun h => of_decide_eq_true h
  exact (hsorted.and (List.pairwise_map.mp hnodup)).imp fun h => lt_of_le_of_ne h.1 h.2

theorem filesOf_directories {nodes : List TreeNode} (h : ∀ node ∈ nodes, node.isDirectory = true) : filesOf nodes = [] := by
  refine List.filterMap_eq_nil_iff.mpr fun node hnode => ?_
  rw [Option.isNone_iff_eq_none.mp (h node hnode)]
  rfl

theorem filesOf_files {nodes : List TreeNode} (h : ∀ node ∈ nodes, node.isDirectory = false) :
    (filesOf nodes).length = nodes.length ∧ ((filesOf nodes).map fun file => file.2.length).sum = totalBytes nodes := by
  induction nodes with
  | nil => exact ⟨rfl, rfl⟩
  | cons node nodes ih =>
    obtain ⟨hlen, hsum⟩ := ih fun node' hnode' => h node' (List.mem_cons_of_mem _ hnode')
    obtain ⟨content, hcontent⟩ : ∃ content, node.content = some content :=
      Option.isSome_iff_exists.mp (Option.isNone_eq_false_iff.mp (h node List.mem_cons_self))
    have hfiles : filesOf (node :: nodes) = (node.path, content) :: filesOf nodes := by
      rw [filesOf, List.filterMap_cons, hcontent]
      rfl
    have hsize : node.size = content.length := by rw [TreeNode.size, hcontent]; rfl
    simp only [hfiles, List.length_cons, hlen, List.map_cons, List.sum_cons, hsum, totalBytes, hsize, and_self]

/-- The counters are those of the files that are kept. -/
theorem kept_counts (h : filterCheckpointTree tree = .ok kept) :
    kept.fileCount = (filesOf kept.nodes).length ∧
      kept.sizeBytes = ((filesOf kept.nodes).map fun file => file.2.length).sum := by
  obtain ⟨-, rfl⟩ := filterCheckpointTree_eq_ok.mp h
  have hdirectories : filesOf (tree.nodes.filter (aboveSafe tree)) = [] := by
    refine filesOf_directories fun node hnode => ?_
    have h := (List.mem_filter.mp hnode).2
    rw [aboveSafe, Bool.and_eq_true] at h
    exact h.1
  have hfiles : ∀ node ∈ tree.nodes.filter safeNode, node.isDirectory = false := fun node hnode => by
    have h := (List.mem_filter.mp hnode).2
    rw [safeNode, Bool.and_eq_true, Bool.not_eq_true'] at h
    exact h.1
  obtain ⟨hlen, hsum⟩ := filesOf_files hfiles
  have hperm : (filesOf ((tree.nodes.filter (aboveSafe tree) ++ tree.nodes.filter safeNode).insertionSort
      fun a b => decide (a.path ≤ b.path))).Perm (filesOf (tree.nodes.filter safeNode)) := by
    refine ((List.perm_insertionSort _ _).filterMap _).trans ?_
    show (filesOf (_ ++ _)).Perm _
    rw [filesOf_append, hdirectories]
    exact .refl _
  exact ⟨hlen.symm.trans hperm.length_eq.symm, hsum.symm.trans (hperm.map _).sum_nat.symm⟩

theorem mem_keptDirectories (ht : Scanned tree) (h : filterCheckpointTree tree = .ok kept) (p : RelativePath) :
    ⟨p, none⟩ ∈ kept.nodes ↔ p ≠ [] ∧ ∃ file ∈ filesOf kept.nodes, p <+: file.1 ∧ p ≠ file.1 := by
  have habove : aboveSafe tree ⟨p, none⟩ = true ↔ ∃ file ∈ filesOf kept.nodes, p <+: file.1 := by
    simp only [aboveSafe, TreeNode.isDirectory, Option.isNone_none, Bool.true_and, List.any_eq_true, List.mem_filter,
      List.isPrefixOf_iff_prefix]
    constructor
    · rintro ⟨⟨path, content⟩, ⟨hmem, hsafe⟩, hprefix⟩
      cases content with
      | none => cases hsafe
      | some content =>
        refine ⟨(path, content), mem_filesOf.mpr ((mem_kept h).mpr ⟨hmem, .inr hsafe⟩), hprefix⟩
    · rintro ⟨⟨path, content⟩, hmem, hprefix⟩
      obtain ⟨hmem, hsafe⟩ := (mem_kept h).mp (mem_filesOf.mp hmem)
      exact ⟨⟨path, some content⟩, ⟨hmem, hsafe.resolve_left nofun⟩, hprefix⟩
  rw [mem_kept h]
  constructor
  · rintro ⟨hmem, hsafe⟩
    obtain ⟨file, hfile, hprefix⟩ := habove.mp (hsafe.resolve_right nofun)
    refine ⟨(ht.safePath hmem).ne_nil, file, hfile, hprefix, fun he => ?_⟩
    have hnode := ((mem_kept h).mp (mem_filesOf.mp hfile)).1
    cases ht.eq_of_path hmem hnode he
  · rintro ⟨hne, file, hfile, hprefix, hne'⟩
    have hnode := ((mem_kept h).mp (mem_filesOf.mp hfile)).1
    exact ⟨ht.ancestor hnode hprefix hne hne', .inl (habove.mpr ⟨file, hfile, hprefix⟩)⟩

theorem lowerText_eq_nil {s : PyStr} (h : lowerText s = []) : s = [] := by
  cases s with
  | nil => rfl
  | cons c s =>
    have hc : lowerChar c = [] := (List.append_eq_nil_iff.mp h).1
    unfold lowerChar at hc
    split at hc
    · cases hc
    · split at hc
      · cases hc
      · split at hc <;> cases hc

/-- A file that is named like a suffix has none. -/
theorem isSuffix_suffix {suffixes : List PyStr} (hs : ∀ s ∈ suffixes, DotText s) {path : RelativePath}
    (h : IsSuffix suffixes path) : path.suffix = [] := by
  obtain ⟨w, hw, hne, hdot⟩ := (hs _ h).cut
  have hname : 46 ∈ path.name := by
    rw [← dot_mem_lowerText, hw]
    exact List.mem_cons_self
  obtain ⟨stem, last, hcut, hlast⟩ := exists_cut_last hname
  have hlower : lowerText stem ++ 46 :: lowerText last = [] ++ 46 :: w := by
    rw [List.nil_append, ← hw, hcut, lowerText, lowerText, lowerText, List.flatMap_append, List.flatMap_cons]
    rfl
  have hstem := (cut_last_unique hlower (fun h => hlast (dot_mem_lowerText.mp h)) hdot).1
  rw [suffix_of_last_dot hcut hlast, if_neg fun h => h.1 (lowerText_eq_nil hstem)]

/-- What leaves with a checkpoint is what should, unless a file is named like a suffix. -/
theorem checkpointExport_iff (ht : Scanned tree) (h : filterCheckpointTree tree = .ok kept) :
    CheckpointExport tree kept ↔ ∀ file ∈ filesOf tree.nodes, ¬ IsSuffix unsafeSerializationSuffixes file.1 := by
  constructor
  · intro hexport file hfile hsuffix
    have hkept : file ∈ filesOf kept.nodes := by
      refine (mem_keptFiles h).mpr ⟨hfile, ?_⟩
      rw [isSuffix_suffix dotText_serialization hsuffix]
      decide
    exact hexport.safe file hkept ((endsWith_iff dotText_serialization).mpr (.inr hsuffix))
  · intro hno
    have hends (file : RelativePath × Bytes) (hfile : file ∈ filesOf tree.nodes) :
        EndsWith unsafeSerializationSuffixes file.1 ↔ lowerText file.1.suffix ∈ unsafeSerializationSuffixes := by
      rw [endsWith_iff dotText_serialization, or_iff_left (hno file hfile)]
    refine ⟨fun file hfile => ?_, fun file hfile hend => ?_, fun node hnode => ((mem_kept h).mp hnode).1,
      mem_keptDirectories ht h, (kept_sorted ht h).imp fun hlt hprefix => ?_, kept_counts h⟩
    · obtain ⟨hmem, hsuffix⟩ := (mem_keptFiles h).mp hfile
      rwa [hends file hmem]
    · exact (mem_keptFiles h).mpr ⟨hfile, (hends file hfile).not.mp hend⟩
    · exact absurd hlt (List.not_lt.mpr hprefix.le)

end Checkpoint

/-! ## Models -/

section Models

variable {float : PyStr → PyFloat} {tree : ArtifactTree}

theorem rejectUnsafeExportFiles_eq_ok : rejectUnsafeExportFiles tree = .ok () ↔
    ∀ file ∈ filesOf tree.nodes, lowerText file.1.suffix ∉ unsafeModelSuffixes := by
  unfold rejectUnsafeExportFiles
  dsimp only
  rw [ite_error_eq_ok, Decidable.not_not, List.map_eq_nil_iff, List.filter_eq_nil_iff]
  simp only [Bool.and_eq_true, Bool.not_eq_true', decide_eq_true_eq, not_and, and_true]
  constructor
  · rintro h ⟨p, content⟩ hfile
    exact h _ (mem_filesOf.mp hfile) rfl
  · rintro h ⟨p, content⟩ hnode hdir
    obtain ⟨content, rfl⟩ := Option.isSome_iff_exists.mp (Option.isNone_eq_false_iff.mp hdir)
    exact h (p, content) (mem_filesOf.mpr hnode)

/-- A deployable model passes the check of an export. -/
theorem suffixes_of_deployable (h : validateDeployableModel float (filesOf tree.nodes) = .ok ()) :
    rejectUnsafeExportFiles tree = .ok () := by
  unfold validateDeployableModel at h
  dsimp only at h
  rw [ite_error_eq_ok, Decidable.not_not, List.map_eq_nil_iff, List.filter_eq_nil_iff] at h
  exact rejectUnsafeExportFiles_eq_ok.mpr fun file hfile => fun hmem => h.1 file hfile (decide_eq_true hmem)

/-- No dangerous file is exported: with a checkpoint, with a model (`merged`, `full` and what is published), or
as a deployable model. -/
structure ExportsSafely (float : PyStr → PyFloat) (tree : ArtifactTree) : Prop where
  checkpoint : ∀ kept, filterCheckpointTree tree = .ok kept → CheckpointExport tree kept
  model : rejectUnsafeExportFiles tree = .ok () → ∀ file ∈ filesOf tree.nodes, ¬ EndsWith unsafeModelSuffixes file.1
  deployable : validateDeployableModel float (filesOf tree.nodes) = .ok () →
    ∀ file ∈ filesOf tree.nodes, ¬ EndsWith unsafeModelSuffixes file.1

/-- No dangerous file is exported if and only if none is named like a suffix of serialized data, and none
like a suffix of a model, unless the model is refused for another file. -/
theorem exportsSafely_iff {limits : TreeLimits} {kind : ArtifactKind} {d : Directory}
    (h : scanTree limits kind d.entries = .ok tree) :
    ExportsSafely float tree ↔
      (∀ file ∈ filesOf tree.nodes, ¬ IsSuffix unsafeSerializationSuffixes file.1) ∧
      ((∀ file ∈ filesOf tree.nodes, ¬ IsSuffix unsafeModelSuffixes file.1) ∨
        ∃ file ∈ filesOf tree.nodes, lowerText file.1.suffix ∈ unsafeModelSuffixes) := by
  have ht : Scanned tree := ⟨limits, kind, d, h⟩
  constructor
  · intro hsafe
    refine ⟨fun file hfile hsuffix => ?_, ?_⟩
    · have hnonempty : tree.nodes.filter safeNode ≠ [] := fun hnil => by
        refine List.filter_eq_nil_iff.mp hnil _ (mem_filesOf.mp hfile) ?_
        rw [safeNode, isSuffix_suffix dotText_serialization hsuffix]
        exact Bool.and_eq_true_iff.mpr ⟨rfl, by decide⟩
      have hkept := filterCheckpointTree_eq_ok.mpr ⟨hnonempty, rfl⟩
      exact (checkpointExport_iff ht hkept).mp (hsafe.checkpoint _ hkept) file hfile hsuffix
    · by_cases hrefused : ∃ file ∈ filesOf tree.nodes, lowerText file.1.suffix ∈ unsafeModelSuffixes
      · exact .inr hrefused
      · have hok := rejectUnsafeExportFiles_eq_ok.mpr fun file hfile hmem => hrefused ⟨file, hfile, hmem⟩
        exact .inl fun file hfile hsuffix =>
          hsafe.model hok file hfile ((endsWith_iff dotText_model).mpr (.inr hsuffix))
  · rintro ⟨hserialization, hmodel⟩
    have hreject (hok : rejectUnsafeExportFiles tree = .ok ()) :
        ∀ file ∈ filesOf tree.nodes, ¬ EndsWith unsafeModelSuffixes file.1 := by
      intro file hfile hend
      have hsuffixes := rejectUnsafeExportFiles_eq_ok.mp hok
      rcases (endsWith_iff dotText_model).mp hend with hmem | hsuffix
      · exact hsuffixes file hfile hmem
      · rcases hmodel with hno | ⟨file', hfile', hmem⟩
        · exact hno file hfile hsuffix
        · exact hsuffixes file' hfile' hmem
    exact ⟨fun kept hkept => (checkpointExport_iff ht hkept).mpr hserialization, hreject,
      fun hok => hreject (suffixes_of_deployable hok)⟩

end Models

/-! ## A file that is named like a suffix -/

namespace Sample

def limits : TreeLimits := ⟨100, 1000⟩

/-- The directory has the files `.bin` and `state.json`. -/
def dotted : Directory where
  entries := .file (py ".bin") [128] (.file (py "state.json") [123, 125] .nil)
  ordered := by
    unfold Forest.Ordered Forest.Ordered Forest.Ordered IsUnicode Forest.names Forest.names
    decide

def dottedTree : ArtifactTree :=
  ⟨.checkpoint, [⟨[py ".bin"], some [128]⟩, ⟨[py "state.json"], some [123, 125]⟩], 2, 3⟩

end Sample

/-- The checkpoint of that directory has both files. -/
theorem dotted_exported : scanTree Sample.limits .checkpoint Sample.dotted.entries = .ok Sample.dottedTree ∧
    ¬ ExportsSafely Importer.Sample.float Sample.dottedTree := by
  refine ⟨by decide +kernel, fun h => ?_⟩
  have hkept : filterCheckpointTree Sample.dottedTree = .ok Sample.dottedTree := by decide +kernel
  refine (h.checkpoint _ hkept).safe ([py ".bin"], [128]) ?_ ⟨py ".bin", ?_⟩ <;> decide +kernel

/-- A directory without such a file. -/
def Sample.plain : Directory where
  entries := .file (py "state.json") [123, 125] .nil
  ordered := by
    unfold Forest.Ordered Forest.Ordered IsUnicode Forest.names
    decide

theorem plain_exported : ExportsSafely Importer.Sample.float ⟨.checkpoint, [⟨[py "state.json"], some [123, 125]⟩], 1, 2⟩ := by
  have hscan : scanTree Sample.limits .checkpoint Sample.plain.entries =
      .ok ⟨.checkpoint, [⟨[py "state.json"], some [123, 125]⟩], 1, 2⟩ := by
    decide +kernel
  refine (exportsSafely_iff hscan).mpr ⟨?_, .inl ?_⟩ <;> unfold IsSuffix <;> decide +kernel

end OpenLLMOps.TrainingControl
