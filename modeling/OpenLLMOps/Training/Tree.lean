import OpenLLMOps.Framework.Json.Utf8
import OpenLLMOps.ModelImport.Deployable

/-!
# Artifact trees

`_scan_tree` of `training_control.py` walks a directory in the order of the names and
refuses everything but directories and regular files with one link. What is in a
directory is a `Forest`: its entries in the order of their names, each with what is
behind it.

`scanTree_eq_ok` says which directories are accepted and what their nodes are;
`nodes_sorted` that these are in the order of their paths.
-/

namespace OpenLLMOps.TrainingControl

open Framework

/-- `MAX_TREE_DEPTH`. -/
def maxTreeDepth : Nat := 64

/-- The settings that bound a tree. -/
structure TreeLimits where
  maxFiles : Nat
  maxBytes : Nat

/-- What is neither a directory that can be listed nor a regular file with one link. -/
inductive Oddity
  | unreadableDirectory
  | statFails
  | otherDevice
  | symlink
  | special
  | hardLink
  deriving DecidableEq

/-- The entries of a directory, in the order of their names. -/
inductive Forest
  | nil
  | file (name : PyStr) (content : Bytes) (rest : Forest)
  | directory (name : PyStr) (children rest : Forest)
  | odd (name : PyStr) (oddity : Oddity) (rest : Forest)
  deriving DecidableEq

/-- `_TreeNode`, with the content of a file; a directory has none. -/
structure TreeNode where
  path : RelativePath
  content : Option Bytes
  deriving DecidableEq

def TreeNode.isDirectory (node : TreeNode) : Bool := node.content.isNone

/-- `size_bytes`. -/
def TreeNode.size (node : TreeNode) : Nat := (node.content.getD []).length

inductive ArtifactKind
  | checkpoint
  | adapter
  | merged
  | full
  deriving DecidableEq

/-- `TrainingArtifactTree`. -/
structure ArtifactTree where
  kind : ArtifactKind
  nodes : List TreeNode
  fileCount : Nat
  sizeBytes : Nat
  deriving DecidableEq

/-- `total_bytes` of the nodes. -/
def totalBytes (nodes : List TreeNode) : Nat := (nodes.map TreeNode.size).sum

/-- The regular files among the nodes. -/
def filesOf (nodes : List TreeNode) : ModelFiles := nodes.filterMap fun node => node.content.map fun c => (node.path, c)

/-- `_safe_component`. -/
def safeComponent (name : PyStr) : FileCheck Unit :=
  if ¬ name.encodable then refuse (py "训练产物文件名不是有效 UTF-8")
  else if name = [] ∨ name = py "." ∨ name = py ".." ∨ 92 ∈ name ∨ ∃ c ∈ name, c < 32 ∨ c = 127 then
    refuse (py "训练产物文件名包含不安全字符")
  else .ok ()

section Scan

variable (limits : TreeLimits)

/-- `visit` of `_scan_tree`: the entries of `directory`, which is at `depth`. -/
def visit : Forest → RelativePath → Nat → List TreeNode → FileCheck (List TreeNode)
  | .nil, _, _, nodes => .ok nodes
  | .file name content rest, directory, depth, nodes => do
    safeComponent name
    if limits.maxFiles < nodes.length + 1 then refuse (py "训练产物文件/目录数量超过安全上限")
    else if limits.maxBytes < totalBytes nodes + content.length then refuse (py "训练产物总大小超过安全上限")
    else visit rest directory depth (nodes ++ [⟨directory ++ [name], some content⟩])
  | .directory name children rest, directory, depth, nodes => do
    safeComponent name
    if limits.maxFiles < nodes.length + 1 then refuse (py "训练产物节点数量超过安全上限")
    else if maxTreeDepth < depth + 1 then refuse (py "训练产物目录深度超过 64")
    else
      let nodes ← visit children (directory ++ [name]) (depth + 1) (nodes ++ [⟨directory ++ [name], none⟩])
      visit rest directory depth nodes
  | .odd name oddity _, _, depth, nodes => do
    safeComponent name
    match oddity with
    | .statFails => refuse (py "无法检查训练产物节点")
    | .otherDevice => refuse (py "训练产物不能跨越文件系统挂载点")
    | .symlink => refuse (py "训练产物不能包含软链接")
    | .special => refuse (py "训练产物不能包含设备、FIFO、socket 等特殊文件")
    | .hardLink => refuse (py "训练产物不能包含硬链接文件")
    | .unreadableDirectory =>
      if limits.maxFiles < nodes.length + 1 then refuse (py "训练产物节点数量超过安全上限")
      else if maxTreeDepth < depth + 1 then refuse (py "训练产物目录深度超过 64")
      else refuse (py "训练产物目录不可读")

/-- `_scan_tree` of a directory that is no symbolic link. -/
def scanTree (kind : ArtifactKind) (t : Forest) : FileCheck ArtifactTree := do
  let nodes ← visit limits t [] 0 []
  if (filesOf nodes).length = 0 then refuse (py "训练产物目录不包含普通文件")
  else .ok ⟨kind, nodes, (filesOf nodes).length, totalBytes nodes⟩

end Scan

namespace Forest

/-- The nodes of the entries of `directory`. -/
def nodes (directory : RelativePath) : Forest → List TreeNode
  | .nil => []
  | .file name content rest => ⟨directory ++ [name], some content⟩ :: rest.nodes directory
  | .directory name children rest =>
    ⟨directory ++ [name], none⟩ :: (children.nodes (directory ++ [name]) ++ rest.nodes directory)
  | .odd _ _ rest => rest.nodes directory

/-- The names of the entries. -/
def names : Forest → List PyStr
  | .nil => []
  | .file name _ rest | .directory name _ rest | .odd name _ rest => name :: rest.names

/-- The names at every level are in order, each with a text that is Unicode and has no slash. -/
def Ordered : Forest → Prop
  | .nil => True
  | .file name _ rest | .odd name _ rest => (47 ∉ name ∧ IsUnicode name) ∧ (∀ n ∈ rest.names, name < n) ∧ rest.Ordered
  | .directory name children rest =>
    (47 ∉ name ∧ IsUnicode name) ∧ (∀ n ∈ rest.names, name < n) ∧ children.Ordered ∧ rest.Ordered

/-- The names are safe, there is nothing odd, and the directories, the entries of one at `depth`, are
not too deep. -/
def Plain (depth : Nat) : Forest → Prop
  | .nil => True
  | .file name _ rest => safeComponent name = .ok () ∧ rest.Plain depth
  | .directory name children rest =>
    safeComponent name = .ok () ∧ depth + 1 ≤ maxTreeDepth ∧ children.Plain (depth + 1) ∧ rest.Plain depth
  | .odd _ _ _ => False

end Forest

/-! ## Scanning -/

theorem totalBytes_append (xs ys : List TreeNode) : totalBytes (xs ++ ys) = totalBytes xs + totalBytes ys := by
  simp only [totalBytes, List.map_append, List.sum_append]

theorem totalBytes_singleton (node : TreeNode) : totalBytes [node] = node.size := List.sum_singleton

theorem filesOf_append (xs ys : List TreeNode) : filesOf (xs ++ ys) = filesOf xs ++ filesOf ys := List.filterMap_append

section Accepts

variable {limits : TreeLimits}

/-- The nodes are within the limits. -/
def TreeLimits.Fit (limits : TreeLimits) (nodes : List TreeNode) : Prop :=
  nodes.length ≤ limits.maxFiles ∧ totalBytes nodes ≤ limits.maxBytes

theorem TreeLimits.Fit.of_append {xs ys : List TreeNode} (h : limits.Fit (xs ++ ys)) : limits.Fit xs := by
  unfold TreeLimits.Fit at h ⊢
  rw [List.length_append, totalBytes_append] at h
  omega

theorem visit_eq_ok {t : Forest} {directory : RelativePath} {depth : Nat} {nodes nodes' : List TreeNode}
    (hfit : limits.Fit nodes) :
    visit limits t directory depth nodes = .ok nodes' ↔
      (t.Plain depth ∧ limits.Fit (nodes ++ t.nodes directory)) ∧ nodes' = nodes ++ t.nodes directory := by
  induction t generalizing directory depth nodes nodes' with
  | nil =>
    simp only [visit, Forest.Plain, Forest.nodes, List.append_nil, hfit, and_self, true_and, Except.ok.injEq, eq_comm]
  | file name content rest ih =>
    have hstep : limits.Fit (nodes ++ [⟨directory ++ [name], some content⟩]) ↔
        ¬ limits.maxFiles < nodes.length + 1 ∧ ¬ limits.maxBytes < totalBytes nodes + content.length := by
      simp only [TreeLimits.Fit, List.length_append, totalBytes_append, List.length_singleton, totalBytes_singleton,
        TreeNode.size, Option.getD_some, Nat.not_lt]
    have hnodes : nodes ++ Forest.nodes directory (.file name content rest) =
        nodes ++ [⟨directory ++ [name], some content⟩] ++ rest.nodes directory := by
      simp only [Forest.nodes, List.append_assoc, List.singleton_append]
    unfold visit
    simp only [bind_eq_ok, refuse, ite_error_eq_ok, Forest.Plain, hnodes]
    constructor
    · rintro ⟨⟨⟩, hsafe, hfiles, hbytes, h⟩
      obtain ⟨⟨hplain, hfit'⟩, he⟩ := (ih (hstep.mpr ⟨hfiles, hbytes⟩)).mp h
      exact ⟨⟨⟨hsafe, hplain⟩, hfit'⟩, he⟩
    · rintro ⟨⟨⟨hsafe, hplain⟩, hfit'⟩, he⟩
      have hfit₁ := hfit'.of_append
      exact ⟨(), hsafe, (hstep.mp hfit₁).1, (hstep.mp hfit₁).2, (ih hfit₁).mpr ⟨⟨hplain, hfit'⟩, he⟩⟩
  | directory name children rest ihc ihr =>
    have hstep : limits.Fit (nodes ++ [⟨directory ++ [name], none⟩]) ↔ ¬ limits.maxFiles < nodes.length + 1 := by
      have hsize := hfit.2
      simp only [TreeLimits.Fit, List.length_append, totalBytes_append, List.length_singleton, totalBytes_singleton,
        TreeNode.size, Option.getD_none, List.length_nil, Nat.add_zero, Nat.not_lt] at hsize ⊢
      exact ⟨fun h => h.1, fun h => ⟨h, hsize⟩⟩
    have hnodes : nodes ++ Forest.nodes directory (.directory name children rest) =
        nodes ++ [⟨directory ++ [name], none⟩] ++ children.nodes (directory ++ [name]) ++ rest.nodes directory := by
      simp only [Forest.nodes, List.append_assoc, List.cons_append, List.nil_append]
    unfold visit
    simp only [bind_eq_ok, refuse, ite_error_eq_ok, Forest.Plain, hnodes, Nat.not_lt]
    constructor
    · rintro ⟨⟨⟩, hsafe, hfiles, hdepth, nodes₁, h₁, h₂⟩
      obtain ⟨⟨hplain₁, hfit₁⟩, rfl⟩ := (ihc (hstep.mpr (Nat.not_lt.mpr hfiles))).mp h₁
      obtain ⟨⟨hplain₂, hfit₂⟩, he⟩ := (ihr hfit₁).mp h₂
      exact ⟨⟨⟨hsafe, hdepth, hplain₁, hplain₂⟩, hfit₂⟩, he⟩
    · rintro ⟨⟨⟨hsafe, hdepth, hplain₁, hplain₂⟩, hfit₂⟩, he⟩
      have hfit₁ := hfit₂.of_append
      have hfit₀ := hfit₁.of_append
      exact ⟨(), hsafe, Nat.not_lt.mp (hstep.mp hfit₀), hdepth, _, (ihc hfit₀).mpr ⟨⟨hplain₁, hfit₁⟩, rfl⟩,
        (ihr hfit₁).mpr ⟨⟨hplain₂, hfit₂⟩, he⟩⟩
  | odd name oddity rest ih =>
    unfold visit
    simp only [bind_eq_ok, Forest.Plain, false_and, iff_false, not_exists, not_and]
    rintro ⟨⟩ -
    cases oddity <;> simp [refuse]
    split <;> [simp; (split <;> simp)]

theorem scanTree_eq_ok {kind : ArtifactKind} {t : Forest} {tree : ArtifactTree} :
    scanTree limits kind t = .ok tree ↔
      (t.Plain 0 ∧ limits.Fit (t.nodes []) ∧ filesOf (t.nodes []) ≠ []) ∧
      tree = ⟨kind, t.nodes [], (filesOf (t.nodes [])).length, totalBytes (t.nodes [])⟩ := by
  have hfit : limits.Fit [] := ⟨Nat.zero_le _, Nat.zero_le _⟩
  unfold scanTree
  simp only [bind_eq_ok, refuse, ite_error_eq_ok, visit_eq_ok hfit, List.nil_append, List.length_eq_zero_iff,
    Except.ok.injEq]
  constructor
  · rintro ⟨nodes, ⟨⟨hplain, hfit⟩, rfl⟩, hne, rfl⟩
    exact ⟨⟨hplain, hfit, hne⟩, rfl⟩
  · rintro ⟨⟨hplain, hfit, hne⟩, rfl⟩
    exact ⟨_, ⟨⟨hplain, hfit⟩, rfl⟩, hne, rfl⟩

end Accepts

/-! ## Nodes -/

section Nodes

variable {t : Forest} {directory : RelativePath} {node : TreeNode}

/-- The path of a node begins with the name of an entry. -/
theorem Forest.path_of_mem (h : node ∈ t.nodes directory) : ∃ n ∈ t.names, ∃ rel, node.path = directory ++ n :: rel := by
  induction t generalizing directory with
  | nil => cases h
  | file name content rest ih =>
    rcases List.mem_cons.mp h with rfl | h
    · exact ⟨name, List.mem_cons_self, [], rfl⟩
    · exact List.exists_mem_cons_of_exists (ih h)
  | directory name children rest ihc ihr =>
    rcases List.mem_cons.mp h with rfl | h
    · exact ⟨name, List.mem_cons_self, [], rfl⟩
    rcases List.mem_append.mp h with h | h
    · obtain ⟨n, -, rel, he⟩ := ihc h
      exact ⟨name, List.mem_cons_self, n :: rel, by rw [he, List.append_assoc]; rfl⟩
    · exact List.exists_mem_cons_of_exists (ihr h)
  | odd name oddity rest ih => exact List.exists_mem_cons_of_exists (ih h)

/-- What is behind an entry comes later than the entry and what is below it. -/
theorem Forest.lt_of_mem_rest {name : PyStr} {rest : Forest} (hlt : ∀ n ∈ rest.names, name < n)
    (h : node ∈ rest.nodes directory) (rel : RelativePath) : directory ++ name :: rel < node.path := by
  obtain ⟨n, hn, rel', he⟩ := path_of_mem h
  rw [he]
  exact List.append_left_lt (List.cons_lt_cons_iff.mpr (.inl (hlt n hn)))

/-- The nodes are in the order of their paths. -/
theorem Forest.nodes_sorted (h : t.Ordered) : (t.nodes directory).Pairwise fun a b => a.path < b.path := by
  induction t generalizing directory with
  | nil => exact .nil
  | file name content rest ih =>
    obtain ⟨-, hlt, hrest⟩ := h
    exact List.pairwise_cons.mpr ⟨fun node hnode => lt_of_mem_rest hlt hnode [], ih hrest⟩
  | directory name children rest ihc ihr =>
    obtain ⟨-, hlt, hchildren, hrest⟩ := h
    refine List.pairwise_cons.mpr ⟨fun node hnode => ?_,
      List.pairwise_append.mpr ⟨ihc hchildren, ihr hrest, fun child hchild node hnode => ?_⟩⟩
    · rcases List.mem_append.mp hnode with hnode | hnode
      · obtain ⟨n, -, rel, he⟩ := path_of_mem hnode
        rw [he]
        have hlt : directory ++ [name] ++ [] < directory ++ [name] ++ n :: rel := List.append_left_lt (List.nil_lt_cons n rel)
        rwa [List.append_nil] at hlt
      · exact lt_of_mem_rest hlt hnode []
    · obtain ⟨n, -, rel, he⟩ := path_of_mem hchild
      rw [he, List.append_assoc]
      exact lt_of_mem_rest hlt hnode (n :: rel)
  | odd name oddity rest ih => exact ih h.2.2

/-- Nothing is between a directory and its entries. -/
theorem prefix_entry {p : RelativePath} {name : PyStr} (hdir : directory <+: p) (hne : p ≠ directory)
    (hp : p <+: directory ++ [name]) : p = directory ++ [name] := by
  obtain ⟨xs, rfl⟩ := hdir
  rcases List.prefix_cons_iff.mp ((List.prefix_append_right_inj directory).mp hp) with rfl | ⟨ys, rfl, hys⟩
  · exact absurd (List.append_nil _) hne
  · rw [List.prefix_nil.mp hys]

/-- The directories above a node are nodes. -/
theorem Forest.ancestor_mem {p : RelativePath} (h : node ∈ t.nodes directory) (hdir : directory <+: p)
    (hp : p <+: node.path) (hne : p ≠ directory) (hne' : p ≠ node.path) : ⟨p, none⟩ ∈ t.nodes directory := by
  induction t generalizing directory with
  | nil => cases h
  | file name content rest ih =>
    rcases List.mem_cons.mp h with rfl | h
    · exact absurd (prefix_entry hdir hne hp) hne'
    · exact List.mem_cons_of_mem _ (ih h hdir hne)
  | directory name children rest ihc ihr =>
    rcases List.mem_cons.mp h with rfl | h
    · exact absurd (prefix_entry hdir hne hp) hne'
    rcases List.mem_append.mp h with h | h
    · obtain ⟨n, -, rel, he⟩ := path_of_mem h
      have hentry : directory ++ [name] <+: node.path := ⟨n :: rel, he.symm⟩
      rcases List.prefix_or_prefix_of_prefix hentry hp with hbelow | habove
      · by_cases he : p = directory ++ [name]
        · exact he ▸ List.mem_cons_self
        · exact List.mem_cons_of_mem _ (List.mem_append_left _ (ihc h hbelow he))
      · exact prefix_entry hdir hne habove ▸ List.mem_cons_self
    · exact List.mem_cons_of_mem _ (List.mem_append_right _ (ihr h hdir hne))
  | odd name oddity rest ih => exact ih h hdir hne

/-- A node is the only one with its path. -/
theorem Forest.eq_of_path {node' : TreeNode} (ht : t.Ordered) (h : node ∈ t.nodes directory)
    (h' : node' ∈ t.nodes directory) (he : node.path = node'.path) : node = node' := by
  have hnodup : ((t.nodes directory).map TreeNode.path).Nodup :=
    List.pairwise_map.mpr ((nodes_sorted ht).imp fun hlt => ne_of_lt hlt)
  exact List.inj_on_of_nodup_map hnodup h h' he

/-- A name that `_scan_tree` accepts. -/
def SafeName (name : PyStr) : Prop := safeComponent name = .ok () ∧ 47 ∉ name ∧ IsUnicode name

/-- A path that `_scan_tree` lets a node have. -/
structure SafePath (p : RelativePath) : Prop where
  ne_nil : p ≠ []
  safe : ∀ part ∈ p, SafeName part
  depth : p.length ≤ maxTreeDepth + 1

theorem safe_entry (hsafe : ∀ part ∈ directory, SafeName part) {name : PyStr} (hs : safeComponent name = .ok ())
    (hn : 47 ∉ name ∧ IsUnicode name) : ∀ part ∈ directory ++ [name], SafeName part := by
  rw [List.forall_mem_append, List.forall_mem_singleton]
  exact ⟨hsafe, hs, hn⟩

theorem safePath_entry (hsafe : ∀ part ∈ directory, SafeName part) (hdepth : directory.length ≤ maxTreeDepth)
    {name : PyStr} (hs : safeComponent name = .ok ()) (hn : 47 ∉ name ∧ IsUnicode name) :
    SafePath (directory ++ [name]) where
  ne_nil := List.append_ne_nil_of_right_ne_nil _ (List.cons_ne_nil _ _)
  safe := safe_entry hsafe hs hn
  depth := by
    rw [List.length_append, List.length_singleton]
    omega

/-- The nodes have such paths. -/
theorem Forest.safePath_of_mem (ht : t.Ordered) (hplain : t.Plain directory.length)
    (hdepth : directory.length ≤ maxTreeDepth) (hsafe : ∀ part ∈ directory, SafeName part)
    (h : node ∈ t.nodes directory) : SafePath node.path := by
  induction t generalizing directory with
  | nil => cases h
  | file name content rest ih =>
    obtain ⟨hn, -, hrest⟩ := ht
    obtain ⟨hs, hplain⟩ := hplain
    rcases List.mem_cons.mp h with rfl | h
    · exact safePath_entry hsafe hdepth hs hn
    · exact ih hrest hplain hdepth hsafe h
  | directory name children rest ihc ihr =>
    obtain ⟨hn, -, hchildren, hrest⟩ := ht
    obtain ⟨hs, hdeeper, hplain, hplain'⟩ := hplain
    rcases List.mem_cons.mp h with rfl | h
    · exact safePath_entry hsafe hdepth hs hn
    rcases List.mem_append.mp h with h | h
    · have hlen : (directory ++ [name]).length = directory.length + 1 := by
        rw [List.length_append, List.length_singleton]
      exact ihc hchildren (hlen ▸ hplain) (hlen ▸ hdeeper) (safe_entry hsafe hs hn) h
    · exact ihr hrest hplain' hdepth hsafe h
  | odd name oddity rest ih => cases hplain

end Nodes

/-- A directory: its entries are in order. -/
structure Directory where
  entries : Forest
  ordered : entries.Ordered

/-- A tree that `_scan_tree` has returned, for some settings. -/
structure Scanned (tree : ArtifactTree) : Prop where
  scanned : ∃ (limits : TreeLimits) (kind : ArtifactKind) (d : Directory), scanTree limits kind d.entries = .ok tree

section Scanned

variable {tree : ArtifactTree}

theorem Scanned.sorted (h : Scanned tree) : tree.nodes.Pairwise fun a b => a.path < b.path := by
  obtain ⟨limits, kind, d, h⟩ := h
  obtain ⟨-, rfl⟩ := scanTree_eq_ok.mp h
  exact Forest.nodes_sorted d.ordered

theorem Scanned.safePath (h : Scanned tree) {node : TreeNode} (hnode : node ∈ tree.nodes) : SafePath node.path := by
  obtain ⟨limits, kind, d, h⟩ := h
  obtain ⟨⟨hplain, -, -⟩, rfl⟩ := scanTree_eq_ok.mp h
  exact @Forest.safePath_of_mem d.entries [] node d.ordered hplain (Nat.zero_le _) (fun _ h => absurd h List.not_mem_nil)
    hnode

theorem Scanned.eq_of_path (h : Scanned tree) {node node' : TreeNode} (hnode : node ∈ tree.nodes)
    (hnode' : node' ∈ tree.nodes) (he : node.path = node'.path) : node = node' := by
  obtain ⟨limits, kind, d, h⟩ := h
  obtain ⟨-, rfl⟩ := scanTree_eq_ok.mp h
  exact Forest.eq_of_path d.ordered hnode hnode' he

theorem Scanned.ancestor (h : Scanned tree) {node : TreeNode} (hnode : node ∈ tree.nodes) {p : RelativePath}
    (hp : p <+: node.path) (hne : p ≠ []) (hne' : p ≠ node.path) : ⟨p, none⟩ ∈ tree.nodes := by
  obtain ⟨limits, kind, d, h⟩ := h
  obtain ⟨-, rfl⟩ := scanTree_eq_ok.mp h
  exact Forest.ancestor_mem hnode List.nil_prefix hp hne hne'

/-- The counters are those of the nodes. -/
theorem Scanned.counts (h : Scanned tree) :
    tree.fileCount = (filesOf tree.nodes).length ∧ tree.sizeBytes = totalBytes tree.nodes ∧ filesOf tree.nodes ≠ [] := by
  obtain ⟨limits, kind, d, h⟩ := h
  obtain ⟨⟨-, -, hne⟩, rfl⟩ := scanTree_eq_ok.mp h
  exact ⟨rfl, rfl, hne⟩

end Scanned

end OpenLLMOps.TrainingControl
