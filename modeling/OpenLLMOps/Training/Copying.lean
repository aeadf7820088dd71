import OpenLLMOps.Training.Fingerprint

/-!
# Copying a tree

What `_copy_tree` does to the directory that it creates: a new directory or a new file at
a path. A tree that was scanned is copied node by node, a directory before what is in it,
and the copy is the tree (`Forest.placeNodes`).
-/

namespace OpenLLMOps.TrainingControl

open Framework

namespace Forest

/-- The entries of the first, then those of the second. -/
def append : Forest → Forest → Forest
  | .nil, g => g
  | .file name content rest, g => .file name content (rest.append g)
  | .directory name children rest, g => .directory name children (rest.append g)
  | .odd name oddity rest, g => .odd name oddity (rest.append g)

/-- Where no entry has the name, `absent` puts one before those with greater names; `below` changes the
entries of a directory with the name. -/
def alter (name : PyStr) (absent : Forest → Option Forest) (below : Forest → Option Forest) : Forest → Option Forest
  | .nil => absent .nil
  | .file n content rest =>
    if n < name then (rest.alter name absent below).map (.file n content)
    else if n = name then none
    else absent (.file n content rest)
  | .directory n children rest =>
    if n < name then (rest.alter name absent below).map (.directory n children)
    else if n = name then (below children).map fun children => .directory n children rest
    else absent (.directory n children rest)
  | .odd n oddity rest =>
    if n < name then (rest.alter name absent below).map (.odd n oddity)
    else if n = name then none
    else absent (.odd n oddity rest)

/-- `mkdir`; `none` is an `OSError`. -/
def makeDirectory : RelativePath → Forest → Option Forest
  | [] => fun _ => none
  | [name] => alter name (fun rest => some (.directory name .nil rest)) fun _ => none
  | name :: part :: path => alter name (fun _ => none) (makeDirectory (part :: path))

/-- `os.open` with `O_CREAT` and `O_EXCL`, behind `parent.mkdir` with `parents` and `exist_ok`; then the content
is written. -/
def create (content : Bytes) : RelativePath → Forest → Option Forest
  | [] => fun _ => none
  | [name] => alter name (fun rest => some (.file name content rest)) fun _ => none
  | name :: part :: path =>
    alter name (fun rest => some (place (name :: part :: path) content rest)) (create content (part :: path))

/-- A node is copied. -/
def placeNode (f : Forest) (node : TreeNode) : Option Forest :=
  match node.content with
  | none => makeDirectory node.path f
  | some content => create content node.path f

theorem append_nil (f : Forest) : f.append .nil = f := by
  induction f with
  | nil => rfl
  | file name content rest ih => exact congrArg (Forest.file name content) ih
  | directory name children rest _ ih => exact congrArg (Forest.directory name children) ih
  | odd name oddity rest ih => exact congrArg (Forest.odd name oddity) ih

theorem append_assoc (f g h : Forest) : (f.append g).append h = f.append (g.append h) := by
  induction f with
  | nil => rfl
  | file name content rest ih => exact congrArg (Forest.file name content) ih
  | directory name children rest _ ih => exact congrArg (Forest.directory name children) ih
  | odd name oddity rest ih => exact congrArg (Forest.odd name oddity) ih

theorem names_append (f g : Forest) : (f.append g).names = f.names ++ g.names := by
  induction f with
  | nil => rfl
  | file name content rest ih => exact congrArg (name :: ·) ih
  | directory name children rest _ ih => exact congrArg (name :: ·) ih
  | odd name oddity rest ih => exact congrArg (name :: ·) ih

/-- What is changed is behind the entries with lower names. -/
theorem alter_append {name : PyStr} {absent below : Forest → Option Forest} {base g : Forest}
    (h : ∀ n ∈ base.names, n < name) :
    (base.append g).alter name absent below = (g.alter name absent below).map base.append := by
  induction base with
  | nil => exact Option.map_id'.symm
  | file n content rest ih =>
    obtain ⟨hn, hrest⟩ := List.forall_mem_cons.mp h
    show (if n < name then _ else _) = _
    rw [if_pos hn, ih hrest, Option.map_map]
    rfl
  | directory n children rest _ ih =>
    obtain ⟨hn, hrest⟩ := List.forall_mem_cons.mp h
    show (if n < name then _ else _) = _
    rw [if_pos hn, ih hrest, Option.map_map]
    rfl
  | odd n oddity rest ih =>
    obtain ⟨hn, hrest⟩ := List.forall_mem_cons.mp h
    show (if n < name then _ else _) = _
    rw [if_pos hn, ih hrest, Option.map_map]
    rfl

/-- The node, in the directory `name`. -/
def inside (name : PyStr) (node : TreeNode) : TreeNode := ⟨name :: node.path, node.content⟩

theorem nodes_inside (name : PyStr) (t : Forest) (directory : RelativePath) :
    t.nodes (name :: directory) = (t.nodes directory).map (inside name) := by
  induction t generalizing directory with
  | nil => rfl
  | file n content rest ih => exact congrArg (_ :: ·) (ih directory)
  | directory n children rest ihc ihr =>
    show _ :: (children.nodes (name :: (directory ++ [n])) ++ rest.nodes (name :: directory)) = _
    rw [ihc, ihr, ← List.map_append]
    rfl
  | odd n oddity rest ih => exact ih directory

section Place

variable {base : Forest} {name : PyStr}

/-- In the last directory a node is placed as it is in the directory alone. -/
theorem placeNode_inside (h : ∀ n ∈ base.names, n < name) (f : Forest) {node : TreeNode} (hne : node.path ≠ []) :
    placeNode (base.append (.directory name f .nil)) (inside name node) =
      (placeNode f node).map fun f' => base.append (.directory name f' .nil) := by
  obtain ⟨path, content⟩ := node
  cases path with
  | nil => exact absurd rfl hne
  | cons part path =>
    have halter (absent change : Forest → Option Forest) :
        (base.append (.directory name f .nil)).alter name absent change =
          (change f).map fun f' => base.append (.directory name f' .nil) := by
      rw [alter_append h]
      show Option.map _ (if name < name then _ else if name = name then _ else _) = _
      rw [if_neg (lt_irrefl name), if_pos rfl, Option.map_map]
      rfl
    cases content with
    | none => exact halter _ (makeDirectory (part :: path))
    | some content => exact halter _ (create content (part :: path))

theorem placeNodes_inside (h : ∀ n ∈ base.names, n < name) (f : Forest) {nodes : List TreeNode}
    (hne : ∀ node ∈ nodes, node.path ≠ []) :
    (nodes.map (inside name)).foldlM placeNode (base.append (.directory name f .nil)) =
      (nodes.foldlM placeNode f).map fun f' => base.append (.directory name f' .nil) := by
  induction nodes generalizing f with
  | nil => rfl
  | cons node nodes ih =>
    obtain ⟨hnode, hnodes⟩ := List.forall_mem_cons.mp hne
    rw [List.map_cons, List.foldlM_cons, List.foldlM_cons, placeNode_inside h f hnode]
    cases placeNode f node with
    | none => rfl
    | some f' => exact ih f' hnodes

/-- The entries that come later come after one more entry as well. -/
theorem names_before {entry rest : Forest} (hentry : entry.names = [name])
    (h : ∀ n ∈ base.names, ∀ m ∈ rest.names, n < m) (hlt : ∀ m ∈ rest.names, name < m) :
    ∀ n ∈ (base.append entry).names, ∀ m ∈ rest.names, n < m := by
  rw [names_append, hentry]
  intro n hn m hm
  rcases List.mem_append.mp hn with hn | hn
  · exact h n hn m hm
  · exact List.mem_singleton.mp hn ▸ hlt m hm

/-- A tree is copied node by node, behind the entries with lower names. -/
theorem placeNodes {t : Forest} (ht : t.Ordered) {depth : Nat} (hplain : t.Plain depth)
    (h : ∀ n ∈ base.names, ∀ m ∈ t.names, n < m) : (t.nodes []).foldlM placeNode base = some (base.append t) := by
  induction t generalizing base depth with
  | nil => exact congrArg some (append_nil base).symm
  | file name content rest ih =>
    obtain ⟨-, hlt, hrest⟩ := ht
    have hbase : ∀ n ∈ base.names, n < name := fun n hn => h n hn name List.mem_cons_self
    have hplace : placeNode base ⟨[name], some content⟩ = some (base.append (.file name content .nil)) := by
      have halter := @alter_append name (fun rest => some (.file name content rest)) (fun _ => none) base .nil hbase
      rw [append_nil] at halter
      exact halter
    have hnames : ∀ n ∈ (base.append (.file name content .nil)).names, ∀ m ∈ rest.names, n < m :=
      names_before rfl (fun n hn m hm => h n hn m (List.mem_cons_of_mem _ hm)) hlt
    show (placeNode base ⟨[name], some content⟩ >>= fun f => (rest.nodes []).foldlM placeNode f) = _
    rw [hplace]
    show (rest.nodes []).foldlM placeNode _ = _
    rw [ih hrest hplain.2 hnames, append_assoc]
    rfl
  | directory name children rest ihc ihr =>
    obtain ⟨-, hlt, hchildren, hrest⟩ := ht
    obtain ⟨-, -, hplainc, hplainr⟩ := hplain
    have hbase : ∀ n ∈ base.names, n < name := fun n hn => h n hn name List.mem_cons_self
    have hplace : placeNode base ⟨[name], none⟩ = some (base.append (.directory name .nil .nil)) := by
      have halter := @alter_append name (fun rest => some (.directory name .nil rest)) (fun _ => none) base .nil hbase
      rw [append_nil] at halter
      exact halter
    have hbelow : (children.nodes [name]).foldlM placeNode (base.append (.directory name .nil .nil)) =
        some (base.append (.directory name children .nil)) := by
      have hne : ∀ node ∈ children.nodes [], node.path ≠ [] := fun node hnode => by
        obtain ⟨n, -, rel, he⟩ := path_of_mem hnode
        rw [he]
        exact List.cons_ne_nil _ _
      have hcopied : (children.nodes []).foldlM placeNode .nil = some children :=
        ihc hchildren hplainc fun _ hn => (List.not_mem_nil hn).elim
      rw [nodes_inside, placeNodes_inside hbase .nil hne, hcopied]
      rfl
    have hnames : ∀ n ∈ (base.append (.directory name children .nil)).names, ∀ m ∈ rest.names, n < m :=
      names_before rfl (fun n hn m hm => h n hn m (List.mem_cons_of_mem _ hm)) hlt
    show (placeNode base ⟨[name], none⟩ >>= fun f => (children.nodes [name] ++ rest.nodes []).foldlM placeNode f) = _
    rw [hplace]
    show (children.nodes [name] ++ rest.nodes []).foldlM placeNode _ = _
    rw [List.foldlM_append, hbelow]
    show (rest.nodes []).foldlM placeNode _ = _
    rw [ihr hrest hplainr hnames, append_assoc]
    rfl
  | odd name oddity rest ih => exact hplain.elim

/-- The copy of a tree is the tree. -/
theorem copied {t : Forest} (ht : t.Ordered) {depth : Nat} (hplain : t.Plain depth) :
    (t.nodes []).foldlM placeNode .nil = some t :=
  placeNodes ht hplain fun _ hn => (List.not_mem_nil hn).elim

end Place

end Forest

end OpenLLMOps.TrainingControl
