import OpenLLMOps.Agent.Truthful

/-!
# One container on each GPU

`gpu_allocations` is computed again for every launch, from the labels of the containers that
are active, and keeps one name for each GPU. A launch refuses every GPU in it; a restart of
a container lets the GPUs pass that are its own.

* `wp_gpuAllocations`: every GPU of an active container is in the map, under a container
  that was active when the map was begun;
* `Node.Exclusive`: the invariant. Under it the map hides no container, so a restart that
  passes the check is exclusive again (`wp_assertGpusAvailable`);
* `gpusExclusive`: any commands, operations on names and changes of the containers.
-/

namespace OpenLLMOps

open Framework Docker

namespace Node

/-- The owner's container is managed and active, and has the GPU. -/
def Occupies (n : Node) (k : OwnerKey) (gpu : Nat) : Prop :=
  ∃ c, n.lookup k = some c ∧ c.labels.managed = true ∧ c.active = true ∧ gpu ∈ c.labels.gpuIds

/-- No two owners occupy one GPU. -/
def Exclusive (n : Node) : Prop := ∀ k k' gpu, n.Occupies k gpu → n.Occupies k' gpu → k = k'

/-- No other owner occupies one of the GPUs. -/
def FreeFor (n : Node) (k : OwnerKey) (gpuIds : List Nat) : Prop := ∀ k' gpu, gpu ∈ gpuIds → n.Occupies k' gpu → k' = k

variable {n n' : Node} {k k' : OwnerKey} {gpu : Nat}

theorem Occupies.mono (h : n'.Occupies k gpu) (hle : Le n' n) : n.Occupies k gpu := by
  obtain ⟨c', hc', hm, ha, hgpu⟩ := h
  obtain ⟨c, hc, hl, hact⟩ := hle k c' hc'
  rw [hl] at hm hgpu
  exact ⟨c, hc, hm, hact ha, hgpu⟩

theorem Exclusive.mono (h : n.Exclusive) (hle : Le n' n) : n'.Exclusive := fun k k' gpu ho ho' =>
  h k k' gpu (ho.mono hle) (ho'.mono hle)

theorem FreeFor.mono {gpuIds : List Nat} (h : n.FreeFor k gpuIds) (hle : Le n' n) : n'.FreeFor k gpuIds :=
  fun k' gpu hmem ho => h k' gpu hmem (ho.mono hle)

theorem Occupies.of_insert {c : Container} (h : Occupies (n.insert k c) k' gpu) (hne : k' ≠ k) : n.Occupies k' gpu := by
  obtain ⟨c', hc', hrest⟩ := h
  rw [AList.lookup_insert_ne hne] at hc'
  exact ⟨c', hc', hrest⟩

/-- A container whose GPUs nobody else occupies. -/
theorem Exclusive.insert {c : Container} (h : n.Exclusive) (hfree : n.FreeFor k c.labels.gpuIds) :
    Exclusive (n.insert k c) := by
  -- another owner of a GPU of `c`
  have hself {k' : OwnerKey} {gpu : Nat} (ho : Occupies (n.insert k c) k gpu) (ho' : Occupies (n.insert k c) k' gpu)
      (hne : k' ≠ k) : k' = k := by
    obtain ⟨c', hc', -, -, hgpu⟩ := ho
    rw [AList.lookup_insert, Option.some.injEq] at hc'
    exact hfree k' gpu (hc' ▸ hgpu) (ho'.of_insert hne)
  intro k₁ k₂ gpu h₁ h₂
  by_cases e₁ : k₁ = k
  · by_cases e₂ : k₂ = k
    · exact e₁.trans e₂.symm
    · exact absurd (hself (e₁ ▸ h₁) h₂ e₂) e₂
  · by_cases e₂ : k₂ = k
    · exact absurd (hself (e₂ ▸ h₂) h₁ e₁) e₁
    · exact h k₁ k₂ gpu (h₁.of_insert e₁) (h₂.of_insert e₂)

end Node

/-! ## The check -/

section Check

variable {w : World}

theorem get?_allocate {d : List (Nat × OwnerKey)} {gpuIds : List Nat} {k : OwnerKey} (gpu : Nat) :
    Dict.get? (gpuIds.foldl (fun d gpu => Dict.set d gpu k) d) gpu = if gpu ∈ gpuIds then some k else Dict.get? d gpu := by
  induction gpuIds generalizing d with
  | nil => simp
  | cons gpu' gpuIds ih =>
    rw [List.foldl_cons, ih, Dict.get?_set]
    by_cases hmem : gpu ∈ gpuIds
    · simp [hmem]
    · by_cases e : gpu' = gpu
      · simp [e]
      · simp [hmem, e, Ne.symm e]

/-- `gpu_allocations` of containers that are managed. -/
theorem wp_gpuAllocations {owners : List OwnerKey} {d : List (Nat × OwnerKey)}
    (howners : ∀ k ∈ owners, ∀ c, w.node.lookup k = some c → c.labels.managed = true)
    {Q : Except Raised (List (Nat × OwnerKey)) → World → Prop}
    (hok : ∀ w' d', World.Le w' w → (∀ gpu, (Dict.get? d gpu).isSome = true → (Dict.get? d' gpu).isSome = true) →
      (∀ k ∈ owners, ∀ gpu, w'.node.Occupies k gpu → (Dict.get? d' gpu).isSome = true) →
      (∀ gpu k, Dict.get? d' gpu = some k → Dict.get? d gpu = some k ∨ w.node.Occupies k gpu) → Q (.ok d') w')
    (herr : ∀ w' e, World.Le w' w → Q (.error e) w') : Effect.wp (gpuAllocations owners d) Q w := by
  induction owners generalizing d w with
  | nil => exact hok w d (.refl _) (fun _ h => h) (fun k hk => absurd hk List.not_mem_nil) fun _ _ h => .inl h
  | cons k owners ih =>
    unfold gpuAllocations
    rw [Effect.wp_bind]
    refine wp_reload (fun w₁ c h₁ hc => ?_) (fun w₁ h₁ _ => herr w₁ _ h₁) fun w₁ h₁ => herr w₁ _ h₁
    obtain ⟨c₀, hc₀, hl, -⟩ := h₁ k c hc
    have hmanaged : c.labels.managed = true := by
      rw [hl]
      exact howners k List.mem_cons_self c₀ hc₀
    have howners₁ : ∀ k' ∈ owners, ∀ c', w₁.node.lookup k' = some c' → c'.labels.managed = true := by
      intro k' hk' c' hc'
      obtain ⟨c₁, hc₁, hl₁, -⟩ := h₁ k' c' hc'
      rw [hl₁]
      exact howners k' (List.mem_cons_of_mem _ hk') c₁ hc₁
    rw [Effect.seq_ok, Effect.wp_ite]
    split
    · rename_i hidle
      refine ih howners₁ (fun w' d' hle hkept hmap horigin => ?_) fun w' e hle => herr w' e (hle.trans h₁)
      refine hok w' d' (hle.trans h₁) hkept (fun k' hk' gpu ho => ?_) fun gpu k' hget => ?_
      · rcases List.mem_cons.mp hk' with rfl | hk'
        · -- the container was not active before
          obtain ⟨c', hc', -, ha, -⟩ := ho
          obtain ⟨c₁, hc₁, -, hact⟩ := hle k' c' hc'
          cases hc.symm.trans hc₁
          exact absurd (hact ha) hidle
        · exact hmap k' hk' gpu ho
      · exact (horigin gpu k' hget).imp_right fun ho => ho.mono h₁
    · rename_i hactive
      refine ih howners₁ (fun w' d' hle hkept hmap horigin => ?_) fun w' e hle => herr w' e (hle.trans h₁)
      simp only [get?_allocate] at hkept horigin
      refine hok w' d' (hle.trans h₁) (fun gpu hsome => hkept gpu ?_) (fun k' hk' gpu ho => ?_) fun gpu k' hget => ?_
      · split
        · rfl
        · exact hsome
      · rcases List.mem_cons.mp hk' with rfl | hk'
        · refine hkept gpu ?_
          obtain ⟨c', hc', -, -, hgpu⟩ := ho
          obtain ⟨c₁, hc₁, hl₁, -⟩ := hle k' c' hc'
          cases hc.symm.trans hc₁
          rw [if_pos (hl₁ ▸ hgpu)]
          rfl
        · exact hmap k' hk' gpu ho
      · rcases horigin gpu k' hget with h | h
        · split at h
          · rename_i hgpu
            cases h
            exact .inr (Node.Occupies.mono ⟨c, hc, hmanaged, not_not.mp hactive, hgpu⟩ h₁)
          · exact .inl h
        · exact .inr (h.mono h₁)

/-- When the GPUs are available, no container but that of `excludeName` occupies one of them. The map
may have the excluded name for a GPU only if that container has the GPU, so it hides no other. -/
theorem wp_assertGpusAvailable {settings : AgentSettings} {busy : Option (List Nat)} {gpuIds : List Nat}
    {excludeName : Option OwnerKey} (hexclusive : w.node.Exclusive) {Q : Except Raised Unit → World → Prop}
    (hok : ∀ w', World.Le w' w →
      (∀ k gpu, gpu ∈ gpuIds → w'.node.Occupies k gpu → excludeName = some k) → Q (.ok ()) w')
    (herr : ∀ w' e, World.Le w' w → Q (.error e) w') :
    Effect.wp (assertGpusAvailable settings busy gpuIds excludeName) Q w := by
  unfold assertGpusAvailable
  rw [Effect.wp_bind]
  refine wp_list (fun w₁ h₁ => ?_) fun w₁ h₁ => herr w₁ _ h₁
  rw [Effect.seq_ok, Effect.wp_bind]
  refine wp_gpuAllocations (fun k hk c hc => ?_) (fun w₂ d h₂ _ hmap horigin => ?_) fun w₂ e h₂ => herr w₂ e (h₂.trans h₁)
  · have hany := (List.mem_filter.mp hk).2
    rw [hc] at hany
    exact hany
  have h₂' := h₂.trans h₁
  have hfree (hconflicts : (gpuIds.filterMap fun gpu =>
      ((Dict.get? d gpu).filter fun k => some k ≠ excludeName).map fun k => (gpu, k)) = []) :
      ∀ k gpu, gpu ∈ gpuIds → w₂.node.Occupies k gpu → excludeName = some k := by
    intro k gpu hgpu ho
    have hlisted : k ∈ w₁.node.keys.filter fun k => (w₁.node.lookup k).any fun c => c.labels.managed := by
      obtain ⟨c₁, hc₁, hm, -⟩ := ho.mono h₂
      refine List.mem_filter.mpr ⟨AList.mem_keys.mp (AList.lookup_isSome.mp (by rw [hc₁]; rfl)), ?_⟩
      rw [hc₁]
      exact hm
    obtain ⟨k', hget⟩ := Option.isSome_iff_exists.mp (hmap k hlisted gpu ho)
    have hnone := List.filterMap_eq_nil_iff.mp hconflicts gpu hgpu
    rw [hget, Option.map_eq_none_iff, Option.filter_some, ite_eq_right_iff] at hnone
    have hexcluded : some k' = excludeName := by
      by_contra hne
      exact absurd (hnone (decide_eq_true hne)) (Option.some_ne_none k')
    -- the excluded container had the GPU when the map was begun
    rcases horigin gpu k' hget with h | ho'
    · cases h
    · rw [← hexcluded, hexclusive k' k gpu (ho'.mono h₁) (ho.mono h₂')]
  rw [Effect.seq_ok]
  simp only
  rw [Effect.wp_ite]
  split
  · exact herr w₂ _ h₂'
  rename_i hconflicts
  have hfree := hfree (not_not.mp hconflicts)
  rw [Effect.wp_ite]
  split
  · exact hok w₂ h₂' hfree
  split
  · exact herr w₂ _ h₂'
  · exact hok w₂ h₂' hfree
  · exact herr w₂ _ h₂'

end Check

/-! ## The operations -/

/-- The exclusivity of the GPUs, as what an operation keeps. -/
def KeepsExclusive (w' w : World) : Prop := w.node.Exclusive → w'.node.Exclusive

section Operations

theorem KeepsExclusive.of_le {w' w : World} (h : World.Le w' w) : KeepsExclusive w' w := fun he => he.mono h

theorem KeepsExclusive.frame (k : OwnerKey) : Frame k KeepsExclusive :=
  ⟨fun h h' he => h (h' he), fun h => .of_le h.le, fun w => .of_le (stop_le k w), fun w => .of_le (remove_le k w)⟩

/-- A call that makes a container run whose GPUs nobody else occupies. -/
theorem wp_call_insert {α : Type} {op : DockerEvent → Node → Except Raised α × Node} {k : OwnerKey} {gpuIds : List Nat}
    {w : World} (hexclusive : w.node.Exclusive) (hfree : w.node.FreeFor k gpuIds)
    (hop : ∀ e n, Node.Le n w.node → (op e n).2 = n ∨ ∃ c, c.labels.gpuIds = gpuIds ∧ (op e n).2 = n.insert k c) :
    Effect.wp (call op) (fun _ w' => w'.node.Exclusive) w := by
  have hafter (e : DockerEvent) (w₁ : World) (h₁ : World.Passes w₁ w) : (w₁.left (op e w₁.node).2).node.Exclusive := by
    show (op e w₁.node).2.Exclusive
    rcases hop e w₁.node h₁.le with h | ⟨c, hc, h⟩
    · rw [h]
      exact hexclusive.mono h₁.le
    · rw [h]
      exact (hexclusive.mono h₁.le).insert (hc ▸ hfree.mono h₁.le)
  exact wp_call_passes hafter (fun w₁ h₁ => hexclusive.mono h₁.le) hafter

theorem launch_exclusive (settings : AgentSettings) (around : Surroundings) (k : OwnerKey) (labels : ContainerLabels) :
    Effect.Decreases KeepsExclusive (launch settings around k labels) := by
  intro w hexclusive
  show Effect.wp (launch settings around k labels) (fun _ w' => w'.node.Exclusive) w
  unfold launch
  rw [Effect.wp_bind]
  refine wp_inspect (fun w₁ h₁ => ?_) fun w₁ h₁ => hexclusive.mono h₁
  rw [Effect.seq_ok]
  split
  · exact hexclusive.mono h₁
  rw [Effect.wp_bind]
  refine wp_assertGpusAvailable (hexclusive.mono h₁) (fun w₂ h₂ hfree => ?_) fun w₂ e h₂ => hexclusive.mono (h₂.trans h₁)
  rw [Effect.seq_ok, Effect.wp_bind]
  have hfree : w₂.node.FreeFor k labels.gpuIds := fun k' gpu hgpu ho => by cases hfree k' gpu hgpu ho
  refine Effect.wp_mono (wp_call_insert (hexclusive.mono (h₂.trans h₁)) hfree fun e n hle => ?_) fun r w₃ h₃ => ?_
  · split
    · exact .inl rfl
    · exact .inr ⟨_, rfl, rfl⟩
  · cases r with
    | error e => exact h₃
    | ok u => exact KeepsExclusive.of_le ((reload_reads k).to_wp w₃).le h₃

/-- A container is started only if nobody else occupies its GPUs. -/
theorem startNamed_exclusive (settings : AgentSettings) (busy : Option (List Nat)) (now : Time) (k : OwnerKey) :
    Effect.Decreases KeepsExclusive (startNamed settings busy now k) := by
  intro w hexclusive
  show Effect.wp (startNamed settings busy now k) (fun _ w' => w'.node.Exclusive) w
  unfold startNamed
  rw [Effect.wp_bind]
  refine wp_managedContainer (fun w₁ _ h₁ _ => ?_) (fun w₁ h₁ _ => hexclusive.mono h₁) fun w₁ h₁ => hexclusive.mono h₁
  rw [Effect.seq_ok, Effect.wp_bind]
  refine wp_reload (fun w₂ info h₂ hinfo => ?_) (fun w₂ h₂ _ => hexclusive.mono (h₂.trans h₁)) fun w₂ h₂ =>
    hexclusive.mono (h₂.trans h₁)
  have h₂ := h₂.trans h₁
  rw [Effect.seq_ok, Effect.wp_ite]
  split
  · exact hexclusive.mono h₂
  rw [Effect.wp_ite]
  split
  · exact hexclusive.mono h₂
  rw [Effect.wp_bind]
  refine wp_assertGpusAvailable (hexclusive.mono h₂) (fun w₃ h₃ hfree => ?_) fun w₃ e h₃ => hexclusive.mono (h₃.trans h₂)
  rw [Effect.seq_ok, Effect.wp_bind]
  have hfree : w₃.node.FreeFor k info.labels.gpuIds := fun k' gpu hgpu ho => (Option.some.inj (hfree k' gpu hgpu ho)).symm
  refine Effect.wp_mono (wp_call_insert (hexclusive.mono (h₃.trans h₂)) hfree fun e n hle => ?_) fun r w₄ h₄ => ?_
  · split
    · exact .inl rfl
    rename_i c hc
    obtain ⟨hl, -⟩ := (Node.Seen.of_lookup hinfo).mono (Node.Le.trans hle h₃) c hc
    split
    · exact .inl rfl
    · exact .inl rfl
    · exact .inl rfl
    · exact .inl rfl
    · exact .inl rfl
    all_goals exact .inr ⟨_, by rw [hl], rfl⟩
  · cases r with
    | error e => exact h₄
    | ok u => exact KeepsExclusive.of_le ((reload_reads k).to_wp w₄).le h₄

theorem stopNamed_exclusive (k : OwnerKey) : Effect.Decreases KeepsExclusive (stopNamed k) := by
  have h := KeepsExclusive.frame k
  refine h.bind (h.reads (managedContainer_reads k)) fun _ => h.bind (h.reads (reload_reads k)) fun info => ?_
  exact .ite (h.reads (Reads.pure _)) (h.bind h.stop fun _ => h.reads (reload_reads k))

theorem forceRemove_le (k : OwnerKey) : Effect.Decreases World.Le (forceRemove k) := by
  intro w
  unfold forceRemove
  refine wp_call (Q := fun _ w' => World.Le w' w) (fun e n => ?_) (fun e n w' hle hw => ?_) fun _ h => h
  · split
    · exact .refl n
    · split
      · exact .refl n
      · exact .erase n k
  · show Node.Le w'.node w.node
    rw [hw]
    split
    · exact hle
    · split
      · exact hle
      · exact Node.Le.trans (.erase n k) hle

theorem deleteNamed_exclusive (k : OwnerKey) (force : Bool) : Effect.Decreases KeepsExclusive (deleteNamed k force) := by
  have h := KeepsExclusive.frame k
  refine h.bind (h.reads (managedContainer_reads k)) fun _ => h.bind (h.reads (reload_reads k)) fun container => ?_
  exact .ite (h.reads (Reads.throw _)) (.ite (fun w => .of_le (forceRemove_le k w)) h.remove)

theorem dispatch_exclusive (settings : AgentSettings) (around : Surroundings) (c : AgentCommand) :
    Effect.Decreases KeepsExclusive (dispatch settings around c) :=
  dispatch_frame_launch (KeepsExclusive.frame _) fun labels _ => launch_exclusive settings around _ labels

end Operations

/-! ## The node under all operations -/

namespace Agent

/-- What happens to a node: commands, the runner's operations on a name, and changes of the containers
between them. -/
inductive NodeLabel
  | command (requestId : Uuid) (c : AgentCommand) (around : Surroundings) (events : List DockerEvent)
  | start (k : OwnerKey) (busyGpuIds : Option (List Nat)) (now : Time) (events : List DockerEvent)
  | stop (k : OwnerKey) (events : List DockerEvent)
  | delete (k : OwnerKey) (force : Bool) (events : List DockerEvent)
  /-- A container vanishes or changes its state; Docker does not make one active again that is not. -/
  | change (k : OwnerKey) (state : Option ContainerState)

/-- A change of a container that does not make it active again. -/
def drift (n : Node) (k : OwnerKey) (state : Option ContainerState) : Node :=
  match n.lookup k, state with
  | none, _ => n
  | some _, none => n.erase k
  | some c, some state => if state.status.active ∧ ¬ c.active then n else n.insert k { c with state := state }

/-- The agent with any commands and operations. -/
def nodeSystem (settings : AgentSettings) : System Agent NodeLabel where
  init := ⟨.empty, ∅⟩
  step s
    | .command requestId c around events => some (s.execute settings requestId c around events).2
    | .start k busyGpuIds now events =>
      some { s with node := (startNamed settings busyGpuIds now k ⟨s.node, events, []⟩).2.node }
    | .stop k events => some { s with node := (stopNamed k ⟨s.node, events, []⟩).2.node }
    | .delete k force events => some { s with node := (deleteNamed k force ⟨s.node, events, []⟩).2.node }
    | .change k state => some { s with node := drift s.node k state }

/-- Each owner has at most one container, and no two managed containers that are active have a GPU in
common. -/
structure GpusExclusive (s : Agent) : Prop where
  owners : s.node.keys.Nodup
  gpus : ∀ k k' c c', s.node.lookup k = some c → s.node.lookup k' = some c' → k ≠ k' →
    c.labels.managed = true → c'.labels.managed = true → c.active = true → c'.active = true →
    ∀ gpu ∈ c.labels.gpuIds, gpu ∉ c'.labels.gpuIds

theorem drift_le (n : Node) (k : OwnerKey) (state : Option ContainerState) : Node.Le (drift n k state) n := by
  unfold drift
  split
  · exact .refl n
  · exact .erase n k
  · rename_i c state hc
    split
    · exact .refl n
    · rename_i hnot
      refine .insert hc rfl fun hactive => ?_
      by_contra hidle
      exact hnot ⟨hactive, hidle⟩

/-- The node after a command. -/
theorem node_of_execute (settings : AgentSettings) (s : Agent) (requestId : Uuid) (c : AgentCommand)
    (around : Surroundings) (events : List DockerEvent) :
    (s.execute settings requestId c around events).2.node = s.node ∨
      (s.execute settings requestId c around events).2.node = (dispatch settings around c ⟨s.node, events, []⟩).2.node := by
  unfold Agent.execute
  rcases node_execute Prod.mk (fun c => dispatch settings around c) requestId c s.store ⟨s.node, events, []⟩ with h | h
  · exact .inl (congrArg World.node h)
  · exact .inr (congrArg World.node h)

theorem exclusive_step {settings : AgentSettings} {s s' : Agent} {l : NodeLabel} (h : s.node.Exclusive)
    (hs : (nodeSystem settings).step s l = some s') : s'.node.Exclusive := by
  cases l <;> cases hs
  · rename_i requestId c around events
    rcases node_of_execute settings s requestId c around events with e | e
    · rw [e]
      exact h
    · rw [e]
      exact dispatch_exclusive settings around c _ h
  · exact startNamed_exclusive settings _ _ _ _ h
  · exact stopNamed_exclusive _ _ h
  · exact deleteNamed_exclusive _ _ _ h
  · exact h.mono (drift_le _ _ _)

/-- In every reachable state of the node each owner has at most one container, and no GPU is occupied
twice. -/
theorem gpusExclusive (settings : AgentSettings) (ls : List NodeLabel) :
    (nodeSystem settings).Always GpusExclusive (nodeSystem settings).init ls := by
  have hstep {s l s'} (h : s.node.Exclusive) (hs : (nodeSystem settings).step s l = some s') (_ : True) :
      s'.node.Exclusive := exclusive_step h hs
  have hinv {s : Agent} (h : s.node.Exclusive) : GpusExclusive s := by
    refine ⟨s.node.keys_nodup, fun k k' c c' hc hc' hne hm hm' ha ha' gpu hgpu hgpu' => ?_⟩
    exact hne (h k k' gpu ⟨c, hc, hm, ha, hgpu⟩ ⟨c', hc', hm', ha', hgpu'⟩)
  have hinit : (nodeSystem settings).init.node.Exclusive := by
    rintro k k' gpu ⟨c, hc, -⟩
    cases hc
  exact System.always_of_invariant hstep hinv hinit (System.EachStep.of_true _ _)

end Agent

end OpenLLMOps
