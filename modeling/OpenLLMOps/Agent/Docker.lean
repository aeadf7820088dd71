import Mathlib.Data.List.AList
import OpenLLMOps.AgentContract
import OpenLLMOps.ControlPlane.Entities
import OpenLLMOps.Framework.Effect

/-!
# Docker as the agent uses it

A node holds at most one container for each owner: the name is made of the owner's
type and id, and Docker keeps names unique. A container's labels never change; its
state does, also while the agent works, so every call to Docker (`Docker.call`)
starts with the changes that have happened meanwhile. A call may fail, and a call
that fails may have had its effect.

What changes by itself never makes an inactive container active (`Container.change`):
Docker starts a container only on a request, and only a container that runs exits. So
the nodes that a call leaves are below the node before it (`Node.Le`), unless it creates
a container. A call that only looks lets time pass (`World.Passes`); a `Frame` is what
holds of every computation that looks, and stops and removes the container of one owner.
-/

namespace OpenLLMOps

open Framework

/-- `container.status`. -/
inductive ContainerStatus
  | created
  | restarting
  | running
  | removing
  | paused
  | exited
  | dead
  /-- A state that the agent does not know. -/
  | unknown (text : PyStr)
  deriving DecidableEq

/-- Docker's name of the state. -/
def ContainerStatus.text : ContainerStatus → PyStr
  | created => py "created"
  | restarting => py "restarting"
  | running => py "running"
  | removing => py "removing"
  | paused => py "paused"
  | exited => py "exited"
  | dead => py "dead"
  | unknown text => text

/-- `ACTIVE_STATES`. -/
def ContainerStatus.active : ContainerStatus → Bool
  | created | running | restarting | paused => true
  | removing | exited | dead | unknown _ => false

/-- The container has a process, or will have one again by itself. -/
def ContainerStatus.runs : ContainerStatus → Bool
  | running | restarting | paused => true
  | created | removing | exited | dead | unknown _ => false

/-- `TERMINAL_STATES`. -/
def ContainerStatus.terminal : ContainerStatus → Bool
  | exited | dead => true
  | created | running | restarting | paused | removing | unknown _ => false

/-- What `docker inspect` reports and may change: the parts that `_to_info` reads. -/
structure ContainerState where
  status : ContainerStatus
  exitCode : Option Int
  healthStatus : Option HealthStatus
  healthFailingStreak : Nat
  restartCount : Nat
  startedAt : Option Time
  finishedAt : Option Time
  deriving DecidableEq

inductive TrainingAlgorithm
  | freeze
  | lora
  | qlora
  deriving DecidableEq

/-- The labels of a container. -/
structure ContainerLabels where
  /-- The `managed` label is `true`. -/
  managed : Bool
  /-- The id, the kind and the owner type are those of the container's name. -/
  trusted : Bool
  /-- The generation is written as `[1-9][0-9]*`. -/
  canonical : Bool
  /-- `_generation_from_labels`. -/
  generation : Nat
  gpuIds : List Nat
  endpoint : Option PyStr
  serviceType : Option PyStr
  port : Option Nat
  outputPath : Option PyStr
  trainingAlgorithm : Option TrainingAlgorithm
  datasetManifestPath : Option PyStr
  baseTemplate : Option PyStr
  candidateTemplate : Option PyStr
  deriving DecidableEq

structure Container where
  labels : ContainerLabels
  createdAt : Option Time
  state : ContainerState
  deriving DecidableEq

namespace Container

/-- `container.status in ACTIVE_STATES`. -/
def active (c : Container) : Bool := c.state.status.active

/-- A change of state that the agent did not ask for: nothing starts or exits that does not run. -/
def change (c : Container) (state : ContainerState) : Container :=
  if (state.status.active ∨ state.status = .exited) ∧ ¬ c.state.status.runs then c else { c with state := state }

theorem labels_change (c : Container) (state : ContainerState) : (c.change state).labels = c.labels := by
  unfold change
  split <;> rfl

theorem active_of_runs {c : Container} (h : c.state.status.runs = true) : c.active = true := by
  rw [active]
  cases hs : c.state.status <;> rw [hs] at h <;> first | rfl | cases h

theorem active_change {c : Container} {state : ContainerState} (h : (c.change state).active = true) :
    c.active = true := by
  unfold change at h
  split at h
  · exact h
  · rename_i hn
    cases hc : c.state.status.runs with
    | true => exact active_of_runs hc
    | false => exact absurd ⟨.inl h, by rw [hc]; decide⟩ hn

end Container

/-- The containers by owner. -/
abbrev Node := AList fun _ : OwnerKey => Container

namespace Node

/-- Every container of `n'` was one of `n`, and was active if it is. -/
def Le (n' n : Node) : Prop :=
  ∀ k c', n'.lookup k = some c' →
    ∃ c, n.lookup k = some c ∧ c'.labels = c.labels ∧ (c'.active = true → c.active = true)

theorem Le.refl (n : Node) : Le n n := fun _ c h => ⟨c, h, rfl, id⟩

theorem Le.trans {a b c : Node} (h : Le a b) (h' : Le b c) : Le a c := by
  intro k x hx
  obtain ⟨y, hy, hl, ha⟩ := h k x hx
  obtain ⟨z, hz, hl', ha'⟩ := h' k y hy
  exact ⟨z, hz, hl.trans hl', fun hact => ha' (ha hact)⟩

theorem Le.erase (n : Node) (k : OwnerKey) : Le (n.erase k) n := by
  intro k' c h
  refine ⟨c, ?_, rfl, id⟩
  by_cases e : k' = k
  · subst e
    rw [AList.lookup_erase] at h
    cases h
  · rwa [AList.lookup_erase_ne e] at h

/-- Another state of one container. -/
theorem Le.insert {n : Node} {k : OwnerKey} {c c' : Container} (h : n.lookup k = some c)
    (hl : c'.labels = c.labels) (ha : c'.active = true → c.active = true) : Le (n.insert k c') n := by
  intro k' x hx
  by_cases e : k' = k
  · subst e
    rw [AList.lookup_insert] at hx
    cases hx
    exact ⟨c, h, hl, ha⟩
  · rw [AList.lookup_insert_ne e] at hx
    exact ⟨x, hx, rfl, id⟩

theorem Le.lookup_none {n n' : Node} (h : Le n' n) {k : OwnerKey} (hn : n.lookup k = none) :
    n'.lookup k = none := by
  cases hc : n'.lookup k with
  | none => rfl
  | some c' =>
    obtain ⟨c, hc', -⟩ := h k c' hc
    rw [hn] at hc'
    cases hc'

/-- No container of the owner's generation is active. -/
def Quiet (n : Node) (k : OwnerKey) (generation : Nat) : Prop :=
  ∀ c, n.lookup k = some c → c.labels.generation = generation → c.active = false

theorem Quiet.mono {n n' : Node} {k : OwnerKey} {g : Nat} (h : n.Quiet k g) (hle : Le n' n) : n'.Quiet k g := by
  intro c' hc' hg
  obtain ⟨c, hc, hl, ha⟩ := hle k c' hc'
  have hi := h c hc (hl ▸ hg)
  cases hact : c'.active with
  | false => rfl
  | true => rw [ha hact] at hi; exact hi

theorem Quiet.of_none {n : Node} {k : OwnerKey} {g : Nat} (h : n.lookup k = none) : n.Quiet k g := by
  intro c hc
  rw [h] at hc
  cases hc

instance (n : Node) (k : OwnerKey) (g : Nat) : Decidable (n.Quiet k g) :=
  match h : n.lookup k with
  | none => isTrue (.of_none h)
  | some c =>
    decidable_of_iff (c.labels.generation = g → c.active = false)
      ⟨fun hq c' hc' => by rw [h] at hc'; cases hc'; exact hq, fun hq => hq c h⟩

/-- The owner has no container, or one that is neither active nor being removed. -/
def Ended (n : Node) (k : OwnerKey) : Prop :=
  ∀ c, n.lookup k = some c → c.active = false ∧ c.state.status ≠ .removing

theorem Ended.of_none {n : Node} {k : OwnerKey} (h : n.lookup k = none) : n.Ended k := by
  intro c hc
  rw [h] at hc
  cases hc

theorem Ended.quiet {n : Node} {k : OwnerKey} {g : Nat} (h : n.Ended k) : n.Quiet k g := fun c hc _ => (h c hc).1

/-- The owner's name is free, or taken by a container that is not managed. -/
def Unmanaged (n : Node) (k : OwnerKey) : Prop := ∀ c, n.lookup k = some c → c.labels.managed = false

theorem Unmanaged.of_none {n : Node} {k : OwnerKey} (h : n.lookup k = none) : n.Unmanaged k := by
  intro c hc
  rw [h] at hc
  cases hc

/-- What remains true of a container after it was inspected. -/
def Seen (n : Node) (k : OwnerKey) (c : Container) : Prop :=
  ∀ c', n.lookup k = some c' → c'.labels = c.labels ∧ (c'.active = true → c.active = true)

theorem Seen.of_lookup {n : Node} {k : OwnerKey} {c : Container} (h : n.lookup k = some c) : n.Seen k c := by
  intro c' hc'
  rw [h] at hc'
  cases hc'
  exact ⟨rfl, id⟩

theorem Seen.mono {n n' : Node} {k : OwnerKey} {c : Container} (h : n.Seen k c) (hle : Le n' n) : n'.Seen k c := by
  intro x hx
  obtain ⟨y, hy, hl, ha⟩ := hle k x hx
  obtain ⟨hl', ha'⟩ := h y hy
  exact ⟨hl.trans hl', fun hact => ha' (ha hact)⟩

/-- A container seen inactive, or of another generation, stays so. -/
theorem Seen.quiet {n : Node} {k : OwnerKey} {c : Container} {g : Nat} (h : n.Seen k c)
    (hc : c.labels.generation = g → c.active = false) : n.Quiet k g := by
  intro c' hc' hg
  obtain ⟨hl, ha⟩ := h c' hc'
  have hi := hc (hl ▸ hg)
  cases hact : c'.active with
  | false => rfl
  | true => rw [ha hact] at hi; exact hi

/-- A container vanishes (`none`) or changes its state. -/
def change (n : Node) (e : OwnerKey × Option ContainerState) : Node :=
  match n.lookup e.1 with
  | none => n
  | some c => e.2.elim (n.erase e.1) fun state => n.insert e.1 (c.change state)

theorem lookup_change (n : Node) (e : OwnerKey × Option ContainerState) (k : OwnerKey) :
    (n.change e).lookup k =
      if e.1 = k then (n.lookup k).bind fun c => e.2.map fun state => c.change state else n.lookup k := by
  obtain ⟨k', state⟩ := e
  unfold Node.change
  by_cases hk : k' = k
  · subst hk
    rw [if_pos rfl]
    cases hc : n.lookup k' with
    | none => exact hc
    | some c => cases state with
      | none => exact AList.lookup_erase k' n
      | some state => exact AList.lookup_insert n
  · rw [if_neg hk]
    split
    · rfl
    · cases state with
      | none => exact AList.lookup_erase_ne (Ne.symm hk)
      | some state => exact AList.lookup_insert_ne (Ne.symm hk)

/-- What becomes of a container by itself does not depend on the others. -/
theorem lookup_changes_congr {n n' : Node} {k : OwnerKey} (es : List (OwnerKey × Option ContainerState))
    (h : n'.lookup k = n.lookup k) : (es.foldl Node.change n').lookup k = (es.foldl Node.change n).lookup k := by
  induction es generalizing n n' with
  | nil => exact h
  | cons e es ih => exact ih (by rw [lookup_change, lookup_change, h])

theorem Le.change (n : Node) (e : OwnerKey × Option ContainerState) : Le (n.change e) n := by
  unfold Node.change
  split
  · exact .refl n
  · rename_i c hc
    cases e.2 with
    | none => exact .erase n e.1
    | some state => exact .insert hc (c.labels_change state) Container.active_change

theorem Le.changes (n : Node) (es : List (OwnerKey × Option ContainerState)) : Le (es.foldl Node.change n) n := by
  induction es generalizing n with
  | nil => exact .refl n
  | cons e es ih => exact (ih (n.change e)).trans (.change n e)

end Node

/-! ## Calls -/

/-- An exception, by what `execute` and its callees tell apart. -/
inductive Raised
  /-- `ValidationError`, with the text of its errors. -/
  | validation (errors : PyStr)
  | invalidWorkload (message : PyStr)
  | workloadConflict (message : PyStr)
  | workloadNotFound
  /-- `docker.errors.NotFound`. -/
  | notFound
  /-- Another `DockerException`. -/
  | docker
  /-- Another exception. -/
  | other
  deriving DecidableEq

/-- How a call fails: Docker has not carried it out, or has. -/
inductive Fault
  | lost
  | unknown
  deriving DecidableEq

/-- What happens at a call: the changes before it, the exit code of a container that it stops,
and its failure. -/
structure DockerEvent where
  changes : List (OwnerKey × Option ContainerState)
  exitCode : Int
  fault : Option Fault
  deriving DecidableEq

/-- The containers of `n` that `n'` does not have. -/
def Node.taken (n n' : Node) : List (OwnerKey × Container) :=
  n.entries.filterMap fun e => if (n'.lookup e.1).isNone then some (e.1, e.2) else none

/-- The node, what happens at the coming calls, and the containers that the calls have removed. -/
structure World where
  node : Node
  events : List DockerEvent
  removed : List (OwnerKey × Container)

/-- After a call that has found the node `n` and left the node `n'`. -/
def World.after (w : World) (n n' : Node) : World := ⟨n', w.events.tail, w.removed ++ n.taken n'⟩

/-- The node of `w'` is below that of `w`. -/
def World.Le (w' w : World) : Prop := Node.Le w'.node w.node

theorem World.Le.trans {a b c : World} (h : World.Le a b) (h' : World.Le b c) : World.Le a c := Node.Le.trans h h'

/-- The world with the node that a call has left. -/
def World.left (w : World) (n : Node) : World := { w with node := n, removed := w.removed ++ w.node.taken n }

theorem Node.taken_self (n : Node) : n.taken n = [] := by
  refine List.filterMap_eq_nil_iff.mpr fun e he => if_neg ?_
  rw [AList.mem_lookup_iff.mpr he]
  exact nofun

theorem World.left_self (w : World) : w.left w.node = w := by rw [World.left, Node.taken_self, List.append_nil]

/-- From `w` to `w'` only changes of the events of `w` have happened. -/
structure World.Passes (w' w : World) : Prop where
  node : ∃ es : List (OwnerKey × Option ContainerState),
    w'.node = es.foldl Node.change w.node ∧ ∀ ch ∈ es, ∃ e ∈ w.events, ch ∈ e.changes
  events : w'.events ⊆ w.events
  removed : w'.removed = w.removed

theorem World.Passes.refl (w : World) : World.Passes w w := ⟨⟨[], rfl, nofun⟩, List.Subset.refl _, rfl⟩

theorem World.Passes.trans {a b c : World} (h : World.Passes a b) (h' : World.Passes b c) : World.Passes a c := by
  obtain ⟨es, he, hes⟩ := h.node
  obtain ⟨es', he', hes'⟩ := h'.node
  refine ⟨⟨es' ++ es, by rw [he, he', List.foldl_append], fun ch hch => ?_⟩, fun e he => h'.events (h.events he),
    h.removed.trans h'.removed⟩
  rcases List.mem_append.mp hch with hch | hch
  · exact hes' ch hch
  · obtain ⟨e, he, hce⟩ := hes ch hch
    exact ⟨e, h'.events he, hce⟩

theorem World.Passes.le {w' w : World} (h : World.Passes w' w) : World.Le w' w := by
  obtain ⟨es, he, -⟩ := h.node
  rw [World.Le, he]
  exact .changes w.node es

/-- A computation of the agent that calls Docker. -/
abbrev Docker (α : Type) : Type := Effect World Raised α

namespace Docker

/-- The event of a call after the last one that is given: nothing happens. -/
def calm : DockerEvent := ⟨[], 0, none⟩

/-- One call. -/
def call {α : Type} (op : DockerEvent → Node → Except Raised α × Node) : Docker α := fun w =>
  let e := w.events.headD calm
  let n := e.changes.foldl Node.change w.node
  match e.fault with
  | none => ((op e n).1, w.after n (op e n).2)
  | some .lost => (.error .docker, w.after n n)
  | some .unknown => (.error .docker, w.after n (op e n).2)

/-- `containers.get(name)`, with `none` for `NotFound`. -/
def inspect (k : OwnerKey) : Docker (Option Container) := call fun _ n => (.ok (n.lookup k), n)

/-- `container.reload()`, and the attributes that it loads. -/
def reload (k : OwnerKey) : Docker Container := do
  match ← inspect k with
  | none => throw .notFound
  | some c => pure c

/-- `containers.list(all=True)` with the filter on `managed`: the owners of the containers. -/
def list : Docker (List OwnerKey) := call fun _ n =>
  (.ok (n.keys.filter fun k => (n.lookup k).any fun c => c.labels.managed), n)

/-- `container.stop(timeout=...)`. -/
def stop (k : OwnerKey) : Docker Unit := call fun e n =>
  match n.lookup k with
  | none => (.error .notFound, n)
  | some c =>
    if c.state.status = .created ∨ ¬ c.active then (.ok (), n)
    else (.ok (), n.insert k { c with state := { c.state with status := .exited, exitCode := some e.exitCode } })

/-- `container.remove(force=False)`: Docker refuses a container that it knows not to have ended. -/
def remove (k : OwnerKey) : Docker Unit := call fun _ n =>
  match n.lookup k with
  | none => (.error .notFound, n)
  | some c =>
    match c.state.status with
    | .created | .exited | .dead => (.ok (), n.erase k)
    | .running | .paused | .restarting | .removing | .unknown _ => (.error .docker, n)

/-- `container.remove(force=True)`. -/
def forceRemove (k : OwnerKey) : Docker Unit := call fun _ n =>
  match n.lookup k with
  | none => (.error .notFound, n)
  | some c => if c.state.status = .removing then (.error .docker, n) else (.ok (), n.erase k)

/-- `container.start()`: Docker does not start a container that is paused, dead or being removed. -/
def start (k : OwnerKey) (now : Time) : Docker Unit := call fun _ n =>
  match n.lookup k with
  | none => (.error .notFound, n)
  | some c =>
    match c.state.status with
    | .running | .restarting => (.ok (), n)
    | .paused | .removing | .dead => (.error .docker, n)
    | .created | .exited | .unknown _ =>
      (.ok (), n.insert k { c with state := ⟨.running, none, none, 0, 0, some now, c.state.finishedAt⟩ })

/-- `containers.run(detach=True)`: it creates and starts a container, unless the name is taken. -/
def run (k : OwnerKey) (labels : ContainerLabels) (now : Time) : Docker Unit := call fun _ n =>
  match n.lookup k with
  | some _ => (.error .docker, n)
  | none => (.ok (), n.insert k ⟨labels, some now, ⟨.running, none, none, 0, 0, some now, none⟩⟩)

/-! ### Specifications -/

/-- A call works on a node below the one before. -/
theorem wp_call {α : Type} {op : DockerEvent → Node → Except Raised α × Node} {Q : Except Raised α → World → Prop}
    {w : World} (hle : ∀ e n, Node.Le (op e n).2 n)
    (hop : ∀ e n w', Node.Le n w.node → w'.node = (op e n).2 → Q (op e n).1 w')
    (herr : ∀ w', World.Le w' w → Q (.error .docker) w') : Effect.wp (call op) Q w := by
  have hn := Node.Le.changes w.node (w.events.headD calm).changes
  unfold Effect.wp Docker.call
  simp only
  split
  · exact hop _ _ _ hn rfl
  · exact herr _ hn
  · exact herr _ ((hle _ _).trans hn)

/-- A call comes some time after the one before. -/
theorem wp_call_passes {α : Type} {op : DockerEvent → Node → Except Raised α × Node}
    {Q : Except Raised α → World → Prop} {w : World}
    (hop : ∀ e w₁, World.Passes w₁ w → Q (op e w₁.node).1 (w₁.left (op e w₁.node).2))
    (hlost : ∀ w₁, World.Passes w₁ w → Q (.error .docker) w₁)
    (hunknown : ∀ e w₁, World.Passes w₁ w → Q (.error .docker) (w₁.left (op e w₁.node).2)) :
    Effect.wp (call op) Q w := by
  have hpast : World.Passes ⟨(w.events.headD calm).changes.foldl Node.change w.node, w.events.tail, w.removed⟩ w := by
    refine ⟨⟨_, rfl, fun ch hch => ?_⟩, List.tail_subset w.events, rfl⟩
    cases he : w.events with
    | nil => rw [he] at hch; cases hch
    | cons e es => exact ⟨e, List.mem_cons_self, by rwa [he] at hch⟩
  unfold Effect.wp Docker.call
  simp only
  split
  · exact hop _ _ hpast
  · have h := hlost _ hpast
    rwa [World.after, Node.taken_self, List.append_nil]
  · exact hunknown _ _ hpast

section Rules

variable {k : OwnerKey} {w : World}

theorem wp_inspect_passes {Q : Except Raised (Option Container) → World → Prop}
    (hok : ∀ w', World.Passes w' w → Q (.ok (w'.node.lookup k)) w')
    (herr : ∀ w', World.Passes w' w → Q (.error .docker) w') : Effect.wp (inspect k) Q w := by
  unfold inspect
  refine wp_call_passes (fun e w₁ h => ?_) herr fun e w₁ h => ?_
  · simp only [World.left_self]
    exact hok w₁ h
  · simp only [World.left_self]
    exact herr w₁ h

theorem wp_reload_passes {Q : Except Raised Container → World → Prop}
    (hok : ∀ w' c, World.Passes w' w → w'.node.lookup k = some c → Q (.ok c) w')
    (hnone : ∀ w', World.Passes w' w → w'.node.lookup k = none → Q (.error .notFound) w')
    (herr : ∀ w', World.Passes w' w → Q (.error .docker) w') : Effect.wp (reload k) Q w := by
  unfold reload
  rw [Effect.wp_bind]
  refine wp_inspect_passes (fun w' h => ?_) herr
  rw [Effect.seq_ok]
  cases hc : w'.node.lookup k with
  | none => exact hnone w' h hc
  | some c => exact hok w' c h hc

theorem wp_inspect {Q : Except Raised (Option Container) → World → Prop}
    (hok : ∀ w', World.Le w' w → Q (.ok (w'.node.lookup k)) w')
    (herr : ∀ w', World.Le w' w → Q (.error .docker) w') : Effect.wp (inspect k) Q w :=
  wp_inspect_passes (fun w' h => hok w' h.le) fun w' h => herr w' h.le

theorem wp_reload {Q : Except Raised Container → World → Prop}
    (hok : ∀ w' c, World.Le w' w → w'.node.lookup k = some c → Q (.ok c) w')
    (hnone : ∀ w', World.Le w' w → w'.node.lookup k = none → Q (.error .notFound) w')
    (herr : ∀ w', World.Le w' w → Q (.error .docker) w') : Effect.wp (reload k) Q w :=
  wp_reload_passes (fun w' c h => hok w' c h.le) (fun w' h => hnone w' h.le) fun w' h => herr w' h.le

theorem wp_list {Q : Except Raised (List OwnerKey) → World → Prop}
    (hok : ∀ w', World.Le w' w →
      Q (.ok (w'.node.keys.filter fun k => (w'.node.lookup k).any fun c => c.labels.managed)) w')
    (herr : ∀ w', World.Le w' w → Q (.error .docker) w') : Effect.wp list Q w := by
  unfold list
  refine wp_call_passes (fun e w₁ h => ?_) (fun w₁ h => herr w₁ h.le) fun e w₁ h => ?_
  · simp only [World.left_self]
    exact hok w₁ h.le
  · simp only [World.left_self]
    exact herr w₁ h.le

theorem wp_stop {Q : Except Raised Unit → World → Prop} (hok : ∀ w', World.Le w' w → Q (.ok ()) w')
    (hnone : ∀ w', World.Le w' w → w'.node.lookup k = none → Q (.error .notFound) w')
    (herr : ∀ w', World.Le w' w → Q (.error .docker) w') : Effect.wp (stop k) Q w := by
  unfold stop
  refine wp_call (fun e n => ?_) (fun e n w' hle hw => ?_) herr
  · split
    · exact .refl n
    · rename_i c hc
      split
      · exact .refl n
      · exact .insert hc rfl nofun
  · cases hc : n.lookup k with
    | none =>
      rw [hc] at hw
      subst hw
      exact hnone w' hle hc
    | some c =>
      rw [hc] at hw
      simp only at hw ⊢
      have hle' : World.Le w' w := by
        show Node.Le w'.node w.node
        rw [hw]
        split
        · exact hle
        · exact Node.Le.trans (.insert hc rfl nofun) hle
      split <;> exact hok w' hle'

/-- A container that has been removed is gone. -/
theorem wp_remove {Q : Except Raised Unit → World → Prop}
    (hok : ∀ w', World.Le w' w → w'.node.lookup k = none → Q (.ok ()) w')
    (hnone : ∀ w', World.Le w' w → w'.node.lookup k = none → Q (.error .notFound) w')
    (herr : ∀ w', World.Le w' w → Q (.error .docker) w') : Effect.wp (remove k) Q w := by
  unfold remove
  refine wp_call (fun e n => ?_) (fun e n w' hle hw => ?_) herr
  · split
    · exact .refl n
    · split
      iterate 3 exact .erase n k
      all_goals exact .refl n
  · cases hc : n.lookup k with
    | none =>
      rw [hc] at hw
      subst hw
      exact hnone w' hle hc
    | some c =>
      rw [hc] at hw
      simp only at hw ⊢
      cases hs : c.state.status with
      | created | exited | dead =>
        rw [hs] at hw
        refine hok w' ?_ (by rw [hw]; exact AList.lookup_erase k n)
        show Node.Le w'.node w.node
        rw [hw]
        exact Node.Le.trans (.erase n k) hle
      | running | paused | restarting | removing | unknown text =>
        rw [hs] at hw
        subst hw
        exact herr w' hle

/-- A container that has been created may have ended meanwhile. -/
theorem wp_run {labels : ContainerLabels} {now : Time} {Q : Except Raised Unit → World → Prop}
    (hok : ∀ w' c, w'.events ⊆ w.events → w'.node.lookup k = some c → c.labels = labels → Q (.ok ()) w')
    (herr : ∀ w', Q (.error .docker) w') : Effect.wp (run k labels now) Q w := by
  unfold run
  refine wp_call_passes (fun e w₁ h => ?_) (fun w₁ _ => herr w₁) fun e w₁ _ => herr _
  cases hc : w₁.node.lookup k with
  | some c => exact herr _
  | none => exact hok _ _ h.events (AList.lookup_insert _) rfl

theorem stop_le (k : OwnerKey) : Effect.Decreases World.Le (stop k) := fun w =>
  wp_stop (Q := fun _ w' => World.Le w' w) (fun _ h => h) (fun _ h _ => h) fun _ h => h

theorem remove_le (k : OwnerKey) : Effect.Decreases World.Le (remove k) := fun w =>
  wp_remove (Q := fun _ w' => World.Le w' w) (fun _ h _ => h) (fun _ h _ => h) fun _ h => h

end Rules

/-! ### Frames -/

/-- The computation only looks. -/
abbrev Reads {α : Type} (m : Docker α) : Prop := Effect.Decreases World.Passes m

section Reads

theorem Reads.pure {α : Type} (a : α) : Reads (Pure.pure a : Docker α) := Effect.Decreases.pure World.Passes.refl a

theorem Reads.throw {α : Type} (e : Raised) : Reads (MonadExcept.throw e : Docker α) :=
  Effect.Decreases.throw World.Passes.refl e

theorem Reads.bind {α β : Type} {m : Docker β} {f : β → Docker α} (hm : Reads m) (hf : ∀ b, Reads (f b)) :
    Reads (m >>= f) :=
  Effect.Decreases.bind (r := World.Passes) World.Passes.trans hm hf

theorem Reads.tryCatch {α : Type} {m : Docker α} {handle : Raised → Docker α} (hm : Reads m)
    (hh : ∀ e, Reads (handle e)) : Reads (MonadExcept.tryCatch m handle) :=
  Effect.Decreases.tryCatch (r := World.Passes) World.Passes.trans hm hh

theorem inspect_reads (k : OwnerKey) : Reads (inspect k) := fun w =>
  wp_inspect_passes (Q := fun _ w' => World.Passes w' w) (fun _ h => h) fun _ h => h

theorem reload_reads (k : OwnerKey) : Reads (reload k) := fun w =>
  wp_reload_passes (Q := fun _ w' => World.Passes w' w) (fun _ _ h _ => h) (fun _ h _ => h) fun _ h => h

theorem list_reads : Reads list := by
  intro w
  have hleft (w₁ : World) (h : World.Passes w₁ w) : World.Passes (w₁.left w₁.node) w := by rwa [World.left_self]
  exact wp_call_passes (Q := fun _ w' => World.Passes w' w) (fun _ w₁ h => hleft w₁ h) (fun _ h => h) fun _ w₁ h => hleft w₁ h

end Reads

/-- What time keeps, and the calls that stop and remove the container of `k`. -/
structure Frame (k : OwnerKey) (r : World → World → Prop) : Prop where
  trans : ∀ {a b c}, r a b → r b c → r a c
  passes : ∀ {w' w}, World.Passes w' w → r w' w
  stop : Effect.Decreases r (stop k)
  remove : Effect.Decreases r (remove k)

section Frame

variable {k : OwnerKey} {r : World → World → Prop}

theorem Frame.reads (h : Frame k r) {α : Type} {m : Docker α} (hm : Reads m) : Effect.Decreases r m :=
  fun w => h.passes (hm w)

theorem Frame.bind (h : Frame k r) {α β : Type} {m : Docker β} {f : β → Docker α} (hm : Effect.Decreases r m)
    (hf : ∀ b, Effect.Decreases r (f b)) : Effect.Decreases r (m >>= f) :=
  Effect.Decreases.bind (r := r) h.trans hm hf

theorem Frame.tryCatch (h : Frame k r) {α : Type} {m : Docker α} {handle : Raised → Docker α}
    (hm : Effect.Decreases r m) (hh : ∀ e, Effect.Decreases r (handle e)) :
    Effect.Decreases r (MonadExcept.tryCatch m handle) :=
  Effect.Decreases.tryCatch (r := r) h.trans hm hh

end Frame

/-! ### Reading a container that nothing changes -/

/-- Nothing changes the owner's container but the agent. -/
def Steady (k : OwnerKey) (w : World) : Prop := ∀ e ∈ w.events, ∀ ch ∈ e.changes, ch.1 ≠ k

instance (k : OwnerKey) (w : World) : Decidable (Steady k w) := by
  unfold Steady
  exact inferInstance

section Steady

variable {k : OwnerKey} {w : World}

theorem lookup_changes {n : Node} {es : List (OwnerKey × Option ContainerState)} (h : ∀ ch ∈ es, ch.1 ≠ k) :
    (es.foldl Node.change n).lookup k = n.lookup k := by
  induction es generalizing n with
  | nil => rfl
  | cons e es ih =>
    rw [List.foldl_cons, ih fun ch hch => h ch (List.mem_cons_of_mem e hch), Node.lookup_change,
      if_neg (h e List.mem_cons_self)]

theorem wp_inspect_steady (hs : Steady k w) {Q : Except Raised (Option Container) → World → Prop}
    (hok : ∀ w', Steady k w' → w'.node.lookup k = w.node.lookup k → Q (.ok (w.node.lookup k)) w')
    (herr : ∀ w', Q (.error .docker) w') : Effect.wp (inspect k) Q w := by
  have hchanges : ∀ ch ∈ (w.events.headD calm).changes, ch.1 ≠ k := by
    cases he : w.events with
    | nil => exact fun _ h => nomatch h
    | cons e es => exact hs e (he ▸ List.mem_cons_self)
  have hlookup := lookup_changes (n := w.node) hchanges
  unfold Effect.wp inspect Docker.call
  simp only
  split
  · rw [hlookup]
    exact hok (w.after _ _) (fun e he => hs e (List.mem_of_mem_tail he)) hlookup
  · exact herr _
  · exact herr _

theorem wp_reload_steady (hs : Steady k w) {c : Container} (hc : w.node.lookup k = some c)
    {Q : Except Raised Container → World → Prop}
    (hok : ∀ w', Steady k w' → w'.node.lookup k = some c → Q (.ok c) w') (herr : ∀ w', Q (.error .docker) w') :
    Effect.wp (reload k) Q w := by
  unfold reload
  rw [Effect.wp_bind]
  refine wp_inspect_steady hs (fun w' hs' he => ?_) herr
  rw [Effect.seq_ok, hc]
  exact hok w' hs' (he.trans hc)

end Steady

/-! ### Docker at rest -/

section Rest

variable {k : OwnerKey} {w : World}

/-- A call to which nothing happens. -/
theorem wp_call_rest {α : Type} {op : DockerEvent → Node → Except Raised α × Node} (hw : w.events = [])
    {Q : Except Raised α → World → Prop}
    (hop : ∀ w', w'.events = [] → w'.node = (op calm w.node).2 → Q (op calm w.node).1 w') :
    Effect.wp (call op) Q w := by
  unfold Effect.wp Docker.call
  rw [hw]
  refine hop (w.after w.node (op calm w.node).2) ?_ rfl
  show w.events.tail = []
  rw [hw]
  rfl

theorem wp_inspect_rest (hw : w.events = []) {Q : Except Raised (Option Container) → World → Prop}
    (hok : ∀ w', w'.events = [] → w'.node = w.node → Q (.ok (w.node.lookup k)) w') : Effect.wp (inspect k) Q w :=
  wp_call_rest hw hok

theorem wp_reload_rest (hw : w.events = []) {c : Container} (hc : w.node.lookup k = some c)
    {Q : Except Raised Container → World → Prop} (hok : ∀ w', w'.events = [] → w'.node = w.node → Q (.ok c) w') :
    Effect.wp (reload k) Q w := by
  unfold reload
  rw [Effect.wp_bind]
  refine wp_inspect_rest hw fun w' hw' hn => ?_
  rw [Effect.seq_ok, hc]
  exact hok w' hw' hn

/-- A container that has ended can be removed. -/
theorem wp_remove_rest (hw : w.events = []) {c : Container} (hc : w.node.lookup k = some c)
    (ht : c.state.status.terminal = true) {Q : Except Raised Unit → World → Prop}
    (hok : ∀ w', w'.node.lookup k = none → Q (.ok ()) w') : Effect.wp (remove k) Q w := by
  refine wp_call_rest hw fun w' _ hn => ?_
  rw [hc] at hn ⊢
  simp only at hn ⊢
  have hgone : (w.node.erase k).lookup k = none := AList.lookup_erase k w.node
  cases hs : c.state.status with
  | exited | dead =>
    rw [hs] at hn
    exact hok w' (by rw [hn]; exact hgone)
  | _ =>
    rw [hs] at ht
    cases ht

end Rest

/-! ### Creating a container -/

/-- Besides containers of `w` with their labels, `w'` has at most a new one of `k`, with labels that
satisfy `P`. -/
def Launches (k : OwnerKey) (P : ContainerLabels → Prop) (w' w : World) : Prop :=
  ∀ k' c', w'.node.lookup k' = some c' →
    (∃ c, w.node.lookup k' = some c ∧ c'.labels = c.labels) ∨ k' = k ∧ P c'.labels

section Launches

variable {k : OwnerKey} {P : ContainerLabels → Prop}

theorem Launches.of_le {w' w : World} (h : World.Le w' w) : Launches k P w' w := by
  intro k' c' hc'
  obtain ⟨c, hc, hl, -⟩ := h k' c' hc'
  exact .inl ⟨c, hc, hl⟩

theorem Launches.trans {a b c : World} (h : Launches k P a b) (h' : Launches k P b c) : Launches k P a c := by
  intro k' x hx
  rcases h k' x hx with ⟨y, hy, hl⟩ | hnew
  · rcases h' k' y hy with ⟨z, hz, hl'⟩ | ⟨hk, hP⟩
    · exact .inl ⟨z, hz, hl.trans hl'⟩
    · exact .inr ⟨hk, by rwa [hl]⟩
  · exact .inr hnew

theorem Launches.frame : Frame k (Launches k P) :=
  ⟨Launches.trans, fun h => .of_le h.le, fun w => .of_le (stop_le k w), fun w => .of_le (remove_le k w)⟩

theorem run_launches {labels : ContainerLabels} (hP : P labels) (now : Time) :
    Effect.Decreases (Launches k P) (run k labels now) := by
  intro w
  have hle := Node.Le.changes w.node (w.events.headD calm).changes
  have hn (w' : World) (h : Node.Le w'.node w.node) : Launches k P w' w := .of_le h
  have hop (n : Node) (h : Node.Le n w.node) (c : Container) (hc : c.labels = labels) (w' : World)
      (hw : w'.node = n.insert k c) : Launches k P w' w := by
    intro k' x hx
    rw [hw] at hx
    by_cases e : k' = k
    · subst e
      rw [AList.lookup_insert] at hx
      cases hx
      exact .inr ⟨rfl, by rwa [hc]⟩
    · rw [AList.lookup_insert_ne e] at hx
      obtain ⟨y, hy, hl, -⟩ := h k' x hx
      exact .inl ⟨y, hy, hl⟩
  unfold run Docker.call
  simp only
  split
  · split
    · exact hn _ hle
    · exact hop _ hle _ rfl _ rfl
  · exact hn _ hle
  · split
    · exact hn _ hle
    · exact hop _ hle _ rfl _ rfl

end Launches

end Docker

end OpenLLMOps
