import OpenLLMOps.Agent.Truthful
import OpenLLMOps.ControlPlane.Commands
import OpenLLMOps.ControlPlane.Snapshots

/-!
# The control plane with its agent

The control plane and the agent, joined by calls: a command is executed at most once,
while the caller waits for its answer (`Delivery`), and the answer may be lost. The
reconciler's call is one step, from `waiting` to `answered` or `unanswered`. A delete
route makes its call inside its transaction, which holds the lock of its row.

`deletesSafely`: a delete route commits only if the node then holds no container of
the owner, and otherwise changes nothing.
-/

namespace OpenLLMOps

open Framework Vllm

/-! ## Calls -/

/-- How the answer of the agent reaches the control plane. -/
inductive Reply
  | intact
  /-- It does not arrive in time. -/
  | lost
  /-- Its signature, its JSON or its request id is wrong. -/
  | malformed
  deriving DecidableEq

/-- What becomes of a command. -/
inductive Delivery
  /-- It does not reach the agent. -/
  | lost
  /-- The agent executes it. -/
  | executed (around : Surroundings) (events : List DockerEvent) (reply : Reply)

/-- The check that `NodeAgentHTTPClient.execute` makes of an answer that has arrived intact; `none` is
a `NodeAgentError`. -/
def readAnswer (r : CommandResult) : Option AgentCommandResponse :=
  if 400 ≤ r.statusCode ∧ r.statusCode < 500 then
    if r.response.accepted ∨ r.response.observedState ∉ [AgentWorkloadState.absent, .failed] ∨
        orText r.response.errorCode [] = [] then none
    else some r.response
  else if 200 ≤ r.statusCode ∧ r.statusCode < 300 then some r.response
  else none

/-- `NodeAgentHTTPClient.execute`: the answer that the control plane gets, and the agent afterwards. -/
def Agent.exchange (settings : AgentSettings) (s : Agent) (requestId : Uuid) (c : AgentCommand) :
    Delivery → Option AgentCommandResponse × Agent
  | .lost => (none, s)
  | .executed around events reply =>
    let (result, agent) := s.execute settings requestId c around events
    (if reply = .intact then result.bind readAnswer else none, agent)

theorem readAnswer_eq {r : CommandResult} {response : AgentCommandResponse} (h : readAnswer r = some response) :
    r.response = response := by
  unfold readAnswer at h
  split at h
  · split at h <;> [cases h; exact Option.some.inj h]
  · split at h <;> [exact Option.some.inj h; cases h]

/-! ## The system -/

structure Cluster where
  plane : ControlPlane
  agent : Agent

/-- The delete route of a workload, with the outcome of its call. -/
def deleteRoute {casing : Casing} (k : OwnerKey) (answer : Option AgentCommandResponse) : RouteCall casing :=
  match k.type with
  | .deployment => .deleteDeployment k.id (some answer)
  | .training => .deleteTrainingJob k.id (some answer)
  | .evaluation => .deleteEvaluationRun k.id (some answer)

/-- The route makes a call. -/
def RouteCall.calls {casing : Casing} : RouteCall casing → Bool
  | .deleteDeployment _ (some _) | .deleteTrainingJob _ (some _) | .deleteEvaluationRun _ (some _) => true
  | _ => false

/-- The label has the answer to a call, or its loss. -/
def Label.calls {casing : Casing} : Label casing → Bool
  | .answer _ | .noAnswer _ => true
  | .route r => r.calls
  | _ => false

namespace Cluster

inductive Label (casing : Casing)
  /-- A step of the control plane without a call. -/
  | plane (l : OpenLLMOps.Label casing)
  /-- The call that the round waits for; `message` is that of the `NodeAgentError`. -/
  | call (requestId : Uuid) (d : Delivery) (message : PyStr)
  | delete (k : OwnerKey) (requestId : Uuid) (d : Delivery)
  /-- A container changes by itself. -/
  | change (e : OwnerKey × Option ContainerState)

section System

variable (casing : Casing) (cfg : Settings) (assetPath : Uuid → Option PyStr) (settings : AgentSettings)

/-- The call of the delete route: no command is sent if the route finds nothing to delete. -/
def cleanupCall (s : Cluster) (k : OwnerKey) (requestId : Uuid) (d : Delivery) : Option AgentCommandResponse × Agent :=
  match RouteCall.cleanup.send s.plane.db k with
  | none => (none, s.agent)
  | some c => s.agent.exchange settings requestId c d

/-- The label of the control plane that the outcome of a call is. -/
def outcome {casing : Casing} (answer : Option AgentCommandResponse) (message : PyStr) : OpenLLMOps.Label casing :=
  match answer with
  | some response => .answer response
  | none => .noAnswer message

/-- One step. Request ids are those of `uuid4`: the agent has not seen them. -/
def step {casing : Casing} (s : Cluster) : Label casing → Option Cluster
  | .plane l =>
    if l.calls then none else (ControlPlane.step cfg assetPath s.plane l).map fun plane => { s with plane := plane }
  | .call requestId d message =>
    match s.plane.pc with
    | .waiting c _ =>
      if s.agent.store.getRequest requestId = none then
        let (answer, agent) := s.agent.exchange settings requestId (command c.workload c.action) d
        let l : OpenLLMOps.Label casing := outcome answer message
        (ControlPlane.step cfg assetPath s.plane l).map fun plane => ⟨plane, agent⟩
      else none
    | _ => none
  | .delete k requestId d =>
    if s.agent.store.getRequest requestId = none then
      let (answer, agent) := s.cleanupCall settings k requestId d
      let r : RouteCall casing := deleteRoute k answer
      (ControlPlane.step cfg assetPath s.plane (.route r)).map fun plane => ⟨plane, agent⟩
    else none
  | .change e => some { s with agent := { s.agent with node := s.agent.node.change e } }

/-- The cluster on an empty database and a new node. -/
def system : System Cluster (Label casing) where
  init := ⟨(controlPlane casing cfg assetPath).init, (Agent.system settings).init⟩
  step := Cluster.step cfg assetPath settings

end System

section Inversion

variable {casing : Casing} {cfg : Settings} {assetPath : Uuid → Option PyStr} {settings : AgentSettings} {s s' : Cluster}

/-- The inversion of a step. -/
inductive Step (cfg : Settings) (assetPath : Uuid → Option PyStr) (settings : AgentSettings) (s : Cluster) :
    Label casing → Cluster → Prop
  | plane {l : OpenLLMOps.Label casing} {plane : ControlPlane} (hl : l.calls = false)
      (h : ControlPlane.step cfg assetPath s.plane l = some plane) :
      Step cfg assetPath settings s (.plane l) { s with plane := plane }
  | call {c : Call} {todo : List WorkloadSnapshot} {requestId : Uuid} {d : Delivery} {message : PyStr}
      {l : OpenLLMOps.Label casing} {plane : ControlPlane} (hpc : s.plane.pc = .waiting c todo)
      (hfresh : s.agent.store.getRequest requestId = none)
      (hl : l = outcome (s.agent.exchange settings requestId (command c.workload c.action) d).1 message)
      (h : ControlPlane.step cfg assetPath s.plane l = some plane) :
      Step cfg assetPath settings s (.call requestId d message)
        ⟨plane, (s.agent.exchange settings requestId (command c.workload c.action) d).2⟩
  | delete {k : OwnerKey} {requestId : Uuid} {d : Delivery} {r : RouteCall casing} {plane : ControlPlane}
      (hfresh : s.agent.store.getRequest requestId = none)
      (hr : r = deleteRoute k (s.cleanupCall settings k requestId d).1)
      (h : ControlPlane.step cfg assetPath s.plane (.route r) = some plane) :
      Step cfg assetPath settings s (.delete k requestId d) ⟨plane, (s.cleanupCall settings k requestId d).2⟩
  | change (e : OwnerKey × Option ContainerState) :
      Step cfg assetPath settings s (.change e) { s with agent := { s.agent with node := s.agent.node.change e } }

theorem step_cases {l : Label casing} (hs : step cfg assetPath settings s l = some s') :
    Step cfg assetPath settings s l s' := by
  cases l with
  | plane l =>
    simp only [step] at hs
    split at hs <;> [cases hs; skip]
    rename_i hl
    obtain ⟨plane, hplane, rfl⟩ := Option.map_eq_some_iff.mp hs
    exact .plane (Bool.eq_false_iff.mpr hl) hplane
  | call requestId d message =>
    simp only [step] at hs
    split at hs <;> [skip; cases hs]
    rename_i hpc
    split at hs <;> [skip; cases hs]
    rename_i hfresh
    obtain ⟨plane, hplane, rfl⟩ := Option.map_eq_some_iff.mp hs
    exact .call hpc hfresh rfl hplane
  | delete k requestId d =>
    simp only [step] at hs
    split at hs <;> [skip; cases hs]
    rename_i hfresh
    obtain ⟨plane, hplane, rfl⟩ := Option.map_eq_some_iff.mp hs
    exact .delete hfresh rfl hplane
  | change e =>
    cases hs
    exact .change e

theorem outcome_ne_route {answer : Option AgentCommandResponse} {message : PyStr} {r : RouteCall casing} :
    outcome answer message ≠ (.route r : OpenLLMOps.Label casing) := by
  unfold outcome
  split <;> exact fun h => by cases h

/-- Without a call or an abort the round goes on to wait for a START. -/
theorem starting_step {s s' : ControlPlane} {l : OpenLLMOps.Label casing} (hs : ControlPlane.step cfg assetPath s l = some s')
    (hl : l.calls = false) {o : LeaseOwner} (ho : s.pc.starting = some o) :
    l = .abort ∨ s'.pc.starting = some o := by
  obtain ⟨c, todo, hpc, -, -⟩ := starting_eq_some ho
  cases l with
  | route r =>
    simp only [ControlPlane.step] at hs
    split at hs <;> cases hs
    exact .inr ho
  | abort => exact .inl rfl
  | answer response => cases hl
  | noAnswer message => cases hl
  | _ => simp [ControlPlane.step, hpc] at hs

end Inversion

/-! ## Deletion -/

/-- The row and all its leases are deleted, and nothing else. -/
structure Deleted (db db' : Db) (k : OwnerKey) : Prop where
  row : db'.getRow k = none
  leases : db'.leasesOf k = []
  rows : ∀ k', k' ≠ k → db'.getRow k' = db.getRow k'
  others : ∀ k', k' ≠ k → db'.leasesOf k' = db.leasesOf k'

/-- A delete route leaves the database as it is, or deletes the row with its leases when the node
holds no container of the owner. -/
def DeletesSafely {casing : Casing} (s : Cluster) (l : Label casing) (s' : Cluster) : Prop :=
  match l with
  | .delete k _ _ =>
    s'.plane.db = s.plane.db ∨
      (∃ row, s.plane.db.getRow k = some row ∧ row.isTerminal = true) ∧ Deleted s.plane.db s'.plane.db k ∧
        s'.agent.node.lookup k = none
  | _ => True

section Deletion

variable {casing : Casing} {cfg : Settings} {assetPath : Uuid → Option PyStr} {settings : AgentSettings}

theorem deleted_delete (db : Db) (k : OwnerKey) :
    Deleted db (({ db with gpuLeases := releaseAll k db.gpuLeases } : Db).delete k) k := by
  refine ⟨by rw [Db.getRow_delete, if_pos rfl], ?_, fun k' hk => ?_, fun k' hk => ?_⟩
  · rw [Db.leasesOf, Db.gpuLeases_delete]
    exact releaseAll_self k db.gpuLeases
  · rw [Db.getRow_delete, if_neg hk, Db.getRow_withLeases]
  · rw [Db.leasesOf, Db.gpuLeases_delete]
    exact releaseAll_other k' (Ne.symm hk) db.gpuLeases

/-- The three delete routes. -/
theorem deleteRoute_run {k : OwnerKey} {answer : Option AgentCommandResponse} :
    ∃ a b, (deleteRoute k answer : RouteCall casing).run cfg = deleteWorkload a b k (some answer) := by
  obtain ⟨t, id⟩ := k
  cases t <;> exact ⟨_, _, rfl⟩

/-- A cleanup that is answered ABSENT has left no container. -/
theorem exchange_cleanup {s : Agent} {requestId : Uuid} {k : OwnerKey} {row : Row} {d : Delivery}
    {response : AgentCommandResponse} (hfresh : s.store.getRequest requestId = none)
    (h : (s.exchange settings requestId (cleanupCommand k row) d).1 = some response) (ha : response.accepted = true) :
    (s.exchange settings requestId (cleanupCommand k row) d).2.node.lookup k = none := by
  cases d with
  | lost => cases h
  | executed around events reply =>
    simp only [Agent.exchange] at h ⊢
    split at h <;> [skip; cases h]
    obtain ⟨result, hresult, hread⟩ := Option.bind_eq_some_iff.mp h
    have haccepted : result.response.accepted = true := by rw [readAnswer_eq hread, ha]
    unfold Agent.execute at hresult ⊢
    by_cases hg : (cleanupCommand k row).owner.generation < s.store.generation (cleanupCommand k row).owner.key
    · rw [execute_stale Prod.mk (fun c => dispatch settings around c) (⟨s.node, events, []⟩ : World) hg] at hresult
      cases hresult
      cases haccepted
    rcases execute_cases Prod.mk (fun c => dispatch settings around c) (⟨s.node, events, []⟩ : World)
      (Nat.not_lt.mp hg) hfresh with ⟨message, hstart, -⟩ | ⟨store, -, he⟩
    · cases hstart
    rw [he] at hresult ⊢
    have hcleanup : Effect.wp (cleanup (cleanupCommand k row))
        (fun r w' => ∀ result ∈ answer? r, result.response.accepted = true → w'.node.lookup k = none)
        ⟨s.node, events, []⟩ := by
      unfold cleanup
      rw [Effect.wp_bind]
      refine wp_cleanupContractWorkload (fun w₁ _ hn => fun _ _ _ => hn) fun w₁ e _ => fun r hr hr' => ?_
      simp only [answer?, Option.mem_def] at hr
      rw [Raised.result_rejected hr] at hr'
      cases hr'
    exact hcleanup result hresult haccepted

theorem step_deletesSafely {s s' : Cluster} {l : Label casing} (hs : step cfg assetPath settings s l = some s') :
    DeletesSafely s l s' := by
  cases step_cases hs with
  | @delete k requestId d _ plane hfresh hr hplane =>
    subst hr
    simp only [ControlPlane.step] at hplane
    split at hplane <;> cases hplane
    simp only [DeletesSafely]
    obtain ⟨a, b, hrun⟩ := @deleteRoute_run casing cfg k (s.cleanupCall settings k requestId d).1
    rw [hrun]
    split
    · exact .inl rfl
    rename_i db' hok
    obtain ⟨row, hrow, ht, ⟨response, he, ha, hobs⟩, rfl⟩ := deleteWorkload_ok hok
    refine .inr ⟨⟨row, hrow, ht⟩, deleted_delete _ k, ?_⟩
    have he := Option.some.inj he
    unfold cleanupCall at he ⊢
    split at he
    · cases he
    rename_i c hc
    obtain ⟨row', hrow', rfl⟩ := Option.map_eq_some_iff.mp hc
    exact exchange_cleanup hfresh he ha
  | _ => trivial

/-- In every run, from any state, a delete route is safe. -/
theorem deletesSafely (casing : Casing) (cfg : Settings) (assetPath : Uuid → Option PyStr) (settings : AgentSettings)
    (s : Cluster) (ls : List (Label casing)) : (system casing cfg assetPath settings).EachStep DeletesSafely s ls :=
  System.EachStep.of_step (fun hs => step_deletesSafely hs) s ls

end Deletion

/-! ## What holds of every cluster -/

section Exchange

variable {settings : AgentSettings} {s : Agent} {requestId : Uuid} {c : AgentCommand} {d : Delivery} {k : OwnerKey}

/-- A container after a call was there before, or the command has launched it. -/
theorem launches_exchange {x : Container} (hx : (s.exchange settings requestId c d).2.node.lookup k = some x) :
    (∃ y, s.node.lookup k = some y ∧ x.labels = y.labels) ∨ k = c.owner.key ∧ Launched c x.labels := by
  cases d with
  | lost => exact .inl ⟨x, hx, rfl⟩
  | executed around events reply =>
    simp only [Agent.exchange, Agent.execute] at hx
    rcases node_execute Prod.mk (fun c => dispatch settings around c) requestId c s.store (⟨s.node, events, []⟩ : World)
      with e | e <;> rw [e] at hx
    · exact .inl ⟨x, hx, rfl⟩
    · exact @dispatch_launches settings around c ⟨s.node, events, []⟩ k x hx

/-- The watermark of an owner after a call: the old one, or the generation of the command. -/
theorem generation_exchange (k : OwnerKey) :
    (s.exchange settings requestId c d).2.store.generation k = s.store.generation k ∨
      k = c.owner.key ∧ (s.exchange settings requestId c d).2.store.generation k = c.owner.generation := by
  cases d with
  | lost => exact .inl rfl
  | executed around events reply =>
    exact @generation_execute _ _ _ Prod.mk (fun c => dispatch settings around c) requestId c s.store
      ⟨s.node, events, []⟩ k

end Exchange

/-- The invariant of the cluster: the watermark of an owner is not above the generations that
commands about its row carry, and its container is one that a START has launched. -/
structure Inv (s : Cluster) : Prop where
  round : RoundInv s.plane
  rows : ∀ k row, s.plane.db.getRow k = some row →
    row.runtimeGeneration ≤ row.stateVersion ∧ s.agent.store.generation k ≤ row.commandGeneration
  pending : ∀ w ∈ s.plane.pc.pending, w.owner.id ∈ s.plane.used ∧
    s.agent.store.generation w.owner.key ≤ w.owner.generation ∧
    ∀ row, s.plane.db.getRow w.owner.key = some row → row.runtimeGeneration = w.owner.generation
  drawn : ∀ k, k.id ∉ s.plane.used → s.agent.store.generation k = 0 ∧ s.agent.node.lookup k = none
  owned : ∀ k x, s.agent.node.lookup k = some x →
    (x.labels.managed = true ∧ x.labels.trusted = true ∧ x.labels.canonical = true) ∧ x.labels.generation ≠ 0

/-- The command is of the generation of its row and of the round's snapshot of it. -/
structure Due (s : Cluster) (c : AgentCommand) : Prop where
  drawn : c.owner.id ∈ s.plane.used
  generation : c.owner.generation ≠ 0
  row : ∀ row, s.plane.db.getRow c.owner.key = some row → c.owner.generation ≤ row.commandGeneration
  pending : ∀ w ∈ s.plane.pc.pending, w.owner.key = c.owner.key → c.owner.generation ≤ w.owner.generation

section Steps

variable {casing : Casing} {cfg : Settings} {assetPath : Uuid → Option PyStr} {settings : AgentSettings} {s s' : Cluster}

theorem Inv.init : Inv ⟨⟨.empty, .idle, []⟩, ⟨.empty, ∅⟩⟩ := by
  refine ⟨RoundInv.init, fun k row hr => ?_, nofun, fun k _ => ⟨rfl, rfl⟩, fun k x hx => ?_⟩
  · obtain ⟨t, id⟩ := k
    cases t <;> cases hr
  · cases hx

/-- A step of the control plane. -/
theorem Inv.plane (h : Inv s) {l : OpenLLMOps.Label casing} {plane : ControlPlane}
    (hs : ControlPlane.step cfg assetPath s.plane l = some plane) : Inv { s with plane := plane } := by
  have hround := h.round.step hs
  have hused {id : Uuid} (hid : id ∈ s.plane.used) : id ∈ plane.used := by
    rw [step_used hs]
    exact List.mem_append_right _ hid
  have hrows : ∀ k row, plane.db.getRow k = some row →
      row.runtimeGeneration ≤ row.stateVersion ∧ s.agent.store.generation k ≤ row.commandGeneration := by
    intro k row' hr
    rcases step_row hs k row' hr with ⟨row, hr₀, hch⟩ | ⟨hf, -, hnew⟩
    · obtain ⟨hg, hw⟩ := h.rows k row hr₀
      obtain ⟨hg', hle⟩ := hch.commandGeneration_le hg
      exact ⟨hg', hw.trans hle⟩
    · rw [(h.drawn k hnew).1, hf.generation]
      exact ⟨Nat.zero_le _, Nat.zero_le _⟩
  refine ⟨hround, hrows, fun w hw => ?_, fun k hk => h.drawn k fun hid => hk (hused hid), h.owned⟩
  rcases h.round.pending_cases hs with hsub | ⟨hp, -⟩
  · have hw₀ := hsub.subset hw
    obtain ⟨hid, hmark, hgen⟩ := h.pending w hw₀
    refine ⟨hused hid, hmark, fun row' hr => ?_⟩
    rcases h.round.generation_step hs hw₀ hw hr with ⟨row, hr₀, e⟩ | hnew
    · exact e.trans (hgen row hr₀)
    · exact absurd hid hnew
  · obtain ⟨row, hr, ha, hg⟩ := hp w hw
    obtain ⟨hv, hid⟩ := hround.rows _ row hr
    have hmark := (hrows _ row hr).2
    rw [hv.commandGeneration ha, hg] at hmark
    refine ⟨hid, hmark, fun row' hr' => ?_⟩
    cases hr.symm.trans hr'
    exact hg

/-- A call about a due command. -/
theorem Inv.exchange (h : Inv s) {c : AgentCommand} (hc : Due s c) (requestId : Uuid) (d : Delivery) :
    Inv { s with agent := (s.agent.exchange settings requestId c d).2 } := by
  have hmark {k : OwnerKey} {g : Nat} (hold : s.agent.store.generation k ≤ g)
      (hle : k = c.owner.key → c.owner.generation ≤ g) :
      (s.agent.exchange settings requestId c d).2.store.generation k ≤ g := by
    rcases @generation_exchange settings s.agent requestId c d k with e | ⟨hk, e⟩
    · rw [e]
      exact hold
    · rw [e]
      exact hle hk
  refine ⟨h.round, fun k row hr => ?_, fun w hw => ?_, fun k hk => ?_, fun k x hx => ?_⟩
  · refine (h.rows k row hr).imp_right fun hold => hmark hold ?_
    rintro rfl
    exact hc.row row hr
  · obtain ⟨hid, hold, hgen⟩ := h.pending w hw
    exact ⟨hid, hmark hold (hc.pending w hw), hgen⟩
  · have hne : k ≠ c.owner.key := by
      rintro rfl
      exact hk hc.drawn
    obtain ⟨hold, hnone⟩ := h.drawn k hk
    refine ⟨Nat.le_zero.mp (hmark hold.le fun e => absurd e hne), ?_⟩
    cases hx : (s.agent.exchange settings requestId c d).2.node.lookup k with
    | none => rfl
    | some x =>
      rcases launches_exchange hx with ⟨y, hy, -⟩ | ⟨e, -⟩
      · rw [hnone] at hy
        cases hy
      · exact absurd e hne
  · rcases launches_exchange hx with ⟨y, hy, e⟩ | ⟨-, hl⟩
    · rw [e]
      exact h.owned k y hy
    · exact ⟨hl.owned, hl.generation ▸ hc.generation⟩

/-- The command that the round waits for is due. -/
theorem Inv.due_call (h : Inv s) {c : Call} {todo : List WorkloadSnapshot} (hpc : s.plane.pc = .waiting c todo) :
    Due s (command c.workload c.action) := by
  have hw : c.workload ∈ s.plane.pc.pending := by rw [hpc]; exact List.mem_cons_self
  obtain ⟨hid, -, hgen⟩ := h.pending c.workload hw
  have hne := h.round.generations c.workload hw
  refine ⟨hid, hne, fun row hr => ?_, fun w hw' hk => ?_⟩
  · show c.workload.owner.generation ≤ row.commandGeneration
    rw [Row.commandGeneration, hgen row hr, if_neg hne]
  · have e := List.inj_on_of_nodup_map h.round.distinct hw' hw hk
    rw [e]
    exact Nat.le_refl _

/-- The cleanup command of a row is due. -/
theorem Inv.due_cleanup (h : Inv s) {k : OwnerKey} {c : AgentCommand}
    (hc : RouteCall.cleanup.send s.plane.db k = some c) : Due s c := by
  obtain ⟨row, hrow, rfl⟩ := Option.map_eq_some_iff.mp hc
  obtain ⟨hr, hg⟩ := Option.filter_eq_some_iff.mp hrow
  have hg := of_decide_eq_true ((Bool.and_eq_true _ _).mp hg).2
  refine ⟨(h.round.rows k row hr).2, Nat.pos_iff_ne_zero.mp hg, fun row' hr' => ?_, fun w hw hk => ?_⟩
  · cases hr.symm.trans hr'
    exact Nat.le_refl _
  · have hgen := (h.pending w hw).2.2 row (by rw [hk]; exact hr)
    show row.commandGeneration ≤ w.owner.generation
    rw [Row.commandGeneration, hgen, if_neg (h.round.generations w hw)]

/-- A container changes. -/
theorem Inv.of_le (h : Inv s) {node : Node} (hle : Node.Le node s.agent.node) :
    Inv { s with agent := { s.agent with node := node } } := by
  refine ⟨h.round, h.rows, h.pending, fun k hk => (h.drawn k hk).imp_right hle.lookup_none, fun k x hx => ?_⟩
  obtain ⟨y, hy, e, -⟩ := hle k x hx
  rw [e]
  exact h.owned k y hy

theorem Inv.cleanupCall (h : Inv s) (k : OwnerKey) (requestId : Uuid) (d : Delivery) :
    Inv { s with agent := (s.cleanupCall settings k requestId d).2 } := by
  unfold Cluster.cleanupCall
  split
  · exact h
  · rename_i c hc
    exact h.exchange (h.due_cleanup hc) requestId d

end Steps

end Cluster

end OpenLLMOps
