import OpenLLMOps.Cluster
import OpenLLMOps.ControlPlane.JobLifecycle

/-!
# The container that a delete route addresses

The cleanup command carries `runtime_generation`, or `state_version` while that is
zero, and the agent removes a container of exactly this generation. A claim sets
`runtime_generation` before its START has replaced the old container, and a blocked or
queued-again claim sets it to zero although a container may be left.

`addresses_of_supersedes`: if every START that is no longer waited for has left no
container of another generation, and no queued deployment is stopped while the node
holds one, the command is about the container that is there.
-/

namespace OpenLLMOps

open Framework Vllm

/-- The deployment that the route stops while it is queued. -/
def RouteCall.stopsQueued {casing : Casing} (r : RouteCall casing) (db : Db) : Option (Uuid × Deployment) :=
  match r with
  | .stopDeployment id => ((db.deployments.lookup id).filter fun d => d.actualState = .queued).map fun d => (id, d)
  | _ => none

namespace Cluster

section Target

variable (casing : Casing) (cfg : Settings) (assetPath : Uuid → Option PyStr) (settings : AgentSettings)

/-- A delete route whose command is executed and answered, with Docker at rest, removes the
container and the row. -/
def Removes (s : Cluster) (k : OwnerKey) : Prop :=
  ∀ requestId around s', step cfg assetPath settings s (.delete k requestId (.executed around [] .intact) : Label casing) =
    some s' → s'.agent.node.lookup k = none ∧ s'.plane.db.getRow k = none

/-- The delete route of a row that has ended addresses the container that has ended, and removes it. -/
def Addresses (s : Cluster) : Prop :=
  ∀ k row x, s.plane.db.getRow k = some row → row.isTerminal = true → s.agent.node.lookup k = some x →
    x.state.status.terminal = true →
      row.commandGeneration = x.labels.generation ∧ Removes casing cfg assetPath settings s k

/-- A queued deployment is stopped only if the node holds no container of another generation, and so
is a START when the round ceases to wait for it. -/
def Supersedes {casing : Casing} (s : Cluster) (l : Label casing) (s' : Cluster) : Prop :=
  match l with
  | .plane (.route r) => ∀ m ∈ r.stopsQueued s.plane.db,
    ∀ x ∈ s.agent.node.lookup ⟨.deployment, m.1⟩, x.labels.generation = m.2.runtimeGeneration
  | .plane .abort | .call _ _ _ =>
    ∀ o ∈ s.plane.pc.starting, ∀ x ∈ s'.agent.node.lookup o.key, x.labels.generation = o.generation
  | _ => True

instance {casing : Casing} (s : Cluster) (l : Label casing) (s' : Cluster) : Decidable (Supersedes s l s') := by
  unfold Supersedes
  split <;> exact inferInstance

/-- The container is of the row's generation; or the row is queued without one, or its START is
waited for. -/
def Aligned (pc : Pc) (k : OwnerKey) (row : Row) (x : Container) : Prop :=
  x.labels.generation = row.runtimeGeneration ∨ row.queued = true ∧ row.runtimeGeneration = 0 ∨
    (∃ o ∈ pc.starting, o.key = k) ∧ row.isTerminal = false

/-- The invariant of the containers. -/
structure TargetInv (s : Cluster) : Prop extends Inv s where
  aligned : ∀ k row x, s.plane.db.getRow k = some row → s.agent.node.lookup k = some x →
    Aligned s.plane.pc k row x
  /-- A job in the queue has not been launched. -/
  queued : ∀ k row, k.type ≠ .deployment → s.plane.db.getRow k = some row → row.queued = true →
    s.agent.node.lookup k = none

end Target

/-! ## Rows -/

section Rows

variable {casing : Casing} {cfg : Settings} {assetPath : Uuid → Option PyStr} {settings : AgentSettings} {s s' : Cluster}

theorem deleteRoute_stopsQueued {k : OwnerKey} {answer : Option AgentCommandResponse} {db : Db} :
    (deleteRoute k answer : RouteCall casing).stopsQueued db = none := by
  obtain ⟨t, id⟩ := k
  cases t <;> rfl

/-- A job that is queued after a step was queued before. -/
theorem queued_of_rowStep {s s' : ControlPlane} {k : OwnerKey} {l : OpenLLMOps.Label casing} {row row' : Row}
    (h : RowStep cfg s s' k l row row') (hjob : row.ownerType ≠ .deployment) (hq : row'.queued = true) :
    row.queued = true := by
  have hnot {r : Row} (ht : r.ownerType ≠ .deployment) (hst : r.started = true) (hq : r.queued = true) : False := by
    rw [Row.not_queued_of_started ht hst] at hq
    cases hq
  cases h with
  | kept => exact hq
  | mutated hm =>
    cases hm with
    | update h => exact absurd rfl hjob
    | start id now d => exact absurd rfl hjob
    | stop id d => exact absurd rfl hjob
    | terminate id now j =>
      have he : (Row.training { j with toJobColumns := terminatedJob now j.toJobColumns }).ending = true :=
        terminatedJob_ending now j.toJobColumns
      exact (hnot (by exact nofun) (Row.started_of_ending he) hq).elim
    | cancel id now r =>
      have he : (Row.evaluation { r with toJobColumns := cancelledJob now r.toJobColumns }).ending = true :=
        cancelledJob_ending now r.toJobColumns
      exact (hnot (by exact nofun) (Row.started_of_ending he) hq).elim
  | @observed env c response todo _ _ released hpc hk hg hobs =>
    have ho := observeRow_spec hobs
    cases released with
    | true => exact absurd ((ho.ended rfl).2 hq) hjob
    | false => exact (hnot (by rwa [ho.type]) (Row.started_of_active (ho.active rfl).1) hq).elim
  | @startFailed env c response todo _ message hpc hk hg hna =>
    have hterm : (row.startFailed message env.now).isTerminal = true := by cases row <;> rfl
    exact (hnot (by rwa [(row.startFailed_spec message env.now).1]) (Row.started_of_terminal hterm) hq).elim
  | agentError hpc hk hg => cases row <;> exact hq
  | preflightFailed m hpc hq' ht => exact hq'
  | blocked hpc hq' => exact hq'
  | claimed hpc hq' hpc' => exact hq'

/-- A route on a row without its container's generation: it was not queued, or stays so. -/
theorem Aligned.mutated {pc : Pc} {r : RouteCall casing} {k : OwnerKey} {row row' : Row} {x : Container}
    (h : Aligned pc k row x) (hm : Mutation cfg r k row row') {db : Db} (hr : db.getRow k = some row)
    (hstop : ∀ m ∈ r.stopsQueued db, k = ⟨.deployment, m.1⟩ → x.labels.generation = m.2.runtimeGeneration)
    (hjob : k.type ≠ .deployment → row.queued = false)
    (hactive : k.type ≠ .deployment → (∃ o ∈ pc.starting, o.key = k) → row.active = true) : Aligned pc k row' x := by
  have hgen : row'.runtimeGeneration = row.runtimeGeneration := by
    rcases hm.keeps hr with hk | hq
    · exact hk.generation
    · exact hq.generation
  rcases h with hg | ⟨hq, hz⟩ | ⟨hwait, hterm⟩
  · exact .inl (hg.trans hgen.symm)
  · cases hm with
    | @update id payload d d' hd =>
      obtain ⟨ht, -⟩ := updatedRow_ok hd
      simp only [Row.queued, decide_eq_true_eq] at hq
      rw [hq] at ht
      cases ht
    | start id now d =>
      refine .inr (.inl ⟨?_, hgen.trans hz⟩)
      simp only [Row.queued, decide_eq_true_eq] at hq ⊢
      rw [startedRow, hq]
    | stop id d =>
      obtain ⟨_, hd, e⟩ := Db.getRow_deployment.mp hr
      cases e
      simp only [Row.queued, decide_eq_true_eq] at hq
      refine .inl ((hstop (id, d) ?_ rfl).trans hgen.symm)
      simp [RouteCall.stopsQueued, hd, hq]
    | terminate id now j =>
      rw [hjob (show LeaseOwnerType.training ≠ .deployment by decide)] at hq
      cases hq
    | cancel id now r =>
      rw [hjob (show LeaseOwnerType.evaluation ≠ .deployment by decide)] at hq
      cases hq
  · cases hm with
    | @update id payload d d' hd =>
      obtain ⟨ht, -⟩ := updatedRow_ok hd
      rw [show d.actualState.terminal = false from hterm] at ht
      cases ht
    | start id now d =>
      refine .inr (.inr ⟨hwait, ?_⟩)
      show (startedRow now d).actualState.terminal = false
      have hterm : d.actualState.terminal = false := hterm
      unfold startedRow
      split <;> first | exact hterm | rfl
    | stop id d =>
      obtain ⟨_, hd, e⟩ := Db.getRow_deployment.mp hr
      cases e
      have hterm : d.actualState.terminal = false := hterm
      by_cases hq : d.actualState = .queued
      · refine .inl ((hstop (id, d) ?_ rfl).trans hgen.symm)
        simp [RouteCall.stopsQueued, hd, hq]
      · refine .inr (.inr ⟨hwait, ?_⟩)
        show (stoppedRow d).actualState.terminal = false
        unfold stoppedRow
        split <;> simp_all [DeploymentState.terminal]
    | terminate id now j =>
      have ha : j.actualState.active = true := hactive (show LeaseOwnerType.training ≠ .deployment by decide) hwait
      refine .inr (.inr ⟨hwait, Row.active_not_terminal ?_⟩)
      show (terminatedJob now j.toJobColumns).actualState.active = true
      unfold terminatedJob
      split
      · exact ha
      · rw [(cancelledJob_keeps now j.toJobColumns).1, ha]
    | cancel id now r =>
      have ha : r.actualState.active = true := hactive (show LeaseOwnerType.evaluation ≠ .deployment by decide) hwait
      refine .inr (.inr ⟨hwait, Row.active_not_terminal ?_⟩)
      show (cancelledJob now r.toJobColumns).actualState.active = true
      rw [(cancelledJob_keeps now r.toJobColumns).1, ha]

end Rows

/-! ## Steps -/

section Steps

variable {casing : Casing} {cfg : Settings} {assetPath : Uuid → Option PyStr} {settings : AgentSettings} {s s' : Cluster}

theorem TargetInv.init : TargetInv ⟨⟨.empty, .idle, []⟩, ⟨.empty, ∅⟩⟩ := by
  have hrow (k : OwnerKey) : Db.empty.getRow k = none := by
    obtain ⟨t, id⟩ := k
    cases t <;> rfl
  refine ⟨Inv.init, fun k row x hr _ => ?_, fun k row _ hr _ => ?_⟩ <;> rw [hrow] at hr <;> cases hr

/-- The row of the START that the round waits for. -/
theorem TargetInv.starting_row (h : TargetInv s) {o : LeaseOwner} (ho : s.plane.pc.starting = some o) {row : Row}
    (hr : s.plane.db.getRow o.key = some row) :
    row.runtimeGeneration = o.generation ∧ (o.type ≠ .deployment → row.active = true) := by
  obtain ⟨c, todo, hpc, -, rfl⟩ := starting_eq_some ho
  have hw : c.workload ∈ s.plane.pc.pending := by rw [hpc]; exact List.mem_cons_self
  refine ⟨(h.pending c.workload hw).2.2 row hr, fun ht => ?_⟩
  obtain ⟨row', hr', ha, -⟩ := h.round.jobs c.workload hw ht
  cases hr.symm.trans hr'
  exact ha

/-- A container of the generation that the round has waited for is aligned. -/
theorem TargetInv.aligned_of_started (h : TargetInv s) {o : LeaseOwner} (ho : s.plane.pc.starting = some o) {row : Row}
    (hr : s.plane.db.getRow o.key = some row) {x : Container} (hx : x.labels.generation = o.generation) (pc : Pc) :
    Aligned pc o.key row x := .inl (hx.trans (h.starting_row ho hr).1.symm)

/-- A step of the control plane. -/
theorem TargetInv.plane (h : TargetInv s) {l : OpenLLMOps.Label casing} {plane : ControlPlane}
    (hs : ControlPlane.step cfg assetPath s.plane l = some plane)
    (hstop : ∀ r, l = .route r → ∀ m ∈ r.stopsQueued s.plane.db,
      ∀ x ∈ s.agent.node.lookup ⟨.deployment, m.1⟩, x.labels.generation = m.2.runtimeGeneration)
    (hwait : ∀ o, s.plane.pc.starting = some o → plane.pc.starting = some o ∨
      ∀ x ∈ s.agent.node.lookup o.key, x.labels.generation = o.generation) : TargetInv { s with plane := plane } := by
  refine ⟨h.toInv.plane hs, fun k row' x hr hx => ?_, fun k row' hk hr hq => ?_⟩
  · rcases step_getRow hs hr with ⟨row, hr₀, hstep⟩ | ⟨-, -, hnew⟩
    · have ha := h.aligned k row x hr₀ hx
      have hjob (hk : k.type ≠ .deployment) : row.queued = false := by
        cases hq : row.queued with
        | false => rfl
        | true => rw [h.queued k row hk hr₀ hq] at hx; cases hx
      -- an answer is about a generation that is not zero
      have hheld {w : WorkloadSnapshot} (hw : w ∈ s.plane.pc.pending) (hg : row.runtimeGeneration = w.owner.generation)
          (hno : s.plane.pc.starting = none) : x.labels.generation = row.runtimeGeneration := by
        rcases ha with ha | ⟨-, hz⟩ | ⟨⟨o, ho, -⟩, -⟩
        · exact ha
        · exact absurd (hg.symm.trans hz) (h.round.generations w hw)
        · rw [hno] at ho
          cases ho
      show Aligned plane.pc k row' x
      cases hstep with
      | kept =>
        rcases ha with ha | ha | ⟨⟨o, ho, rfl⟩, hterm⟩
        · exact .inl ha
        · exact .inr (.inl ha)
        · rcases hwait o ho with hkept | hgen
          · exact .inr (.inr ⟨⟨o, hkept, rfl⟩, hterm⟩)
          · exact h.aligned_of_started ho hr₀ (hgen x hx) _
      | @mutated r _ _ hm =>
        have hpc : plane.pc = s.plane.pc := by
          simp only [ControlPlane.step] at hs
          split at hs <;> cases hs
          rfl
        rw [hpc]
        refine ha.mutated hm hr₀ (fun m hmem e => hstop r rfl m hmem x (e ▸ hx)) hjob fun hk hstarting => ?_
        obtain ⟨o, ho, e⟩ := hstarting
        subst e
        exact (h.starting_row ho hr₀).2 hk
      | @observed env c response todo _ _ released hpc hk hg hobs =>
        have hx := hheld (by rw [hpc]; exact List.mem_cons_self) hg (by rw [hpc]; rfl)
        rcases (observeRow_spec hobs).generation with hgen | ⟨hq, hz, -⟩
        · exact .inl (hx.trans hgen.symm)
        · exact .inr (.inl ⟨hq, hz⟩)
      | @startFailed env c response todo _ message hpc hk hg hna =>
        have hx := hheld (by rw [hpc]; exact List.mem_cons_self) hg (by rw [hpc]; rfl)
        exact .inl (hx.trans (row.startFailed_spec message env.now).2.2.2.1.symm)
      | agentError hpc hk hg =>
        have hx := hheld (by rw [hpc]; exact List.mem_cons_self) hg (by rw [hpc]; rfl)
        exact .inl (hx.trans (row.withError_keeps _).generation.symm)
      | preflightFailed m hpc hq ht =>
        rw [hjob (by rwa [← s.plane.db.ownerType_of_getRow hr₀])] at hq
        cases hq
      | blocked hpc hq => exact .inr (.inl ⟨by cases row <;> exact hq, (row.withGeneration_spec 0).2.2.2.1⟩)
      | claimed hpc hq hpc' =>
        refine .inr (.inr ⟨⟨(snapshot k row.claimed _).owner, by rw [hpc']; rfl, rfl⟩, ?_⟩)
        exact Row.active_not_terminal row.claimed_spec.2.2.2.1
    · rw [(h.drawn k hnew).2] at hx
      cases hx
  · rcases step_getRow hs hr with ⟨row, hr₀, hstep⟩ | ⟨-, -, hnew⟩
    · exact h.queued k row hk hr₀ (queued_of_rowStep hstep (by rwa [s.plane.db.ownerType_of_getRow hr₀]) hq)
    · exact (h.drawn k hnew).2

/-- Containers that have the labels of those before. -/
theorem TargetInv.of_labels (h : TargetInv s) {agent : Agent} (hinv : Inv { s with agent := agent })
    (hold : ∀ k x, agent.node.lookup k = some x → ∃ y, s.agent.node.lookup k = some y ∧ x.labels = y.labels) :
    TargetInv { s with agent := agent } := by
  refine ⟨hinv, fun k row x hr hx => ?_, fun k row hk hr hq => ?_⟩
  · obtain ⟨y, hy, e⟩ := hold k x hx
    have ha := h.aligned k row y hr hy
    unfold Aligned at ha ⊢
    rwa [e]
  · cases hx : agent.node.lookup k with
    | none => rfl
    | some x =>
      obtain ⟨y, hy, -⟩ := hold k x hx
      rw [h.queued k row hk hr hq] at hy
      cases hy

/-- The agent executes the command that the round waits for; a START leaves no container of another
generation. -/
theorem TargetInv.call (h : TargetInv s) {c : Call} {todo : List WorkloadSnapshot} (hpc : s.plane.pc = .waiting c todo)
    {requestId : Uuid} {d : Delivery} {agent : Agent}
    (hagent : agent = (s.agent.exchange settings requestId (command c.workload c.action) d).2)
    (hnew : ∀ o, s.plane.pc.starting = some o → ∀ x ∈ agent.node.lookup o.key, x.labels.generation = o.generation) :
    TargetInv { s with agent := agent } := by
  subst hagent
  have hinv : Inv { s with agent := (s.agent.exchange settings requestId (command c.workload c.action) d).2 } :=
    h.toInv.exchange (h.toInv.due_call hpc) requestId d
  have hw : c.workload ∈ s.plane.pc.pending := by rw [hpc]; exact List.mem_cons_self
  have hstarting (ha : c.action = .start) : s.plane.pc.starting = some c.workload.owner := by
    rw [hpc]
    exact if_pos ha
  by_cases ha : c.action = .start
  · refine ⟨hinv, fun k row x hr hx => ?_, fun k row hk hr hq => ?_⟩
    · by_cases e : k = c.workload.owner.key
      · subst e
        exact h.aligned_of_started (hstarting ha) hr (hnew _ (hstarting ha) x hx) _
      · rcases launches_exchange hx with ⟨y, hy, hl⟩ | ⟨hk, -⟩
        · have hal := h.aligned k row y hr hy
          unfold Aligned at hal ⊢
          rwa [hl]
        · exact absurd hk e
    · cases hx : (s.agent.exchange settings requestId (command c.workload c.action) d).2.node.lookup k with
      | none => rfl
      | some x =>
        rcases launches_exchange hx with ⟨y, hy, -⟩ | ⟨e, -⟩
        · rw [h.queued k row hk hr hq] at hy
          cases hy
        · subst e
          have hact := (h.starting_row (hstarting ha) hr).2 hk
          rw [Row.active_not_queued hact] at hq
          cases hq
  · refine h.of_labels hinv fun k x hx => ?_
    rcases launches_exchange hx with hold | ⟨-, hl⟩
    · exact hold
    · exact absurd hl.start ha

/-- The agent executes a cleanup. -/
theorem TargetInv.cleanupCall (h : TargetInv s) (k : OwnerKey) (requestId : Uuid) (d : Delivery) :
    TargetInv { s with agent := (s.cleanupCall settings k requestId d).2 } := by
  refine h.of_labels (h.toInv.cleanupCall k requestId d) fun k' x hx => ?_
  unfold Cluster.cleanupCall at hx
  split at hx
  · exact ⟨x, hx, rfl⟩
  · rename_i c hc
    obtain ⟨row, -, rfl⟩ := Option.map_eq_some_iff.mp hc
    rcases launches_exchange hx with hold | ⟨-, hl⟩
    · exact hold
    · cases hl.start

theorem TargetInv.step {l : Label casing} (h : TargetInv s) (hs : Cluster.step cfg assetPath settings s l = some s')
    (hc : Supersedes s l s') : TargetInv s' := by
  cases step_cases hs with
  | @plane l plane hl hplane =>
    refine h.plane hplane (fun r e => ?_) fun o ho => ?_
    · subst e
      exact hc
    · rcases starting_step hplane hl ho with rfl | hkept
      · exact .inr (hc o ho)
      · exact .inl hkept
  | @call c todo requestId d message _ plane hpc hfresh hl hplane =>
    have hagent := h.call hpc rfl hc
    refine hagent.plane hplane (fun r e => ?_) fun o ho => .inr (hc o ho)
    exact absurd (hl.symm.trans e) outcome_ne_route
  | @delete k requestId d _ plane hfresh hr hplane =>
    have hagent : TargetInv { s with agent := (s.cleanupCall settings k requestId d).2 } := h.cleanupCall k requestId d
    refine hagent.plane hplane (fun r e => ?_) fun o ho => .inl ?_
    · obtain rfl := OpenLLMOps.Label.route.inj e
      rw [hr, deleteRoute_stopsQueued]
      exact fun m hm => by cases hm
    · simp only [ControlPlane.step] at hplane
      split at hplane <;> cases hplane
      exact ho
  | change e =>
    refine h.of_labels (h.toInv.of_le (.change s.agent.node e)) fun k x hx => ?_
    obtain ⟨y, hy, hl, -⟩ := Node.Le.change s.agent.node e k x hx
    exact ⟨y, hy, hl⟩

end Steps

/-! ## Deletion -/

section Deletion

variable {casing : Casing} {cfg : Settings} {assetPath : Uuid → Option PyStr} {settings : AgentSettings} {s : Cluster}

/-- The cleanup removes the container that it addresses, with Docker at rest. -/
theorem wp_cleanup_rest {k : OwnerKey} {g : Nat} {x : Container} {w : World} (hw : w.events = [])
    (hx : w.node.lookup k = some x)
    (howned : x.labels.managed = true ∧ x.labels.trusted = true ∧ x.labels.canonical = true)
    (hg : x.labels.generation = g) (ht : x.state.status.terminal = true) :
    Effect.wp (cleanupContractWorkload k g) (fun r w' => r = .ok () ∧ w'.node.lookup k = none) w := by
  obtain ⟨hm, htr, hcan⟩ := howned
  have hact : x.active = false ∧ x.state.status ≠ .removing := by
    rw [Container.active]
    cases hs : x.state.status with
    | exited | dead => exact ⟨rfl, fun e => by cases e⟩
    | _ => rw [hs] at ht; cases ht
  unfold cleanupContractWorkload
  rw [Effect.wp_bind]
  refine Docker.wp_inspect_rest hw fun w₁ hw₁ hn₁ => ?_
  rw [Effect.seq_ok, hx]
  simp only
  rw [Effect.wp_bind, Effect.wp_tryCatch, Effect.wp_map]
  refine Docker.wp_reload_rest hw₁ (hn₁ ▸ hx) fun w₂ hw₂ hn₂ => ?_
  simp only [Except.map, Effect.seq_ok]
  rw [if_neg (not_not.mpr ⟨hm, htr⟩), if_neg (not_not.mpr hcan), if_neg (not_not.mpr hg),
    if_neg (by rw [hact.1]; decide), if_neg hact.2, if_neg (not_not.mpr ht), Effect.wp_tryCatch]
  exact Docker.wp_remove_rest hw₂ (by rw [hn₂, hn₁, hx]) ht fun w₃ hn => ⟨rfl, hn⟩

/-- A delete route that addresses the container deletes the row. -/
theorem TargetInv.removes (h : TargetInv s) {k : OwnerKey} {row : Row} {x : Container}
    (hr : s.plane.db.getRow k = some row) (hterm : row.isTerminal = true) (hx : s.agent.node.lookup k = some x)
    (ht : x.state.status.terminal = true) (hg : row.commandGeneration = x.labels.generation) :
    Removes casing cfg assetPath settings s k := by
  intro requestId around s' hs
  obtain ⟨howned, hne⟩ := h.owned k x hx
  cases step_cases hs with
  | @delete _ _ _ r plane hfresh hroute hplane =>
    have hsend : RouteCall.cleanup.send s.plane.db k = some (cleanupCommand k row) := by
      have hge : 1 ≤ row.commandGeneration := by omega
      simp [RouteCall.cleanup.send, hr, Option.filter, hterm, hge]
    have hcleanup : Effect.wp (cleanup (cleanupCommand k row))
        (fun r w' => r = .ok acceptedAbsent ∧ w'.node.lookup k = none) ⟨s.agent.node, [], []⟩ := by
      unfold cleanup
      rw [Effect.wp_bind]
      refine Effect.wp_mono (wp_cleanup_rest (w := ⟨s.agent.node, [], []⟩) rfl hx howned hg.symm ht) ?_
      rintro r w' ⟨rfl, hn⟩
      exact ⟨rfl, hn⟩
    have hcall : (s.cleanupCall settings k requestId (.executed around [] .intact)).1 = some acceptedAbsent.response ∧
        (s.cleanupCall settings k requestId (.executed around [] .intact)).2.node.lookup k = none := by
      rcases execute_cases Prod.mk (fun c => dispatch settings around c) (⟨s.agent.node, [], []⟩ : World)
        (c := cleanupCommand k row) (h.rows k row hr).2 hfresh with ⟨message, hstart, -⟩ | ⟨store, -, he⟩
      · cases hstart
      simp only [Cluster.cleanupCall, hsend, Agent.exchange, Agent.execute, he]
      have hres : (dispatch settings around (cleanupCommand k row) ⟨s.agent.node, [], []⟩).1 = .ok acceptedAbsent :=
        hcleanup.1
      rw [hres]
      exact ⟨rfl, hcleanup.2⟩
    refine ⟨hcall.2, ?_⟩
    rw [hroute, hcall.1] at hplane
    simp only [ControlPlane.step] at hplane
    split at hplane <;> cases hplane
    obtain ⟨a, b, hrun⟩ := @deleteRoute_run casing cfg k (some acceptedAbsent.response)
    have hge : ¬ row.commandGeneration < 1 := by omega
    have hok : deleteWorkload a b k (some (some acceptedAbsent.response)) s.plane.db =
        .ok (({ s.plane.db with gpuLeases := releaseAll k s.plane.db.gpuLeases } : Db).delete k) := by
      simp [deleteWorkload, hr, hterm, confirmAbsentAndReleaseLeases, hge, acceptedAbsent, bind, Except.bind]
    simp only [hrun, hok]
    exact (deleted_delete s.plane.db k).row

theorem TargetInv.addresses (h : TargetInv s) : Addresses casing cfg assetPath settings s := by
  intro k row x hr hterm hx ht
  have hgen : row.commandGeneration = x.labels.generation := by
    rcases h.aligned k row x hr hx with hg | ⟨hq, -⟩ | ⟨-, hnot⟩
    · have hne := (h.owned k x hx).2
      rw [Row.commandGeneration, ← hg, if_neg hne]
    · cases row <;> simp_all [Row.queued, Row.isTerminal, DeploymentState.terminal, JobState.terminal]
    · rw [hterm] at hnot
      cases hnot
  exact ⟨hgen, h.removes hr hterm hx ht hgen⟩

/-- In a run in which no START and no stop leaves a container behind, every delete route addresses
the container that is there and removes it. -/
theorem addresses_of_supersedes (casing : Casing) (cfg : Settings) (assetPath : Uuid → Option PyStr)
    (settings : AgentSettings) (ls : List (Label casing))
    (h : (system casing cfg assetPath settings).EachStep Supersedes (system casing cfg assetPath settings).init ls) :
    (system casing cfg assetPath settings).Always (Addresses casing cfg assetPath settings)
      (system casing cfg assetPath settings).init ls := by
  have hstep {s l s'} (h : TargetInv s) (hs : (system casing cfg assetPath settings).step s l = some s')
      (hc : Supersedes s l s') : TargetInv s' := h.step hs hc
  exact System.always_of_invariant hstep TargetInv.addresses TargetInv.init h

end Deletion

section Sample

open Sample

/-- A node on which the deployment can be launched. -/
def Sample.inferenceNode : Surroundings where
  now := 0
  validationErrors := []
  preflight := ⟨.ok ⟨[0], py "http://openllmops-inference:8000", py "generate", 8000⟩, .error .other, .error .other⟩
  busyGpuIds := some []
  training := ⟨.ok (), false, [], fun _ => [], .ok []⟩
  evaluation := ⟨false, .ok []⟩

/-- The call is executed, with Docker at rest, and answered. -/
def Sample.answered (requestId : Uuid) : Label casing := .call requestId (.executed inferenceNode [] .intact) []

/-- The end of a round that claims nothing or has claimed a row. -/
def Sample.roundEnd (now : Time) (group : Uuid) : List (Label casing) :=
  [.plane .endScan, .plane (.reap now), .plane (.claim ⟨now, group, .escape⟩)]

/-- Exited with code 1. -/
def Sample.crashed : ContainerState := ⟨.exited, some 1, none, 0, 0, some 0, some 4⟩

/-- A deployment is started, its container exits, and it is observed FAILED. -/
def Sample.failedDeployment : List (Label casing) :=
  [.plane (.route (.createDeployment 1 payload (.ok ⟨true, .base⟩) 1)), .plane (.begin [])] ++ roundEnd 2 9 ++
    [answered 1, .plane (.apply (observation 3)), .plane (.claim ⟨3, 8, .escape⟩),
      .change (⟨.deployment, 1⟩, some crashed), .plane (.begin [qwen true]), .plane .send, answered 2,
      .plane (.apply (observation 4))] ++ roundEnd 4 7

theorem addresses_failedDeployment :
    (system casing cfg assetPath Agent.defaults).Always (Addresses casing cfg assetPath Agent.defaults)
      (system casing cfg assetPath Agent.defaults).init Sample.failedDeployment :=
  addresses_of_supersedes _ _ _ _ _ (by decide +kernel)

/-- A deployment of another model for the same GPU. -/
def Sample.rival : AcceptedDeployment casing :=
  ⟨⟨py "llama", py "llama", 7, .generate, [0], 1, ⟨some 4096, none, none⟩, []⟩, by decide⟩

/-- The failed deployment is started again, finds its GPU taken and is stopped. -/
def Sample.stoppedWhileBlocked : List (Label casing) :=
  failedDeployment ++
    [.plane (.route (.createDeployment 2 rival (.ok ⟨true, .base⟩) 5)), .plane (.begin [])] ++ roundEnd 5 6 ++
    [.call 3 .lost [], .plane (.apply (observation 6)), .plane (.route (.startDeployment 1 7)),
      .plane (.claim ⟨7, 5, .escape⟩), .plane (.route (.stopDeployment 1))]

/-- The blocked claim has cleared `runtime_generation`, so the cleanup command of a delete route is of
generation 3, and the container of generation 1. -/
theorem blocked_claim_forgets_container :
    ¬ (system casing cfg assetPath Agent.defaults).Always (Addresses casing cfg assetPath Agent.defaults)
      (system casing cfg assetPath Agent.defaults).init Sample.stoppedWhileBlocked := by
  intro h
  have hend : ∃ s ∈ (system casing cfg assetPath Agent.defaults).run
      (system casing cfg assetPath Agent.defaults).init Sample.stoppedWhileBlocked,
      ∃ row ∈ s.plane.db.getRow ⟨.deployment, 1⟩, row.isTerminal = true ∧
        ∃ x ∈ s.agent.node.lookup ⟨.deployment, 1⟩, x.state.status.terminal = true ∧
          row.commandGeneration ≠ x.labels.generation := by
    decide +kernel
  obtain ⟨s, hrun, row, hr, hterm, x, hx, ht, hne⟩ := hend
  exact hne (h.of_run hrun _ row x hr hterm hx ht).1

end Sample

end Cluster

end OpenLLMOps
