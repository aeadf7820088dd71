import OpenLLMOps.Agent.Natural
import OpenLLMOps.Cluster
import OpenLLMOps.ControlPlane.Cancellation

/-!
# A job that succeeds is not canceled

The cluster with cancellations that do not lock their row, on a node whose containers
change only by themselves. A job whose container exits with code 0 is recorded as
SUCCEEDED, or as FAILED because something about it did not validate (`EndedWell`):

* `JobInv`: an answer that would end a job otherwise is about a container that has not
  succeeded and cannot (`Conclusive`), and stays so until it is applied;
* `naturalSuccess_of_current`: in a run in which every commit of a cancellation finds the
  row as claimed or not as it had read it (`Cancellation.Current`), no STATUS or STOP
  removes a container that has succeeded, and a job that succeeds sometime in the run is
  never CANCELED.
-/

namespace OpenLLMOps

open Framework Vllm

/-! ## Commands about jobs -/

/-- Containers change only by themselves while the command is executed. -/
def Delivery.Undisturbed : Delivery → Prop
  | .lost => True
  | .executed _ events _ => ∀ e ∈ events, ∀ ch ∈ e.changes, ByItself ch

instance (d : Delivery) : Decidable d.Undisturbed := by
  unfold Delivery.Undisturbed
  cases d <;> exact inferInstance

/-- The containers that the agent removes for the command. -/
def Agent.removals (settings : AgentSettings) (s : Agent) (requestId : Uuid) (c : AgentCommand) :
    Delivery → List (OwnerKey × Container)
  | .lost => []
  | .executed around events _ =>
    (OpenLLMOps.execute Prod.mk (fun c => dispatch settings around c) requestId c s.store ⟨s.node, events, []⟩).2.2.removed

section Exchange

variable {settings : AgentSettings} {s : Agent} {requestId : Uuid} {c : AgentCommand} {d : Delivery} {k : OwnerKey}

/-- The container of another owner. -/
theorem keeps_exchange (hd : d.Undisturbed) (hk : k ≠ c.owner.key) :
    Node.Keeps k (s.exchange settings requestId c d).2.node s.node := by
  cases d with
  | lost => exact .of_lookup rfl
  | executed around events reply =>
    simp only [Agent.exchange, Agent.execute]
    rcases node_execute Prod.mk (fun c => dispatch settings around c) requestId c s.store (⟨s.node, events, []⟩ : World)
      with e | e <;> rw [e]
    · exact .of_lookup rfl
    · have htouches := @dispatch_touches settings around c ⟨s.node, events, []⟩
      exact htouches.keeps hd hk

/-- Without a START a container that has not succeeded and cannot stays so. -/
theorem spent_exchange (hd : d.Undisturbed) (ha : c.action ≠ .start) (hs : s.node.Spent k) :
    (s.exchange settings requestId c d).2.node.Spent k := by
  by_cases hk : k = c.owner.key
  · subst hk
    cases d with
    | lost => exact hs
    | executed around events reply =>
      simp only [Agent.exchange, Agent.execute]
      rcases node_execute Prod.mk (fun c => dispatch settings around c) requestId c s.store
        (⟨s.node, events, []⟩ : World) with e | e <;> rw [e]
      · exact hs
      · have hframe := @dispatch_frame settings around c _ (Docker.frame_spent c.owner.key) fun labels hl =>
          absurd hl.start ha
        exact (hframe ⟨s.node, events, []⟩ hd).2 hs
  · exact hs.keeps (keeps_exchange hd hk)

/-- A command about a job, of the generation of the container that is there; a START finds none. -/
structure JobCommand (s : Agent) (requestId : Uuid) (c : AgentCommand) : Prop where
  job : c.owner.type ≠ .deployment
  fresh : s.store.getRequest requestId = none
  generation : s.store.generation c.owner.key ≤ c.owner.generation
  container : ∀ x, s.node.lookup c.owner.key = some x →
    x.labels.managed = true ∧ x.labels.generation = c.owner.generation
  start : c.action = .start → s.node.lookup c.owner.key = none
  empty : c.action ≠ .start → c.execution.isEmpty = true

/-- What the dispatch of a command about a job does. -/
theorem JobCommand.dispatch (h : JobCommand s requestId c) (around : Surroundings) {events : List DockerEvent}
    (hd : ∀ e ∈ events, ∀ ch ∈ e.changes, ByItself ch) :
    Effect.wp (OpenLLMOps.dispatch settings around c)
      (fun r w' => (c.action ≠ .start → World.Keeps c.owner.key w' ⟨s.node, events, []⟩) ∧ Concludes c r w'.node)
      ⟨s.node, events, []⟩ :=
  concludes_dispatch h.job hd h.container h.start h.empty

/-- The container of the job, after STATUS or STOP. -/
theorem JobCommand.keeps (h : JobCommand s requestId c) (hd : d.Undisturbed) (ha : c.action ≠ .start) :
    Node.Keeps c.owner.key (s.exchange settings requestId c d).2.node s.node := by
  cases d with
  | lost => exact .of_lookup rfl
  | executed around events reply =>
    simp only [Agent.exchange, Agent.execute]
    rcases node_execute Prod.mk (fun c => OpenLLMOps.dispatch settings around c) requestId c s.store
      (⟨s.node, events, []⟩ : World) with e | e <;> rw [e]
    · exact .of_lookup rfl
    · exact ((h.dispatch around hd).1 ha).node

/-- The answer that the control plane gets. -/
theorem JobCommand.conclusive (h : JobCommand s requestId c) (hd : d.Undisturbed) {response : AgentCommandResponse}
    (hr : (s.exchange settings requestId c d).1 = some response) :
    Conclusive (s.exchange settings requestId c d).2.node c.owner.key response := by
  cases d with
  | lost => cases hr
  | executed around events reply =>
    simp only [Agent.exchange] at hr ⊢
    split at hr <;> [skip; cases hr]
    obtain ⟨result, hresult, hread⟩ := Option.bind_eq_some_iff.mp hr
    rw [← readAnswer_eq hread]
    unfold Agent.execute at hresult ⊢
    rcases execute_cases Prod.mk (fun c => OpenLLMOps.dispatch settings around c) (⟨s.node, events, []⟩ : World)
      h.generation h.fresh with ⟨message, ha, -, he⟩ | ⟨store, -, he⟩
    · rw [he]
      exact .of_spent (.of_none (h.start ha))
    · rw [he] at hresult ⊢
      exact (h.dispatch around hd).2 result hresult

/-- Neither STATUS nor STOP removes a container that has succeeded. -/
theorem removals_status_stop (hd : d.Undisturbed) (ha : c.action ≠ .start)
    (hjob : c.owner.type ≠ .deployment → JobCommand s requestId c) :
    ∀ e ∈ s.removals settings requestId c d, succeeded e.1.type e.2 = false := by
  intro e he
  cases d with
  | lost =>
    simp only [Agent.removals] at he
    cases he
  | executed around events reply =>
    simp only [Agent.removals] at he
    rcases node_execute Prod.mk (fun c => OpenLLMOps.dispatch settings around c) requestId c s.store
      (⟨s.node, events, []⟩ : World) with hnode | hnode <;> rw [hnode] at he
    · cases he
    by_cases ht : c.owner.type = .deployment
    · have htouches := @dispatch_touches settings around c ⟨s.node, events, []⟩
      rcases htouches.removed e he with he | he
      · cases he
      · rw [he]
        show succeeded c.owner.type e.2 = false
        rw [ht]
        rfl
    · rcases (((hjob ht).dispatch around hd).1 ha).removed e he with he | he
      · cases he
      · exact he

end Exchange

/-! ## Rows of jobs -/

/-- The state of a job. -/
def Row.jobState : Row → Option JobState
  | .deployment _ => none
  | .training j => some j.actualState
  | .evaluation r => some r.actualState

/-- The job has ended as SUCCEEDED, or as FAILED because the metadata or artifacts of a success have
not passed the checks of the control plane or those of the agent. -/
def EndedWell (pc : Pc) (k : OwnerKey) (row : Row) : Prop :=
  row.jobState = some .succeeded ∨ row.jobState = some .failed ∧ ∃ c response todo, pc = .answered c response todo ∧
    c.workload.owner.key = k ∧ (response.observedState = .succeeded ∨
      response.observedState = .failed ∧ response.errorCode = some (py "invalid_workload"))

section Rows

variable {casing : Casing} {cfg : Settings} {assetPath : Uuid → Option PyStr}

theorem Row.unclaimed_of_queued {row : Row} (hjob : row.ownerType ≠ .deployment) (hq : row.queued = true) :
    row.started = false := by
  cases hst : row.started with
  | false => rfl
  | true => rw [Row.not_queued_of_started hjob hst] at hq; cases hq

theorem Row.active_of_started {row : Row} (hst : row.started = true) (ht : row.isTerminal = false) :
    row.active = true := by
  rwa [Row.started, ht, Bool.or_false] at hst

theorem Row.terminal_of_canceled {row : Row} (h : row.jobState = some .canceled) :
    row.isTerminal = true ∧ row.ownerType ≠ .deployment := by
  cases row with
  | deployment d => cases h
  | training j | evaluation j =>
    refine ⟨?_, nofun⟩
    show j.actualState.terminal = true
    rw [Option.some.inj h]
    rfl

theorem EndedWell.not_canceled {pc : Pc} {k : OwnerKey} {row : Row} (h : EndedWell pc k row) :
    row.jobState ≠ some .canceled := by
  rcases h with h | ⟨h, -⟩ <;> rw [h] <;> exact nofun

/-- An answer that ends a job. -/
theorem observeRow_ends {env : ObservationEnv} {response : AgentCommandResponse} {row row' : Row}
    (h : observeRow env response row = .ok (row', true)) (hjob : row.ownerType ≠ .deployment) :
    response.observedState = .absent ∨ response.observedState = .failed ∧ row'.jobState = some .failed ∨
      response.observedState = .succeeded ∧ (row'.jobState = some .succeeded ∨ row'.jobState = some .failed) := by
  cases row with
  | deployment d => exact absurd rfl hjob
  | training j =>
    simp only [observeRow, applyTrainingObservation, bind, Except.bind] at h
    split at h <;> [cases h; skip]
    rename_i p hj
    obtain ⟨j', released⟩ := p
    cases h
    split at hj
    · exact .inl ‹_›
    · refine .inr (.inl ⟨‹_›, ?_⟩)
      split at hj <;> cases hj <;> rfl
    · refine .inr (.inr ⟨‹_›, ?_⟩)
      split at hj <;> [cases hj; (cases hj; exact .inr rfl); skip]
      split at hj <;> cases hj <;> [exact .inr rfl; exact .inl rfl]
    all_goals split at hj <;> cases hj
  | evaluation r =>
    simp only [observeRow, applyEvaluationObservation, bind, Except.bind] at h
    split at h <;> [cases h; skip]
    rename_i p hr
    obtain ⟨r', released⟩ := p
    cases h
    split at hr
    · exact .inl ‹_›
    · refine .inr (.inr ⟨‹_›, ?_⟩)
      split at hr <;> cases hr <;> [exact .inr rfl; exact .inl rfl]
    · cases hr
      exact .inr (.inl ⟨‹_›, rfl⟩)
    all_goals cases hr

/-- A step ends a job that has not been claimed, or applies an answer about it: one that says
SUCCEEDED, or a refusal, ABSENT or FAILED. -/
theorem RowStep.ends {s s' : ControlPlane} {k : OwnerKey} {l : Label casing} {row row' : Row}
    (h : RowStep cfg s s' k l row row') (hjob : row.ownerType ≠ .deployment) (hrow : row.isTerminal = false)
    (hrow' : row'.isTerminal = true) :
    row.started = false ∨ ∃ c response todo, s.pc = .answered c response todo ∧ c.workload.owner.key = k ∧
      (response.observedState = .succeeded ∧ (row'.jobState = some .succeeded ∨ row'.jobState = some .failed) ∨
        (response.accepted = false ∨ response.observedState = .absent ∨ response.observedState = .failed) ∧
          (response.observedState = .failed → row'.jobState = some .failed)) := by
  -- a row that is claimed stays active
  have hactive (hst : row.started = true) (ha : row'.active = row.active) : False := by
    rw [Row.active_of_started hst hrow] at ha
    rw [Row.active_not_terminal ha] at hrow'
    cases hrow'
  have hunclaimed (ha : row'.active = row.active) : row.started = false := by
    cases hst : row.started with
    | false => rfl
    | true => exact (hactive hst ha).elim
  cases h with
  | kept => rw [hrow] at hrow'; cases hrow'
  | mutated hm =>
    cases hm with
    | update h => exact absurd rfl hjob
    | start id now d => exact absurd rfl hjob
    | stop id d => exact absurd rfl hjob
    | terminate id now j =>
      refine .inl (hunclaimed ?_)
      show (terminatedJob now j.toJobColumns).actualState.active = j.actualState.active
      unfold terminatedJob
      split
      · rfl
      · exact (cancelledJob_keeps now j.toJobColumns).1
    | cancel id now r => exact .inl (hunclaimed (cancelledJob_keeps now r.toJobColumns).1)
  | @observed env c response todo _ _ released hpc hk hg hobs =>
    cases released with
    | false =>
      rw [Row.active_not_terminal ((observeRow_spec hobs).active rfl).1] at hrow'
      cases hrow'
    | true =>
      refine .inr ⟨c, response, todo, hpc, hk, ?_⟩
      rcases observeRow_ends hobs hjob with ho | ⟨ho, hf⟩ | ⟨ho, hf⟩
      · exact .inr ⟨.inr (.inl ho), fun e => by rw [ho] at e; cases e⟩
      · exact .inr ⟨.inr (.inr ho), fun _ => hf⟩
      · exact .inl ⟨ho, hf⟩
  | @startFailed env c response todo _ message hpc hk hg hna =>
    refine .inr ⟨c, response, todo, hpc, hk, .inr ⟨.inl hna, fun _ => ?_⟩⟩
    cases row with
    | deployment d => exact absurd rfl hjob
    | training j => rfl
    | evaluation r => rfl
  | @agentError env c message todo _ hpc hk hg =>
    have hsame : (row.withError message).isTerminal = row.isTerminal := by cases row <;> rfl
    rw [hsame, hrow] at hrow'
    cases hrow'
  | preflightFailed m hpc hq ht => exact .inl (Row.unclaimed_of_queued hjob hq)
  | blocked hpc hq => exact .inl (Row.unclaimed_of_queued hjob hq)
  | claimed hpc hq hpc' => exact .inl (Row.unclaimed_of_queued hjob hq)

/-- A job that has been claimed keeps its generation. -/
theorem RowStep.generation {s s' : ControlPlane} {k : OwnerKey} {l : Label casing} {row row' : Row}
    (h : RowStep cfg s s' k l row row') (hr : s.db.getRow k = some row) (hjob : row.ownerType ≠ .deployment)
    (hst : row.started = true) : row'.runtimeGeneration = row.runtimeGeneration := by
  have hclaimed {p : Prop} (hq : row.queued = true) : p := by
    rw [Row.unclaimed_of_queued hjob hq] at hst
    cases hst
  cases h with
  | kept => rfl
  | mutated hm =>
    rcases hm.keeps hr with hk | hq
    · exact hk.generation
    · exact hq.generation
  | observed hpc hk hg hobs =>
    rcases (observeRow_spec hobs).generation with hgen | ⟨-, -, ht⟩
    · exact hgen
    · exact absurd ht hjob
  | @startFailed env c response todo _ message hpc hk hg hna => exact (row.startFailed_spec message env.now).2.2.2.1
  | agentError hpc hk hg => exact (row.withError_keeps _).generation
  | preflightFailed m hpc hq ht => exact hclaimed hq
  | blocked hpc hq => exact hclaimed hq
  | claimed hpc hq hpc' => exact hclaimed hq

end Rows

/-! ## Commits -/

/-- The commit finds the row as claimed or not, as the call had read it, and not ended if it had read
it STARTING or RUNNING. -/
def Cancellation.Current (c : Cancellation) (db : Db) : Prop :=
  ∀ r ∈ db.evaluationRuns.lookup c.id,
    match c.read.actualState with
    | .created | .queued => (Row.evaluation r).started = false
    | .starting | .running => r.actualState.terminal = false
    | .canceling | .canceled | .succeeded | .failed => True

instance (c : Cancellation) (db : Db) : Decidable (c.Current db) := by
  unfold Cancellation.Current
  have (r : EvaluationRun) : Decidable (match c.read.actualState with
      | .created | .queued => (Row.evaluation r).started = false
      | .starting | .running => r.actualState.terminal = false
      | .canceling | .canceled | .succeeded | .failed => True) := by
    split <;> exact inferInstance
  exact inferInstance

/-- What a commit does to the state of its run. -/
inductive CommitStep (r r' : EvaluationRun) : Prop
  | kept (h : r'.actualState = r.actualState)
  | unclaimed (hst : (Row.evaluation r).started = false) (h : r'.actualState = .canceled)
  | active (ha : r.actualState.active = true) (h : r'.actualState = .canceling)

/-- A current commit. -/
theorem Cancellation.Current.step {c : Cancellation} {db : Db} (h : c.Current db) {r : EvaluationRun}
    (hr : db.evaluationRuns.lookup c.id = some r)
    (hst : (Row.evaluation c.read).started = true → (Row.evaluation r).started = true) :
    CommitStep r (c.committed r) := by
  have hstate := committed_actualState c r
  have hcur := h r hr
  have hactive (hread : (Row.evaluation c.read).started = true) (ht : r.actualState.terminal = false) :
      r.actualState.active = true := Row.active_of_started (hst hread) ht
  cases hread : c.read.actualState <;> rw [hread] at hstate hcur
  case created | queued => exact .unclaimed hcur hstate
  case starting | running => exact .active (hactive (by simp [Row.started, Row.active, hread, JobState.active]) hcur) hstate
  case canceling | canceled | succeeded | failed => exact .kept hstate

section CommitStep

variable {r r' : EvaluationRun}

theorem CommitStep.active_iff (h : CommitStep r r') : r'.actualState.active = r.actualState.active := by
  cases h with
  | kept h => rw [h]
  | unclaimed hst h =>
    simp only [Row.started, Bool.or_eq_false_iff] at hst
    rw [h]
    exact hst.1.symm
  | active ha h =>
    rw [h, ha]
    rfl

theorem CommitStep.started (h : CommitStep r r') (hst : (Row.evaluation r).started = true) :
    (Row.evaluation r').started = true := by
  cases h with
  | kept h =>
    simp only [Row.started, Row.active, Row.isTerminal] at hst ⊢
    rwa [h]
  | unclaimed hst' h =>
    rw [hst'] at hst
    cases hst
  | active ha h =>
    refine Row.started_of_active ?_
    show r'.actualState.active = true
    rw [h]
    rfl

theorem CommitStep.terminal (h : CommitStep r r') (ht : r.actualState.terminal = true) :
    r'.actualState = r.actualState := by
  cases h with
  | kept h => exact h
  | unclaimed hst h =>
    have hst' : (Row.evaluation r).started = true := Row.started_of_terminal ht
    rw [hst] at hst'
    cases hst'
  | active ha h =>
    have hnot : (Row.evaluation r).isTerminal = false := Row.active_not_terminal ha
    rw [show (Row.evaluation r).isTerminal = r.actualState.terminal from rfl, ht] at hnot
    cases hnot

end CommitStep

namespace Cluster

/-! ## The system -/

/-- The cluster and the cancellations on their way. -/
structure Sessions extends Cluster where
  cancellations : List Cancellation

inductive SessionLabel (casing : Casing)
  | cluster (l : Label casing)
  | read (id : Uuid) (now : Time)
  | commit (c : Cancellation)

/-- The label is `cancel_evaluation_run` in one step. -/
def Label.cancels {casing : Casing} : Label casing → Bool
  | .plane l => l.cancels
  | .call _ _ _ | .delete _ _ _ | .change _ => false

/-- Containers change only by themselves. -/
def Label.Undisturbed {casing : Casing} : Label casing → Prop
  | .plane _ => True
  | .call _ d _ | .delete _ _ d => d.Undisturbed
  | .change e => ByItself e

instance {casing : Casing} (l : Label casing) : Decidable l.Undisturbed :=
  match l with
  | .plane _ => isTrue trivial
  | .call _ d _ | .delete _ _ d => inferInstanceAs (Decidable d.Undisturbed)
  | .change e => inferInstanceAs (Decidable (ByItself e))

section System

variable (casing : Casing) (cfg : Settings) (assetPath : Uuid → Option PyStr) (settings : AgentSettings)

/-- One step; containers change only by themselves. -/
def Sessions.step {casing : Casing} (s : Sessions) : SessionLabel casing → Option Sessions
  | .cluster l =>
    if l.cancels = false ∧ l.Undisturbed then
      (Cluster.step cfg assetPath settings s.toCluster l).map fun cluster => { s with toCluster := cluster }
    else none
  | .read id now =>
    match s.plane.db.evaluationRuns.lookup id with
    | none => some s
    | some run => some { s with cancellations := ⟨id, now, run⟩ :: s.cancellations }
  | .commit c =>
    if c ∈ s.cancellations then
      some { s with
        plane := { s.plane with db := c.commit s.plane.db }
        cancellations := s.cancellations.erase c }
    else none

/-- The cluster with cancellations that do not lock their row. -/
def sessions : System Sessions (SessionLabel casing) where
  init := ⟨(system casing cfg assetPath settings).init, []⟩
  step := Sessions.step cfg assetPath settings

/-- The container of `k` has exited with code 0. -/
def Succeeded (k : OwnerKey) (s : Sessions) : Prop := ∃ x ∈ s.agent.node.lookup k, succeeded k.type x = true

/-- A STATUS or STOP of the round removes no container of a job that has exited with code 0. -/
def KeepsSucceeded {casing : Casing} (s : Sessions) (l : SessionLabel casing) (_ : Sessions) : Prop :=
  match l, s.plane.pc with
  | .cluster (.call requestId d _), .waiting c _ => c.action ≠ .start →
    ∀ e ∈ s.agent.removals settings requestId (command c.workload c.action) d, succeeded e.1.type e.2 = false
  | _, _ => True

/-- The job is not recorded as CANCELED. -/
def NotCanceled (k : OwnerKey) (s : Sessions) : Prop :=
  ∀ row, s.plane.db.getRow k = some row → row.jobState ≠ some .canceled

/-- If the step ends the job, it ends well. -/
def EndsWell {casing : Casing} (k : OwnerKey) (s : Sessions) (_ : SessionLabel casing) (s' : Sessions) : Prop :=
  ∀ row row', s.plane.db.getRow k = some row → row.isTerminal = false → s'.plane.db.getRow k = some row' →
    row'.isTerminal = true → EndedWell s.plane.pc k row'

/-- Every commit is current. -/
def CommitsCurrent {casing : Casing} (s : Sessions) (l : SessionLabel casing) (_ : Sessions) : Prop :=
  match l with
  | .commit c => c.Current s.plane.db
  | _ => True

instance {casing : Casing} (s : Sessions) (l : SessionLabel casing) (s' : Sessions) :
    Decidable (CommitsCurrent s l s') := by
  unfold CommitsCurrent
  cases l <;> exact inferInstance

/-- No STATUS or STOP removes a container that has succeeded, and a job whose container does so is
not canceled, but ends well. -/
structure NaturalSuccess (ls : List (SessionLabel casing)) : Prop where
  kept : (sessions casing cfg assetPath settings).EachStep (KeepsSucceeded settings)
    (sessions casing cfg assetPath settings).init ls
  ended : ∀ k, k.type ≠ .deployment →
    (sessions casing cfg assetPath settings).Sometime (Succeeded k) (sessions casing cfg assetPath settings).init ls →
    (sessions casing cfg assetPath settings).Always (NotCanceled k) (sessions casing cfg assetPath settings).init ls ∧
      (sessions casing cfg assetPath settings).EachStep (EndsWell k) (sessions casing cfg assetPath settings).init ls

end System

/-! ## The invariant -/

/-- What holds of the rows and the containers of jobs at any point of the round. -/
structure JobBase (s : Sessions) : Prop where
  round : RoundInv s.plane
  pending : ∀ w ∈ s.plane.pc.pending, w.owner.id ∈ s.plane.used
  drawn : ∀ k, k.id ∉ s.plane.used → s.agent.store.generation k = 0 ∧ s.agent.node.lookup k = none
  managed : ∀ k x, s.agent.node.lookup k = some x → x.labels.managed = true
  watermark : ∀ k row, k.type ≠ .deployment → s.plane.db.getRow k = some row → row.active = true →
    s.agent.store.generation k ≤ row.runtimeGeneration
  generation : ∀ k row x, k.type ≠ .deployment → s.plane.db.getRow k = some row → s.agent.node.lookup k = some x →
    x.labels.generation = row.runtimeGeneration
  /-- The agent knows nothing of a job that has not been claimed. -/
  unclaimed : ∀ k row, k.type ≠ .deployment → s.plane.db.getRow k = some row → row.started = false →
    s.agent.store.generation k = 0 ∧ s.agent.node.lookup k = none
  canceled : ∀ k row, s.plane.db.getRow k = some row → row.jobState = some .canceled → s.agent.node.Spent k
  read : ∀ c ∈ s.cancellations, c.id ∈ s.plane.used ∧ ((Row.evaluation c.read).started = true →
    ∀ row, s.plane.db.getRow ⟨.evaluation, c.id⟩ = some row → row.started = true)

/-- The invariant: a job whose START is under way has no container, and an answer is conclusive until
it is applied. -/
structure JobInv (s : Sessions) : Prop extends JobBase s where
  starting : ∀ o, s.plane.pc.starting = some o → o.type ≠ .deployment → s.agent.node.lookup o.key = none
  answered : ∀ c response todo, s.plane.pc = .answered c response todo → c.workload.owner.type ≠ .deployment →
    Conclusive s.agent.node c.workload.owner.key response

section Steps

variable {casing : Casing} {cfg : Settings} {assetPath : Uuid → Option PyStr} {settings : AgentSettings} {s s' : Sessions}

/-- The agent executes a command about a row that is active and of its generation, or about one that
has ended. -/
theorem JobBase.exchange (h : JobBase s) {c : AgentCommand} {d : Delivery} (hd : d.Undisturbed)
    (hused : c.owner.id ∈ s.plane.used)
    (hrow : c.owner.type ≠ .deployment → ∀ row, s.plane.db.getRow c.owner.key = some row →
      row.active = true ∧ row.runtimeGeneration = c.owner.generation ∨ row.isTerminal = true ∧ c.action ≠ .start)
    (requestId : Uuid) : JobBase { s with agent := (s.agent.exchange settings requestId c d).2 } := by
  have hmark {k : OwnerKey} (hk : k ≠ c.owner.key) :
      (s.agent.exchange settings requestId c d).2.store.generation k = s.agent.store.generation k := by
    rcases @generation_exchange settings s.agent requestId c d k with e | ⟨e, -⟩
    · exact e
    · exact absurd e hk
  have hnone {k : OwnerKey} (hk : k ≠ c.owner.key) (hn : s.agent.node.lookup k = none) :
      (s.agent.exchange settings requestId c d).2.node.lookup k = none := (keeps_exchange hd hk).none hn
  refine ⟨h.round, h.pending, fun k hk => ?_, fun k x hx => ?_, fun k row hjob hr ha => ?_,
    fun k row x hjob hr hx => ?_, fun k row hjob hr hst => ?_, fun k row hr hc => ?_, h.read⟩
  · have hne : k ≠ c.owner.key := by
      rintro rfl
      exact hk hused
    obtain ⟨hg, hn⟩ := h.drawn k hk
    exact ⟨(hmark hne).trans hg, hnone hne hn⟩
  · rcases launches_exchange hx with ⟨y, hy, e⟩ | ⟨-, hl⟩
    · rw [e]
      exact h.managed k y hy
    · exact hl.owned.1
  · have hold := h.watermark k row hjob hr ha
    rcases @generation_exchange settings s.agent requestId c d k with e | ⟨rfl, e⟩ <;> rw [e]
    · exact hold
    · rcases hrow hjob row hr with ⟨-, hg⟩ | ⟨ht, -⟩
      · exact hg.ge
      · rw [Row.active_not_terminal ha] at ht
        cases ht
  · rcases launches_exchange hx with ⟨y, hy, e⟩ | ⟨rfl, hl⟩
    · rw [e]
      exact h.generation k row y hjob hr hy
    · rcases hrow hjob row hr with ⟨-, hg⟩ | ⟨-, ha⟩
      · rw [hl.generation, hg]
      · exact absurd hl.start ha
  · have hne : k ≠ c.owner.key := by
      rintro rfl
      rcases hrow hjob row hr with ⟨ha, -⟩ | ⟨ht, -⟩
      · rw [Row.started_of_active ha] at hst
        cases hst
      · rw [Row.started_of_terminal ht] at hst
        cases hst
    obtain ⟨hg, hn⟩ := h.unclaimed k row hjob hr hst
    exact ⟨(hmark hne).trans hg, hnone hne hn⟩
  · have hs := h.canceled k row hr hc
    by_cases hk : k = c.owner.key
    · subst hk
      obtain ⟨ht, hjob⟩ := Row.terminal_of_canceled hc
      rw [s.plane.db.ownerType_of_getRow hr] at hjob
      rcases hrow hjob row hr with ⟨ha, -⟩ | ⟨-, ha⟩
      · rw [Row.active_not_terminal ha] at ht
        cases ht
      · exact spent_exchange hd ha hs
    · exact hs.keeps (keeps_exchange hd hk)

/-- Containers change by themselves. -/
theorem JobInv.of_keeps (h : JobInv s) {node : Node} (hk : ∀ k, Node.Keeps k node s.agent.node) :
    JobInv { s with agent := { s.agent with node := node } } where
  round := h.round
  pending := h.pending
  drawn k hnew := (h.drawn k hnew).imp_right (hk k).none
  managed k x hx := by
    obtain ⟨y, hy, e, -⟩ := (hk k).old x hx
    rw [e]
    exact h.managed k y hy
  watermark := h.watermark
  generation k row x hjob hr hx := by
    obtain ⟨y, hy, e, -⟩ := (hk k).old x hx
    rw [e]
    exact h.generation k row y hjob hr hy
  unclaimed k row hjob hr hst := (h.unclaimed k row hjob hr hst).imp_right (hk k).none
  canceled k row hr hc := (h.canceled k row hr hc).keeps (hk k)
  read := h.read
  starting o ho hjob := (hk o.key).none (h.starting o ho hjob)
  answered c response todo hpc hjob := (h.answered c response todo hpc hjob).keeps (hk _)

theorem noLateCancel {plane : ControlPlane} {l : OpenLLMOps.Label casing} (hl : l.cancels = false) (k : OwnerKey) :
    NoLateCancel plane l k := by
  rintro id now rfl
  cases hl

/-- A step of the control plane that ends a job ends it well, or its container has not succeeded and
cannot. -/
theorem JobBase.ends (h : JobBase s) (hans : ∀ c response todo, s.plane.pc = .answered c response todo →
      c.workload.owner.type ≠ .deployment → Conclusive s.agent.node c.workload.owner.key response)
    {l : OpenLLMOps.Label casing} {plane : ControlPlane} (hs : ControlPlane.step cfg assetPath s.plane l = some plane)
    {k : OwnerKey} (hjob : k.type ≠ .deployment) {row row' : Row} (hr : s.plane.db.getRow k = some row)
    (hrow : row.isTerminal = false) (hr' : plane.db.getRow k = some row') (hrow' : row'.isTerminal = true) :
    EndedWell s.plane.pc k row' ∨ s.agent.node.Spent k := by
  rcases step_getRow hs hr' with ⟨row₀, hr₀, hstep⟩ | ⟨-, -, hnew⟩
  · cases hr.symm.trans hr₀
    have htype : row.ownerType ≠ .deployment := by rwa [s.plane.db.ownerType_of_getRow hr]
    rcases hstep.ends htype hrow hrow' with hst | ⟨c, response, todo, hpc, rfl, hends⟩
    · exact .inr (.of_none (h.unclaimed k row hjob hr hst).2)
    rcases hends with ⟨ho, hstate⟩ | ⟨hrefused, hfailed⟩
    · refine .inl (hstate.imp_right fun hf => ⟨hf, c, response, todo, hpc, rfl, .inl ho⟩)
    · rcases hans c response todo hpc hjob hrefused with ⟨ho, he⟩ | hspent
      · exact .inl (.inr ⟨hfailed ho, c, response, todo, hpc, rfl, .inr ⟨ho, he⟩⟩)
      · exact .inr hspent
  · exact absurd (h.round.rows k row hr).2 hnew

/-- A step of the control plane. -/
theorem JobBase.plane (h : JobBase s) (hans : ∀ c response todo, s.plane.pc = .answered c response todo →
      c.workload.owner.type ≠ .deployment → Conclusive s.agent.node c.workload.owner.key response)
    {l : OpenLLMOps.Label casing} {plane : ControlPlane} (hs : ControlPlane.step cfg assetPath s.plane l = some plane)
    (hl : l.cancels = false) : JobBase { s with plane := plane } := by
  have hround := h.round.step hs
  have hused {id : Uuid} (hid : id ∈ s.plane.used) : id ∈ plane.used := by
    rw [step_used hs]
    exact List.mem_append_right _ hid
  refine ⟨hround, fun w hw => ?_, fun k hk => h.drawn k fun hid => hk (hused hid), h.managed,
    fun k row' hjob hr ha => ?_, fun k row' x hjob hr hx => ?_, fun k row' hjob hr hst => ?_, fun k row' hr hc => ?_,
    fun c hc => ⟨hused (h.read c hc).1, ?_⟩⟩
  · rcases h.round.pending_cases hs with hsub | ⟨hp, -⟩
    · exact hused (h.pending w (hsub.subset hw))
    · obtain ⟨row, hr, -⟩ := hp w hw
      exact (hround.rows _ row hr).2
  · rcases step_getRow hs hr with ⟨row, hr₀, hstep⟩ | ⟨-, -, hnew⟩
    · have htype : row.ownerType ≠ .deployment := by rwa [s.plane.db.ownerType_of_getRow hr₀]
      cases hst : row.started with
      | false =>
        rw [(h.unclaimed k row hjob hr₀ hst).1]
        exact Nat.zero_le _
      | true =>
        rw [hstep.generation hr₀ htype hst]
        refine h.watermark k row hjob hr₀ (Row.active_of_started hst ?_)
        cases ht : row.isTerminal with
        | false => rfl
        | true =>
          rcases h.round.job_step hs hjob (noLateCancel hl k) hr with ⟨row₁, hr₁, hch⟩ | hnew
          · cases hr₀.symm.trans hr₁
            rw [hch.terminal ht, Row.inactive_of_terminal ht] at ha
            cases ha
          · exact absurd (h.round.rows k row hr₀).2 hnew
    · rw [(h.drawn k hnew).1]
      exact Nat.zero_le _
  · rcases step_getRow hs hr with ⟨row, hr₀, hstep⟩ | ⟨-, -, hnew⟩
    · have htype : row.ownerType ≠ .deployment := by rwa [s.plane.db.ownerType_of_getRow hr₀]
      cases hst : row.started with
      | false =>
        rw [(h.unclaimed k row hjob hr₀ hst).2] at hx
        cases hx
      | true =>
        rw [hstep.generation hr₀ htype hst]
        exact h.generation k row x hjob hr₀ hx
    · rw [(h.drawn k hnew).2] at hx
      cases hx
  · rcases h.round.job_step hs hjob (noLateCancel hl k) hr with ⟨row, hr₀, hch⟩ | hnew
    · refine h.unclaimed k row hjob hr₀ ?_
      cases hst₀ : row.started with
      | false => rfl
      | true =>
        rw [hch.started hst₀] at hst
        cases hst
    · exact h.drawn k hnew
  · obtain ⟨ht', hjob⟩ := Row.terminal_of_canceled hc
    rw [plane.db.ownerType_of_getRow hr] at hjob
    rcases h.round.job_step hs hjob (noLateCancel hl k) hr with ⟨row, hr₀, hch⟩ | hnew
    · cases ht : row.isTerminal with
      | true =>
        rw [hch.terminal ht] at hc
        exact h.canceled k row hr₀ hc
      | false => exact (h.ends hans hs hjob hr₀ ht hr ht').resolve_left fun hw => hw.not_canceled hc
    · exact .of_none (h.drawn k hnew).2
  · intro hread row' hr
    rcases h.round.job_step hs (show LeaseOwnerType.evaluation ≠ .deployment by decide) (noLateCancel hl _) hr with
      ⟨row, hr₀, hch⟩ | hnew
    · exact hch.started ((h.read c hc).2 hread row hr₀)
    · exact absurd (h.read c hc).1 hnew

/-- A current commit. -/
theorem JobBase.commit (h : JobBase s) {c : Cancellation} (hc : c ∈ s.cancellations) (hcur : c.Current s.plane.db) :
    JobBase { s with
      plane := { s.plane with db := c.commit s.plane.db }
      cancellations := s.cancellations.erase c } := by
  have hcommit {r : EvaluationRun} (hlook : s.plane.db.evaluationRuns.lookup c.id = some r) : CommitStep r (c.committed r) :=
    hcur.step hlook fun hread => (h.read c hc).2 hread _ (Db.getRow_evaluation.mpr ⟨r, hlook, rfl⟩)
  have hrow {r : EvaluationRun} (hlook : s.plane.db.evaluationRuns.lookup c.id = some r) :
      s.plane.db.getRow ⟨.evaluation, c.id⟩ = some (.evaluation r) := Db.getRow_evaluation.mpr ⟨r, hlook, rfl⟩
  have hjob : (⟨.evaluation, c.id⟩ : OwnerKey).type ≠ .deployment := nofun
  have hround : RoundInv { s.plane with db := c.commit s.plane.db } := by
    refine ⟨fun k row' hr => ?_, h.round.generations, h.round.distinct, fun w hw hjob => ?_⟩
    · rcases commit_getRow hr with hr | ⟨rfl, r, hlook, rfl⟩
      · exact h.round.rows k row' hr
      obtain ⟨hv, hu⟩ := h.round.rows _ _ (hrow hlook)
      refine ⟨⟨?_, fun ha => ?_⟩, hu⟩
      · show 1 ≤ (c.committed r).stateVersion
        rw [committed_version]
        omega
      · show (c.committed r).runtimeGeneration ≠ 0
        rw [(committed_keeps c r).1]
        exact hv.active ((hcommit hlook).active_iff.symm.trans ha)
    · exact (h.round.jobs w hw hjob).commit fun r hlook _ ha => (hcommit hlook).active_iff.trans ha
  refine ⟨hround, h.pending, h.drawn, h.managed, fun k row' ht hr ha => ?_, fun k row' x ht hr hx => ?_,
    fun k row' ht hr hst => ?_, fun k row' hr hcan => ?_, fun c' hc' => ?_⟩
  · rcases commit_getRow hr with hr | ⟨rfl, r, hlook, rfl⟩
    · exact h.watermark k row' ht hr ha
    · have hold := h.watermark _ _ hjob (hrow hlook) ((hcommit hlook).active_iff.symm.trans ha)
      show _ ≤ (c.committed r).runtimeGeneration
      rwa [(committed_keeps c r).1]
  · rcases commit_getRow hr with hr | ⟨rfl, r, hlook, rfl⟩
    · exact h.generation k row' x ht hr hx
    · show _ = (c.committed r).runtimeGeneration
      rw [(committed_keeps c r).1]
      exact h.generation _ _ x hjob (hrow hlook) hx
  · rcases commit_getRow hr with hr | ⟨rfl, r, hlook, rfl⟩
    · exact h.unclaimed k row' ht hr hst
    · refine h.unclaimed _ _ hjob (hrow hlook) ?_
      cases hst₀ : (Row.evaluation r).started with
      | false => rfl
      | true =>
        rw [(hcommit hlook).started hst₀] at hst
        cases hst
  · rcases commit_getRow hr with hr | ⟨rfl, r, hlook, rfl⟩
    · exact h.canceled k row' hr hcan
    · have hcan : (c.committed r).actualState = .canceled := Option.some.inj hcan
      cases hcommit hlook with
      | kept he => exact h.canceled _ _ (hrow hlook) (congrArg some (he.symm.trans hcan))
      | unclaimed hst he => exact .of_none (h.unclaimed _ _ hjob (hrow hlook) hst).2
      | active ha he =>
        rw [he] at hcan
        cases hcan
  · obtain ⟨hid, hread⟩ := h.read c' (List.mem_of_mem_erase hc')
    refine ⟨hid, fun hst row' hr => ?_⟩
    rcases commit_getRow hr with hr | ⟨e, r, hlook, rfl⟩
    · exact hread hst row' hr
    · have hid : c'.id = c.id := congrArg OwnerKey.id e
      refine (hcommit hlook).started (hread hst _ ?_)
      rw [hid]
      exact hrow hlook

/-- The command that the round waits for is about a job of its generation. -/
theorem JobInv.command (h : JobInv s) {c : Call} {todo : List WorkloadSnapshot} (hpc : s.plane.pc = .waiting c todo)
    {requestId : Uuid} (hfresh : s.agent.store.getRequest requestId = none) (hjob : c.workload.owner.type ≠ .deployment) :
    JobCommand s.agent requestId (command c.workload c.action) ∧
      ∃ row, s.plane.db.getRow c.workload.owner.key = some row ∧ row.active = true ∧
        row.runtimeGeneration = c.workload.owner.generation := by
  have hw : c.workload ∈ s.plane.pc.pending := by rw [hpc]; exact List.mem_cons_self
  obtain ⟨row, hr, ha, hg⟩ := h.round.jobs c.workload hw hjob
  refine ⟨⟨hjob, hfresh, ?_, fun x hx => ⟨h.managed _ x hx, ?_⟩, fun hstart => ?_, fun hne => ?_⟩, row, hr, ha, hg⟩
  · exact (h.watermark _ row hjob hr ha).trans hg.le
  · exact (h.generation _ row x hjob hr hx).trans hg
  · refine h.starting c.workload.owner ?_ hjob
    rw [hpc]
    exact if_pos hstart
  · show (if c.action = .start then c.workload.execution else Execution.empty).isEmpty = true
    rw [if_neg (show c.action ≠ .start from hne)]
    rfl

theorem outcome_db {s s' : ControlPlane} {c : Call} {todo : List WorkloadSnapshot} (hpc : s.pc = .waiting c todo)
    {answer : Option AgentCommandResponse} {message : PyStr}
    (hs : ControlPlane.step cfg assetPath s (outcome answer message : OpenLLMOps.Label casing) = some s') :
    s'.db = s.db := by
  cases answer with
  | none | some =>
    simp only [outcome, ControlPlane.step, hpc] at hs
    cases hs
    rfl

/-- After the call the round has its answer, or none. -/
theorem outcome_pc {s s' : ControlPlane} {c : Call} {todo : List WorkloadSnapshot} (hpc : s.pc = .waiting c todo)
    {answer : Option AgentCommandResponse} {message : PyStr}
    (hs : ControlPlane.step cfg assetPath s (outcome answer message : OpenLLMOps.Label casing) = some s') :
    (∃ response, answer = some response ∧ s'.pc = .answered c response todo) ∨
      answer = none ∧ s'.pc = .unanswered c message todo := by
  cases answer with
  | none =>
    simp only [outcome, ControlPlane.step, hpc] at hs
    cases hs
    exact .inr ⟨rfl, rfl⟩
  | some response =>
    simp only [outcome, ControlPlane.step, hpc] at hs
    cases hs
    exact .inl ⟨response, rfl, rfl⟩

/-- The round comes to wait for a START by a claim. -/
theorem starting_of_step {s s' : ControlPlane} {l : OpenLLMOps.Label casing}
    (hs : ControlPlane.step cfg assetPath s l = some s') {o : LeaseOwner} (ho : s'.pc.starting = some o) :
    s.pc.starting = some o ∨ ∃ row, s.db.getRow o.key = some row ∧ row.queued = true := by
  obtain ⟨c, todo, hpc, ha, rfl⟩ := starting_eq_some ho
  have hclaimed (hc : l.sends s.db s'.pc = some (command c.workload c.action)) :
      ∃ row, s.db.getRow c.workload.owner.key = some row ∧ row.queued = true := by
    obtain ⟨row, hr, hq, -⟩ := SendsStart.claimed ⟨command c.workload c.action, hc, ha, rfl⟩ hs
    exact ⟨row, hr, hq⟩
  cases l with
  | send | apply | claim => exact .inr (hclaimed (by simp only [Label.sends, hpc]))
  | route r =>
    simp only [ControlPlane.step] at hs
    split at hs <;> cases hs
    exact .inl ho
  | begin | endScan | reap | answer | noAnswer =>
    simp only [ControlPlane.step] at hs
    split at hs <;> cases hs
    cases hpc
  | abort =>
    simp only [ControlPlane.step] at hs
    cases hs
    cases hpc

/-- The round makes a call. -/
theorem JobInv.call (h : JobInv s) {c : Call} {todo : List WorkloadSnapshot} (hpc : s.plane.pc = .waiting c todo)
    {requestId : Uuid} (hfresh : s.agent.store.getRequest requestId = none) {d : Delivery} (hd : d.Undisturbed)
    {message : PyStr} {l : OpenLLMOps.Label casing}
    (hl : l = outcome (s.agent.exchange settings requestId (OpenLLMOps.command c.workload c.action) d).1 message)
    {plane : ControlPlane} (hs : ControlPlane.step cfg assetPath s.plane l = some plane) :
    JobInv { s with
      plane := plane
      agent := (s.agent.exchange settings requestId (OpenLLMOps.command c.workload c.action) d).2 } := by
  have hw : c.workload ∈ s.plane.pc.pending := by rw [hpc]; exact List.mem_cons_self
  have hagent : JobBase { s with
      agent := (s.agent.exchange settings requestId (OpenLLMOps.command c.workload c.action) d).2 } := by
    refine h.toJobBase.exchange hd (h.pending _ hw) (fun hjob row hr => ?_) requestId
    obtain ⟨-, row₁, hr₁, ha, hg⟩ := h.command hpc hfresh hjob
    cases hr.symm.trans hr₁
    exact .inl ⟨ha, hg⟩
  have hcancels : l.cancels = false := by
    rw [hl]
    unfold outcome
    split <;> rfl
  refine ⟨hagent.plane (fun c' response todo' hpc' => ?_) hs hcancels, fun o ho => ?_, fun c' response todo' hpc' hjob => ?_⟩
  · rw [show _ = Pc.waiting c todo from hpc] at hpc'
    cases hpc'
  · obtain ⟨c', todo', hpc', -⟩ := starting_eq_some ho
    rcases outcome_pc hpc (hl ▸ hs) with ⟨response, -, e⟩ | ⟨-, e⟩ <;> rw [e] at hpc' <;> cases hpc'
  · rcases outcome_pc hpc (hl ▸ hs) with ⟨response, hanswer, e⟩ | ⟨-, e⟩ <;> rw [e] at hpc' <;> cases hpc'
    exact (h.command hpc hfresh hjob).1.conclusive hd hanswer

/-- A step of the control plane without an answer. -/
theorem JobInv.plane (h : JobInv s) {l : OpenLLMOps.Label casing} {plane : ControlPlane}
    (hs : ControlPlane.step cfg assetPath s.plane l = some plane) (hl : l.cancels = false)
    (hanswer : ∀ response, l ≠ .answer response) : JobInv { s with plane := plane } := by
  refine ⟨h.toJobBase.plane h.answered hs hl, fun o ho hjob => ?_, fun c response todo hpc hjob => ?_⟩
  · rcases starting_of_step hs ho with ho | ⟨row, hr, hq⟩
    · exact h.starting o ho hjob
    · have htype : row.ownerType ≠ .deployment := by rwa [s.plane.db.ownerType_of_getRow hr]
      exact (h.unclaimed o.key row hjob hr (Row.unclaimed_of_queued htype hq)).2
  · exact h.answered c response todo (answered_of_step hs hanswer hpc) hjob

/-- The cleanup command of a delete route is about a row that has ended. -/
theorem JobInv.cleanupCall (h : JobInv s) {k : OwnerKey} {requestId : Uuid} {d : Delivery} (hd : d.Undisturbed) :
    JobInv { s with agent := (s.toCluster.cleanupCall settings k requestId d).2 } := by
  unfold Cluster.cleanupCall
  split
  · exact h
  rename_i c hc
  obtain ⟨row, hrow, rfl⟩ := Option.map_eq_some_iff.mp hc
  obtain ⟨hr, ht⟩ := Option.filter_eq_some_iff.mp hrow
  have ht := ((Bool.and_eq_true _ _).mp ht).1
  have hbase : JobBase { s with agent := (s.agent.exchange settings requestId (cleanupCommand k row) d).2 } := by
    refine h.toJobBase.exchange hd (h.round.rows k row hr).2 (fun _ row' hr' => ?_) requestId
    cases hr.symm.trans hr'
    exact .inr ⟨ht, nofun⟩
  -- what the round holds is active
  have hne {w : WorkloadSnapshot} (hw : w ∈ s.plane.pc.pending) (hjob : w.owner.type ≠ .deployment) : w.owner.key ≠ k := by
    rintro rfl
    obtain ⟨row', hr', ha, -⟩ := h.round.jobs w hw hjob
    cases hr.symm.trans hr'
    rw [Row.active_not_terminal ha] at ht
    cases ht
  refine ⟨hbase, fun o ho hjob => ?_, fun c response todo hpc hjob => ?_⟩
  · have ho : s.plane.pc.starting = some o := ho
    obtain ⟨c, todo, hpc, -, rfl⟩ := starting_eq_some ho
    have hw : c.workload ∈ s.plane.pc.pending := by rw [hpc]; exact List.mem_cons_self
    exact (keeps_exchange hd (hne hw hjob)).none (h.starting _ ho hjob)
  · have hpc : s.plane.pc = .answered c response todo := hpc
    have hw : c.workload ∈ s.plane.pc.pending := by rw [hpc]; exact List.mem_cons_self
    exact (h.answered c response todo hpc hjob).keeps (keeps_exchange hd (hne hw hjob))

theorem deleteRoute_cancels {k : OwnerKey} {answer : Option AgentCommandResponse} :
    (.route (deleteRoute k answer) : OpenLLMOps.Label casing).cancels = false := by
  obtain ⟨t, id⟩ := k
  cases t <;> rfl

/-- A cancellation reads its row. -/
theorem JobInv.reads (h : JobInv s) {id : Uuid} {run : EvaluationRun}
    (hlook : s.plane.db.evaluationRuns.lookup id = some run) (now : Time) :
    JobInv { s with cancellations := ⟨id, now, run⟩ :: s.cancellations } := by
  have hrow : s.plane.db.getRow ⟨.evaluation, id⟩ = some (.evaluation run) := Db.getRow_evaluation.mpr ⟨run, hlook, rfl⟩
  refine { h with read := fun c hc => ?_ }
  rcases List.mem_cons.mp hc with rfl | hc
  · refine ⟨(h.round.rows _ _ hrow).2, fun hread row hr => ?_⟩
    cases hrow.symm.trans hr
    exact hread
  · exact h.toJobBase.read c hc

/-- A current commit leaves the round and its answers as they are. -/
theorem JobInv.commit (h : JobInv s) {c : Cancellation} (hc : c ∈ s.cancellations) (hcur : c.Current s.plane.db) :
    JobInv { s with
      plane := { s.plane with db := c.commit s.plane.db }
      cancellations := s.cancellations.erase c } :=
  { h.toJobBase.commit hc hcur with
    starting := h.starting
    answered := h.answered }

/-- The inversion of a step. -/
inductive Sessions.Step (cfg : Settings) (assetPath : Uuid → Option PyStr) (settings : AgentSettings) (s : Sessions) :
    SessionLabel casing → Sessions → Prop
  | plane {l : OpenLLMOps.Label casing} {plane : ControlPlane} (hcancels : l.cancels = false)
      (hanswer : ∀ response, l ≠ .answer response) (h : ControlPlane.step cfg assetPath s.plane l = some plane) :
      Step cfg assetPath settings s (.cluster (.plane l)) { s with plane := plane }
  | call {c : Call} {todo : List WorkloadSnapshot} {requestId : Uuid} {d : Delivery} {message : PyStr}
      {l : OpenLLMOps.Label casing} {plane : ControlPlane} (hd : d.Undisturbed) (hpc : s.plane.pc = .waiting c todo)
      (hfresh : s.agent.store.getRequest requestId = none)
      (hl : l = outcome (s.agent.exchange settings requestId (OpenLLMOps.command c.workload c.action) d).1 message)
      (h : ControlPlane.step cfg assetPath s.plane l = some plane) :
      Step cfg assetPath settings s (.cluster (.call requestId d message)) { s with
        plane := plane
        agent := (s.agent.exchange settings requestId (OpenLLMOps.command c.workload c.action) d).2 }
  | delete {k : OwnerKey} {requestId : Uuid} {d : Delivery} {r : RouteCall casing} {plane : ControlPlane}
      (hd : d.Undisturbed) (hcancels : (.route r : OpenLLMOps.Label casing).cancels = false)
      (h : ControlPlane.step cfg assetPath s.plane (.route r) = some plane) :
      Step cfg assetPath settings s (.cluster (.delete k requestId d)) { s with
        plane := plane
        agent := (s.toCluster.cleanupCall settings k requestId d).2 }
  | change {e : OwnerKey × Option ContainerState} (he : ByItself e) :
      Step cfg assetPath settings s (.cluster (.change e)) { s with
        agent := { s.agent with node := s.agent.node.change e } }
  | gone (id : Uuid) (now : Time) : Step cfg assetPath settings s (.read id now) s
  | read {id : Uuid} {run : EvaluationRun} (now : Time) (hlook : s.plane.db.evaluationRuns.lookup id = some run) :
      Step cfg assetPath settings s (.read id now) { s with cancellations := ⟨id, now, run⟩ :: s.cancellations }
  | commit {c : Cancellation} (hc : c ∈ s.cancellations) :
      Step cfg assetPath settings s (.commit c) { s with
        plane := { s.plane with db := c.commit s.plane.db }
        cancellations := s.cancellations.erase c }

theorem sessions_step_cases {l : SessionLabel casing} (hs : Sessions.step cfg assetPath settings s l = some s') :
    Sessions.Step cfg assetPath settings s l s' := by
  cases l with
  | cluster l =>
    simp only [Sessions.step] at hs
    split at hs <;> [skip; cases hs]
    rename_i hguard
    obtain ⟨hcancels, hd⟩ := hguard
    obtain ⟨cluster, hcluster, rfl⟩ := Option.map_eq_some_iff.mp hs
    cases step_cases hcluster with
    | plane hl h =>
      refine .plane hcancels ?_ h
      rintro response rfl
      cases hl
    | call hpc hfresh hl h => exact .call hd hpc hfresh hl h
    | delete hfresh hr h => exact .delete hd (hr ▸ deleteRoute_cancels) h
    | change e => exact .change hd
  | read id now =>
    simp only [Sessions.step] at hs
    split at hs <;> cases hs
    · exact .gone id now
    · exact .read now ‹_›
  | commit c =>
    simp only [Sessions.step] at hs
    split at hs <;> cases hs
    exact .commit ‹_›

theorem JobInv.init : JobInv ⟨⟨⟨.empty, .idle, []⟩, ⟨.empty, ∅⟩⟩, []⟩ := by
  have hrow {k : OwnerKey} {row : Row} (hr : Db.empty.getRow k = some row) : False := by
    obtain ⟨t, id⟩ := k
    cases t <;> cases hr
  exact
    { round := RoundInv.init
      pending := nofun
      drawn := fun k _ => ⟨rfl, rfl⟩
      managed := fun k x hx => by cases hx
      watermark := fun k row _ hr _ => (hrow hr).elim
      generation := fun k row x _ hr _ => (hrow hr).elim
      unclaimed := fun k row _ hr _ => (hrow hr).elim
      canceled := fun k row hr _ => (hrow hr).elim
      read := nofun
      starting := fun o ho => by cases ho
      answered := fun c response todo hpc => by cases hpc }

theorem JobInv.step {l : SessionLabel casing} (h : JobInv s)
    (hs : Sessions.step cfg assetPath settings s l = some s') (hc : CommitsCurrent s l s') : JobInv s' := by
  cases sessions_step_cases hs with
  | plane hcancels hanswer hplane => exact h.plane hplane hcancels hanswer
  | call hd hpc hfresh hl hplane => exact h.call hpc hfresh hd hl hplane
  | delete hd hcancels hplane => exact (h.cleanupCall hd).plane hplane hcancels fun response e => by cases e
  | change he => exact h.of_keeps fun k => .change he
  | gone id now => exact h
  | read now hlook => exact h.reads hlook now
  | commit hmem => exact h.commit hmem hc

end Steps

/-! ## What a step does to a job -/

/-- What a step does to the row of a job: one that has ended keeps its state, and one that ends does so
well or has no success to lose. -/
structure RowMoves (pc : Pc) (k : OwnerKey) (node : Node) (row row' : Row) : Prop where
  terminal : row.isTerminal = true → row'.isTerminal = true ∧ row'.jobState = row.jobState
  ends : row.isTerminal = false → row'.isTerminal = true → EndedWell pc k row' ∨ node.Spent k

/-- What a step does to the row and the container of a job. -/
structure Moves (k : OwnerKey) (s s' : Sessions) : Prop where
  row : ∀ row', s'.plane.db.getRow k = some row' → ∃ row, s.plane.db.getRow k = some row ∧
    RowMoves s.plane.pc k s'.agent.node row row'
  /-- The container keeps what it has, unless an active job without one is started, or what one that
  has ended has left is cleaned up. -/
  container : Node.Keeps k s'.agent.node s.agent.node ∨
    ∃ row, s.plane.db.getRow k = some row ∧
      (row.isTerminal = false ∧ s.agent.node.lookup k = none ∨
        row.isTerminal = true ∧ (s.agent.node.Spent k → s'.agent.node.Spent k))

section Moves

variable {casing : Casing} {cfg : Settings} {assetPath : Uuid → Option PyStr} {settings : AgentSettings} {s s' : Sessions}
  {k : OwnerKey}

theorem RowMoves.refl {pc : Pc} {node : Node} (row : Row) : RowMoves pc k node row row := by
  refine ⟨fun ht => ⟨ht, rfl⟩, fun hf ht => ?_⟩
  rw [hf] at ht
  cases ht

/-- A row that stays as it is. -/
theorem Moves.kept (hdb : s'.plane.db = s.plane.db) (hnode : Node.Keeps k s'.agent.node s.agent.node) : Moves k s s' :=
  ⟨fun row' hr => ⟨row', hdb ▸ hr, .refl row'⟩, .inl hnode⟩

/-- A step that starts nothing. -/
theorem Moves.of_row (hrow : ∀ row', s'.plane.db.getRow k = some row' → ∃ row, s.plane.db.getRow k = some row ∧
      RowMoves s.plane.pc k s.agent.node row row')
    (hnode : Node.Keeps k s'.agent.node s.agent.node ∨ ∃ row, s.plane.db.getRow k = some row ∧ row.isTerminal = true ∧
      (s.agent.node.Spent k → s'.agent.node.Spent k)) : Moves k s s' := by
  have hspent (h : s.agent.node.Spent k) : s'.agent.node.Spent k := by
    rcases hnode with hk | ⟨-, -, -, hspent⟩
    · exact h.keeps hk
    · exact hspent h
  refine ⟨fun row' hr => ?_, hnode.imp_right fun ⟨row, hr, ht⟩ => ⟨row, hr, .inr ht⟩⟩
  obtain ⟨row, hr₀, hm⟩ := hrow row' hr
  exact ⟨row, hr₀, hm.terminal, fun hf ht => (hm.ends hf ht).imp_right hspent⟩

/-- A step of the control plane changes the row of a job. -/
theorem JobInv.rowMoves (h : JobInv s) {l : OpenLLMOps.Label casing} {plane : ControlPlane}
    (hs : ControlPlane.step cfg assetPath s.plane l = some plane) (hcancels : l.cancels = false)
    (hjob : k.type ≠ .deployment) (hid : k.id ∈ s.plane.used) {row' : Row} (hr : plane.db.getRow k = some row') :
    ∃ row, s.plane.db.getRow k = some row ∧ RowMoves s.plane.pc k s.agent.node row row' := by
  rcases h.round.job_step hs hjob (noLateCancel hcancels k) hr with ⟨row, hr₀, hch⟩ | hnew
  · refine ⟨row, hr₀, fun ht => ?_, fun hf ht => h.ends h.answered hs hjob hr₀ hf hr ht⟩
    rw [hch.terminal ht]
    exact ⟨ht, rfl⟩
  · exact absurd hid hnew

theorem JobInv.moves {l : SessionLabel casing} (h : JobInv s) (hs : Sessions.step cfg assetPath settings s l = some s')
    (hc : CommitsCurrent s l s') (hjob : k.type ≠ .deployment) (hid : k.id ∈ s.plane.used) : Moves k s s' := by
  cases sessions_step_cases hs with
  | plane hcancels hanswer hplane =>
    exact .of_row (fun row' hr => h.rowMoves hplane hcancels hjob hid hr) (.inl (.of_lookup rfl))
  | @call c todo requestId d message l plane hd hpc hfresh hl hplane =>
    have hdb : plane.db = s.plane.db := outcome_db hpc (hl ▸ hplane)
    by_cases hk : k = c.workload.owner.key
    · subst hk
      obtain ⟨hcommand, row, hr, ha, -⟩ := h.command hpc hfresh hjob
      by_cases hstart : c.action = .start
      · refine ⟨fun row' hr' => ⟨row', hdb ▸ hr', .refl row'⟩, .inr ⟨row, hr, .inl ⟨Row.active_not_terminal ha, ?_⟩⟩⟩
        exact hcommand.start hstart
      · exact .kept hdb (hcommand.keeps hd hstart)
    · exact .kept hdb (keeps_exchange hd hk)
  | @delete k' requestId d r plane hd hcancels hplane =>
    refine .of_row (fun row' hr => h.rowMoves hplane hcancels hjob hid hr) ?_
    simp only [Cluster.cleanupCall]
    split
    · exact .inl (.of_lookup rfl)
    rename_i c hc
    obtain ⟨row, hrow, rfl⟩ := Option.map_eq_some_iff.mp hc
    obtain ⟨hr, ht⟩ := Option.filter_eq_some_iff.mp hrow
    have ht := ((Bool.and_eq_true _ _).mp ht).1
    by_cases hk : k = k'
    · subst hk
      refine .inr ⟨row, hr, ht, fun hspent => ?_⟩
      exact spent_exchange hd nofun hspent
    · exact .inl (keeps_exchange hd hk)
  | change he => exact .kept rfl (.change he)
  | gone id now => exact .kept rfl (.of_lookup rfl)
  | read now hlook => exact .kept rfl (.of_lookup rfl)
  | @commit c hmem =>
    refine .of_row (fun row' hr => ?_) (.inl (.of_lookup rfl))
    rcases commit_getRow hr with hr | ⟨rfl, r, hlook, rfl⟩
    · exact ⟨row', hr, .refl row'⟩
    have hrow : s.plane.db.getRow ⟨.evaluation, c.id⟩ = some (.evaluation r) := Db.getRow_evaluation.mpr ⟨r, hlook, rfl⟩
    have hstep : CommitStep r (c.committed r) := hc.step hlook fun hread => (h.toJobBase.read c hmem).2 hread _ hrow
    refine ⟨_, hrow, fun ht => ?_, fun hf ht => ?_⟩
    · have hstate : (c.committed r).actualState = r.actualState := hstep.terminal ht
      exact ⟨(congrArg JobState.terminal hstate).trans ht, congrArg some hstate⟩
    · cases hstep with
      | kept he =>
        have hsame : (Row.evaluation (c.committed r)).isTerminal = (Row.evaluation r).isTerminal :=
          congrArg JobState.terminal he
        rw [hsame, hf] at ht
        cases ht
      | unclaimed hst he => exact .inr (.of_none (h.unclaimed _ _ hjob hrow hst).2)
      | active ha he =>
        have hnot : (Row.evaluation (c.committed r)).isTerminal = false := congrArg JobState.terminal he
        rw [hnot] at ht
        cases ht

/-- The ids that have been drawn stay so. -/
theorem used_of_step {l : SessionLabel casing} (hs : Sessions.step cfg assetPath settings s l = some s')
    (hid : k.id ∈ s.plane.used) : k.id ∈ s'.plane.used := by
  cases sessions_step_cases hs with
  | plane _ _ hplane | call _ _ _ _ hplane | delete _ _ hplane =>
    rw [step_used hplane]
    exact List.mem_append_right _ hid
  | change | gone | read | commit => exact hid

/-- The job has ended, or is deleted, and its container has not succeeded and cannot. -/
structure Over (k : OwnerKey) (s : Sessions) : Prop where
  used : k.id ∈ s.plane.used
  row : ∀ row, s.plane.db.getRow k = some row → row.isTerminal = true
  spent : s.agent.node.Spent k

/-- The container of the job has succeeded: it is there until the job has ended, and the job is not
canceled. -/
structure Past (k : OwnerKey) (s : Sessions) : Prop where
  used : k.id ∈ s.plane.used
  notCanceled : NotCanceled k s
  there : ∀ row, s.plane.db.getRow k = some row → row.isTerminal = false → Succeeded k s

theorem Succeeded.not_spent (h : Succeeded k s) : ¬ s.agent.node.Spent k := by
  obtain ⟨x, hx, hs⟩ := h
  intro hspent
  rw [(hspent x hx).2] at hs
  cases hs

theorem JobInv.used_of_succeeded (h : JobInv s) (hs : Succeeded k s) : k.id ∈ s.plane.used := by
  by_contra hnew
  exact hs.not_spent (.of_none (h.drawn k hnew).2)

theorem JobInv.past (h : JobInv s) (hs : Succeeded k s) : Past k s :=
  ⟨h.used_of_succeeded hs, fun row hr hc => hs.not_spent (h.canceled k row hr hc), fun _ _ _ => hs⟩

theorem Over.step (h : Over k s) (hm : Moves k s s') (hid : k.id ∈ s'.plane.used) : Over k s' := by
  refine ⟨hid, fun row' hr => ?_, ?_⟩
  · obtain ⟨row, hr₀, hrow⟩ := hm.row row' hr
    exact (hrow.terminal (h.row row hr₀)).1
  · rcases hm.container with hk | ⟨row, hr, ⟨hf, -⟩ | ⟨-, hspent⟩⟩
    · exact h.spent.keeps hk
    · rw [h.row row hr] at hf
      cases hf
    · exact hspent h.spent

/-- As long as the job has not ended, no step removes the container. -/
theorem Past.succeeded (h : Past k s) (hm : Moves k s s') {row : Row} (hr : s.plane.db.getRow k = some row)
    (hf : row.isTerminal = false) : Succeeded k s' := by
  obtain ⟨x, hx, hs⟩ := h.there row hr hf
  rcases hm.container with hk | ⟨row₀, hr₀, ⟨-, hn⟩ | ⟨ht, -⟩⟩
  · exact ⟨x, hk.succeeded x hx hs, hs⟩
  · rw [hn] at hx
    cases hx
  · cases hr.symm.trans hr₀
    rw [hf] at ht
    cases ht

theorem Past.step (h : Past k s) (hm : Moves k s s') (hid : k.id ∈ s'.plane.used) {l : SessionLabel casing} :
    Past k s' ∧ EndsWell k s l s' := by
  have hends : EndsWell k s l s' := by
    intro row row' hr hf hr' ht
    obtain ⟨row₀, hr₀, hrow⟩ := hm.row row' hr'
    cases hr.symm.trans hr₀
    exact (hrow.ends hf ht).resolve_right (h.succeeded hm hr hf).not_spent
  refine ⟨⟨hid, fun row' hr' hc => ?_, fun row' hr' hf' => ?_⟩, hends⟩
  · obtain ⟨row, hr, hrow⟩ := hm.row row' hr'
    cases ht : row.isTerminal with
    | true => exact h.notCanceled row hr ((hrow.terminal ht).2.symm.trans hc)
    | false => exact (hends row row' hr ht hr' (Row.terminal_of_canceled hc).1).not_canceled hc
  · obtain ⟨row, hr, hrow⟩ := hm.row row' hr'
    refine h.succeeded hm hr ?_
    cases ht : row.isTerminal with
    | false => rfl
    | true =>
      rw [(hrow.terminal ht).1] at hf'
      cases hf'

/-- A step that ends a job ends it well, or the job is over. -/
theorem Moves.endsWell_or_over (hm : Moves k s s') (hid : k.id ∈ s'.plane.used) {l : SessionLabel casing} :
    EndsWell k s l s' ∨ Over k s' := by
  by_cases hspent : s'.agent.node.Spent k
  · by_cases hterm : ∀ row', s'.plane.db.getRow k = some row' → row'.isTerminal = true
    · exact .inr ⟨hid, hterm, hspent⟩
    · exact .inl fun row row' hr hf hr' ht => absurd (fun row₁ hr₁ => by cases hr'.symm.trans hr₁; exact ht) hterm
  · refine .inl fun row row' hr hf hr' ht => ?_
    obtain ⟨row₀, hr₀, hrow⟩ := hm.row row' hr'
    cases hr.symm.trans hr₀
    exact (hrow.ends hf ht).resolve_right hspent

/-- Neither STATUS nor STOP removes a container that has succeeded. -/
theorem JobInv.keepsSucceeded {l : SessionLabel casing} (h : JobInv s)
    (hs : Sessions.step cfg assetPath settings s l = some s') : KeepsSucceeded settings s l s' := by
  cases sessions_step_cases hs with
  | call hd hpc hfresh hl hplane =>
    simp only [KeepsSucceeded, hpc]
    intro ha
    exact removals_status_stop hd ha fun hjob => (h.command hpc hfresh hjob).1
  | _ => trivial

theorem JobInv.notCanceled_or_over (h : JobInv s) (k : OwnerKey) : NotCanceled k s ∨ Over k s := by
  by_cases hc : NotCanceled k s
  · exact .inl hc
  right
  unfold NotCanceled at hc
  push Not at hc
  obtain ⟨row, hr, hcan⟩ := hc
  refine ⟨(h.round.rows k row hr).2, fun row' hr' => ?_, h.canceled k row hr hcan⟩
  cases hr.symm.trans hr'
  exact (Row.terminal_of_canceled hcan).1

/-- In a run whose commits are all current, no STATUS or STOP removes a container that has succeeded,
and a job whose container succeeds ends well. -/
theorem naturalSuccess_of_current (casing : Casing) (cfg : Settings) (assetPath : Uuid → Option PyStr)
    (settings : AgentSettings) (ls : List (SessionLabel casing))
    (h : (sessions casing cfg assetPath settings).EachStep CommitsCurrent
      (sessions casing cfg assetPath settings).init ls) : NaturalSuccess casing cfg assetPath settings ls := by
  have hstep {s l s'} (h : JobInv s) (hs : (sessions casing cfg assetPath settings).step s l = some s')
      (hc : CommitsCurrent s l s') : JobInv s' := h.step hs hc
  refine ⟨System.eachStep_of_invariant hstep (fun h hs _ => h.keepsSucceeded hs) JobInv.init h, fun k hjob hsome => ?_⟩
  have hkeep {s l s'} (hi : JobInv s) (hp : Past k s) (hs : (sessions casing cfg assetPath settings).step s l = some s')
      (hc : CommitsCurrent s l s') : Past k s' ∧ EndsWell k s l s' :=
    hp.step (hi.moves hs hc hjob hp.used) (used_of_step hs hp.used)
  have hover {s l s'} (hi : JobInv s) (ho : Over k s) (hs : (sessions casing cfg assetPath settings).step s l = some s')
      (hc : CommitsCurrent s l s') : Over k s' := ho.step (hi.moves hs hc hjob ho.used) (used_of_step hs ho.used)
  have hends {s l s'} (hi : JobInv s) (hs : (sessions casing cfg assetPath settings).step s l = some s')
      (hc : CommitsCurrent s l s') : EndsWell k s l s' ∨ Over k s' := by
    by_cases hid : k.id ∈ s.plane.used
    · exact (hi.moves hs hc hjob hid).endsWell_or_over (used_of_step hs hid)
    · exact .inl fun row row' hr => absurd (hi.round.rows k row hr).2 hid
  exact System.of_sometime hstep (fun hi hs => hi.past hs) hkeep (fun _ hp => hp.notCanceled) hover
    (fun _ ho hs => hs.not_spent ho.spent) (fun hi => hi.notCanceled_or_over k) hends JobInv.init h hsome

end Moves

section Sample

open OpenLLMOps.Sample

/-- A node on which evaluations can be launched. -/
def Sample.evaluationNode : Surroundings where
  now := 0
  validationErrors := []
  preflight := ⟨.error .other, .error .other, .ok ⟨[0], py "/r", py "/m.json", py "qwen", py "qwen"⟩⟩
  busyGpuIds := some []
  training := ⟨.ok (), false, [], fun _ => [], .ok []⟩
  evaluation := ⟨false, .ok []⟩

theorem Sample.accepted : JobCreate.accepted ⟨py "e", [0]⟩ = true := by decide

/-- An evaluation run for GPU 0 is created. -/
def Sample.createdEvaluation : List (SessionLabel casing) :=
  [.cluster (.plane (.route (.createEvaluationRun 1 (job (py "e") 0 Sample.accepted) (.ok ()) 1))),
    .cluster (.plane (.begin []))]

/-- It is claimed and started. -/
def Sample.startedEvaluation : List (SessionLabel casing) :=
  [.cluster (.plane .endScan), .cluster (.plane (.reap 2)),
    .cluster (.plane (.claim ⟨2, 9, .ok (.obj [(py "runner", .str (py "evaluation"))])⟩)),
    .cluster (.call 1 (.executed Sample.evaluationNode [] .intact) [])]

/-- Its container exits with code 0. -/
def Sample.exit : OwnerKey × Option ContainerState := ⟨⟨.evaluation, 1⟩, some ⟨.exited, some 0, none, 0, 0, some 0, some 4⟩⟩

/-- The run is canceled while it runs, and its container exits when Docker is about to stop it. -/
theorem naturalSuccess_exit_during_stop :
    NaturalSuccess casing cfg assetPath Agent.defaults (Sample.createdEvaluation ++ Sample.startedEvaluation ++
      [.cluster (.plane (.apply (observation 3))), .cluster (.plane (.claim ⟨3, 8, .escape⟩)), .read 1 5,
        .commit cancellation, .cluster (.plane (.begin [evaluationWorkload false])), .cluster (.plane .send),
        .cluster (.call 2 (.executed Sample.evaluationNode [⟨[], 0, none⟩, ⟨[], 0, none⟩, ⟨[], 0, none⟩,
          ⟨[Sample.exit], 137, none⟩] .intact) []),
        .cluster (.plane (.apply (success 9)))]) :=
  naturalSuccess_of_current _ _ _ _ _ (by decide +kernel)

/-- A cancellation that has read the run while it is queued. -/
def Sample.queuedCancellation : Cancellation :=
  ⟨1, 5, ⟨{ evaluation with actualState := .queued, queuedAt := some 1, runtimeGeneration := 0, startedAt := none },
    .obj [], .obj [], none, none, []⟩⟩

/-- The cancellation reads the run before it is claimed, and the container exits with code 0. -/
def Sample.exitedEvaluation : List (SessionLabel casing) :=
  Sample.createdEvaluation ++ [.read 1 5] ++ Sample.startedEvaluation ++ [.cluster (.change Sample.exit)]

/-- A cancellation has read QUEUED; the run is started and succeeds before it commits, and the commit
makes it CANCELED. -/
theorem late_cancellation_discards_success :
    ¬ NaturalSuccess casing cfg assetPath Agent.defaults
      (Sample.exitedEvaluation ++ [.commit Sample.queuedCancellation]) := by
  intro h
  have hexit : ∃ s ∈ (sessions casing cfg assetPath Agent.defaults).run
      (sessions casing cfg assetPath Agent.defaults).init Sample.exitedEvaluation,
      ∃ x ∈ s.agent.node.lookup ⟨.evaluation, 1⟩, succeeded .evaluation x = true := by
    decide +kernel
  have hend : ∃ s ∈ (sessions casing cfg assetPath Agent.defaults).run
      (sessions casing cfg assetPath Agent.defaults).init (Sample.exitedEvaluation ++ [.commit Sample.queuedCancellation]),
      ∃ row ∈ s.plane.db.getRow ⟨.evaluation, 1⟩, row.jobState = some .canceled := by
    decide +kernel
  obtain ⟨s, hrun, hsucceeded⟩ := hexit
  obtain ⟨s', hrun', row, hr, hcanceled⟩ := hend
  exact (h.ended ⟨.evaluation, 1⟩ (by decide) (.of_run hrun hsucceeded)).1.of_run hrun' row hr hcanceled

end Sample

end Cluster

end OpenLLMOps
