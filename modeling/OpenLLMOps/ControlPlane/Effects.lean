import OpenLLMOps.ControlPlane.System

/-!
# What a transaction can do

One inversion lemma for each transaction, from which the invariants are derived:

* `RouteCall.run_cases`: a route creates a queued row, changes one row in one of
  five ways (`Mutation`), or deletes an ended one;
* `observeRow_spec`: an answer that releases the lease leaves the row inactive,
  any other leaves it active with its generation;
* `claimFifoHead_cases`: a claim concerns one queued row.
-/

namespace OpenLLMOps

open Framework Vllm

/-! ## Rows of the database -/

theorem Db.getRow_put_ne {db : Db} {k k' : OwnerKey} {row : Row} (ht : row.ownerType = k.type) (hne : k' ≠ k) :
    (db.put k.id row).getRow k' = db.getRow k' := by
  rw [Db.getRow_put, if_neg]
  rw [ht]
  exact hne

theorem Db.getRow_put_self {db : Db} {k : OwnerKey} {row : Row} (ht : row.ownerType = k.type) :
    (db.put k.id row).getRow k = some row := by
  rw [Db.getRow_put, if_pos]
  rw [ht]

/-- What holds of every row holds after a put of such a row. -/
theorem Db.rows_put {db : Db} {P : OwnerKey → Row → Prop} (h : ∀ k row, db.getRow k = some row → P k row)
    {k : OwnerKey} {row : Row} (ht : row.ownerType = k.type) (hrow : P k row) (k' : OwnerKey) (row' : Row)
    (hr : (db.put k.id row).getRow k' = some row') : P k' row' := by
  by_cases e : k' = k
  · subst e
    rw [Db.getRow_put_self ht] at hr
    cases hr
    exact hrow
  · rw [Db.getRow_put_ne ht e] at hr
    exact h k' row' hr

theorem Row.inactive_of_queued {row : Row} (h : row.queued = true) : row.active = false := by
  cases ha : row.active with
  | false => rfl
  | true => rw [Row.active_not_queued ha] at h; cases h

theorem Row.inactive_of_terminal {row : Row} (h : row.isTerminal = true) : row.active = false := by
  cases ha : row.active with
  | false => rfl
  | true => rw [Row.active_not_terminal ha] at h; cases h

theorem Db.mem_rows {db : Db} {k : OwnerKey} {row : Row} : (k, row) ∈ db.rows ↔ db.getRow k = some row := by
  obtain ⟨t, id⟩ := k
  have hmem {R : Type} (table : Table R) (f : R → Row) :
      (∃ e ∈ table.entries, e.1 = id ∧ f e.2 = row) ↔ (table.lookup id).map f = some row := by
    rw [Option.map_eq_some_iff]
    constructor
    · rintro ⟨⟨i, r⟩, he, rfl, rfl⟩
      exact ⟨r, AList.mem_lookup_iff.mpr he, rfl⟩
    · rintro ⟨r, hr, rfl⟩
      exact ⟨⟨id, r⟩, AList.mem_lookup_iff.mp hr, rfl, rfl⟩
  cases t <;> simp only [Db.rows, Db.getRow, List.mem_append, List.mem_map, Prod.mk.injEq, OwnerKey.mk.injEq,
    reduceCtorEq, false_and, and_false, exists_false, true_and, or_false, false_or, hmem]

theorem Db.getRow_deployment {db : Db} {id : Uuid} {row : Row} :
    db.getRow ⟨.deployment, id⟩ = some row ↔ ∃ d, db.deployments.lookup id = some d ∧ .deployment d = row :=
  Option.map_eq_some_iff

theorem Db.getRow_training {db : Db} {id : Uuid} {row : Row} :
    db.getRow ⟨.training, id⟩ = some row ↔ ∃ j, db.trainingJobs.lookup id = some j ∧ .training j = row :=
  Option.map_eq_some_iff

theorem Db.getRow_evaluation {db : Db} {id : Uuid} {row : Row} :
    db.getRow ⟨.evaluation, id⟩ = some row ↔ ∃ r, db.evaluationRuns.lookup id = some r ∧ .evaluation r = row :=
  Option.map_eq_some_iff

/-! ## Routes -/

/-- How a route changes the row `k` that it found. -/
inductive Mutation {casing : Casing} (cfg : Settings) : RouteCall casing → OwnerKey → Row → Row → Prop
  | update {id : Uuid} {payload : AcceptedUpdate casing} {d d' : Deployment}
      (h : updatedRow cfg payload.toDeploymentUpdate d = .ok d') :
      Mutation cfg (.updateDeployment id payload) ⟨.deployment, id⟩ (.deployment d) (.deployment d')
  | start (id : Uuid) (now : Time) (d : Deployment) :
      Mutation cfg (.startDeployment id now) ⟨.deployment, id⟩ (.deployment d) (.deployment (startedRow now d))
  | stop (id : Uuid) (d : Deployment) :
      Mutation cfg (.stopDeployment id) ⟨.deployment, id⟩ (.deployment d) (.deployment (stoppedRow d))
  | terminate (id : Uuid) (now : Time) (j : TrainingJob) :
      Mutation cfg (.terminateTrainingJob id now) ⟨.training, id⟩ (.training j)
        (.training { j with toJobColumns := terminatedJob now j.toJobColumns })
  | cancel (id : Uuid) (now : Time) (r : EvaluationRun) :
      Mutation cfg (.cancelEvaluationRun id now) ⟨.evaluation, id⟩ (.evaluation r)
        (.evaluation { r with toJobColumns := cancelledJob now r.toJobColumns })

/-- The endpoint of a row; only deployments have one. -/
def Row.internalUrl : Row → Option PyStr
  | .deployment d => d.internalUrl
  | .training _ | .evaluation _ => none

/-- What holds of a row that a route has just created. -/
structure Fresh (row : Row) : Prop where
  queued : row.queued = true
  internalUrl : row.internalUrl = none
  generation : row.runtimeGeneration = 0
  version : row.stateVersion = 1
  gpus : row.gpuIds ≠ [] ∧ row.gpuIds.Nodup

/-- The three effects of a route that commits. -/
inductive RouteEffect {casing : Casing} (cfg : Settings) (r : RouteCall casing) (db : Db) : Db → Prop
  | create (id : Uuid) (row : Row) (hid : r.newId = some id) (hf : Fresh row)
      (h : db.getRow ⟨row.ownerType, id⟩ = none) :
      RouteEffect cfg r db (db.put id row)
  | change {k : OwnerKey} {row row' : Row} (h : db.getRow k = some row) (hm : Mutation cfg r k row row') :
      RouteEffect cfg r db (db.put k.id row')
  | delete {k : OwnerKey} {row : Row} (h : db.getRow k = some row) (ht : row.isTerminal = true) :
      RouteEffect cfg r db (({ db with gpuLeases := releaseAll k db.gpuLeases } : Db).delete k)

theorem Vllm.AcceptedDeployment.gpus {casing : Casing} (p : AcceptedDeployment casing) :
    p.gpuIds ≠ [] ∧ p.gpuIds.Nodup := by
  have h := p.accepted
  simp only [DeploymentCreate.accepted, Bool.and_eq_true, decide_eq_true_eq] at h
  obtain ⟨⟨⟨⟨⟨⟨-, hg⟩, -⟩, -⟩, -⟩, -⟩, hv⟩ := h
  refine ⟨fun e => ?_, ?_⟩
  · rw [e] at hg
    exact absurd hg (by decide)
  · unfold DeploymentCreate.validate at hv
    split at hv
    · cases hv
    · rename_i hn
      exact not_not.mp hn

theorem AcceptedJob.gpus (p : AcceptedJob) : p.gpuIds ≠ [] ∧ p.gpuIds.Nodup := by
  have h := p.accepted
  simp only [JobCreate.accepted, Bool.and_eq_true, decide_eq_true_eq] at h
  refine ⟨fun e => ?_, h.2⟩
  have := h.1.1.2
  rw [e] at this
  exact absurd this (by decide)

theorem Vllm.AcceptedUpdate.gpus {casing : Casing} (p : AcceptedUpdate casing) {gpuIds : List Nat}
    (hp : p.gpuIds = some (some gpuIds)) : gpuIds ≠ [] ∧ gpuIds.Nodup := by
  have h := p.accepted
  simp only [DeploymentUpdate.accepted, Bool.and_eq_true, hp, Option.join_some, Option.all_some,
    decide_eq_true_eq] at h
  obtain ⟨⟨⟨⟨⟨-, hg⟩, -⟩, -⟩, -⟩, hv⟩ := h
  refine ⟨fun e => ?_, ?_⟩
  · rw [e] at hg
    exact absurd hg (by decide)
  · unfold DeploymentUpdate.validate at hv
    split at hv
    · cases hv
    · rename_i hn
      simpa [hp] using hn

section Routes

variable {casing : Casing} {cfg : Settings} {db db' : Db}

theorem deleteWorkload_ok {a b : PyStr} {k : OwnerKey} {agent : Option (Option AgentCommandResponse)}
    (h : deleteWorkload a b k agent db = .ok db') :
    ∃ row, db.getRow k = some row ∧ row.isTerminal = true ∧
      (∃ response, agent = some (some response) ∧ response.accepted = true ∧ response.observedState = .absent) ∧
      db' = ({ db with gpuLeases := releaseAll k db.gpuLeases } : Db).delete k := by
  unfold deleteWorkload at h
  split at h
  · cases h
  rename_i row hrow
  split at h
  · cases h
  rename_i ht
  split at h
  · cases h
  rename_i answer
  unfold confirmAbsentAndReleaseLeases at h
  split at h
  · cases h
  split at h
  · cases h
  rename_i response
  split at h
  · cases h
  rename_i hr
  simp only [not_or, not_not] at ht hr
  exact ⟨row, hrow, ht, ⟨response, rfl, hr⟩, (Except.ok.inj h).symm⟩

/-- The inversion of a route: it creates, changes or deletes one row. -/
theorem RouteCall.run_cases {r : RouteCall casing} (h : r.run cfg db = .ok db') : RouteEffect cfg r db db' := by
  cases r with
  | createDeployment id payload asset now =>
    simp only [RouteCall.run, OpenLLMOps.createDeployment, bind, Except.bind] at h
    split at h
    · cases h
    split at h
    · cases h
    split at h
    · cases h
    split at h
    · cases h
    split at h
    · cases h
    split at h
    · cases h
    rename_i hc
    cases h
    simp only [not_or, Bool.not_eq_true, Option.isSome_eq_false_iff, Option.isNone_iff_eq_none] at hc
    refine .create id (.deployment _) rfl ⟨rfl, rfl, rfl, rfl, payload.gpus⟩ ?_
    exact Option.map_eq_none_iff.mpr hc.1
  | updateDeployment id payload =>
    simp only [RouteCall.run, OpenLLMOps.updateDeployment, bind, Except.bind] at h
    split at h
    · cases h
    rename_i d hd
    split at h
    · cases h
    rename_i d' hd'
    split at h
    · cases h
    cases h
    exact .change (Db.getRow_deployment.mpr ⟨d, hd, rfl⟩) (.update hd')
  | startDeployment id now =>
    simp only [RouteCall.run, OpenLLMOps.startDeployment] at h
    split at h
    · cases h
    rename_i d hd
    cases h
    exact .change (Db.getRow_deployment.mpr ⟨d, hd, rfl⟩) (.start id now d)
  | stopDeployment id =>
    simp only [RouteCall.run, OpenLLMOps.stopDeployment] at h
    split at h
    · cases h
    rename_i d hd
    cases h
    exact .change (Db.getRow_deployment.mpr ⟨d, hd, rfl⟩) (.stop id d)
  | createTrainingJob id payload checks now =>
    simp only [RouteCall.run, OpenLLMOps.createTrainingJob, bind, Except.bind] at h
    split at h
    · cases h
    split at h
    · cases h
    split at h
    · cases h
    rename_i hc
    cases h
    simp only [not_or, Bool.not_eq_true, Option.isSome_eq_false_iff, Option.isNone_iff_eq_none] at hc
    refine .create id (.training _) rfl ⟨rfl, rfl, rfl, rfl, payload.gpus⟩ ?_
    exact Option.map_eq_none_iff.mpr hc.1
  | terminateTrainingJob id now =>
    simp only [RouteCall.run, OpenLLMOps.terminateTrainingJob] at h
    split at h
    · cases h
    rename_i j hj
    cases h
    exact .change (Db.getRow_training.mpr ⟨j, hj, rfl⟩) (.terminate id now j)
  | createEvaluationRun id payload checks now =>
    simp only [RouteCall.run, OpenLLMOps.createEvaluationRun, bind, Except.bind] at h
    split at h
    · cases h
    split at h
    · cases h
    split at h
    · cases h
    rename_i hc
    cases h
    simp only [not_or, Bool.not_eq_true, Option.isSome_eq_false_iff, Option.isNone_iff_eq_none] at hc
    refine .create id (.evaluation _) rfl ⟨rfl, rfl, rfl, rfl, payload.gpus⟩ ?_
    exact Option.map_eq_none_iff.mpr hc.1
  | cancelEvaluationRun id now =>
    simp only [RouteCall.run, OpenLLMOps.cancelEvaluationRun] at h
    split at h
    · cases h
    rename_i r hr
    cases h
    exact .change (Db.getRow_evaluation.mpr ⟨r, hr, rfl⟩) (.cancel id now r)
  | deleteDeployment id agent =>
    obtain ⟨row, hrow, ht, -, rfl⟩ := deleteWorkload_ok h
    exact .delete hrow ht
  | deleteTrainingJob id agent =>
    obtain ⟨row, hrow, ht, -, rfl⟩ := deleteWorkload_ok h
    exact .delete hrow ht
  | deleteEvaluationRun id agent =>
    obtain ⟨row, hrow, ht, -, rfl⟩ := deleteWorkload_ok h
    exact .delete hrow ht

/-- The columns of an edited deployment: the row had ended, and only its definition and
its version change. -/
theorem updatedRow_ok {payload : AcceptedUpdate casing} {d d' : Deployment}
    (h : updatedRow cfg payload.toDeploymentUpdate d = .ok d') :
    d.actualState.terminal = true ∧
    (d'.gpuIds = d.gpuIds ∨ d'.gpuIds ≠ [] ∧ d'.gpuIds.Nodup) ∧
    d' = { d with
      name := d'.name
      gpuIds := d'.gpuIds
      tensorParallelSize := d'.tensorParallelSize
      simplifiedConfig := d'.simplifiedConfig
      vllmArgs := d'.vllmArgs
      stateVersion := d.stateVersion + 1 } := by
  unfold updatedRow at h
  split at h
  · cases h
  rename_i ht
  split at h
  · cases h
  rename_i finalGpuIds hg
  simp only [bind, Except.bind] at h
  split at h
  · cases h
  split at h
  · split at h
    · cases h
    split at h
    · cases h
    cases h
    refine ⟨not_not.mp ht, ?_, rfl⟩
    cases hp : payload.gpuIds with
    | none => rw [hp] at hg; cases hg; exact .inl rfl
    | some ids => rw [hp] at hg; cases hg; exact .inr (payload.gpus hp)
  · cases h

/-- The deployment in STOPPING that the route starts. -/
def RouteCall.startsStopping (r : RouteCall casing) (db : Db) : Option Uuid :=
  match r with
  | .startDeployment id _ => if (db.deployments.lookup id).any (·.actualState = .stopping) then some id else none
  | _ => none

theorem RouteCall.startsStopping_eq_some {r : RouteCall casing} {id : Uuid} (h : r.startsStopping db = some id) :
    ∃ now d, r = .startDeployment id now ∧ db.deployments.lookup id = some d ∧ d.actualState = .stopping := by
  unfold RouteCall.startsStopping at h
  split at h
  · rename_i id' now
    split at h
    · rename_i hany
      cases h
      obtain ⟨d, hd, hst⟩ := Option.any_eq_true _ _ |>.mp hany
      exact ⟨now, d, rfl, hd, of_decide_eq_true hst⟩
    · cases h
  · cases h

/-- What a route that changes a row keeps of it: whether it is active, its generation,
and the GPUs of an active row. -/
structure Keeps (row row' : Row) : Prop where
  type : row'.ownerType = row.ownerType
  active : row'.active = row.active
  generation : row'.runtimeGeneration = row.runtimeGeneration
  version : row.stateVersion ≤ row'.stateVersion
  gpus : row'.gpuIds = row.gpuIds ∨ row.active = false ∧ row'.gpuIds ≠ [] ∧ row'.gpuIds.Nodup

theorem cancelledJob_keeps (now : Time) (j : JobColumns) :
    (cancelledJob now j).actualState.active = j.actualState.active ∧
    (cancelledJob now j).runtimeGeneration = j.runtimeGeneration ∧
    j.stateVersion ≤ (cancelledJob now j).stateVersion ∧ (cancelledJob now j).gpuIds = j.gpuIds := by
  unfold cancelledJob
  split <;> rename_i h <;> exact ⟨by simp [h, JobState.active], rfl, Nat.le_succ _, rfl⟩

/-- A stopping deployment `k` that a route has queued. -/
structure Requeued (r : RouteCall casing) (db : Db) (k : OwnerKey) (row row' : Row) : Prop where
  starts : r.startsStopping db = some k.id
  key : k.type = .deployment
  type : row'.ownerType = row.ownerType
  active : row.active = true
  queued : row'.queued = true
  version : row.stateVersion < row'.stateVersion
  generation : row'.runtimeGeneration = row.runtimeGeneration
  gpus : row'.gpuIds = row.gpuIds

theorem Mutation.ownerType {r : RouteCall casing} {k : OwnerKey} {row row' : Row} (h : Mutation cfg r k row row') :
    row'.ownerType = k.type := by
  cases h <;> rfl

/-- A route keeps these things of a row, or queues a stopping deployment. -/
theorem Mutation.keeps {r : RouteCall casing} {k : OwnerKey} {row row' : Row} (h : Mutation cfg r k row row')
    (hrow : db.getRow k = some row) : Keeps row row' ∨ Requeued r db k row row' := by
  cases h with
  | @update id payload d d' hd =>
    obtain ⟨ht, hg, he⟩ := updatedRow_ok hd
    have hi : d.actualState.active = false := by revert ht; cases d.actualState <;> decide
    refine .inl ⟨rfl, ?_, ?_, ?_, ?_⟩
    · show d'.actualState.active = d.actualState.active
      rw [he]
    · show d'.runtimeGeneration = d.runtimeGeneration
      rw [he]
    · show d.stateVersion ≤ d'.stateVersion
      rw [he]
      exact Nat.le_succ _
    · exact hg.imp_right fun hg => ⟨hi, hg⟩
  | start id now d =>
    obtain ⟨_, hd, e⟩ := Db.getRow_deployment.mp hrow
    cases e
    unfold startedRow
    split
    · exact .inl ⟨rfl, rfl, rfl, Nat.le_refl _, .inl rfl⟩
    · exact .inl ⟨rfl, rfl, rfl, Nat.le_refl _, .inl rfl⟩
    · exact .inl ⟨rfl, rfl, rfl, Nat.le_refl _, .inl rfl⟩
    · rename_i ha; exact .inl ⟨rfl, by simp only [Row.active, ha]; rfl, rfl, Nat.le_succ _, .inl rfl⟩
    · rename_i ha
      refine .inr ⟨?_, rfl, rfl, by simp only [Row.active, ha]; rfl, rfl, Nat.lt_succ_self _, rfl, rfl⟩
      simp [RouteCall.startsStopping, hd, ha]
    · rename_i ha; exact .inl ⟨rfl, by simp only [Row.active, ha]; rfl, rfl, Nat.le_succ _, .inl rfl⟩
    · rename_i ha; exact .inl ⟨rfl, by simp only [Row.active, ha]; rfl, rfl, Nat.le_succ _, .inl rfl⟩
  | stop id d =>
    unfold stoppedRow
    split <;> rename_i ha <;>
      exact .inl ⟨rfl, by simp [Row.active, ha, DeploymentState.active], rfl, Nat.le_succ _, .inl rfl⟩
  | terminate id now j =>
    unfold terminatedJob
    split
    · exact .inl ⟨rfl, rfl, rfl, Nat.le_refl _, .inl rfl⟩
    · obtain ⟨ha, hg, hv, hids⟩ := cancelledJob_keeps now j.toJobColumns
      exact .inl ⟨rfl, ha, hg, hv, .inl hids⟩
  | cancel id now r =>
    obtain ⟨ha, hg, hv, hids⟩ := cancelledJob_keeps now r.toJobColumns
    exact .inl ⟨rfl, ha, hg, hv, .inl hids⟩

end Routes

/-! ## Observations -/

/-- What an observation does to a row. -/
structure Observed (response : AgentCommandResponse) (row row' : Row) (released : Bool) : Prop where
  type : row'.ownerType = row.ownerType
  gpus : row'.gpuIds = row.gpuIds
  version : row'.stateVersion = row.stateVersion
  generation : row'.runtimeGeneration = row.runtimeGeneration ∨
    row'.queued = true ∧ row'.runtimeGeneration = 0 ∧ row.ownerType = .deployment
  released_iff : released = !response.observedState.live
  ended : released = true → row'.active = false ∧ (row'.queued = true → row.ownerType = .deployment)
  active : released = false → row'.active = true ∧ row'.runtimeGeneration = row.runtimeGeneration

theorem liveDeploymentState_active (o : AgentWorkloadState) : (liveDeploymentState o).active = true := by
  cases o <;> rfl

theorem observedLive_active (j : JobColumns) (o : AgentWorkloadState) (now : Time) :
    (j.observedLive o now).actualState.active = true := by
  unfold JobColumns.observedLive
  split
  · rfl
  · cases o <;> rfl

theorem applyDeploymentObservation_spec (now : Time) (response : AgentCommandResponse) (d : Deployment) :
    Observed response (.deployment d) (.deployment (applyDeploymentObservation now response d).1)
      (applyDeploymentObservation now response d).2 := by
  unfold applyDeploymentObservation
  split
  · rename_i ho
    split
    · exact ⟨rfl, rfl, rfl, .inl rfl, by rw [ho]; rfl, fun _ => ⟨rfl, fun _ => rfl⟩, nofun⟩
    split
    · exact ⟨rfl, rfl, rfl, .inr ⟨rfl, rfl, rfl⟩, by rw [ho]; rfl, fun _ => ⟨rfl, fun _ => rfl⟩, nofun⟩
    · exact ⟨rfl, rfl, rfl, .inl rfl, by rw [ho]; rfl, fun _ => ⟨rfl, fun _ => rfl⟩, nofun⟩
  · rename_i ho; exact ⟨rfl, rfl, rfl, .inl rfl, by rw [ho]; rfl, fun _ => ⟨rfl, fun _ => rfl⟩, nofun⟩
  · rename_i ho; exact ⟨rfl, rfl, rfl, .inl rfl, by rw [ho]; rfl, fun _ => ⟨rfl, fun _ => rfl⟩, nofun⟩
  all_goals
    rename_i ho
    split
    · exact ⟨rfl, rfl, rfl, .inl rfl, by rw [ho]; rfl, nofun, fun _ => ⟨rfl, rfl⟩⟩
    · exact ⟨rfl, rfl, rfl, .inl rfl, by rw [ho]; rfl, nofun, fun _ => ⟨liveDeploymentState_active _, rfl⟩⟩

theorem absent_ended {p : Prop} (j : JobColumns) (response : AgentCommandResponse) (now : Time) :
    (j.absent response now).actualState.active = false ∧
      (decide ((j.absent response now).actualState = .queued) = true → p) := by
  unfold JobColumns.absent
  split <;> exact ⟨rfl, nofun⟩

/-- The columns of a job that no observation changes. -/
theorem absent_keeps (j : JobColumns) (response : AgentCommandResponse) (now : Time) :
    (j.absent response now).gpuIds = j.gpuIds ∧ (j.absent response now).stateVersion = j.stateVersion ∧
    (j.absent response now).runtimeGeneration = j.runtimeGeneration := by
  unfold JobColumns.absent
  split <;> exact ⟨rfl, rfl, rfl⟩

theorem applyTrainingObservation_spec {env : ObservationEnv} {response : AgentCommandResponse} {j j' : TrainingJob}
    {released : Bool} (h : applyTrainingObservation env response j = .ok (j', released)) :
    Observed response (.training j) (.training j') released := by
  unfold applyTrainingObservation at h
  split at h
  · rename_i ho
    cases h
    obtain ⟨hg, hv, hgen⟩ := absent_keeps j.toJobColumns response env.now
    exact ⟨rfl, hg, hv, .inl hgen, by rw [ho]; rfl, fun _ => absent_ended _ _ _, nofun⟩
  · rename_i ho
    split at h
    · cases h
    · cases h; exact ⟨rfl, rfl, rfl, .inl rfl, by rw [ho]; rfl, fun _ => ⟨rfl, nofun⟩, nofun⟩
    · cases h; exact ⟨rfl, rfl, rfl, .inl rfl, by rw [ho]; rfl, fun _ => ⟨rfl, nofun⟩, nofun⟩
  · rename_i ho
    split at h
    · cases h
    · cases h; exact ⟨rfl, rfl, rfl, .inl rfl, by rw [ho]; rfl, fun _ => ⟨rfl, nofun⟩, nofun⟩
    · simp only at h
      split at h
      · cases h
      · cases h; exact ⟨rfl, rfl, rfl, .inl rfl, by rw [ho]; rfl, fun _ => ⟨rfl, nofun⟩, nofun⟩
      · cases h; exact ⟨rfl, rfl, rfl, .inl rfl, by rw [ho]; rfl, fun _ => ⟨rfl, nofun⟩, nofun⟩
  all_goals
    rename_i ho
    simp only at h
    split at h
    · cases h
    · cases h; exact ⟨rfl, rfl, rfl, .inl rfl, by rw [ho]; rfl, nofun, fun _ => ⟨observedLive_active _ _ env.now, rfl⟩⟩
    · cases h; exact ⟨rfl, rfl, rfl, .inl rfl, by rw [ho]; rfl, nofun, fun _ => ⟨observedLive_active _ _ env.now, rfl⟩⟩

theorem applyEvaluationObservation_spec {env : ObservationEnv} {response : AgentCommandResponse}
    {r r' : EvaluationRun} {released : Bool} (h : applyEvaluationObservation env response r = .ok (r', released)) :
    Observed response (.evaluation r) (.evaluation r') released := by
  unfold applyEvaluationObservation at h
  split at h
  · rename_i ho
    cases h
    obtain ⟨hg, hv, hgen⟩ := absent_keeps r.toJobColumns response env.now
    exact ⟨rfl, hg, hv, .inl hgen, by rw [ho]; rfl, fun _ => absent_ended _ _ _, nofun⟩
  · rename_i ho
    split at h
    · cases h
    · cases h; exact ⟨rfl, rfl, rfl, .inl rfl, by rw [ho]; rfl, fun _ => ⟨rfl, nofun⟩, nofun⟩
    · cases h; exact ⟨rfl, rfl, rfl, .inl rfl, by rw [ho]; rfl, fun _ => ⟨rfl, nofun⟩, nofun⟩
  · rename_i ho
    cases h
    exact ⟨rfl, rfl, rfl, .inl rfl, by rw [ho]; rfl, fun _ => ⟨rfl, nofun⟩, nofun⟩
  all_goals
    rename_i ho
    cases h
    exact ⟨rfl, rfl, rfl, .inl rfl, by rw [ho]; rfl, nofun, fun _ => ⟨observedLive_active _ _ env.now, rfl⟩⟩

/-- The inversion of an observation. -/
theorem observeRow_spec {env : ObservationEnv} {response : AgentCommandResponse} {row row' : Row} {released : Bool}
    (h : observeRow env response row = .ok (row', released)) : Observed response row row' released := by
  cases row with
  | deployment d =>
    cases h
    exact applyDeploymentObservation_spec env.now response d
  | training j =>
    simp only [observeRow, bind, Except.bind] at h
    split at h
    · cases h
    · rename_i hj
      cases h
      exact applyTrainingObservation_spec hj
  | evaluation r =>
    simp only [observeRow, bind, Except.bind] at h
    split at h
    · cases h
    · rename_i hr
      cases h
      exact applyEvaluationObservation_spec hr

/-- The inversion of `_apply_observation`: the row of the snapshot's generation is observed, or
nothing changes. -/
theorem applyObservation_ok {cfg : Settings} {env : ObservationEnv} {w : WorkloadSnapshot}
    {response : AgentCommandResponse} {db db' : Db} (h : applyObservation cfg env w response db = .ok db') :
    (currentRow w db = none ∧ db' = db) ∨
    ∃ row row' released, currentRow w db = some row ∧ observeRow env response row = .ok (row', released) ∧
      db' = { db.put w.owner.id row' with
        gpuLeases :=
          if released then release w.owner db.gpuLeases
          else heartbeat cfg.gpuLeaseTtl w.owner env.now db.gpuLeases } := by
  unfold applyObservation at h
  cases hrow : currentRow w db with
  | none => rw [hrow] at h; exact .inl ⟨rfl, (Except.ok.inj h).symm⟩
  | some row =>
    rw [hrow] at h
    simp only [bind, Except.bind] at h
    split at h
    · cases h
    rename_i p hp
    obtain ⟨row', released⟩ := p
    refine .inr ⟨row, row', released, rfl, hp, ?_⟩
    have hr := (observeRow_spec hp).released_iff
    cases h
    cases hl : response.observedState.live <;> rw [hl] at hr <;> subst hr <;> rfl

/-- The columns of a deployment that its START carries, without the port. -/
structure DeploymentDefinition where
  name : PyStr
  servedModelName : PyStr
  modelAssetId : Uuid
  taskType : DeploymentTaskType
  gpuIds : List Nat
  tensorParallelSize : Nat
  simplifiedConfig : Json
  vllmArgs : Json

def Deployment.definition (d : Deployment) : DeploymentDefinition :=
  ⟨d.name, d.servedModelName, d.modelAssetId, d.taskType, d.gpuIds, d.tensorParallelSize, d.simplifiedConfig, d.vllmArgs⟩

/-- The definition of a deployment; a job has none. -/
def Row.definition : Row → Option DeploymentDefinition
  | .deployment d => some d.definition
  | _ => none

/-- The row may be started again with the same definition only, and a job not at all. -/
structure SameStart (row row' : Row) : Prop where
  definition : row'.definition = row.definition
  queued : row.ownerType = .deployment ∨ (row'.queued = true → row.queued = true)

theorem applyDeploymentObservation_definition (now : Time) (response : AgentCommandResponse) (d : Deployment) :
    (applyDeploymentObservation now response d).1.definition = d.definition := by
  unfold applyDeploymentObservation
  split
  · split
    · rfl
    split <;> rfl
  · rfl
  · rfl
  all_goals split <;> rfl

theorem observeRow_sameStart {env : ObservationEnv} {response : AgentCommandResponse} {row row' : Row} {released : Bool}
    (h : observeRow env response row = .ok (row', released)) : SameStart row row' := by
  have hs := observeRow_spec h
  refine ⟨?_, ?_⟩
  · cases row with
    | deployment d =>
      cases h
      exact congrArg some (applyDeploymentObservation_definition env.now response d)
    | training j => cases row' with
      | training j' => rfl
      | _ => cases hs.type
    | evaluation r => cases row' with
      | evaluation r' => rfl
      | _ => cases hs.type
  · by_cases ht : row.ownerType = .deployment
    · exact .inl ht
    refine .inr fun hq => ?_
    cases released with
    | true => exact absurd ((hs.ended rfl).2 hq) ht
    | false =>
      rw [Row.active_not_queued (hs.active rfl).1] at hq
      cases hq

theorem cancelledJob_version (now : Time) (j : JobColumns) : j.stateVersion < (cancelledJob now j).stateVersion := by
  unfold cancelledJob
  split <;> exact Nat.lt_succ_self _

/-- A route that leaves the version alone leaves the start alone. -/
theorem Mutation.sameStart {casing : Casing} {cfg : Settings} {r : RouteCall casing} {k : OwnerKey} {row row' : Row}
    (h : Mutation cfg r k row row') : row.stateVersion < row'.stateVersion ∨ SameStart row row' := by
  cases h with
  | @update id payload d d' hd =>
    obtain ⟨-, -, he⟩ := updatedRow_ok hd
    refine .inl ?_
    show d.stateVersion < d'.stateVersion
    rw [he]
    exact Nat.lt_succ_self _
  | start id now d =>
    unfold startedRow
    split
    iterate 3 exact .inr ⟨rfl, .inl rfl⟩
    all_goals exact .inl (Nat.lt_succ_self _)
  | stop id d =>
    unfold stoppedRow
    split <;> exact .inl (Nat.lt_succ_self _)
  | terminate id now j =>
    unfold terminatedJob
    split
    · exact .inr ⟨rfl, .inr fun hq => hq⟩
    · exact .inl (cancelledJob_version now j.toJobColumns)
  | cancel id now r => exact .inl (cancelledJob_version now r.toJobColumns)

theorem currentRow_eq_some {w : WorkloadSnapshot} {db : Db} {row : Row} :
    currentRow w db = some row ↔ db.getRow w.owner.key = some row ∧ row.runtimeGeneration = w.owner.generation := by
  rw [currentRow, Option.filter_eq_some_iff, decide_eq_true_eq]

/-! ## The claim -/

theorem fifoHead_mem {es : List (OwnerKey × Row)} {e : OwnerKey × Row} (h : fifoHead es = some e) : e ∈ es := by
  induction es generalizing e with
  | nil => cases h
  | cons e₀ es ih =>
    unfold fifoHead at h
    split at h
    · cases h; exact List.mem_cons_self
    · rename_i e₁ he₁
      split at h
      · cases h; exact List.mem_cons_of_mem _ (ih he₁)
      · cases h; exact List.mem_cons_self

/-- What a claim does to the queued row `k` at the head. -/
inductive ClaimEffect (cfg : Settings) (assetPath : Uuid → Option PyStr) (env : ClaimEnv) (db : Db) (k : OwnerKey)
    (row : Row) : ScheduleAttempt → Db → Prop
  | preflightFailed (m : PyStr) (ht : row.ownerType ≠ .deployment) :
      ClaimEffect cfg assetPath env db k row .preflightFailed (db.put k.id (row.preflightFailed m env.now))
  | blocked {acquisition : LeaseAcquisition} {leases : List GPULease}
      (h : tryAcquireLocked cfg.gpuLeaseTtl env.group ⟨k.type, k.id, row.name, row.stateVersion⟩ row.gpuIds
        env.now db.gpuLeases = .ok (acquisition, leases))
      (ha : acquisition.acquired = false) :
      ClaimEffect cfg assetPath env db k row (.blocked acquisition.blockingOwner)
        (db.put k.id (row.withGeneration 0))
  | claimed {acquisition : LeaseAcquisition} {leases : List GPULease} {execution : Execution}
      (he : buildRowExecution assetPath env row = .ok (.ok execution))
      (h : tryAcquireLocked cfg.gpuLeaseTtl env.group ⟨k.type, k.id, row.name, row.stateVersion⟩ row.gpuIds
        env.now db.gpuLeases = .ok (acquisition, leases))
      (ha : acquisition.acquired = true) :
      ClaimEffect cfg assetPath env db k row (.claimed (snapshot k row.claimed execution))
        { db.put k.id row.claimed with gpuLeases := leases }

section Claim

variable {cfg : Settings} {assetPath : Uuid → Option PyStr} {env : ClaimEnv} {db : Db}

/-- The head of the queue is a queued row. -/
theorem head_spec {k : OwnerKey} {row : Row} (h : fifoHead (candidates db) = some (k, row)) :
    db.getRow k = some row ∧ row.queued = true ∧ row.desiresRunning = true := by
  have hm := fifoHead_mem h
  rw [candidates, List.mem_filter, Db.mem_rows, Bool.and_eq_true] at hm
  exact hm

/-- The inversion of a claim. -/
theorem claimFifoHead_cases {attempt : ScheduleAttempt} {db' : Db}
    (h : claimFifoHead cfg assetPath env db = .ok (attempt, db')) :
    (attempt = .empty ∧ db' = db) ∨
    ∃ k row, fifoHead (candidates db) = some (k, row) ∧ ClaimEffect cfg assetPath env db k row attempt db' := by
  unfold claimFifoHead at h
  split at h
  · cases h; exact .inl ⟨rfl, rfl⟩
  rename_i k row hhead
  refine .inr ⟨k, row, hhead, ?_⟩
  split at h
  · cases h
  · rename_i m hb
    cases h
    refine .preflightFailed m fun ht => ?_
    cases row with
    | deployment d =>
      simp only [buildRowExecution] at hb
      split at hb <;> cases hb
    | training j => cases ht
    | evaluation r => cases ht
  · rename_i execution hb
    simp only at h
    split at h
    · cases h
    rename_i acquisition leases hacq
    split at h
    · rename_i ha
      cases h
      exact .blocked hacq (by simpa using ha)
    · rename_i ha
      cases h
      exact .claimed hb hacq (not_not.mp ha)

/-- A claim raises a lease error only where `try_acquire_locked` does. -/
theorem claimFifoHead_error {e : LeaseError} (h : claimFifoHead cfg assetPath env db = .error (.lease e)) :
    ∃ k row, fifoHead (candidates db) = some (k, row) ∧
      tryAcquireLocked cfg.gpuLeaseTtl env.group ⟨k.type, k.id, row.name, row.stateVersion⟩ row.gpuIds env.now
        db.gpuLeases = .error e := by
  unfold claimFifoHead at h
  split at h
  · cases h
  rename_i k row hhead
  refine ⟨k, row, hhead, ?_⟩
  split at h
  · rename_i e' he
    cases h
    cases row <;> simp only [buildRowExecution] at he <;> split at he <;> cases he
  · cases h
  · simp only at h
    split at h
    · rename_i e' he
      cases h
      exact he
    · split at h <;> cases h

end Claim

theorem Row.startFailed_spec (message : PyStr) (now : Time) (row : Row) :
    (row.startFailed message now).ownerType = row.ownerType ∧ (row.startFailed message now).gpuIds = row.gpuIds ∧
    (row.startFailed message now).stateVersion = row.stateVersion ∧
    (row.startFailed message now).runtimeGeneration = row.runtimeGeneration ∧
    (row.startFailed message now).active = false := by
  cases row <;> exact ⟨rfl, rfl, rfl, rfl, rfl⟩

theorem Row.withError_keeps (message : PyStr) (row : Row) : Keeps row (row.withError message) := by
  cases row <;> exact ⟨rfl, rfl, rfl, Nat.le_refl _, .inl rfl⟩

theorem Row.claimed_spec {row : Row} : row.claimed.ownerType = row.ownerType ∧ row.claimed.gpuIds = row.gpuIds ∧
    row.claimed.stateVersion = row.stateVersion ∧ row.claimed.active = true ∧
    row.claimed.runtimeGeneration = row.stateVersion := by
  cases row <;> exact ⟨rfl, rfl, rfl, rfl, rfl⟩

theorem Row.withGeneration_spec (g : Nat) (row : Row) : (row.withGeneration g).ownerType = row.ownerType ∧
    (row.withGeneration g).gpuIds = row.gpuIds ∧ (row.withGeneration g).stateVersion = row.stateVersion ∧
    (row.withGeneration g).runtimeGeneration = g ∧ (row.withGeneration g).active = row.active := by
  cases row <;> exact ⟨rfl, rfl, rfl, rfl, rfl⟩

theorem Row.preflightFailed_spec {m : PyStr} {now : Time} {row : Row} (ht : row.ownerType ≠ .deployment) :
    (row.preflightFailed m now).ownerType = row.ownerType ∧ (row.preflightFailed m now).gpuIds = row.gpuIds ∧
    (row.preflightFailed m now).stateVersion = row.stateVersion ∧
    (row.preflightFailed m now).runtimeGeneration = 0 ∧ (row.preflightFailed m now).active = false := by
  cases row with
  | deployment d => exact absurd rfl ht
  | training j => exact ⟨rfl, rfl, rfl, rfl, rfl⟩
  | evaluation r => exact ⟨rfl, rfl, rfl, rfl, rfl⟩

/-! ## Steps -/

/-- The ids that a step draws. -/
def Label.newIds {casing : Casing} : Label casing → List Uuid
  | .route r => r.newId.toList
  | _ => []

/-- What a step does to the database. -/
inductive Transaction {casing : Casing} (cfg : Settings) (assetPath : Uuid → Option PyStr) (s : ControlPlane) :
    Label casing → Db → Prop
  | unchanged {l : Label casing} : Transaction cfg assetPath s l s.db
  | route {r : RouteCall casing} {db' : Db} (hid : ∀ id ∈ r.newId, id ∉ s.used) (h : RouteEffect cfg r s.db db') :
      Transaction cfg assetPath s (.route r) db'
  | observed {env : ObservationEnv} {c : Call} {response : AgentCommandResponse} {todo : List WorkloadSnapshot}
      {row row' : Row} {released : Bool} (hpc : s.pc = .answered c response todo)
      (hrow : currentRow c.workload s.db = some row) (hobs : observeRow env response row = .ok (row', released)) :
      Transaction cfg assetPath s (.apply env)
        { s.db.put c.workload.owner.id row' with
          gpuLeases :=
            if released then release c.workload.owner s.db.gpuLeases
            else heartbeat cfg.gpuLeaseTtl c.workload.owner env.now s.db.gpuLeases }
  | startFailed {env : ObservationEnv} {c : Call} {response : AgentCommandResponse} {todo : List WorkloadSnapshot}
      {row : Row} {message : PyStr} (hpc : s.pc = .answered c response todo) (hna : response.accepted = false)
      (hrow : currentRow c.workload s.db = some row) :
      Transaction cfg assetPath s (.apply env)
        { s.db.put c.workload.owner.id (row.startFailed message env.now) with
          gpuLeases := release c.workload.owner s.db.gpuLeases }
  | agentError {env : ObservationEnv} {c : Call} {message : PyStr} {todo : List WorkloadSnapshot} {row : Row}
      (hpc : s.pc = .unanswered c message todo) (hrow : currentRow c.workload s.db = some row) :
      Transaction cfg assetPath s (.apply env) (s.db.put c.workload.owner.id (row.withError message))
  | reaped (now : Time) (hpc : s.pc = .reaping) :
      Transaction cfg assetPath s (.reap now) (reapTerminalExpiredLeases now s.db)
  | claim {env : ClaimEnv} {k : OwnerKey} {row : Row} {attempt : ScheduleAttempt} {db' : Db}
      (hpc : s.pc = .claiming) (hhead : fifoHead (candidates s.db) = some (k, row))
      (h : ClaimEffect cfg assetPath env s.db k row attempt db') :
      Transaction cfg assetPath s (.claim env) db'

section Step

variable {casing : Casing} {cfg : Settings} {assetPath : Uuid → Option PyStr}

/-- The transaction after an answer. -/
theorem Call.transaction_cases {s : ControlPlane} {c : Call} {response : AgentCommandResponse}
    {todo : List WorkloadSnapshot} (hpc : s.pc = .answered c response todo) {env : ObservationEnv} {db' : Db}
    (h : c.transaction cfg env response s.db = .ok db') :
    Transaction cfg assetPath s (.apply env : Label casing) db' := by
  unfold Call.transaction at h
  split at h
  · rename_i hstart
    cases h
    unfold failStart
    split
    · exact .unchanged
    · rename_i row hrow
      exact .startFailed hpc (Bool.not_eq_true _ ▸ hstart.2) hrow
  · rcases applyObservation_ok h with ⟨-, rfl⟩ | ⟨row, row', released, hrow, hobs, rfl⟩
    · exact .unchanged
    · exact .observed hpc hrow hobs

/-- Every step is one of these transactions on the database. -/
theorem step_transaction {s s' : ControlPlane} {l : Label casing}
    (h : ControlPlane.step cfg assetPath s l = some s') : Transaction cfg assetPath s l s'.db := by
  cases l with
  | route r =>
    simp only [ControlPlane.step] at h
    split at h
    · cases h
    rename_i hid
    cases h
    simp only
    split
    · exact .unchanged
    · rename_i db hrun
      exact .route (fun id hi hu => hid ⟨id, hi, hu⟩) (RouteCall.run_cases hrun)
  | apply env =>
    simp only [ControlPlane.step] at h
    split at h
    · rename_i c response todo hpc
      split at h
      · cases h; exact .unchanged
      · rename_i db htx
        cases h
        exact Call.transaction_cases hpc htx
    · rename_i c message todo hpc
      cases h
      simp only [recordAgentError]
      split
      · exact .unchanged
      · rename_i row hrow
        exact .agentError hpc hrow
    · cases h
  | reap now =>
    simp only [ControlPlane.step] at h
    split at h
    · rename_i hpc
      cases h
      exact .reaped now hpc
    · cases h
  | claim env =>
    simp only [ControlPlane.step] at h
    split at h
    · rename_i hpc
      split at h
      · cases h; exact .unchanged
      · rename_i attempt db hclaim
        cases h
        rcases claimFifoHead_cases hclaim with ⟨-, rfl⟩ | ⟨k, row, hhead, heff⟩
        · exact .unchanged
        · exact .claim hpc hhead heff
    · cases h
  | begin order =>
    simp only [ControlPlane.step] at h
    split at h <;> cases h
    exact .unchanged
  | send =>
    simp only [ControlPlane.step] at h
    split at h <;> cases h
    exact .unchanged
  | endScan =>
    simp only [ControlPlane.step] at h
    split at h <;> cases h
    exact .unchanged
  | answer response =>
    simp only [ControlPlane.step] at h
    split at h <;> cases h
    exact .unchanged
  | noAnswer message =>
    simp only [ControlPlane.step] at h
    split at h <;> cases h
    exact .unchanged
  | abort =>
    simp only [ControlPlane.step] at h
    cases h
    exact .unchanged

/-! ## Rows over a step -/

/-- The round holds a snapshot of the row `k`, of its generation. -/
def Held (s : ControlPlane) (k : OwnerKey) (row : Row) : Prop :=
  ∃ w ∈ s.pc.pending, w.owner.key = k ∧ row.runtimeGeneration = w.owner.generation

/-- How a step changes a row that it finds. The version grows, or the row keeps its start; the
generation is kept, cleared or, by a claim, set to the version. `held` says that the round holds
a snapshot of the row. -/
structure RowChange (held : Prop) (row row' : Row) : Prop where
  version : row.stateVersion ≤ row'.stateVersion
  generation : row'.runtimeGeneration = row.runtimeGeneration ∨ row'.runtimeGeneration = 0 ∨
    row'.runtimeGeneration = row.stateVersion
  active : row'.active = true → (row.active = true ∨ held) ∧ row'.runtimeGeneration = row.runtimeGeneration ∨
    row.active = false ∧ row'.runtimeGeneration = row.stateVersion
  start : row.stateVersion < row'.stateVersion ∨ SameStart row row'

theorem SameStart.refl (row : Row) : SameStart row row := ⟨rfl, .inr id⟩

theorem Row.withError_sameStart (message : PyStr) (row : Row) : SameStart row (row.withError message) := by
  cases row <;> exact ⟨rfl, .inr id⟩

theorem Row.startFailed_sameStart (message : PyStr) (now : Time) (row : Row) :
    SameStart row (row.startFailed message now) := by
  cases row with
  | deployment d => exact ⟨rfl, .inl rfl⟩
  | training j => exact ⟨rfl, .inr nofun⟩
  | evaluation r => exact ⟨rfl, .inr nofun⟩

theorem Row.preflightFailed_sameStart (m : PyStr) (now : Time) (row : Row) :
    SameStart row (row.preflightFailed m now) := by
  cases row with
  | deployment d => exact .refl _
  | training j => exact ⟨rfl, .inr nofun⟩
  | evaluation r => exact ⟨rfl, .inr nofun⟩

theorem Row.withGeneration_sameStart (g : Nat) (row : Row) : SameStart row (row.withGeneration g) := by
  cases row <;> exact ⟨rfl, .inr id⟩

theorem Row.claimed_sameStart (row : Row) : SameStart row row.claimed := by
  cases row with
  | deployment d => exact ⟨rfl, .inl rfl⟩
  | training j => exact ⟨rfl, .inr nofun⟩
  | evaluation r => exact ⟨rfl, .inr nofun⟩

section RowChange

variable {held : Prop} {row row' : Row}

theorem RowChange.refl (row : Row) : RowChange held row row :=
  ⟨Nat.le_refl _, .inl rfl, fun ha => .inl ⟨.inl ha, rfl⟩, .inr (.refl row)⟩

theorem RowChange.of_keeps (hk : Keeps row row') (hs : row.stateVersion < row'.stateVersion ∨ SameStart row row') :
    RowChange held row row' :=
  ⟨hk.version, .inl hk.generation, fun ha => .inl ⟨.inl (hk.active ▸ ha), hk.generation⟩, hs⟩

theorem RowChange.of_inactive (hv : row.stateVersion ≤ row'.stateVersion)
    (hg : row'.runtimeGeneration = row.runtimeGeneration ∨ row'.runtimeGeneration = 0) (hi : row'.active = false)
    (hs : row.stateVersion < row'.stateVersion ∨ SameStart row row') : RowChange held row row' :=
  ⟨hv, hg.imp_right .inl, fun ha => absurd ha (by rw [hi]; decide), hs⟩

theorem RowChange.of_observed (hheld : held) {env : ObservationEnv} {response : AgentCommandResponse} {released : Bool}
    (h : observeRow env response row = .ok (row', released)) : RowChange held row row' := by
  have ho := observeRow_spec h
  have hg := ho.generation.imp_right fun h => h.2.1
  have hs := observeRow_sameStart h
  cases released with
  | true => exact .of_inactive ho.version.ge hg (ho.ended rfl).1 (.inr hs)
  | false => exact ⟨ho.version.ge, hg.imp_right .inl, fun _ => .inl ⟨.inr hheld, (ho.active rfl).2⟩, .inr hs⟩

/-- A step does not lower the generation that commands about a row carry. -/
theorem RowChange.commandGeneration_le (h : RowChange held row row')
    (hg : row.runtimeGeneration ≤ row.stateVersion) :
    row'.runtimeGeneration ≤ row'.stateVersion ∧ row.commandGeneration ≤ row'.commandGeneration := by
  have hv := h.version
  have hgen := h.generation
  unfold Row.commandGeneration
  split <;> split <;> omega

end RowChange

/-- A claim that acquires the GPUs of the head sends its START. -/
theorem claimed_waits {s s' : ControlPlane} {env : ClaimEnv}
    (hs : ControlPlane.step cfg assetPath s (.claim env : Label casing) = some s') {k : OwnerKey} {row : Row}
    (hhead : fifoHead (candidates s.db) = some (k, row)) {execution : Execution}
    (he : buildRowExecution assetPath env row = .ok (.ok execution)) {acquisition : LeaseAcquisition}
    {leases : List GPULease}
    (hacq : tryAcquireLocked cfg.gpuLeaseTtl env.group ⟨k.type, k.id, row.name, row.stateVersion⟩ row.gpuIds
      env.now s.db.gpuLeases = .ok (acquisition, leases))
    (ha : acquisition.acquired = true) : s'.pc = .waiting ⟨snapshot k row.claimed execution, .start, false⟩ [] := by
  have hclaim : claimFifoHead cfg assetPath env s.db = .ok (.claimed (snapshot k row.claimed execution),
      { s.db.put k.id row.claimed with gpuLeases := leases }) := by
    unfold claimFifoHead
    simp only [hhead, he, hacq, ha, not_true_eq_false, ↓reduceIte]
  simp only [ControlPlane.step, hclaim] at hs
  split at hs <;> cases hs
  rfl

/-- What the step from `s` to `s'` does to the row `k` that it finds and leaves. -/
inductive RowStep {casing : Casing} (cfg : Settings) (s s' : ControlPlane) (k : OwnerKey) :
    Label casing → Row → Row → Prop
  | kept {l : Label casing} {row : Row} : RowStep cfg s s' k l row row
  | mutated {r : RouteCall casing} {row row' : Row} (h : Mutation cfg r k row row') :
      RowStep cfg s s' k (.route r) row row'
  | observed {env : ObservationEnv} {c : Call} {response : AgentCommandResponse} {todo : List WorkloadSnapshot}
      {row row' : Row} {released : Bool} (hpc : s.pc = .answered c response todo) (hk : c.workload.owner.key = k)
      (hg : row.runtimeGeneration = c.workload.owner.generation)
      (hobs : observeRow env response row = .ok (row', released)) : RowStep cfg s s' k (.apply env) row row'
  | startFailed {env : ObservationEnv} {c : Call} {response : AgentCommandResponse} {todo : List WorkloadSnapshot}
      {row : Row} {message : PyStr} (hpc : s.pc = .answered c response todo) (hk : c.workload.owner.key = k)
      (hg : row.runtimeGeneration = c.workload.owner.generation) (hna : response.accepted = false) :
      RowStep cfg s s' k (.apply env) row (row.startFailed message env.now)
  | agentError {env : ObservationEnv} {c : Call} {message : PyStr} {todo : List WorkloadSnapshot} {row : Row}
      (hpc : s.pc = .unanswered c message todo) (hk : c.workload.owner.key = k)
      (hg : row.runtimeGeneration = c.workload.owner.generation) :
      RowStep cfg s s' k (.apply env) row (row.withError message)
  | preflightFailed {env : ClaimEnv} {row : Row} (m : PyStr) (hpc : s.pc = .claiming) (hq : row.queued = true)
      (ht : row.ownerType ≠ .deployment) : RowStep cfg s s' k (.claim env) row (row.preflightFailed m env.now)
  | blocked {env : ClaimEnv} {row : Row} (hpc : s.pc = .claiming) (hq : row.queued = true) :
      RowStep cfg s s' k (.claim env) row (row.withGeneration 0)
  | claimed {env : ClaimEnv} {row : Row} {execution : Execution} (hpc : s.pc = .claiming) (hq : row.queued = true)
      (hpc' : s'.pc = .waiting ⟨snapshot k row.claimed execution, .start, false⟩ []) :
      RowStep cfg s s' k (.claim env) row row.claimed

/-- Every row after a step was there before and has changed in one of these ways, or is new. -/
theorem step_getRow {s s' : ControlPlane} {l : Label casing} (hs : ControlPlane.step cfg assetPath s l = some s')
    {k : OwnerKey} {row' : Row} (hr : s'.db.getRow k = some row') :
    (∃ row, s.db.getRow k = some row ∧ RowStep cfg s s' k l row row') ∨
      Fresh row' ∧ k.id ∈ l.newIds ∧ k.id ∉ s.used := by
  -- the transaction puts one row that was there
  have hput {db' : Db} {k₀ : OwnerKey} {row₀ row₁ : Row} (hr₀ : s.db.getRow k₀ = some row₀)
      (ht : row₁.ownerType = row₀.ownerType) (hc : k₀ = k → RowStep cfg s s' k l row₀ row₁)
      (hr : db'.getRow k = some row') (hdb : db'.getRow k = (s.db.put k₀.id row₁).getRow k) :
      ∃ row, s.db.getRow k = some row ∧ RowStep cfg s s' k l row row' := by
    have ht' := ht.trans (s.db.ownerType_of_getRow hr₀)
    rw [hdb] at hr
    by_cases e : k = k₀
    · subst e
      rw [Db.getRow_put_self ht'] at hr
      cases hr
      exact ⟨row₀, hr₀, hc rfl⟩
    · rw [Db.getRow_put_ne ht' e] at hr
      exact ⟨row', hr, .kept⟩
  have ht := step_transaction hs
  generalize hdb : s'.db = db' at ht hr
  cases ht with
  | unchanged => exact .inl ⟨row', hr, .kept⟩
  | @route r _ hid heff =>
    cases heff with
    | create id row₁ hnew hf hnone =>
      by_cases e : k = ⟨row₁.ownerType, id⟩
      · subst e
        rw [Db.getRow_put_self (k := ⟨row₁.ownerType, id⟩) rfl] at hr
        cases hr
        exact .inr ⟨hf, by simp [Label.newIds, hnew], hid id hnew⟩
      · rw [Db.getRow_put_ne (k := ⟨row₁.ownerType, id⟩) rfl e] at hr
        exact .inl ⟨row', hr, .kept⟩
    | @change k₀ row₀ row₁ hr₀ hm =>
      refine .inl (hput hr₀ (hm.ownerType.trans (s.db.ownerType_of_getRow hr₀).symm) (fun e => ?_) hr rfl)
      exact .mutated (e ▸ hm)
    | @delete k₀ row₀ hr₀ hterm =>
      rw [Db.getRow_delete] at hr
      split at hr
      · cases hr
      · exact .inl ⟨row', hr, .kept⟩
  | @observed env c response todo row₀ row₁ released hpc hrow hobs =>
    obtain ⟨hr₀, hg⟩ := currentRow_eq_some.mp hrow
    exact .inl (hput hr₀ (observeRow_spec hobs).type (fun e => .observed hpc e hg hobs) hr rfl)
  | @startFailed env c response todo row₀ message hpc hna hrow =>
    obtain ⟨hr₀, hg⟩ := currentRow_eq_some.mp hrow
    exact .inl (hput hr₀ (row₀.startFailed_spec message env.now).1 (fun e => .startFailed hpc e hg hna) hr rfl)
  | @agentError env c message todo row₀ hpc hrow =>
    obtain ⟨hr₀, hg⟩ := currentRow_eq_some.mp hrow
    exact .inl (hput hr₀ (row₀.withError_keeps message).type (fun e => .agentError hpc e hg) hr rfl)
  | reaped now hpc => exact .inl ⟨row', hr, .kept⟩
  | @claim env k₀ row₀ attempt _ hpc hhead heff =>
    obtain ⟨hr₀, hq, -⟩ := head_spec hhead
    cases heff with
    | preflightFailed m htype =>
      exact .inl (hput hr₀ (@Row.preflightFailed_spec m env.now _ htype).1 (fun _ => .preflightFailed m hpc hq htype) hr rfl)
    | blocked hacq ha => exact .inl (hput hr₀ (row₀.withGeneration_spec 0).1 (fun _ => .blocked hpc hq) hr rfl)
    | @claimed acquisition leases execution he hacq ha =>
      refine .inl (hput hr₀ row₀.claimed_spec.1 (fun e => ?_) hr rfl)
      subst e
      exact .claimed hpc hq (claimed_waits hs hhead he hacq ha)

/-- A row that a step has changed. -/
theorem RowStep.change {s s' : ControlPlane} {k : OwnerKey} {l : Label casing} {row row' : Row}
    (h : RowStep cfg s s' k l row row') (hr : s.db.getRow k = some row) : RowChange (Held s k row) row row' := by
  cases h with
  | kept => exact .refl row
  | mutated hm =>
    have hstart := hm.sameStart
    rcases hm.keeps hr with hk | hq
    · exact .of_keeps hk hstart
    · exact .of_inactive (Nat.le_of_lt hq.version) (.inl hq.generation) (Row.inactive_of_queued hq.queued) hstart
  | @observed env c response todo _ _ released hpc hk hg hobs =>
    exact .of_observed ⟨c.workload, by rw [hpc]; exact List.mem_cons_self, hk, hg⟩ hobs
  | @startFailed env c response todo _ message hpc hk hg hna =>
    obtain ⟨-, -, hv, hg, hi⟩ := row.startFailed_spec message env.now
    exact .of_inactive hv.ge (.inl hg) hi (.inr (row.startFailed_sameStart message env.now))
  | @agentError env c message todo _ hpc hk hg =>
    exact .of_keeps (row.withError_keeps message) (.inr (row.withError_sameStart message))
  | @preflightFailed env _ m hpc hq ht =>
    obtain ⟨-, -, hv, hg, hi⟩ := @Row.preflightFailed_spec m env.now _ ht
    exact .of_inactive hv.ge (.inr hg) hi (.inr (row.preflightFailed_sameStart m env.now))
  | blocked hpc hq =>
    obtain ⟨-, -, hv, hg, hi⟩ := row.withGeneration_spec 0
    exact .of_inactive hv.ge (.inr hg) (hi.trans (Row.inactive_of_queued hq)) (.inr (row.withGeneration_sameStart 0))
  | claimed hpc hq hpc' =>
    obtain ⟨-, -, hv, hact, hg⟩ := row.claimed_spec
    exact ⟨hv.ge, .inr (.inr hg), fun _ => .inr ⟨Row.inactive_of_queued hq, hg⟩, .inr row.claimed_sameStart⟩

/-- Every row after a step was there before and has changed in one of these ways, or is
new and has a new id. -/
theorem step_row {s s' : ControlPlane} {l : Label casing} (hs : ControlPlane.step cfg assetPath s l = some s')
    (k : OwnerKey) (row' : Row) (hr : s'.db.getRow k = some row') :
    (∃ row, s.db.getRow k = some row ∧ RowChange (Held s k row) row row') ∨
      Fresh row' ∧ k.id ∈ l.newIds ∧ k.id ∉ s.used := by
  rcases step_getRow hs hr with ⟨row, hr₀, hstep⟩ | hnew
  · exact .inl ⟨row, hr₀, hstep.change hr₀⟩
  · exact .inr hnew

theorem step_used {s s' : ControlPlane} {l : Label casing}
    (h : ControlPlane.step cfg assetPath s l = some s') : s'.used = l.newIds ++ s.used := by
  cases l with
  | route r =>
    simp only [ControlPlane.step] at h
    split at h <;> cases h
    rfl
  | _ =>
    simp only [ControlPlane.step] at h
    repeat' split at h
    all_goals cases h
    all_goals rfl

/-- The round comes to an answer only by a call. -/
theorem answered_of_step {s s' : ControlPlane} {l : Label casing}
    (hs : ControlPlane.step cfg assetPath s l = some s') (hl : ∀ response, l ≠ .answer response) {c : Call}
    {response : AgentCommandResponse} {todo : List WorkloadSnapshot} (hpc : s'.pc = .answered c response todo) :
    s.pc = .answered c response todo := by
  have hafter (c' : Call) (todo' : List WorkloadSnapshot) : c'.after todo' ≠ .answered c response todo := by
    unfold Call.after
    split <;> nofun
  cases l with
  | route r =>
    simp only [ControlPlane.step] at hs
    split at hs <;> cases hs
    exact hpc
  | answer response => exact absurd rfl (hl response)
  | begin | endScan | reap | send | noAnswer =>
    simp only [ControlPlane.step] at hs
    split at hs <;> cases hs
    cases hpc
  | apply env =>
    simp only [ControlPlane.step] at hs
    split at hs <;> [skip; skip; cases hs]
    · split at hs <;> cases hs
      · cases hpc
      · simp only at hpc
        split at hpc
        · cases hpc
        · exact absurd hpc (hafter _ _)
    · cases hs
      exact absurd hpc (hafter _ _)
  | claim env =>
    simp only [ControlPlane.step] at hs
    split at hs <;> [skip; cases hs]
    split at hs <;> cases hs
    · cases hpc
    · rename_i attempt _ _
      cases attempt <;> cases hpc
  | abort =>
    simp only [ControlPlane.step] at hs
    cases hs
    cases hpc

end Step

end OpenLLMOps
