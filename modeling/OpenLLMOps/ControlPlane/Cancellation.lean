import OpenLLMOps.ControlPlane.JobLifecycle

/-!
# Cancelling an evaluation run

`cancel_evaluation_run` does not lock the row that it reads: it is two steps, and
the reconciler's transactions and other cancellations may commit between them. The
commit is an UPDATE of the columns whose value the route has changed
(`JobColumns.overwrite`); the others keep what has been committed meanwhile.

`absorbs_of_timely`: if every commit finds the run not ended, and one that read a
run that was not claimed finds it so still or no longer held by the round
(`Timely`), a run that has ended does not change.
-/

namespace OpenLLMOps

open Framework Vllm

/-- A call of `cancel_evaluation_run` that has read its row and not committed. -/
structure Cancellation where
  id : Uuid
  now : Time
  read : EvaluationRun
  deriving DecidableEq

/-- The control plane and the cancellations on their way. -/
structure Sessions where
  plane : ControlPlane
  cancellations : List Cancellation

inductive SessionLabel (casing : Casing)
  | plane (l : Label casing)
  | read (id : Uuid) (now : Time)
  | commit (c : Cancellation)

/-- The columns after an UPDATE of those that differ between `read` and `new`. -/
def JobColumns.overwrite (read new current : JobColumns) : JobColumns where
  name := OpenLLMOps.overwrite read.name new.name current.name
  desiredState := OpenLLMOps.overwrite read.desiredState new.desiredState current.desiredState
  actualState := OpenLLMOps.overwrite read.actualState new.actualState current.actualState
  gpuIds := OpenLLMOps.overwrite read.gpuIds new.gpuIds current.gpuIds
  errorMessage := OpenLLMOps.overwrite read.errorMessage new.errorMessage current.errorMessage
  queuedAt := OpenLLMOps.overwrite read.queuedAt new.queuedAt current.queuedAt
  createdAt := OpenLLMOps.overwrite read.createdAt new.createdAt current.createdAt
  stateVersion := OpenLLMOps.overwrite read.stateVersion new.stateVersion current.stateVersion
  runtimeGeneration := OpenLLMOps.overwrite read.runtimeGeneration new.runtimeGeneration current.runtimeGeneration
  startedAt := OpenLLMOps.overwrite read.startedAt new.startedAt current.startedAt
  finishedAt := OpenLLMOps.overwrite read.finishedAt new.finishedAt current.finishedAt

/-- The run after the commit of `c`. -/
def Cancellation.committed (c : Cancellation) (current : EvaluationRun) : EvaluationRun :=
  { current with
    toJobColumns :=
      c.read.toJobColumns.overwrite (cancelledJob c.now c.read.toJobColumns) current.toJobColumns }

/-- The commit; an UPDATE of a row that has been deleted raises. -/
def Cancellation.commit (c : Cancellation) (db : Db) : Db :=
  match db.evaluationRuns.lookup c.id with
  | none => db
  | some current => db.put c.id (.evaluation (c.committed current))

/-- The label is `cancel_evaluation_run` in one step. -/
def Label.cancels {casing : Casing} : Label casing → Bool
  | .route (.cancelEvaluationRun _ _) => true
  | _ => false

section System

variable (casing : Casing) (cfg : Settings) (assetPath : Uuid → Option PyStr)

def Sessions.step {casing : Casing} (s : Sessions) : SessionLabel casing → Option Sessions
  | .plane l =>
    if l.cancels then none
    else (ControlPlane.step cfg assetPath s.plane l).map fun plane => { s with plane := plane }
  | .read id now =>
    match s.plane.db.evaluationRuns.lookup id with
    | none => some s
    | some run => some { s with cancellations := ⟨id, now, run⟩ :: s.cancellations }
  | .commit c =>
    if c ∈ s.cancellations then
      some
        { plane := { s.plane with db := c.commit s.plane.db }
          cancellations := s.cancellations.erase c }
    else none

/-- The control plane, with cancellations that do not lock their row. -/
def sessions : System Sessions (SessionLabel casing) where
  init := ⟨⟨.empty, .idle, []⟩, []⟩
  step := Sessions.step cfg assetPath

end System

/-! ## The commit -/

section Commit

variable (c : Cancellation) (current : EvaluationRun)

/-- The columns that a commit does not write. -/
theorem committed_keeps : (c.committed current).runtimeGeneration = current.runtimeGeneration ∧
    (c.committed current).gpuIds = current.gpuIds ∧ (c.committed current).createdAt = current.createdAt ∧
    (c.committed current).metrics = current.metrics ∧ (c.committed current).resultPath = current.resultPath := by
  unfold Cancellation.committed JobColumns.overwrite cancelledJob
  split <;> simp [overwrite_of_unchanged]

theorem committed_version : (c.committed current).stateVersion = c.read.stateVersion + 1 := by
  have hne : (cancelledJob c.now c.read.toJobColumns).stateVersion = c.read.stateVersion + 1 := by
    unfold cancelledJob
    split <;> rfl
  show overwrite _ _ _ = _
  rw [hne, overwrite, if_neg (Nat.succ_ne_self _)]

/-- The state that a commit leaves: it depends on the state that was read. -/
theorem committed_actualState : (c.committed current).actualState =
    match c.read.actualState with
    | .created | .queued => .canceled
    | .starting | .running => .canceling
    | .canceling | .canceled | .succeeded | .failed => current.actualState := by
  show overwrite c.read.actualState (cancelledJob c.now c.read.toJobColumns).actualState current.actualState = _
  unfold cancelledJob
  split <;> rename_i h <;> simp [h, overwrite]

end Commit

/-! ## Runs -/

section Runs

variable {casing : Casing} {cfg : Settings} {assetPath : Uuid → Option PyStr}

/-- The columns of a run that its end settles. -/
def EvaluationRun.outcome (r : EvaluationRun) :
    JobState × DesiredJobState × Nat × Json × Option PyStr × Option Time :=
  (r.actualState, r.desiredState, r.stateVersion, r.metrics, r.resultPath, r.finishedAt)

/-- A run that has ended keeps its outcome until it is deleted, and a cancellation leaves it as
it is. -/
def Absorbs (s : Sessions) (l : SessionLabel casing) (s' : Sessions) : Prop :=
  ∀ id r r', s.plane.db.evaluationRuns.lookup id = some r → r.actualState.terminal = true →
    s'.plane.db.evaluationRuns.lookup id = some r' →
    r'.outcome = r.outcome ∧ ∀ c, l = .commit c → c.id = id → r' = r

/-- The commit finds that the run has not ended, and, if it had read that the run was not
claimed, that it still is not or that the round does not hold it. -/
def Cancellation.Timely (c : Cancellation) (plane : ControlPlane) : Prop :=
  ∀ r ∈ plane.db.evaluationRuns.lookup c.id, r.actualState.terminal = false ∧
    ((Row.evaluation c.read).started = true ∨ (Row.evaluation r).started = false ∨
      (⟨.evaluation, c.id⟩ : OwnerKey) ∉ plane.pc.pending.map (·.owner.key))

/-- Every commit is timely. -/
def Timely (s : Sessions) (l : SessionLabel casing) (_ : Sessions) : Prop :=
  match l with
  | .commit c => c.Timely s.plane
  | _ => True

instance (c : Cancellation) (plane : ControlPlane) : Decidable (c.Timely plane) := by
  unfold Cancellation.Timely
  exact inferInstance

instance (s : Sessions) (l : SessionLabel casing) (s' : Sessions) : Decidable (Timely s l s') := by
  unfold Timely
  cases l <;> exact inferInstance

/-- What holds of the rows, the round and the cancellations on their way. -/
structure SessionInv (s : Sessions) : Prop where
  round : RoundInv s.plane
  drawn : ∀ c ∈ s.cancellations, c.id ∈ s.plane.used
  started : ∀ c ∈ s.cancellations, (Row.evaluation c.read).started = true →
    ∀ row, s.plane.db.getRow ⟨.evaluation, c.id⟩ = some row → row.started = true

/-- A commit leaves a run that has been claimed or has ended so. -/
theorem committed_started {c : Cancellation} {r : EvaluationRun} (hr : (Row.evaluation r).started = true) :
    (Row.evaluation (c.committed r)).started = true := by
  have hstate := committed_actualState c r
  simp only [Row.started, Row.active, Row.isTerminal] at hr ⊢
  rw [hstate]
  cases c.read.actualState <;> first | rfl | exact hr

/-- A commit makes no run active that was not. -/
theorem active_of_committed {c : Cancellation} {r : EvaluationRun}
    (h : (Row.evaluation c.read).started = true → (Row.evaluation r).started = true)
    (ht : r.actualState.terminal = false) (ha : (c.committed r).actualState.active = true) :
    r.actualState.active = true := by
  have hactive (hc : (Row.evaluation c.read).started = true) : r.actualState.active = true := by
    have hr := h hc
    simp only [Row.started, Row.active, Row.isTerminal, ht, Bool.or_false] at hr
    exact hr
  rw [committed_actualState] at ha
  simp only [Row.started, Row.active, Row.isTerminal] at hactive
  revert ha hactive
  cases c.read.actualState <;> simp [JobState.active, JobState.terminal]

/-- A commit on an active run leaves it active, unless it had read that it was not claimed. -/
theorem committed_active {c : Cancellation} {r : EvaluationRun} (hc : (Row.evaluation c.read).started = true)
    (ha : r.actualState.active = true) : (c.committed r).actualState.active = true := by
  rw [committed_actualState]
  simp only [Row.started, Row.active, Row.isTerminal] at hc
  revert hc
  cases c.read.actualState with
  | created | queued => exact fun h => by cases h
  | starting | running => exact fun _ => rfl
  | canceling | canceled | succeeded | failed => exact fun _ => ha

/-- The database after a commit. -/
theorem commit_getRow {c : Cancellation} {db : Db} {k : OwnerKey} {row' : Row} (hr : (c.commit db).getRow k = some row') :
    db.getRow k = some row' ∨ k = ⟨.evaluation, c.id⟩ ∧
      ∃ r, db.evaluationRuns.lookup c.id = some r ∧ row' = .evaluation (c.committed r) := by
  unfold Cancellation.commit at hr
  split at hr
  · exact .inl hr
  · rename_i r hlook
    by_cases e : k = ⟨.evaluation, c.id⟩
    · subst e
      rw [Db.getRow_put_self (k := ⟨.evaluation, c.id⟩) rfl] at hr
      cases hr
      exact .inr ⟨rfl, r, hlook, rfl⟩
    · rw [Db.getRow_put_ne (k := ⟨.evaluation, c.id⟩) rfl e] at hr
      exact .inl hr

/-- The row of a snapshot after a commit. -/
theorem Pending.commit {c : Cancellation} {db : Db} {w : WorkloadSnapshot} (hp : Pending db w)
    (h : ∀ r, db.evaluationRuns.lookup c.id = some r → w.owner.key = ⟨.evaluation, c.id⟩ →
      r.actualState.active = true → (c.committed r).actualState.active = true) : Pending (c.commit db) w := by
  unfold Cancellation.commit
  split
  · exact hp
  rename_i r hlook
  by_cases e : w.owner.key = ⟨.evaluation, c.id⟩
  · obtain ⟨row, hr, ha, hg⟩ := hp
    rw [e] at hr
    obtain ⟨r', hr', rfl⟩ := Db.getRow_evaluation.mp hr
    rw [hlook] at hr'
    cases hr'
    refine ⟨.evaluation (c.committed r), ?_, h r hlook e ha, (committed_keeps c r).1.trans hg⟩
    rw [e]
    exact Db.getRow_put_self (k := ⟨.evaluation, c.id⟩) rfl
  · exact hp.of_getRow (Db.getRow_put_ne (k := ⟨.evaluation, c.id⟩) rfl e)

/-- A timely commit keeps what holds of every round. -/
theorem SessionInv.commit {s : Sessions} (h : SessionInv s) {c : Cancellation} (hc : c ∈ s.cancellations)
    (ht : c.Timely s.plane) : RoundInv { s.plane with db := c.commit s.plane.db } := by
  have hstarted {r : EvaluationRun} (hr : s.plane.db.evaluationRuns.lookup c.id = some r)
      (hread : (Row.evaluation c.read).started = true) : (Row.evaluation r).started = true :=
    h.started c hc hread _ (Db.getRow_evaluation.mpr ⟨r, hr, rfl⟩)
  refine ⟨fun k row' hr => ?_, h.round.generations, h.round.distinct, fun w hw hjob => ?_⟩
  · rcases commit_getRow hr with hr | ⟨rfl, r, hlook, rfl⟩
    · exact h.round.rows k row' hr
    obtain ⟨hv, hu⟩ := h.round.rows _ _ (Db.getRow_evaluation.mpr ⟨r, hlook, rfl⟩)
    have hversion : 1 ≤ (c.committed r).stateVersion := by
      rw [committed_version]
      omega
    refine ⟨⟨hversion, fun ha => ?_⟩, hu⟩
    show (c.committed r).runtimeGeneration ≠ 0
    rw [(committed_keeps c r).1]
    exact hv.active (active_of_committed (hstarted hlook) (ht r hlook).1 ha)
  · refine (h.round.jobs w hw hjob).commit fun r hlook e ha => ?_
    rcases (ht r hlook).2 with hread | hnot | hheld
    · exact committed_active hread ha
    · have hactive : (Row.evaluation r).started = true := Row.started_of_active ha
      rw [hnot] at hactive
      cases hactive
    · exact absurd (List.mem_map.mpr ⟨w, hw, e⟩) hheld

/-- One step of the control plane, without cancellations, keeps the invariant. -/
theorem SessionInv.plane {s : Sessions} (h : SessionInv s) {l : Label casing} (hl : l.cancels = false)
    {plane : ControlPlane} (hs : ControlPlane.step cfg assetPath s.plane l = some plane) :
    SessionInv { s with plane := plane } := by
  refine ⟨h.round.step hs, fun c hc => ?_, fun c hc hread row' hr => ?_⟩
  · rw [step_used hs]
    exact List.mem_append_right _ (h.drawn c hc)
  · have hnot : NoLateCancel s.plane l ⟨.evaluation, c.id⟩ := by
      rintro id now rfl
      cases hl
    rcases h.round.job_step hs (show LeaseOwnerType.evaluation ≠ .deployment by decide) hnot hr with
      ⟨row, hr₀, hch⟩ | hnew
    · exact hch.started (h.started c hc hread row hr₀)
    · exact absurd (h.drawn c hc) hnew

theorem SessionInv.step {s s' : Sessions} {l : SessionLabel casing} (h : SessionInv s)
    (hs : Sessions.step cfg assetPath s l = some s') (ht : Timely s l s') : SessionInv s' := by
  cases l with
  | plane l =>
    simp only [Sessions.step] at hs
    split at hs <;> [cases hs; skip]
    rename_i hl
    obtain ⟨plane, hplane, rfl⟩ := Option.map_eq_some_iff.mp hs
    exact h.plane (Bool.eq_false_iff.mpr hl) hplane
  | read id now =>
    simp only [Sessions.step] at hs
    split at hs <;> cases hs
    · exact h
    · rename_i run hlook
      have hrow := Db.getRow_evaluation.mpr ⟨run, hlook, rfl⟩
      refine ⟨h.round, fun c hc => ?_, fun c hc hread row hr => ?_⟩
      · rcases List.mem_cons.mp hc with rfl | hc
        · exact (h.round.rows _ _ hrow).2
        · exact h.drawn c hc
      · rcases List.mem_cons.mp hc with rfl | hc
        · rw [hrow] at hr
          cases hr
          exact hread
        · exact h.started c hc hread row hr
  | commit c =>
    simp only [Sessions.step] at hs
    split at hs <;> cases hs
    rename_i hc
    refine ⟨h.commit hc ht, fun c' hc' => h.drawn c' (List.mem_of_mem_erase hc'), fun c' hc' hread row' hr => ?_⟩
    rcases commit_getRow hr with hr | ⟨e, r, hlook, rfl⟩
    · exact h.started c' (List.mem_of_mem_erase hc') hread row' hr
    · have hid : c'.id = c.id := congrArg OwnerKey.id e
      refine committed_started (h.started c' (List.mem_of_mem_erase hc') hread _ ?_)
      rw [hid]
      exact Db.getRow_evaluation.mpr ⟨r, hlook, rfl⟩

/-- A step whose commits are timely changes no run that has ended. -/
theorem SessionInv.absorbs {s s' : Sessions} {l : SessionLabel casing} (h : SessionInv s)
    (hs : Sessions.step cfg assetPath s l = some s') (ht : Timely s l s') : Absorbs s l s' := by
  intro id r r' hr hterm hr'
  have hrow' := Db.getRow_evaluation.mpr ⟨r', hr', rfl⟩
  cases l with
  | plane l =>
    simp only [Sessions.step] at hs
    split at hs <;> [cases hs; skip]
    rename_i hl
    obtain ⟨plane, hplane, rfl⟩ := Option.map_eq_some_iff.mp hs
    have hnot : NoLateCancel s.plane l ⟨.evaluation, id⟩ := by
      rintro id' now rfl
      exact absurd rfl hl
    have hrow := Db.getRow_evaluation.mpr ⟨r, hr, rfl⟩
    rcases h.round.job_step hplane (show LeaseOwnerType.evaluation ≠ .deployment by decide) hnot hrow' with
      ⟨row, hr₀, hch⟩ | hnew
    · rw [hrow] at hr₀
      cases hr₀
      cases hch.terminal hterm
      exact ⟨rfl, nofun⟩
    · exact absurd (h.round.rows _ _ hrow).2 hnew
  | read id' now =>
    have hdb : s'.plane = s.plane := by
      simp only [Sessions.step] at hs
      split at hs <;> cases hs <;> rfl
    rw [hdb, hr] at hr'
    cases hr'
    exact ⟨rfl, nofun⟩
  | commit c =>
    simp only [Sessions.step] at hs
    split at hs <;> cases hs
    have hne : c.id ≠ id := by
      rintro rfl
      rw [(ht r hr).1] at hterm
      cases hterm
    rcases commit_getRow hrow' with hrow | ⟨e, -⟩
    · obtain ⟨r₀, hr₀, e⟩ := Db.getRow_evaluation.mp hrow
      rw [hr] at hr₀
      cases hr₀
      cases e
      exact ⟨rfl, fun c' e hid => rfl⟩
    · exact absurd (congrArg OwnerKey.id e).symm hne

theorem SessionInv.init : SessionInv ⟨⟨.empty, .idle, []⟩, []⟩ := ⟨RoundInv.init, nofun, nofun⟩

/-- In a run whose commits are all timely, a run that has ended stays as it is. -/
theorem absorbs_of_timely (ls : List (SessionLabel casing))
    (h : (sessions casing cfg assetPath).EachStep Timely (sessions casing cfg assetPath).init ls) :
    (sessions casing cfg assetPath).EachStep Absorbs (sessions casing cfg assetPath).init ls := by
  have hstep {s l s'} (h : SessionInv s) (hs : (sessions casing cfg assetPath).step s l = some s')
      (ht : Timely s l s') : SessionInv s' := h.step hs ht
  exact System.eachStep_of_invariant hstep (fun h hs ht => h.absorbs hs ht) SessionInv.init h

end Runs

section Sample

open Sample

/-- An evaluation run for GPU 0 that has been observed running. -/
def Sample.runningEvaluation : List (SessionLabel casing) :=
  [.plane (.route (.createEvaluationRun 1 (job (py "e") 0 (by decide)) (.ok ()) 1)), .plane (.begin []),
    .plane .endScan, .plane (.reap 2), .plane (.claim ⟨2, 9, .ok (.obj [])⟩), .plane (.answer (answer .running)),
    .plane (.apply (observation 3)), .plane (.claim ⟨3, 8, .escape⟩)]

/-- The run's columns after START. -/
def Sample.evaluation : JobColumns where
  name := py "e"
  desiredState := .running
  actualState := .running
  gpuIds := [0]
  errorMessage := none
  queuedAt := none
  createdAt := 1
  stateVersion := 1
  runtimeGeneration := 1
  startedAt := some 3
  finishedAt := none

/-- A cancellation that has read the run while it runs. -/
def Sample.cancellation : Cancellation := ⟨1, 5, ⟨evaluation, .obj [], .obj [], none, none, []⟩⟩

/-- The snapshot of the run. -/
def Sample.evaluationWorkload (desiresRunning : Bool) : WorkloadSnapshot :=
  ⟨⟨.evaluation, 1, py "e", 1⟩, [0], desiresRunning, .empty⟩

/-- What the control plane finds out about a run that has succeeded. -/
def Sample.success (now : Time) : ObservationEnv :=
  ⟨now, .escape, .escape, .ok ⟨.obj [], .obj [], py "/r.json", py "/m.json", []⟩⟩

/-- A cancellation commits while the run is still running; STOP finds that it has ended. -/
theorem absorbs_canceled :
    (sessions casing cfg assetPath).EachStep Absorbs (sessions casing cfg assetPath).init (runningEvaluation ++
      [.read 1 5, .plane (.begin [evaluationWorkload true]), .plane .send, .commit cancellation,
        .plane (.answer (answer .running)), .plane (.apply (observation 6)), .plane .endScan, .plane (.reap 7),
        .plane (.claim ⟨7, 8, .escape⟩), .plane (.begin [evaluationWorkload false]), .plane .send,
        .plane (.answer (answer .succeeded)), .plane (.apply (success 9))]) :=
  absorbs_of_timely _ (by decide)

/-- A cancellation has read the run, and the round has recorded that it has succeeded. -/
def Sample.endedEvaluation : List (SessionLabel casing) :=
  runningEvaluation ++
    [.read 1 5, .plane (.begin [evaluationWorkload true]), .plane .send, .plane (.answer (answer .succeeded)),
      .plane (.apply (success 6))]

/-- A cancellation has read RUNNING; the run is recorded as SUCCEEDED before it commits, and the
commit makes it CANCELING again. -/
theorem late_cancellation_revives :
    ¬ (sessions casing cfg assetPath).EachStep Absorbs (sessions casing cfg assetPath).init (endedEvaluation ++
      [.commit cancellation]) := by
  intro h
  have hcommit := (h.of_append rfl _ rfl).1
  have e : JobState.canceling = JobState.succeeded := congrArg Prod.fst (hcommit 1 _ _ rfl rfl rfl).1
  cases e

end Sample

end OpenLLMOps
