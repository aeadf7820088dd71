import OpenLLMOps.ControlPlane.Commands
import OpenLLMOps.ControlPlane.Snapshots

/-!
# The life of a job

A job goes one way: queued, active, ended. `job_step` says what a step can do to the
row of a job; only `cancel_evaluation_run` on a run that has ended changes a row
that has ended. From it:

* `TrainingContract`: a training job never returns to the queue, is started at most
  once and ends for good, and terminating it twice changes nothing more.
-/

namespace OpenLLMOps

open Framework Vllm

/-- The job has ended, or is being terminated. -/
def JobColumns.ending (j : JobColumns) : Bool :=
  j.actualState.terminal || (j.desiredState = .terminated && j.actualState = .canceling)

/-- The job has ended, or is being terminated; a deployment never is. -/
def Row.ending : Row → Bool
  | .deployment _ => false
  | .training j => j.ending
  | .evaluation r => r.ending

/-- The row has been claimed, or has ended. -/
def Row.started (row : Row) : Bool := row.active || row.isTerminal

/-- How a step changes the row of a job. -/
structure JobChange (row row' : Row) : Prop where
  queued : row'.queued = true → row.queued = true
  started : row.started = true → row'.started = true
  terminal : row.isTerminal = true → row' = row
  ending : row.ending = true → row'.ending = true

/-! ## Rows -/

section Rows

theorem JobChange.refl (row : Row) : JobChange row row := ⟨id, id, fun _ => rfl, id⟩

theorem Row.started_of_active {row : Row} (h : row.active = true) : row.started = true :=
  Bool.or_eq_true _ _ |>.mpr (.inl h)

theorem Row.started_of_terminal {row : Row} (h : row.isTerminal = true) : row.started = true :=
  Bool.or_eq_true _ _ |>.mpr (.inr h)

theorem Row.not_queued_of_started {row : Row} (ht : row.ownerType ≠ .deployment) (h : row.started = true) :
    row.queued = false := by
  have hcols (state : JobState) (h : (state.active || state.terminal) = true) : decide (state = .queued) = false := by
    revert h
    cases state <;> decide
  cases row with
  | deployment d => exact absurd rfl ht
  | training j => exact hcols _ h
  | evaluation r => exact hcols _ h

theorem Row.ending_of_terminal {row : Row} (ht : row.ownerType ≠ .deployment) (h : row.isTerminal = true) :
    row.ending = true := by
  cases row with
  | deployment d => exact absurd rfl ht
  | training j => exact Bool.or_eq_true _ _ |>.mpr (.inl h)
  | evaluation r => exact Bool.or_eq_true _ _ |>.mpr (.inl h)

/-- A job that has ended or is being terminated has been claimed or has ended. -/
theorem Row.started_of_ending {row : Row} (h : row.ending = true) : row.started = true := by
  have hcols (j : JobColumns) (h : j.ending = true) : (j.actualState.active || j.actualState.terminal) = true := by
    unfold JobColumns.ending at h
    rw [Bool.or_eq_true, Bool.and_eq_true, decide_eq_true_eq, decide_eq_true_eq] at h
    rcases h with h | h
    · rw [h, Bool.or_true]
    · rw [h.2]
      rfl
  cases row with
  | deployment d => cases h
  | training j => exact hcols _ h
  | evaluation r => exact hcols _ h

/-- A job whose container is observed, while it is being terminated. -/
theorem ending_cases {j : JobColumns} (h : j.ending = true) (ha : j.actualState.active = true) :
    j.desiredState = .terminated ∧ j.actualState = .canceling := by
  unfold JobColumns.ending at h
  rw [Bool.or_eq_true, Bool.and_eq_true, decide_eq_true_eq, decide_eq_true_eq] at h
  refine h.resolve_left fun h => ?_
  revert ha h
  generalize j.actualState = state
  cases state <;> decide

theorem absent_terminal (j : JobColumns) (response : AgentCommandResponse) (now : Time) :
    (j.absent response now).actualState.terminal = true := by
  unfold JobColumns.absent
  split <;> rfl

theorem observedLive_ending {j : JobColumns} (hd : j.desiredState = .terminated) (o : AgentWorkloadState)
    (now : Time) : (j.observedLive o now).ending = true := by
  unfold JobColumns.observedLive JobColumns.ending
  simp [hd]

/-- An answer that releases the lease ends the job. -/
theorem observeRow_released {env : ObservationEnv} {response : AgentCommandResponse} {row row' : Row}
    (h : observeRow env response row = .ok (row', true)) (ht : row.ownerType ≠ .deployment) :
    row'.isTerminal = true := by
  cases row with
  | deployment d => exact absurd rfl ht
  | training j =>
    simp only [observeRow, applyTrainingObservation, bind, Except.bind] at h
    split at h <;> [cases h; skip]
    rename_i p hj
    obtain ⟨j', released⟩ := p
    cases h
    split at hj
    · cases hj
      exact absent_terminal _ _ _
    · split at hj <;> cases hj <;> rfl
    · split at hj <;> [cases hj; (cases hj; rfl); skip]
      split at hj <;> cases hj <;> rfl
    all_goals split at hj <;> cases hj
  | evaluation r =>
    simp only [observeRow, applyEvaluationObservation, bind, Except.bind] at h
    split at h <;> [cases h; skip]
    rename_i p hr
    obtain ⟨r', released⟩ := p
    cases h
    split at hr
    · cases hr
      exact absent_terminal _ _ _
    · split at hr <;> cases hr <;> rfl
    · cases hr
      rfl
    all_goals cases hr

/-- An answer that keeps the lease leaves a job that is being terminated so. -/
theorem observeRow_held {env : ObservationEnv} {response : AgentCommandResponse} {row row' : Row}
    (h : observeRow env response row = .ok (row', false)) (ha : row.active = true) (he : row.ending = true) :
    row'.ending = true := by
  cases row with
  | deployment d => cases he
  | training j =>
    obtain ⟨hd, -⟩ := ending_cases he ha
    simp only [observeRow, applyTrainingObservation, bind, Except.bind] at h
    split at h <;> [cases h; skip]
    rename_i p hj
    obtain ⟨j', released⟩ := p
    cases h
    split at hj
    · cases hj
    · split at hj <;> cases hj
    · split at hj <;> [cases hj; cases hj; skip]
      split at hj <;> cases hj
    all_goals split at hj <;> cases hj <;> exact observedLive_ending hd _ env.now
  | evaluation r =>
    obtain ⟨hd, -⟩ := ending_cases he ha
    simp only [observeRow, applyEvaluationObservation, bind, Except.bind] at h
    split at h <;> [cases h; skip]
    rename_i p hr
    obtain ⟨r', released⟩ := p
    cases h
    split at hr
    · cases hr
    · split at hr <;> cases hr
    · cases hr
    all_goals
      cases hr
      exact observedLive_ending hd _ env.now

theorem cancelledJob_ending (now : Time) (j : JobColumns) : (cancelledJob now j).ending = true := by
  unfold cancelledJob JobColumns.ending
  split <;> rename_i h <;> simp [h, JobState.terminal]

theorem terminatedJob_of_ending (now : Time) {j : JobColumns} (h : j.ending = true) : terminatedJob now j = j := by
  unfold terminatedJob JobColumns.ending at *
  rw [Bool.or_eq_true, Bool.and_eq_true, decide_eq_true_eq, decide_eq_true_eq] at h
  exact if_pos h

theorem terminatedJob_ending (now : Time) (j : JobColumns) : (terminatedJob now j).ending = true := by
  by_cases h : j.ending = true
  · rw [terminatedJob_of_ending now h]
    exact h
  · have e : terminatedJob now j = cancelledJob now j := by
      unfold terminatedJob JobColumns.ending at *
      rw [Bool.or_eq_true, Bool.and_eq_true, decide_eq_true_eq, decide_eq_true_eq] at h
      exact if_neg h
    rw [e]
    exact cancelledJob_ending now j

end Rows

/-! ## Steps -/

section Steps

variable {casing : Casing} {cfg : Settings} {assetPath : Uuid → Option PyStr}

/-- The step is no cancellation of an evaluation run that has ended. -/
def NoLateCancel (s : ControlPlane) (l : Label casing) (k : OwnerKey) : Prop :=
  ∀ id now, l = .route (.cancelEvaluationRun id now) → k = ⟨.evaluation, id⟩ →
    ∀ row, s.db.getRow k = some row → row.isTerminal = false

theorem Mutation.jobChange {r : RouteCall casing} {k : OwnerKey} {row row' : Row} (h : Mutation cfg r k row row')
    (hk : k.type ≠ .deployment)
    (hc : ∀ id now, r = .cancelEvaluationRun id now → k = ⟨.evaluation, id⟩ → row.isTerminal = false) :
    JobChange row row' := by
  cases h with
  | update h => exact absurd rfl hk
  | start id now d => exact absurd rfl hk
  | stop id d => exact absurd rfl hk
  | terminate id now j =>
    have he : (Row.training { j with toJobColumns := terminatedJob now j.toJobColumns }).ending = true :=
      terminatedJob_ending now j.toJobColumns
    refine ⟨fun hq => ?_, fun _ => Row.started_of_ending he, fun ht => ?_, fun _ => he⟩
    · have hst := Row.started_of_ending he
      rw [Row.not_queued_of_started (by exact nofun) hst] at hq
      cases hq
    · rw [terminatedJob_of_ending now (@Row.ending_of_terminal (.training j) nofun ht)]
  | cancel id now r =>
    have he : (Row.evaluation { r with toJobColumns := cancelledJob now r.toJobColumns }).ending = true :=
      cancelledJob_ending now r.toJobColumns
    refine ⟨fun hq => ?_, fun _ => Row.started_of_ending he, fun ht => ?_, fun _ => he⟩
    · have hst := Row.started_of_ending he
      rw [Row.not_queued_of_started (by exact nofun) hst] at hq
      cases hq
    · rw [hc id now rfl rfl] at ht
      cases ht

/-- Every step changes the row of a job one way, or leaves it as it is. -/
theorem RoundInv.job_step {s s' : ControlPlane} {l : Label casing} (h : RoundInv s)
    (hs : ControlPlane.step cfg assetPath s l = some s') {k : OwnerKey} (hk : k.type ≠ .deployment)
    (hc : NoLateCancel s l k) {row' : Row} (hr : s'.db.getRow k = some row') :
    (∃ row, s.db.getRow k = some row ∧ JobChange row row') ∨ k.id ∉ s.used := by
  rcases step_getRow hs hr with ⟨row, hr₀, hstep⟩ | ⟨-, -, hnew⟩
  · refine .inl ⟨row, hr₀, ?_⟩
    have hjob : row.ownerType ≠ .deployment := by rwa [s.db.ownerType_of_getRow hr₀]
    -- an answer is about an active row
    have hheld {w : WorkloadSnapshot} (hw : w ∈ s.pc.pending) (e : w.owner.key = k) : row.active = true := by
      subst e
      obtain ⟨row₁, hr₁, ha, -⟩ := h.jobs w hw hk
      cases hr₀.symm.trans hr₁
      exact ha
    -- a queued row has not been claimed
    have hchange {row₁ : Row} (hq : row.queued = true) : JobChange row row₁ := by
      have hnot (hst : row.started = true) : False := by
        rw [Row.not_queued_of_started hjob hst] at hq
        cases hq
      exact ⟨fun _ => hq, fun hst => (hnot hst).elim, fun ht => (hnot (Row.started_of_terminal ht)).elim,
        fun he => (hnot (Row.started_of_ending he)).elim⟩
    cases hstep with
    | kept => exact .refl _
    | mutated hm => exact hm.jobChange hk fun id now hcall hk' => hc id now (by rw [hcall]) hk' row hr₀
    | @observed env c response todo _ _ released hpc hkey hg hobs =>
      have ho := observeRow_spec hobs
      have ha := hheld (by rw [hpc]; exact List.mem_cons_self) hkey
      have hjob' : row'.ownerType ≠ .deployment := by rwa [ho.type]
      have hstarted : row'.started = true := by
        cases released with
        | true => exact Row.started_of_terminal (observeRow_released hobs hjob)
        | false => exact Row.started_of_active (ho.active rfl).1
      refine ⟨fun hq => ?_, fun _ => hstarted, fun ht => ?_, fun he => ?_⟩
      · rw [Row.not_queued_of_started hjob' hstarted] at hq
        cases hq
      · rw [Row.active_not_terminal ha] at ht
        cases ht
      · cases released with
        | true => exact Row.ending_of_terminal hjob' (observeRow_released hobs hjob)
        | false => exact observeRow_held hobs ha he
    | @startFailed env c response todo _ message hpc hkey hg hna =>
      have ha := hheld (by rw [hpc]; exact List.mem_cons_self) hkey
      have hterm : (row.startFailed message env.now).isTerminal = true := by cases row <;> rfl
      have hjob' : (row.startFailed message env.now).ownerType ≠ .deployment := by
        rwa [(row.startFailed_spec message env.now).1]
      refine ⟨fun hq => ?_, fun _ => Row.started_of_terminal hterm, fun ht => ?_,
        fun _ => Row.ending_of_terminal hjob' hterm⟩
      · rw [Row.not_queued_of_started hjob' (Row.started_of_terminal hterm)] at hq
        cases hq
      · rw [Row.active_not_terminal ha] at ht
        cases ht
    | @agentError env c message todo _ hpc hkey hg =>
      have ha := hheld (by rw [hpc]; exact List.mem_cons_self) hkey
      refine ⟨fun hq => ?_, fun _ => ?_, fun ht => ?_, fun he => ?_⟩
      · cases row <;> exact hq
      · exact Row.started_of_active ((row.withError_keeps message).active.trans ha)
      · rw [Row.active_not_terminal ha] at ht
        cases ht
      · cases row <;> exact he
    | preflightFailed m hpc hq ht => exact hchange hq
    | blocked hpc hq => exact hchange hq
    | claimed hpc hq hpc' => exact hchange hq
  · exact .inr hnew

/-- The step sends START for the row `k`. -/
def SendsStart (k : OwnerKey) (s : ControlPlane) (l : Label casing) (s' : ControlPlane) : Prop :=
  ∃ c, l.sends s.db s'.pc = some c ∧ c.action = .start ∧ c.owner.key = k

/-- START is sent for a queued row that becomes active. -/
theorem SendsStart.claimed {s s' : ControlPlane} {l : Label casing} {k : OwnerKey} (h : SendsStart k s l s')
    (hs : ControlPlane.step cfg assetPath s l = some s') :
    ∃ row, s.db.getRow k = some row ∧ row.queued = true ∧ s'.db.getRow k = some row.claimed := by
  obtain ⟨c, hc, ha, hk⟩ := h
  obtain ⟨env, w, rfl, hclaim, rfl⟩ := sends_start hs hc ha
  rcases claimFifoHead_cases hclaim with ⟨e, -⟩ | ⟨k', row, hhead, heff⟩
  · cases e
  obtain ⟨hr, hq, -⟩ := head_spec hhead
  generalize s'.db = db' at heff
  cases heff with
  | claimed he hacq _ =>
    have e : k' = k := hk
    subst e
    exact ⟨row, hr, hq, Db.getRow_put_self (row.claimed_spec.1.trans (s.db.ownerType_of_getRow hr))⟩

end Steps

/-! ## Runs -/

section Runs

variable {casing : Casing} {cfg : Settings} {assetPath : Uuid → Option PyStr}

/-- The row of the job `k` satisfies `P` as long as it is there, and it does not come back. -/
structure JobKeeps (P : Row → Prop) (k : OwnerKey) (s : ControlPlane) : Prop where
  round : RoundInv s
  drawn : k.id ∈ s.used
  row : ∀ row, s.db.getRow k = some row → P row

theorem JobKeeps.of_row {P : Row → Prop} {k : OwnerKey} {s : ControlPlane} (h : RoundInv s) {row : Row}
    (hr : s.db.getRow k = some row) (hP : P row) : JobKeeps P k s := by
  refine ⟨h, (h.rows k row hr).2, fun row' hr' => ?_⟩
  rw [hr] at hr'
  cases hr'
  exact hP

theorem JobKeeps.step {P : Row → Prop} (hP : ∀ row row', JobChange row row' → P row → P row') {k : OwnerKey}
    (hk : k.type ≠ .deployment) {s s' : ControlPlane} {l : Label casing} (h : JobKeeps P k s)
    (hs : ControlPlane.step cfg assetPath s l = some s') (hc : NoLateCancel s l k) : JobKeeps P k s' := by
  refine ⟨h.round.step hs, ?_, fun row' hr => ?_⟩
  · rw [step_used hs]
    exact List.mem_append_right _ h.drawn
  · rcases h.round.job_step hs hk hc hr with ⟨row, hr₀, hch⟩ | hnew
    · exact hP row row' hch (h.row row hr₀)
    · exact absurd h.drawn hnew

/-- What a step of a training job keeps, a run keeps. -/
theorem JobKeeps.run {P : Row → Prop} (hP : ∀ row row', JobChange row row' → P row → P row') {id : Uuid}
    {s s' : ControlPlane} {ls : List (Label casing)} (h : JobKeeps P ⟨.training, id⟩ s)
    (hrun : (controlPlane casing cfg assetPath).run s ls = some s') : JobKeeps P ⟨.training, id⟩ s' := by
  have hstep {s l s'} (h : JobKeeps P ⟨.training, id⟩ s) (hs : (controlPlane casing cfg assetPath).step s l = some s')
      (_ : True) : JobKeeps P ⟨.training, id⟩ s' :=
    h.step hP (show LeaseOwnerType.training ≠ .deployment by decide) hs fun _ _ _ e => by cases e
  exact System.inv_of_run hstep h (.of_true _ ls) hrun

theorem terminate_step {s s' : ControlPlane} {id : Uuid} {now : Time} {j : TrainingJob}
    (hj : s.db.trainingJobs.lookup id = some j)
    (hs : (controlPlane casing cfg assetPath).step s (.route (.terminateTrainingJob id now)) = some s') :
    s' = { s with db := s.db.put id (.training { j with toJobColumns := terminatedJob now j.toJobColumns }) } := by
  simp only [controlPlane, ControlPlane.step, RouteCall.newId, RouteCall.run, terminateTrainingJob, hj] at hs
  cases hs
  rfl

theorem terminate_missing {s s' : ControlPlane} {id : Uuid} {now : Time}
    (hj : s.db.trainingJobs.lookup id = none)
    (hs : (controlPlane casing cfg assetPath).step s (.route (.terminateTrainingJob id now)) = some s') :
    s' = s := by
  simp only [controlPlane, ControlPlane.step, RouteCall.newId, RouteCall.run, terminateTrainingJob, hj] at hs
  cases hs
  rfl

variable (casing cfg assetPath)

/-- What every run keeps of every training job. -/
structure TrainingContract : Prop where
  /-- A job that has left the queue does not return to it. -/
  queued : ∀ (ls₁ ls₂ : List (Label casing)) (s s' : ControlPlane) (id : Uuid) (j j' : TrainingJob),
    (controlPlane casing cfg assetPath).run (controlPlane casing cfg assetPath).init ls₁ = some s →
    (controlPlane casing cfg assetPath).run s ls₂ = some s' →
    s.db.trainingJobs.lookup id = some j → j.actualState ≠ .queued →
    s'.db.trainingJobs.lookup id = some j' → j'.actualState ≠ .queued
  /-- START is sent at most once. -/
  starts : ∀ (ls₁ ls₂ : List (Label casing)) (l l' : Label casing) (s s' s₁ s₂ : ControlPlane) (id : Uuid),
    (controlPlane casing cfg assetPath).run (controlPlane casing cfg assetPath).init ls₁ = some s →
    (controlPlane casing cfg assetPath).step s l = some s' → SendsStart ⟨.training, id⟩ s l s' →
    (controlPlane casing cfg assetPath).run s' ls₂ = some s₁ →
    (controlPlane casing cfg assetPath).step s₁ l' = some s₂ → ¬ SendsStart ⟨.training, id⟩ s₁ l' s₂
  /-- A job that has ended stays as it is until it is deleted. -/
  terminal : ∀ (ls₁ ls₂ : List (Label casing)) (s s' : ControlPlane) (id : Uuid) (j j' : TrainingJob),
    (controlPlane casing cfg assetPath).run (controlPlane casing cfg assetPath).init ls₁ = some s →
    (controlPlane casing cfg assetPath).run s ls₂ = some s' →
    s.db.trainingJobs.lookup id = some j → j.actualState.terminal = true →
    s'.db.trainingJobs.lookup id = some j' → j' = j
  /-- A job that has been terminated is not changed by another terminate. -/
  terminate : ∀ (ls₁ ls₂ : List (Label casing)) (s s' s₁ s₂ : ControlPlane) (id : Uuid) (now now' : Time) (j : TrainingJob),
    (controlPlane casing cfg assetPath).run (controlPlane casing cfg assetPath).init ls₁ = some s →
    s.db.trainingJobs.lookup id = some j →
    (controlPlane casing cfg assetPath).step s (.route (.terminateTrainingJob id now)) = some s' →
    (controlPlane casing cfg assetPath).run s' ls₂ = some s₁ →
    (controlPlane casing cfg assetPath).step s₁ (.route (.terminateTrainingJob id now')) = some s₂ →
    (∀ k, s₂.db.getRow k = s₁.db.getRow k) ∧ s₂.db.gpuLeases = s₁.db.gpuLeases ∧ s₂.pc = s₁.pc

theorem trainingContract : TrainingContract casing cfg assetPath := by
  have hleft (row row' : Row) (hch : JobChange row row') (hq : row.queued = false) : row'.queued = false := by
    cases hq' : row'.queued with
    | false => rfl
    | true => rw [hch.queued hq'] at hq; cases hq
  refine ⟨?_, ?_, ?_, ?_⟩
  · intro ls₁ ls₂ s s' id j j' hrun hrun₂ hj hq hj' hq'
    have h₀ : JobKeeps (fun row => row.queued = false) ⟨.training, id⟩ s :=
      .of_row (roundInv_of_run hrun) (Db.getRow_training.mpr ⟨j, hj, rfl⟩) (decide_eq_false hq)
    have h := (h₀.run hleft hrun₂).row _ (Db.getRow_training.mpr ⟨j', hj', rfl⟩)
    exact of_decide_eq_false h hq'
  · intro ls₁ ls₂ l l' s s' s₁ s₂ id hrun hs hstart hrun₂ hs₂ hstart₂
    obtain ⟨row, -, -, hr⟩ := hstart.claimed hs
    have h₀ : JobKeeps (fun row => row.queued = false) ⟨.training, id⟩ s' :=
      .of_row ((roundInv_of_run hrun).step hs) hr (Row.active_not_queued row.claimed_spec.2.2.2.1)
    obtain ⟨row₁, hr₁, hq, -⟩ := hstart₂.claimed hs₂
    rw [(h₀.run hleft hrun₂).row row₁ hr₁] at hq
    cases hq
  · intro ls₁ ls₂ s s' id j j' hrun hrun₂ hj ht hj'
    have h₀ : JobKeeps (fun row => row = .training j) ⟨.training, id⟩ s :=
      .of_row (roundInv_of_run hrun) (Db.getRow_training.mpr ⟨j, hj, rfl⟩) rfl
    have h := (h₀.run (fun row row' hch hP => by
      subst hP
      exact hch.terminal ht) hrun₂).row _ (Db.getRow_training.mpr ⟨j', hj', rfl⟩)
    exact Row.training.inj h
  · intro ls₁ ls₂ s s' s₁ s₂ id now now' j hrun hj hs hrun₂ hs₂
    have hs' : s' = { s with db := s.db.put id (.training { j with toJobColumns := terminatedJob now j.toJobColumns }) } :=
      terminate_step hj hs
    have hr : s'.db.getRow ⟨.training, id⟩ =
        some (.training { j with toJobColumns := terminatedJob now j.toJobColumns }) := by
      rw [hs']
      exact Db.getRow_put_self (k := ⟨.training, id⟩) rfl
    have hstep : ControlPlane.step cfg assetPath s (.route (.terminateTrainingJob id now) : Label casing) = some s' := hs
    have h₀ : JobKeeps (fun row => row.ending = true) ⟨.training, id⟩ s' :=
      .of_row ((roundInv_of_run hrun).step hstep) hr (terminatedJob_ending now j.toJobColumns)
    have h := (h₀.run (fun row row' hch => hch.ending) hrun₂).row
    cases hj₁ : s₁.db.trainingJobs.lookup id with
    | none =>
      rw [terminate_missing hj₁ hs₂]
      exact ⟨fun _ => rfl, rfl, rfl⟩
    | some j₁ =>
      have hr₁ : s₁.db.getRow ⟨.training, id⟩ = some (.training j₁) := Db.getRow_training.mpr ⟨j₁, hj₁, rfl⟩
      have he : terminatedJob now' j₁.toJobColumns = j₁.toJobColumns := terminatedJob_of_ending now' (h _ hr₁)
      rw [terminate_step hj₁ hs₂, he]
      refine ⟨fun k => ?_, Db.gpuLeases_put _ _ _, rfl⟩
      by_cases e : k = ⟨.training, id⟩
      · rw [e, hr₁]
        exact Db.getRow_put_self (k := ⟨.training, id⟩) rfl
      · exact Db.getRow_put_ne (k := ⟨.training, id⟩) rfl e

end Runs

end OpenLLMOps
