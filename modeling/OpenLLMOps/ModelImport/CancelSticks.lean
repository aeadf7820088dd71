import OpenLLMOps.ModelImport.Coordinators

/-!
# A cancelled import stays cancelled

A job that a cancel has moved to CANCELING may still become READY or FAILED, but
does not go on (`CancelSticks`). What can break that is a transaction that has read
the job before the cancel and writes a status of a job that goes on: a stage that has
changed, or the retry of a coordinator that shuts down (`Change.reopens`).
-/

namespace OpenLLMOps.ModelImport

open Framework

/-- A job with this status does not go on. -/
def ModelImportStatus.stopped : ModelImportStatus → Bool
  | .canceling | .canceled | .ready | .failed => true
  | .pending | .transferring | .validating => false

/-- No job that a cancel has moved to CANCELING goes on. -/
def CancelSticks (s : Coordinators) : Prop :=
  ∀ id ∈ s.canceling, ∀ job ∈ s.db.jobs.lookup id, job.status.stopped = true

/-- The transaction writes a status of a job that goes on: it reports another stage than the one it
has read, or puts the job back because the coordinator shuts down. -/
def Change.reopens (change : Change) (read : ModelImportJob) : Prop :=
  match change with
  | .progress stage _ _ _ => read.status.stopped = false ∧ ModelImportJob.stageStatus stage ≠ read.status
  | .canceledOrRetry shuttingDown _ => shuttingDown = true ∧ read.status ≠ .canceling ∧ read.status ≠ .pending
  | .failed _ _ => False

instance (change : Change) (read : ModelImportJob) : Decidable (change.reopens read) := by
  unfold Change.reopens
  split <;> exact inferInstance

/-- No transaction that puts a job on commits after a cancel has moved it to CANCELING. -/
def NoLateReopen (s : Coordinators) (l : Label) (_ : Coordinators) : Prop :=
  match l with
  | .commit t => t.change.reopens t.read → t.execution.job ∉ s.canceling
  | _ => True

/-! ## Transactions -/

section Transactions

variable {change : Change} {read new current : ModelImportJob}

theorem stageStatus_goesOn (stage : PyStr) : (ModelImportJob.stageStatus stage).stopped = false := by
  unfold ModelImportJob.stageStatus
  split <;> rfl

/-- A transaction writes a status of a job that goes on exactly if it reopens. -/
theorem reopens_iff (h : change.row read = some new) :
    change.reopens read ↔ new.status ≠ read.status ∧ new.status.stopped = false := by
  cases change with
  | progress stage completed total now =>
    simp only [Change.row, ModelImportJob.recordProgress] at h
    split at h <;> cases h
    rename_i hgoing
    have hread : read.status = .canceling ∨ read.status.stopped = false := by
      revert hgoing
      cases read.status <;> decide
    simp only [Change.reopens]
    rcases hread with e | hread
    · rw [e, if_neg (not_not.mpr rfl)]
      exact ⟨fun h => (by cases h.1), fun h => absurd rfl h.1⟩
    · have hne : read.status ≠ .canceling := by
        intro e
        rw [e] at hread
        cases hread
      rw [if_pos hne]
      exact ⟨fun h => ⟨h.2, stageStatus_goesOn stage⟩, fun h => ⟨hread, h.1⟩⟩
  | failed error now =>
    cases h
    have hstopped : (read.markFailed error now).status.stopped = true := by
      unfold ModelImportJob.markFailed
      split <;> rfl
    rw [hstopped]
    exact ⟨nofun, nofun⟩
  | canceledOrRetry shuttingDown now =>
    cases h
    simp only [Change.reopens]
    unfold ModelImportJob.markCanceledOrRetry
    split
    · rename_i hretry
      exact ⟨fun h => ⟨h.2.2.symm, rfl⟩, fun h => ⟨hretry.1, hretry.2, h.1.symm⟩⟩
    · rename_i hcancel
      exact ⟨fun h => absurd ⟨h.1, h.2.1⟩ hcancel, nofun⟩

/-- A transaction that reopens commits a row. -/
theorem row_of_reopens (h : change.reopens read) : ∃ new, change.row read = some new := by
  cases change with
  | progress stage completed total now =>
    have hgoing : ¬ (read.status = .ready ∨ read.status = .failed ∨ read.status = .canceled) := by
      have hs := h.1
      revert hs
      cases read.status <;> decide
    exact ⟨_, if_neg hgoing⟩
  | failed error now => exact h.elim
  | canceledOrRetry shuttingDown now => exact ⟨_, rfl⟩

/-- The status after a commit. -/
theorem updated_status : (read.updated new current).status =
    if new.status = read.status then current.status else new.status := rfl

/-- A transaction that does not reopen leaves a job that does not go on so. -/
theorem updated_stopped (h : change.row read = some new) (hno : ¬ change.reopens read)
    (hc : current.status.stopped = true) : (read.updated new current).status.stopped = true := by
  rw [reopens_iff h, not_and, Bool.not_eq_false] at hno
  rw [updated_status]
  split
  · exact hc
  · rename_i hne
    exact hno hne

end Transactions

/-! ## Runs -/

section Runs

variable {s s' : Coordinators} {l : Label}

/-- What a recovery makes of a job that does not go on. -/
theorem recoverJob_stopped (assets : Table ModelAsset) (id : Uuid) {job : ModelImportJob} (now : Time)
    (fault : Option RemovalFault) {worker : PyStr} {timeout : Time} (hstale : job.stale worker timeout now = true)
    (h : job.status.stopped = true) : (recoverJob assets id job now fault).1.status.stopped = true := by
  have hcanceling : job.status = .canceling := by
    simp only [ModelImportJob.stale, Bool.and_eq_true] at hstale
    have ha := hstale.1.1
    revert ha h
    cases job.status <;> decide
  unfold recoverJob
  split
  · rfl
  split
  · rfl
  split
  · rfl
  · unfold ModelImportJob.released
    rw [if_pos hcanceling]
    rfl

/-- A step keeps a job stopped, unless it is the commit of a transaction that reopens it. -/
theorem JobChange.stopped {id : Uuid} {job job' : ModelImportJob} (h : JobChange s l id job job')
    (hc : ∀ t, l = .commit t → t.execution.job = id → ¬ t.change.reopens t.read) (hstop : job.status.stopped = true) :
    job'.status.stopped = true := by
  cases h with
  | same => exact hstop
  | canceled =>
    unfold ModelImportJob.requestCancel
    simp only
    split
    · rfl
    · rfl
    · rfl
    · exact hstop
  | claimed hp =>
    rw [hp] at hstop
    cases hstop
  | committed ht hnew => exact updated_stopped hnew (hc _ rfl rfl) hstop
  | finalized hr =>
    rw [hr]
    rfl
  | beaten hst => rwa [hst]
  | recovered hstale => exact recoverJob_stopped _ _ _ _ hstale hstop

/-- The jobs that a cancel has moved to CANCELING after a step. -/
theorem step_canceling (hs : s.step l = some s') {id : Uuid} (h : id ∈ s'.canceling) :
    id ∈ s.canceling ∨ ∃ job, s'.db.jobs.lookup id = some job ∧ job.status = .canceling := by
  cases l with
  | requestCancel i now =>
    simp only [Coordinators.step] at hs
    split at hs <;> cases hs
    · exact .inl h
    rename_i job hjob
    simp only at h
    split at h
    · rename_i hst
      rcases List.mem_cons.mp h with rfl | h
      · refine .inr ⟨_, AList.lookup_insert _, ?_⟩
        unfold ModelImportJob.requestCancel
        rcases hst with hst | hst <;> simp only [hst]
      · exact .inl h
    · exact .inl h
  | _ =>
    refine .inl ?_
    simp only [Coordinators.step] at hs
    repeat' split at hs
    all_goals first
      | (cases hs; exact h)
      | cases hs

/-- A heartbeat removes no job. -/
theorem mem_beats (worker : PyStr) (now : Time) (ids : List Uuid) {jobs : Table ModelImportJob} {id : Uuid}
    (h : id ∈ jobs) : id ∈ ids.foldl (Coordinators.beat worker now) jobs := by
  induction ids generalizing jobs with
  | nil => exact h
  | cons i ids ih =>
    refine ih ?_
    unfold Coordinators.beat
    split
    · exact h
    · exact AList.mem_insert _ |>.mpr (.inr h)

/-- A job is not removed. -/
theorem step_mem_jobs (hs : s.step l = some s') {id : Uuid} (h : id ∈ s.db.jobs) : id ∈ s'.db.jobs := by
  have hput (i : Uuid) (job : ModelImportJob) : id ∈ s.db.jobs.insert i job := AList.mem_insert _ |>.mpr (.inr h)
  cases l with
  | heartbeat worker now =>
    cases hs
    exact mem_beats worker now _ h
  | finalize e assetId manifest now =>
    simp only [Coordinators.step] at hs
    split at hs <;> [skip; cases hs]
    split at hs <;> cases hs
    · exact h
    rename_i db hdb
    unfold finalizeReady at hdb
    repeat' split at hdb
    all_goals cases hdb
    exact hput _ _
  | _ =>
    simp only [Coordinators.step] at hs
    repeat' split at hs
    all_goals first
      | (cases hs; exact h)
      | (cases hs; exact hput _ _)
      | cases hs

/-- The jobs in the history are there and do not go on. -/
structure CancelInv (s : Coordinators) : Prop where
  present : ∀ id ∈ s.canceling, id ∈ s.db.jobs
  sticks : CancelSticks s

theorem CancelInv.step (h : CancelInv s) (hs : s.step l = some s') (hc : NoLateReopen s l s') : CancelInv s' := by
  refine ⟨fun id hid => ?_, fun id hid job' hj => ?_⟩
  · rcases step_canceling hs hid with hid | ⟨job, hj, -⟩
    · exact step_mem_jobs hs (h.present id hid)
    · exact AList.lookup_isSome.mp (Option.isSome_iff_exists.mpr ⟨job, hj⟩)
  · rcases step_canceling hs hid with hid | ⟨job, hj', hst⟩
    · rcases step_job hs hj with ⟨job, hjob, hch⟩ | hnone
      · refine hch.stopped ?_ (h.sticks id hid job hjob)
        rintro t rfl rfl hre
        exact hc hre hid
      · exact absurd (h.present id hid) (AList.lookup_eq_none.mp hnone)
    · rw [hj'] at hj
      cases hj
      rw [hst]
      rfl

/-- A late commit that reopens a job makes it go on. -/
theorem CancelInv.noLateReopen (h : CancelInv s) (hs : s.step l = some s') (hsticks : CancelSticks s') :
    NoLateReopen s l s' := by
  cases l with
  | commit t =>
    intro hre hid
    obtain ⟨new, hnew⟩ := row_of_reopens hre
    obtain ⟨current, hcurrent⟩ := Option.isSome_iff_exists.mp (AList.lookup_isSome.mpr (h.present _ hid))
    obtain ⟨hne, hgoes⟩ := (reopens_iff hnew).mp hre
    simp only [Coordinators.step] at hs
    split at hs <;> [skip; cases hs]
    simp only [hcurrent, hnew] at hs
    cases hs
    have hstop := hsticks t.execution.job hid _ (AList.lookup_insert _)
    rw [updated_status, if_neg hne, hgoes] at hstop
    cases hstop
  | _ => trivial

/-- No job that a cancel has moved to CANCELING goes on, exactly in the runs in which no transaction
that puts such a job on commits after the cancel. -/
theorem cancelSticks_iff (ls : List Label) :
    coordinators.Always CancelSticks coordinators.init ls ↔ coordinators.EachStep NoLateReopen coordinators.init ls :=
  System.always_iff_eachStep (M := coordinators) CancelInv.step CancelInv.sticks CancelInv.noLateReopen ⟨nofun, nofun⟩

end Runs

section Sample

/-- A job for a directory of the inbox. -/
def Sample.payload : ModelImportCreate := ⟨py "qwen", .controlledDirectory, none, none, some (py "qwen"), .base⟩

/-- The first execution of the job. -/
def Sample.execution : Execution := ⟨0, py "a", 1⟩

/-- The job while its files are copied. -/
def Sample.transferring : ModelImportJob :=
  { Sample.payload.job with
    status := .transferring
    claimedBy := some (py "a")
    claimedAt := some 5
    startedAt := some 5 }

/-- The report of the next stage. -/
def Sample.validating : Change := .progress (py "validating") 0 none 6

/-- The report of the stage VALIDATING has read the job, which is cancelled before it commits. -/
theorem late_progress_reopens : ¬ ∀ ls, coordinators.Always CancelSticks coordinators.init ls := by
  intro h
  have hrun := (h [.create 1 Sample.payload, .claim (py "a") 1 5, .read Sample.execution Sample.validating,
    .requestCancel 1 7, .commit ⟨Sample.execution, Sample.validating, Sample.transferring⟩]).of_run rfl
  have hstop : ModelImportStatus.validating.stopped = true := hrun 1 List.mem_cons_self _ rfl
  cases hstop

end Sample

end OpenLLMOps.ModelImport
