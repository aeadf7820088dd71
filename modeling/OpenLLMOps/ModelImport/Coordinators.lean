import OpenLLMOps.Framework.System
import OpenLLMOps.ModelImport.Jobs

/-!
# Coordinators on one database and one file tree

A coordinator claims jobs and executes each in a task of its own. Three of the
transactions of a task read the job without a lock and commit later, so others may
commit in between. Which job a claim finds, when a task is cancelled or fails, and
what the importer does to the directories of its job is in the labels: a run is any
interleaving of any number of coordinators.

`canceling` and `fenced` are histories, which no step reads: the jobs that a cancel
has moved to CANCELING, and the executions whose job has been recovered while they
were running.
-/

namespace OpenLLMOps.ModelImport

open Framework

/-- A task of `_execute`. -/
structure Execution where
  number : Nat
  worker : PyStr
  job : Uuid
  deriving DecidableEq

/-- What a transaction without a lock makes of the row that it has read. -/
inductive Change
  /-- `_record_progress`. -/
  | progress (stage : PyStr) (completed : Int) (total : Option Int) (now : Time)
  /-- `_mark_failed`. -/
  | failed (error : PyStr) (now : Time)
  /-- `_mark_canceled_or_retry`. -/
  | canceledOrRetry (shuttingDown : Bool) (now : Time)
  deriving DecidableEq

/-- The row that a transaction commits; none if it returns at once. -/
def Change.row : Change → ModelImportJob → Option ModelImportJob
  | .progress stage completed total now, read => read.recordProgress stage completed total now
  | .failed error now, read => some (read.markFailed error now)
  | .canceledOrRetry shuttingDown now, read => some (read.markCanceledOrRetry shuttingDown now)

/-- A transaction that has read its row and not committed. -/
structure Transaction where
  execution : Execution
  change : Change
  read : ModelImportJob
  deriving DecidableEq

structure Coordinators where
  db : ImportDb
  directories : List Directory
  /-- The tasks that have not ended, and those of them whose importer has returned. -/
  executions : List Execution
  published : List Execution
  transactions : List Transaction
  started : Nat
  canceling : List Uuid
  fenced : List Execution

inductive Label
  | create (id : Uuid) (payload : ModelImportCreate)
  | requestCancel (id : Uuid) (now : Time)
  /-- The job is the first that no other transaction locks, so it may be any. -/
  | claim (worker : PyStr) (id : Uuid) (now : Time)
  | read (e : Execution) (change : Change)
  | commit (t : Transaction)
  /-- The importer creates a directory of its job outside the store. -/
  | makeDirectory (e : Execution) (root : Root)
  /-- It removes the staging directory after an exception. -/
  | discard (e : Execution)
  /-- `os.replace(staging, final)`. -/
  | publish (e : Execution)
  | finalize (e : Execution) (assetId : Uuid) (manifest : ModelManifest) (now : Time)
  | heartbeat (worker : PyStr) (now : Time)
  | recover (worker : PyStr) (id : Uuid) (timeout now : Time) (fault : Option RemovalFault)
  | finish (e : Execution)
  | crash (worker : PyStr)
  /-- `delete_model_asset`, which deletes softly. -/
  | deleteAsset (id : Uuid) (now : Time)

namespace Coordinators

/-- The state with another row of a job. -/
def withJob (s : Coordinators) (id : Uuid) (job : ModelImportJob) : Coordinators :=
  { s with db := { s.db with jobs := s.db.jobs.insert id job } }

/-- The heartbeat on one job. -/
def beat (worker : PyStr) (now : Time) (jobs : Table ModelImportJob) (id : Uuid) : Table ModelImportJob :=
  match jobs.lookup id with
  | none => jobs
  | some job => jobs.insert id (job.heartbeat worker now)

def step (s : Coordinators) : Label → Option Coordinators
  | .create id payload =>
    match s.db.jobs.lookup id with
    | some _ => none
    | none => some (s.withJob id payload.job)
  | .requestCancel id now =>
    match s.db.jobs.lookup id with
    | none => some s
    | some job =>
      some { s.withJob id (job.requestCancel now) with
        canceling := if job.status = .transferring ∨ job.status = .validating then id :: s.canceling else s.canceling }
  | .claim worker id now =>
    match s.db.jobs.lookup id with
    | none => none
    | some job =>
      if job.status = .pending then
        some { s.withJob id (job.claimed worker now) with
          executions := ⟨s.started, worker, id⟩ :: s.executions
          started := s.started + 1 }
      else none
  | .read e change =>
    if e ∈ s.executions then
      match s.db.jobs.lookup e.job with
      | none => some s
      | some job =>
        match change.row job with
        | none => some s
        | some _ => some { s with transactions := ⟨e, change, job⟩ :: s.transactions }
    else none
  | .commit t =>
    if t ∈ s.transactions then
      match s.db.jobs.lookup t.execution.job, t.change.row t.read with
      | some current, some new =>
        some { s.withJob t.execution.job (t.read.updated new current) with transactions := s.transactions.erase t }
      | _, _ => some { s with transactions := s.transactions.erase t }
    else none
  | .makeDirectory e root =>
    if e ∈ s.executions ∧ root ≠ .store then some { s with directories := ⟨root, e.job⟩ :: s.directories } else none
  | .discard e =>
    if e ∈ s.executions then some { s with directories := s.directories.filter (· ≠ ⟨.staging, e.job⟩) } else none
  | .publish e =>
    if e ∈ s.executions ∧ (⟨.staging, e.job⟩ : Directory) ∈ s.directories ∧
        (⟨.store, e.job⟩ : Directory) ∉ s.directories then
      some { s with
        directories := ⟨.store, e.job⟩ :: s.directories.filter (· ≠ ⟨.staging, e.job⟩)
        published := e :: s.published }
    else none
  | .finalize e assetId manifest now =>
    if e ∈ s.published ∧ s.db.assets.lookup assetId = none then
      match finalizeReady e.job assetId ⟨.store, e.job⟩ manifest now s.db with
      | .error _ => some s
      | .ok db => some { s with db := db }
    else none
  | .heartbeat worker now =>
    let tasks := (s.executions.filter (·.worker = worker)).map (·.job)
    some { s with db := { s.db with jobs := tasks.foldl (beat worker now) s.db.jobs } }
  | .recover worker id timeout now fault =>
    match s.db.jobs.lookup id with
    | none => none
    | some job =>
      if job.stale worker timeout now then
        let (job, removed) := recoverJob s.db.assets id job now fault
        some { s.withJob id job with
          directories := s.directories.filter fun d => ¬ (d.job = id ∧ d.root ∈ removed)
          fenced := s.executions.filter (·.job = id) ++ s.fenced }
      else none
  | .finish e =>
    if ∀ t ∈ s.transactions, t.execution ≠ e then
      some { s with executions := s.executions.filter (· ≠ e), published := s.published.filter (· ≠ e) }
    else none
  | .crash worker =>
    some { s with
      executions := s.executions.filter (·.worker ≠ worker)
      published := s.published.filter (·.worker ≠ worker)
      transactions := s.transactions.filter (·.execution.worker ≠ worker) }
  | .deleteAsset id now =>
    match s.db.assets.lookup id with
    | none => some s
    | some asset =>
      if asset.deletedAt ≠ none then some s
      else
        some { s with
          db := { s.db with
            assets := s.db.assets.insert id
              { asset with
                deletedAt := some now
                status := .failed
                errorMessage := some (py "管理员已软删除；模型实体文件仍保留在受控目录") } } }

end Coordinators

/-- Coordinators without jobs, on an empty file tree. -/
def coordinators : System Coordinators Label where
  init := ⟨⟨∅, ∅⟩, [], [], [], [], 0, [], []⟩
  step := Coordinators.step

/-! ## What a step does to a job -/

/-- How a step changes the row of the job `id`. -/
inductive JobChange (s : Coordinators) : Label → Uuid → ModelImportJob → ModelImportJob → Prop
  | same {l : Label} {id : Uuid} (job : ModelImportJob) : JobChange s l id job job
  | canceled {id : Uuid} {now : Time} (job : ModelImportJob) :
      JobChange s (.requestCancel id now) id job (job.requestCancel now)
  | claimed {worker : PyStr} {id : Uuid} {now : Time} {job : ModelImportJob} (h : job.status = .pending) :
      JobChange s (.claim worker id now) id job (job.claimed worker now)
  | committed {t : Transaction} {new job : ModelImportJob} (ht : t ∈ s.transactions)
      (hnew : t.change.row t.read = some new) :
      JobChange s (.commit t) t.execution.job job (t.read.updated new job)
  | finalized {e : Execution} {assetId : Uuid} {manifest : ModelManifest} {now : Time} {job job' : ModelImportJob}
      (h : job'.status = .ready) : JobChange s (.finalize e assetId manifest now) e.job job job'
  | beaten {worker : PyStr} {id : Uuid} {now : Time} {job job' : ModelImportJob} (h : job'.status = job.status) :
      JobChange s (.heartbeat worker now) id job job'
  | recovered {worker : PyStr} {id : Uuid} {timeout now : Time} {fault : Option RemovalFault} {job : ModelImportJob}
      (h : job.stale worker timeout now = true) :
      JobChange s (.recover worker id timeout now fault) id job (recoverJob s.db.assets id job now fault).1

section Steps

variable {s s' : Coordinators}

theorem lookup_insert_cases {R : Type} {table : Table R} {id id' : Uuid} {row row' : R}
    (h : (table.insert id row).lookup id' = some row') :
    id' = id ∧ row' = row ∨ id' ≠ id ∧ table.lookup id' = some row' := by
  by_cases e : id' = id
  · subst e
    rw [AList.lookup_insert] at h
    exact .inl ⟨rfl, (Option.some.inj h).symm⟩
  · rw [AList.lookup_insert_ne e] at h
    exact .inr ⟨e, h⟩

/-- A heartbeat keeps the status of every job. -/
theorem beats_status (worker : PyStr) (now : Time) (ids : List Uuid) (jobs : Table ModelImportJob) {id : Uuid}
    {job' : ModelImportJob} (h : (ids.foldl (Coordinators.beat worker now) jobs).lookup id = some job') :
    ∃ job, jobs.lookup id = some job ∧ job'.status = job.status := by
  induction ids generalizing jobs with
  | nil => exact ⟨job', h, rfl⟩
  | cons i ids ih =>
    obtain ⟨job, hj, hs⟩ := ih _ h
    unfold Coordinators.beat at hj
    split at hj
    · exact ⟨job, hj, hs⟩
    · rename_i job₀ hj₀
      rcases lookup_insert_cases hj with ⟨rfl, rfl⟩ | ⟨-, hj⟩
      · refine ⟨job₀, hj₀, hs.trans ?_⟩
        unfold ModelImportJob.heartbeat
        split <;> rfl
      · exact ⟨job, hj, hs⟩

/-- Every job after a step is new, or was there before and has changed in one of these ways. -/
theorem step_job {l : Label} (hs : s.step l = some s') {id : Uuid} {job' : ModelImportJob}
    (hj : s'.db.jobs.lookup id = some job') :
    (∃ job, s.db.jobs.lookup id = some job ∧ JobChange s l id job job') ∨ s.db.jobs.lookup id = none := by
  have hsame (h : s.db.jobs.lookup id = some job') :
      (∃ job, s.db.jobs.lookup id = some job ∧ JobChange s l id job job') ∨ s.db.jobs.lookup id = none :=
    .inl ⟨job', h, .same job'⟩
  cases l with
  | create i payload =>
    simp only [Coordinators.step] at hs
    split at hs <;> cases hs
    rename_i hnone
    rcases lookup_insert_cases hj with ⟨rfl, -⟩ | ⟨-, hj⟩
    · exact .inr hnone
    · exact hsame hj
  | requestCancel i now =>
    simp only [Coordinators.step] at hs
    split at hs <;> cases hs
    · exact hsame hj
    · rename_i job hjob
      rcases lookup_insert_cases hj with ⟨rfl, rfl⟩ | ⟨-, hj⟩
      · exact .inl ⟨job, hjob, .canceled job⟩
      · exact hsame hj
  | claim worker i now =>
    simp only [Coordinators.step] at hs
    split at hs <;> [cases hs; skip]
    rename_i job hjob
    split at hs <;> cases hs
    rename_i hp
    rcases lookup_insert_cases hj with ⟨rfl, rfl⟩ | ⟨-, hj⟩
    · exact .inl ⟨job, hjob, .claimed hp⟩
    · exact hsame hj
  | commit t =>
    simp only [Coordinators.step] at hs
    split at hs <;> [skip; cases hs]
    rename_i ht
    split at hs <;> cases hs
    · rename_i current new hcurrent hnew
      rcases lookup_insert_cases hj with ⟨rfl, rfl⟩ | ⟨-, hj⟩
      · exact .inl ⟨current, hcurrent, .committed ht hnew⟩
      · exact hsame hj
    · exact hsame hj
  | finalize e assetId manifest now =>
    simp only [Coordinators.step] at hs
    split at hs <;> [skip; cases hs]
    split at hs <;> cases hs
    · exact hsame hj
    rename_i db hdb
    unfold finalizeReady at hdb
    split at hdb <;> [cases hdb; skip]
    split at hdb <;> [cases hdb; skip]
    rename_i job hjob
    split at hdb <;> [cases hdb; skip]
    split at hdb <;> [cases hdb; skip]
    split at hdb <;> cases hdb
    rcases lookup_insert_cases hj with ⟨rfl, rfl⟩ | ⟨-, hj⟩
    · exact .inl ⟨job, hjob, .finalized rfl⟩
    · exact hsame hj
  | heartbeat worker now =>
    cases hs
    obtain ⟨job, hjob, h⟩ := beats_status _ _ _ _ hj
    exact .inl ⟨job, hjob, .beaten h⟩
  | recover worker i timeout now fault =>
    simp only [Coordinators.step] at hs
    split at hs <;> [cases hs; skip]
    rename_i job hjob
    split at hs <;> cases hs
    rename_i hstale
    rcases lookup_insert_cases hj with ⟨rfl, rfl⟩ | ⟨-, hj⟩
    · exact .inl ⟨job, hjob, .recovered hstale⟩
    · exact hsame hj
  | read e change =>
    simp only [Coordinators.step] at hs
    split at hs <;> [skip; cases hs]
    split at hs
    · cases hs
      exact hsame hj
    · split at hs <;> cases hs <;> exact hsame hj
  | deleteAsset i now =>
    simp only [Coordinators.step] at hs
    split at hs
    · cases hs
      exact hsame hj
    · split at hs <;> cases hs <;> exact hsame hj
  | crash worker =>
    cases hs
    exact hsame hj
  | _ =>
    simp only [Coordinators.step] at hs
    split at hs <;> cases hs
    exact hsame hj

end Steps

end OpenLLMOps.ModelImport
