import OpenLLMOps.ControlPlane.Snapshots

/-!
# Rows and leases agree

In every state of the control plane an active row owns one complete lease group
of its generation and its GPUs, and every other row owns no lease
(`LeaseInv`); so a claim never finds a lease of its own row. That an answer acts
on an active row is `SnapshotInv.current`.

One route breaks this: `start_deployment` on a deployment that is still
STOPPING queues a row whose lease is held. `leaseAgreement_iff` says that no
other step does.
-/

namespace OpenLLMOps

open Framework Vllm

/-- One row and the leases of its owner. -/
structure RowOk (row : Row) (ls : List GPULease) : Prop where
  gpus : row.gpuIds ≠ [] ∧ row.gpuIds.Nodup
  active : row.active = true → CompleteGroup ls row.runtimeGeneration row.gpuIds
  inactive : row.active = false → ls = []

/-- Every row agrees with its leases, and an owner without a row has none. -/
structure LeaseInv (db : Db) : Prop where
  row : ∀ {k row}, db.getRow k = some row → RowOk row (db.leasesOf k)
  missing : ∀ {k}, db.getRow k = none → db.leasesOf k = []

/-! ## One owner changes -/

section Update

variable {db : Db} (h : LeaseInv db)

include h

/-- A new row and new leases of one owner. -/
theorem LeaseInv.put {k : OwnerKey} {row : Row} {leases : List GPULease} (ht : row.ownerType = k.type)
    (hrow : RowOk row (ownedBy k leases)) (hother : ∀ k', k' ≠ k → ownedBy k' leases = db.leasesOf k') :
    LeaseInv { db.put k.id row with gpuLeases := leases } := by
  have hk : (⟨row.ownerType, k.id⟩ : OwnerKey) = k := by rw [ht]
  refine ⟨fun {k' r} hr => ?_, fun {k'} hn => ?_⟩
  · rw [Db.getRow_withLeases, Db.getRow_put, hk] at hr
    split at hr
    · rename_i e
      cases hr
      subst e
      exact hrow
    · rename_i hne
      have := h.row hr
      rw [← hother k' hne] at this
      exact this
  · rw [Db.getRow_withLeases, Db.getRow_put, hk] at hn
    split at hn
    · cases hn
    · rename_i hne
      exact (hother k' hne).trans (h.missing hn)

/-- A new row of one owner, with the leases as they are. -/
theorem LeaseInv.putRow {k : OwnerKey} {row : Row} (ht : row.ownerType = k.type)
    (hrow : RowOk row (db.leasesOf k)) : LeaseInv (db.put k.id row) := by
  have := h.put ht hrow fun _ _ => rfl
  rwa [← Db.gpuLeases_put db k.id row] at this

/-- Deleting a row with all its leases. -/
theorem LeaseInv.delete (k : OwnerKey) :
    LeaseInv (({ db with gpuLeases := releaseAll k db.gpuLeases } : Db).delete k) := by
  have hleases (k' : OwnerKey) :
      (({ db with gpuLeases := releaseAll k db.gpuLeases } : Db).delete k).leasesOf k' =
        ownedBy k' (releaseAll k db.gpuLeases) := by rw [Db.leasesOf, Db.gpuLeases_delete]
  refine ⟨fun {k' r} hr => ?_, fun {k'} hn => ?_⟩
  · rw [Db.getRow_delete] at hr
    split at hr
    · cases hr
    · rename_i hne
      rw [hleases, releaseAll_other k' (Ne.symm hne)]
      exact h.row hr
  · rw [Db.getRow_delete] at hn
    rw [hleases]
    split at hn
    · rename_i e
      subst e
      exact releaseAll_self k' _
    · rename_i hne
      rw [releaseAll_other k' (Ne.symm hne)]
      exact h.missing hn

end Update

/-! ## Routes -/

section Routes

variable {casing : Casing} {cfg : Settings} {db db' : Db} {r : RouteCall casing} {ls : List GPULease}

theorem RowOk.of_keeps {row row' : Row} (h : RowOk row ls) (hk : Keeps row row') : RowOk row' ls := by
  refine ⟨?_, fun ha => ?_, fun ha => h.inactive (hk.active ▸ ha)⟩
  · rcases hk.gpus with e | ⟨-, hg⟩
    · exact e ▸ h.gpus
    · exact hg
  · rw [hk.active] at ha
    have hg : row'.gpuIds = row.gpuIds := hk.gpus.resolve_right fun hn => by rw [ha] at hn; cases hn.1
    rw [hk.generation, hg]
    exact h.active ha

/-- An inactive row agrees with no leases. -/
theorem RowOk.of_nil {row : Row} (hg : row.gpuIds ≠ [] ∧ row.gpuIds.Nodup) (hi : row.active = false)
    (hls : ls = []) : RowOk row ls :=
  ⟨hg, fun ha => absurd ha (by rw [hi]; decide), fun _ => hls⟩

/-- A route keeps the agreement, unless it starts a stopping deployment. -/
theorem RouteEffect.leases (heff : RouteEffect cfg r db db') (h : LeaseInv db) (hs : r.startsStopping db = none) :
    LeaseInv db' := by
  cases heff with
  | create id row hnew hf hnone =>
    exact h.putRow (k := ⟨row.ownerType, id⟩) rfl
      (.of_nil hf.gpus (Row.inactive_of_queued hf.queued) (h.missing hnone))
  | @change k row row' hrow hm =>
    rcases hm.keeps hrow with hk | hq
    · exact h.putRow hm.ownerType ((h.row hrow).of_keeps hk)
    · have hst := hq.starts
      rw [hs] at hst
      cases hst
  | @delete k row hrow ht => exact h.delete k

end Routes

/-! ## Answers -/

section Answers

variable {cfg : Settings} {db : Db} {w : WorkloadSnapshot} {row row' : Row}

/-- Releasing the lease of a row that stops being active. -/
theorem LeaseInv.released (h : LeaseInv db) (hr : db.getRow w.owner.key = some row) (ha : row.active = true)
    (hgen : row.runtimeGeneration = w.owner.generation) (ht : row'.ownerType = row.ownerType)
    (hg : row'.gpuIds = row.gpuIds) (hi : row'.active = false) :
    LeaseInv { db.put w.owner.id row' with gpuLeases := release w.owner db.gpuLeases } := by
  have hok := h.row hr
  have hnone : ownedBy w.owner.key (release w.owner db.gpuLeases) = [] :=
    release_group fun l hl => ((hok.active ha).generation l hl).trans hgen
  refine h.put (k := w.owner.key) (ht.trans (db.ownerType_of_getRow hr)) (.of_nil (hg ▸ hok.gpus) hi hnone) ?_
  exact fun k' hne => release_other k' (Ne.symm hne) _

/-- Keeping the lease of a row that stays active. -/
theorem LeaseInv.heartbeat (h : LeaseInv db) (hr : db.getRow w.owner.key = some row) (ha : row.active = true)
    (ht : row'.ownerType = row.ownerType) (hg : row'.gpuIds = row.gpuIds)
    (hgen : row'.runtimeGeneration = row.runtimeGeneration) (ha' : row'.active = true) (now : Time) :
    LeaseInv { db.put w.owner.id row' with
      gpuLeases := OpenLLMOps.heartbeat cfg.gpuLeaseTtl w.owner now db.gpuLeases } := by
  have hok := h.row hr
  refine h.put (k := w.owner.key) (ht.trans (db.ownerType_of_getRow hr)) ⟨hg ▸ hok.gpus, fun _ => ?_, ?_⟩ ?_
  · rw [hgen, hg, OpenLLMOps.heartbeat, renew_keeps]
    exact (hok.active ha).renew _ _ _
  · intro hi
    rw [ha'] at hi
    cases hi
  · exact fun k' hne => heartbeat_other k' (Ne.symm hne) _ _ _

end Answers

/-! ## The claim and the reaper -/

section Claim

variable {cfg : Settings} {assetPath : Uuid → Option PyStr} {env : ClaimEnv} {db db' : Db}

/-- The head of the queue owns no lease. -/
theorem LeaseInv.head (h : LeaseInv db) {k : OwnerKey} {row : Row} (hhead : fifoHead (candidates db) = some (k, row)) :
    db.getRow k = some row ∧ row.active = false ∧ (row.gpuIds ≠ [] ∧ row.gpuIds.Nodup) ∧ db.leasesOf k = [] := by
  obtain ⟨hr, hq, -⟩ := head_spec hhead
  have hi := Row.inactive_of_queued hq
  exact ⟨hr, hi, (h.row hr).gpus, (h.row hr).inactive hi⟩

/-- Acquiring for an owner without leases: a group that nobody else owns is added. -/
theorem acquired_leases {k : OwnerKey} {name : PyStr} {g : Nat} {gpuIds : List Nat} {group : Uuid} {ttl now : Time}
    {acquisition : LeaseAcquisition} {leases : List GPULease} (hg : gpuIds ≠ [] ∧ gpuIds.Nodup)
    (hnone : db.leasesOf k = [])
    (hacq : tryAcquireLocked ttl group ⟨k.type, k.id, name, g⟩ gpuIds now db.gpuLeases = .ok (acquisition, leases))
    (ha : acquisition.acquired = true) :
    CompleteGroup (ownedBy k leases) g gpuIds ∧ ∀ k', k' ≠ k → ownedBy k' leases = db.leasesOf k' := by
  obtain ⟨acq, hacq', hna⟩ | ⟨acq, new, hacq', -, hnew, hgroup, -⟩ :=
    tryAcquireLocked_of_unowned ttl now group ⟨k.type, k.id, name, g⟩ hg.1 hg.2 hnone
  · rw [hacq'] at hacq
    cases hacq
    rw [hna] at ha
    cases ha
  rw [hacq'] at hacq
  cases hacq
  have hself : new.filter (·.key = k) = new := List.filter_eq_self.mpr fun l hl => by
    rw [hnew l hl]
    exact decide_eq_true rfl
  have hother (k' : OwnerKey) (hne : k' ≠ k) : new.filter (·.key = k') = [] :=
    List.filter_eq_nil_iff.mpr fun l hl => by
      rw [hnew l hl, decide_eq_true_eq]
      exact Ne.symm hne
  refine ⟨?_, fun k' hne => ?_⟩
  · have h₀ : db.gpuLeases.filter (·.key = k) = [] := hnone
    rw [ownedBy, List.filter_append, h₀, hself, List.nil_append]
    exact hgroup
  · rw [ownedBy, List.filter_append, hother k' hne, List.append_nil]
    rfl

/-- A claim keeps the agreement. -/
theorem ClaimEffect.leases {k : OwnerKey} {row : Row} {attempt : ScheduleAttempt}
    (heff : ClaimEffect cfg assetPath env db k row attempt db') (h : LeaseInv db)
    (hhead : fifoHead (candidates db) = some (k, row)) : LeaseInv db' := by
  obtain ⟨hr, hi, hgpus, hnone⟩ := h.head hhead
  have ht := db.ownerType_of_getRow hr
  cases heff with
  | preflightFailed m htype =>
    obtain ⟨ht', hg, -, -, hi'⟩ := @Row.preflightFailed_spec m env.now _ htype
    exact h.putRow (ht'.trans ht) (.of_nil (hg ▸ hgpus) hi' hnone)
  | blocked hacq ha =>
    obtain ⟨ht', hg, -, -, hi'⟩ := row.withGeneration_spec 0
    exact h.putRow (ht'.trans ht) (.of_nil (hg ▸ hgpus) (hi'.trans hi) hnone)
  | claimed he hacq ha =>
    obtain ⟨ht', hg, -, hact, hgen⟩ := row.claimed_spec
    obtain ⟨hgroup, hother⟩ := acquired_leases hgpus hnone hacq ha
    refine h.put (ht'.trans ht) ⟨hg ▸ hgpus, fun _ => ?_, fun hi' => ?_⟩ hother
    · rw [hgen, hg]
      exact hgroup
    · rw [hact] at hi'
      cases hi'

/-- No claim finds a lease of the row that it claims. -/
theorem claimFifoHead_no_invariant_error (h : LeaseInv db) :
    claimFifoHead cfg assetPath env db ≠ .error (.lease .invariant) := by
  intro he
  obtain ⟨k, row, hhead, herr⟩ := claimFifoHead_error he
  obtain ⟨-, -, hgpus, hnone⟩ := h.head hhead
  rcases tryAcquireLocked_of_unowned cfg.gpuLeaseTtl env.now env.group
    ⟨k.type, k.id, row.name, row.stateVersion⟩ hgpus.1 hgpus.2 hnone with ⟨_, hok, -⟩ | ⟨_, _, hok, -⟩
  · rw [hok] at herr
    cases herr
  · rw [hok] at herr
    cases herr

theorem leasesOf_reap (now : Time) (k : OwnerKey) :
    (reapTerminalExpiredLeases now db).leasesOf k =
      ownedBy k (reapExpiredLocked (fun o => (db.getRow o.1).all Row.isTerminal) now db.gpuLeases) := rfl

/-- The reaper finds no lease of an owner whose row is gone or ended. -/
theorem LeaseInv.reap (h : LeaseInv db) (now : Time) : LeaseInv (reapTerminalExpiredLeases now db) := by
  refine ⟨fun {k row} hr => ?_, fun {k} hn => ?_⟩
  · have hr : db.getRow k = some row := hr
    have hrow := h.row hr
    rw [leasesOf_reap]
    cases ha : row.active with
    | false =>
      rw [reap_nil k _ now (hrow.inactive ha)]
      rw [hrow.inactive ha] at hrow
      exact hrow
    | true =>
      have hterm : row.isTerminal = false := Row.active_not_terminal ha
      rw [reap_other k (fun g => by simp [hr, hterm])]
      exact hrow
  · rw [leasesOf_reap, reap_nil k _ now (h.missing hn)]

end Claim

/-! ## Runs -/

section Runs

variable {casing : Casing} (cfg : Settings) (assetPath : Uuid → Option PyStr)

/-- Row state and lease table agree, and no claim raises a `LeaseInvariantError`. -/
structure LeaseAgreement (db : Db) : Prop where
  queued : ∀ k row, db.getRow k = some row → row.queued = true → db.leasesOf k = []
  active : ∀ k row, db.getRow k = some row → row.active = true →
    CompleteGroup (db.leasesOf k) row.runtimeGeneration row.gpuIds
  claim : ∀ env, claimFifoHead cfg assetPath env db ≠ .error (.lease .invariant)

/-- The step is no `start_deployment` on a deployment in STOPPING. -/
def NoStartWhileStopping (s : ControlPlane) (l : Label casing) (_ : ControlPlane) : Prop :=
  match l with
  | .route r => r.startsStopping s.db = none
  | _ => True

theorem NoStartWhileStopping.noStartOnPending {s s' : ControlPlane} {l : Label casing}
    (h : NoStartWhileStopping s l s') : NoStartOnPending s l s' := by
  cases l with
  | route r =>
    have h : r.startsStopping s.db = none := h
    intro id hid
    rw [h] at hid
    cases hid
  | _ => trivial

/-- The invariant of the control plane. -/
structure AgreementInv (s : ControlPlane) : Prop where
  snapshots : SnapshotInv s
  leases : LeaseInv s.db

theorem AgreementInv.agreement {s : ControlPlane} (h : AgreementInv s) : LeaseAgreement cfg assetPath s.db where
  queued _ _ hr hq := (h.leases.row hr).inactive (Row.inactive_of_queued hq)
  active _ _ hr ha := (h.leases.row hr).active ha
  claim _ := claimFifoHead_no_invariant_error h.leases

variable {cfg assetPath}

/-- Every transaction keeps the agreement, unless it starts a stopping deployment. -/
theorem AgreementInv.leases_step {s s' : ControlPlane} {l : Label casing} (h : AgreementInv s)
    (hs : ControlPlane.step cfg assetPath s l = some s') (hc : NoStartWhileStopping s l s') : LeaseInv s'.db := by
  obtain ⟨hsnap, hl⟩ := h
  have ht := step_transaction hs
  generalize s'.db = db' at ht
  cases ht with
  | unchanged => exact hl
  | route hid heff => exact heff.leases hl hc
  | @observed env c response todo row row' released hpc hrow hobs =>
    obtain ⟨hr, ha, hgen⟩ := hsnap.current (by rw [hpc]; exact List.mem_cons_self) hrow
    have ho := observeRow_spec hobs
    cases released with
    | true => exact hl.released hr ha hgen ho.type ho.gpus (ho.ended rfl).1
    | false => exact hl.heartbeat hr ha ho.type ho.gpus (ho.active rfl).2 (ho.active rfl).1 env.now
  | @startFailed env c response todo row message hpc hna hrow =>
    obtain ⟨hr, ha, hgen⟩ := hsnap.current (by rw [hpc]; exact List.mem_cons_self) hrow
    obtain ⟨ht, hg, -, -, hi⟩ := row.startFailed_spec message env.now
    exact hl.released hr ha hgen ht hg hi
  | @agentError env c message todo row hpc hrow =>
    obtain ⟨hr, -, -⟩ := hsnap.current (by rw [hpc]; exact List.mem_cons_self) hrow
    have hk := row.withError_keeps message
    exact hl.putRow (k := c.workload.owner.key) (hk.type.trans (s.db.ownerType_of_getRow hr)) ((hl.row hr).of_keeps hk)
  | reaped now hpc => exact hl.reap now
  | claim hpc hhead heff => exact heff.leases hl hhead

/-- One step keeps the invariant, unless it starts a stopping deployment. -/
theorem AgreementInv.step {s s' : ControlPlane} {l : Label casing} (h : AgreementInv s)
    (hs : ControlPlane.step cfg assetPath s l = some s') (hc : NoStartWhileStopping s l s') : AgreementInv s' :=
  ⟨h.snapshots.step hs hc.noStartOnPending, h.leases_step hs hc⟩

theorem AgreementInv.init : AgreementInv ⟨.empty, .idle, []⟩ := by
  have hnone (k : OwnerKey) : Db.empty.getRow k = none := by
    obtain ⟨t, id⟩ := k
    cases t <;> rfl
  refine ⟨.init, fun {k row} hr => ?_, fun _ => rfl⟩
  rw [hnone] at hr
  cases hr

/-- Starting a stopping deployment leaves a queued row that owns leases. -/
theorem AgreementInv.breaks {s s' : ControlPlane} {r : RouteCall casing} (h : AgreementInv s)
    (hs : ControlPlane.step cfg assetPath s (.route r) = some s') {id : Uuid}
    (hr : r.startsStopping s.db = some id) : ¬ LeaseAgreement cfg assetPath s'.db := by
  obtain ⟨now, d, rfl, hd, hst⟩ := RouteCall.startsStopping_eq_some hr
  have hrow : s.db.getRow ⟨.deployment, id⟩ = some (.deployment d) := Db.getRow_deployment.mpr ⟨d, hd, rfl⟩
  have hact : (Row.deployment d).active = true := by
    simp only [Row.active, hst]
    rfl
  have hok := h.leases.row hrow
  have hne : s.db.leasesOf ⟨.deployment, id⟩ ≠ [] := (hok.active hact).ne_nil hok.gpus.1
  have hdb : s'.db = s.db.put id (.deployment (startedRow now d)) := by
    simp only [ControlPlane.step, RouteCall.newId, RouteCall.run, startDeployment, hd] at hs
    cases hs
    rfl
  intro hp
  refine hne ?_
  have hget : s'.db.getRow ⟨.deployment, id⟩ = some (.deployment (startedRow now d)) := by
    rw [hdb]
    exact Db.getRow_put_self (k := ⟨.deployment, id⟩) rfl
  have hq := hp.queued _ _ hget (by simp only [Row.queued, startedRow, hst]; rfl)
  rwa [hdb, Db.leasesOf, Db.gpuLeases_put] at hq

/-- Row state and lease table agree in every state of a run, and no claim raises, exactly
if no step of the run starts a deployment that is STOPPING. -/
theorem leaseAgreement_iff (ls : List (Label casing)) :
    (controlPlane casing cfg assetPath).Always (fun s => LeaseAgreement cfg assetPath s.db)
        (controlPlane casing cfg assetPath).init ls ↔
      (controlPlane casing cfg assetPath).EachStep NoStartWhileStopping
        (controlPlane casing cfg assetPath).init ls := by
  have hstep {s l s'} (h : AgreementInv s) (hs : (controlPlane casing cfg assetPath).step s l = some s')
      (hc : NoStartWhileStopping s l s') : AgreementInv s' := h.step hs hc
  refine System.always_iff_eachStep hstep (fun h => h.agreement cfg assetPath) ?_ AgreementInv.init
  intro s l s' h hs hp
  cases l with
  | route r =>
    show r.startsStopping s.db = none
    cases hr : r.startsStopping s.db with
    | none => rfl
    | some id => exact absurd hp (h.breaks hs hr)
  | _ => trivial

end Runs

section Sample

open Sample

/-- A deployment that is started while it stops: its lease is never released, and every
later claim raises. -/
theorem start_while_stopping_wedges :
    let ls : List (Label casing) := running ++ [.route (.stopDeployment 1), .route (.startDeployment 1 4)]
    ¬ (controlPlane casing cfg assetPath).Always (fun s => LeaseAgreement cfg assetPath s.db)
      (controlPlane casing cfg assetPath).init ls ∧
    ∃ s, (controlPlane casing cfg assetPath).run (controlPlane casing cfg assetPath).init ls = some s ∧
      claimFifoHead cfg assetPath ⟨5, 9, .escape⟩ s.db = .error (.lease .invariant) := by
  intro ls
  have hrun : ∃ s, (controlPlane casing cfg assetPath).run (controlPlane casing cfg assetPath).init ls = some s ∧
      claimFifoHead cfg assetPath ⟨5, 9, .escape⟩ s.db = .error (.lease .invariant) := ⟨_, rfl, rfl⟩
  refine ⟨fun h => ?_, hrun⟩
  obtain ⟨s, hs, he⟩ := hrun
  exact (h.of_run hs).claim ⟨5, 9, .escape⟩ he

end Sample

end OpenLLMOps
