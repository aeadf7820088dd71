import OpenLLMOps.ControlPlane.LeaseTable
import OpenLLMOps.ControlPlane.Snapshots

/-!
# First in, first out

A claim takes the row with the smallest `_queue_sort_key`, or it fails. Which of the
ways it fails matters for the rows behind the head:

* a blocked head, or a claim that raises, ends the round: `Idle.claims_nothing`;
* a job whose preflight fails leaves the queue, and the round goes on with the next row.

A queued row owns no lease of its version (`LeaseAge`), so a claim never renews:
it finds all its GPUs free.
-/

namespace OpenLLMOps

open Framework Vllm

/-! ## The order of the queue -/

theorem sortKeyLt_iff {a b : Nat × Nat × Nat} : sortKeyLt a b = true ↔
    a.1 < b.1 ∨ a.1 = b.1 ∧ (a.2.1 < b.2.1 ∨ a.2.1 = b.2.1 ∧ a.2.2 < b.2.2) := by
  simp [sortKeyLt]

theorem sortKeyLt_trans {a b c : Nat × Nat × Nat} (h : sortKeyLt a b = true) (h' : sortKeyLt b c = true) :
    sortKeyLt a c = true := by
  rw [sortKeyLt_iff] at *
  omega

theorem sortKeyLt_of_not {a b c : Nat × Nat × Nat} (h : sortKeyLt a c = true) (h' : ¬ sortKeyLt b c = true) :
    sortKeyLt a b = true := by
  rw [sortKeyLt_iff] at *
  omega

/-- No row of the queue is before its head. -/
theorem fifoHead_min {es : List (OwnerKey × Row)} {e e' : OwnerKey × Row} (h : fifoHead es = some e) (he' : e' ∈ es) :
    ¬ sortKeyLt (queueSortKey e') (queueSortKey e) = true := by
  have hirrefl (a : Nat × Nat × Nat) : ¬ sortKeyLt a a = true := by
    rw [sortKeyLt_iff]
    omega
  induction es generalizing e with
  | nil => cases he'
  | cons e₀ es ih =>
    unfold fifoHead at h
    split at h
    · rename_i hnone
      cases h
      rcases List.mem_cons.mp he' with rfl | hm
      · exact hirrefl _
      · cases es with
        | nil => cases hm
        | cons e₁ es =>
          unfold fifoHead at hnone
          split at hnone <;> [cases hnone; skip]
          split at hnone <;> cases hnone
    · rename_i e₁ he₁
      split at h
      · rename_i hlt
        cases h
        rcases List.mem_cons.mp he' with rfl | hm
        · exact fun hlt' => hirrefl _ (sortKeyLt_trans hlt hlt')
        · exact ih he₁ hm
      · rename_i hge
        cases h
        rcases List.mem_cons.mp he' with rfl | hm
        · exact hirrefl _
        · exact fun hlt => ih he₁ hm (sortKeyLt_of_not hlt hge)

/-! ## What a claim does to the leases -/

theorem tryAcquireLocked_ok {ttl now : Time} {group : Uuid} {owner : LeaseOwner} {gpuIds : List Nat}
    {acq : LeaseAcquisition} {ls ls' : List GPULease}
    (h : tryAcquireLocked ttl group owner gpuIds now ls = .ok (acq, ls')) :
    AcquireEffect ttl group owner (gpuIds.map Int.ofNat) now ls (.ok acq) ls' := by
  have hw : AcquireEffect _ _ _ _ _ _ _ _ :=
    @wp_tryAcquire (fun _ => true) ttl now group owner (gpuIds.map Int.ofNat) ls
  rwa [tryAcquire_eq, h] at hw

/-- An acquisition changes no lease of another owner. -/
theorem AcquireEffect.other {ttl now : Time} {group : Uuid} {owner : LeaseOwner} {gpuIds : List Int}
    {r : Except AcquireError LeaseAcquisition} {ls ls' : List GPULease}
    (h : AcquireEffect ttl group owner gpuIds now ls r ls') {k : OwnerKey} (hk : k ≠ owner.key) :
    ownedBy k ls' = ownedBy k ls := by
  cases h with
  | raised e => rfl
  | refused ha => rfl
  | renewed _ _ _ _ =>
    rw [renew_keeps, renew]
    refine (List.map_congr_left fun l hl => ?_).trans (List.map_id _)
    have hl : l.key = k := (mem_ownedBy.mp hl).2
    exact if_neg (by rw [decide_eq_true_eq, hl]; exact hk)
  | @inserted acq requested _ _ _ _ _ =>
    have hnew : (newLeases ttl group owner requested now).filter (·.key = k) = [] := by
      refine List.filter_eq_nil_iff.mpr fun l hl => ?_
      obtain ⟨gpu, -, rfl⟩ := List.mem_map.mp hl
      rw [decide_eq_true_eq]
      exact Ne.symm hk
    rw [ownedBy, List.filter_append, hnew, List.append_nil]

/-! ## The time of creation -/

section CreatedAt

variable {casing : Casing} {cfg : Settings} {assetPath : Uuid → Option PyStr}

theorem cancelledJob_createdAt (now : Time) (j : JobColumns) : (cancelledJob now j).createdAt = j.createdAt := by
  unfold cancelledJob
  split <;> rfl

theorem Mutation.createdAt {r : RouteCall casing} {k : OwnerKey} {row row' : Row} (h : Mutation cfg r k row row') :
    row'.createdAt = row.createdAt := by
  cases h with
  | @update id payload d d' hd =>
    obtain ⟨-, -, he⟩ := updatedRow_ok hd
    show d'.createdAt = d.createdAt
    rw [he]
  | start id now d =>
    show (startedRow now d).createdAt = d.createdAt
    unfold startedRow
    split <;> rfl
  | stop id d =>
    show (stoppedRow d).createdAt = d.createdAt
    unfold stoppedRow
    split <;> rfl
  | terminate id now j =>
    show (terminatedJob now j.toJobColumns).createdAt = j.createdAt
    unfold terminatedJob
    split
    · rfl
    · exact cancelledJob_createdAt now j.toJobColumns
  | cancel id now r => exact cancelledJob_createdAt now r.toJobColumns

theorem absent_createdAt (j : JobColumns) (response : AgentCommandResponse) (now : Time) :
    (j.absent response now).createdAt = j.createdAt := by
  unfold JobColumns.absent
  split <;> rfl

theorem applyDeploymentObservation_createdAt (now : Time) (response : AgentCommandResponse) (d : Deployment) :
    (applyDeploymentObservation now response d).1.createdAt = d.createdAt := by
  unfold applyDeploymentObservation
  split
  · split
    · rfl
    split <;> rfl
  · rfl
  · rfl
  all_goals split <;> rfl

theorem applyTrainingObservation_createdAt {env : ObservationEnv} {response : AgentCommandResponse}
    {j j' : TrainingJob} {released : Bool} (h : applyTrainingObservation env response j = .ok (j', released)) :
    j'.createdAt = j.createdAt := by
  unfold applyTrainingObservation at h
  split at h
  · cases h
    exact absent_createdAt _ _ _
  · split at h <;> cases h <;> rfl
  · split at h <;> [cases h; (cases h; rfl); skip]
    simp only at h
    split at h <;> cases h <;> rfl
  all_goals
    simp only at h
    split at h <;> cases h <;> rfl

theorem observeRow_createdAt {env : ObservationEnv} {response : AgentCommandResponse} {row row' : Row}
    {released : Bool} (h : observeRow env response row = .ok (row', released)) : row'.createdAt = row.createdAt := by
  cases row with
  | deployment d =>
    cases h
    exact applyDeploymentObservation_createdAt env.now response d
  | training j =>
    simp only [observeRow, bind, Except.bind] at h
    split at h <;> [cases h; skip]
    rename_i hj
    cases h
    exact applyTrainingObservation_createdAt hj
  | evaluation r =>
    simp only [observeRow, applyEvaluationObservation, bind, Except.bind] at h
    split at h <;> [cases h; skip]
    rename_i hr
    cases h
    split at hr
    · cases hr
      exact absent_createdAt _ _ _
    · split at hr <;> cases hr <;> rfl
    · cases hr
      rfl
    all_goals
      cases hr
      rfl

/-- No step changes when a row was created. -/
theorem step_createdAt {s s' : ControlPlane} {l : Label casing}
    (hs : ControlPlane.step cfg assetPath s l = some s') (k : OwnerKey) (row' : Row)
    (hr : s'.db.getRow k = some row') :
    (∃ row, s.db.getRow k = some row ∧ row'.createdAt = row.createdAt) ∨ k.id ∉ s.used := by
  have hold (k : OwnerKey) (row : Row) (hr : s.db.getRow k = some row) :
      (∃ row₀, s.db.getRow k = some row₀ ∧ row.createdAt = row₀.createdAt) ∨ k.id ∉ s.used := .inl ⟨row, hr, rfl⟩
  have hput {k₀ : OwnerKey} {row₀ row₁ : Row} (hr₀ : s.db.getRow k₀ = some row₀)
      (ht : row₁.ownerType = row₀.ownerType) (hc : row₁.createdAt = row₀.createdAt) :=
    Db.rows_put hold (ht.trans (s.db.ownerType_of_getRow hr₀)) (.inl ⟨row₀, hr₀, hc⟩) k row'
  revert hr
  have ht := step_transaction hs
  generalize s'.db = db' at ht
  cases ht with
  | unchanged => exact hold k row'
  | @route r _ hid heff =>
    cases heff with
    | create id row₁ hnew hf hnone =>
      exact Db.rows_put (k := ⟨row₁.ownerType, id⟩) hold rfl (.inr (hid id hnew)) k row'
    | @change k₀ row₀ row₁ hr₀ hm =>
      exact hput hr₀ (hm.ownerType.trans (s.db.ownerType_of_getRow hr₀).symm) hm.createdAt
    | @delete k₀ row₀ hr₀ hterm =>
      intro hr
      rw [Db.getRow_delete] at hr
      split at hr
      · cases hr
      · exact hold k row' hr
  | @observed env c response todo row₀ row₁ released hpc hrow hobs =>
    obtain ⟨hr₀, -⟩ := currentRow_eq_some.mp hrow
    exact hput hr₀ (observeRow_spec hobs).type (observeRow_createdAt hobs)
  | @startFailed env c response todo row₀ message hpc hna hrow =>
    obtain ⟨hr₀, -⟩ := currentRow_eq_some.mp hrow
    exact hput hr₀ (row₀.startFailed_spec message env.now).1 (by cases row₀ <;> rfl)
  | @agentError env c message todo row₀ hpc hrow =>
    obtain ⟨hr₀, -⟩ := currentRow_eq_some.mp hrow
    exact hput hr₀ (row₀.withError_keeps message).type (by cases row₀ <;> rfl)
  | reaped now hpc => exact hold k row'
  | @claim env k₀ row₀ attempt _ hpc hhead heff =>
    obtain ⟨hr₀, -, -⟩ := head_spec hhead
    cases heff with
    | preflightFailed m htype => exact hput hr₀ (@Row.preflightFailed_spec m env.now _ htype).1 (by cases row₀ <;> rfl)
    | blocked hacq ha => exact hput hr₀ (row₀.withGeneration_spec 0).1 (by cases row₀ <;> rfl)
    | claimed he hacq ha => exact hput hr₀ row₀.claimed_spec.1 (by cases row₀ <;> rfl)

end CreatedAt

/-! ## The age of leases -/

/-- A lease of the generation `g` is not younger than the row, and one of the row's own
version belongs to its running instance. -/
structure Aged (row : Row) (g : Nat) : Prop where
  le : g ≤ row.stateVersion
  current : g = row.stateVersion → row.active = true ∧ row.runtimeGeneration = row.stateVersion

/-- Every lease has a row, and is not younger. -/
def LeaseAge (db : Db) : Prop := ∀ l ∈ db.gpuLeases, ∃ row, db.getRow l.key = some row ∧ Aged row l.generation

section Age

variable {casing : Casing} {cfg : Settings} {assetPath : Uuid → Option PyStr} {db : Db}

/-- A new row of `k`, with leases that were there or are its own. -/
theorem LeaseAge.put (h : LeaseAge db) {k : OwnerKey} {row : Row} (ht : row.ownerType = k.type) {ls : List GPULease}
    (hold : ∀ l ∈ ls, l.key ≠ k → ∃ l₀ ∈ db.gpuLeases, l₀.key = l.key ∧ l₀.generation = l.generation)
    (hk : ∀ l ∈ ls, l.key = k → Aged row l.generation) : LeaseAge { db.put k.id row with gpuLeases := ls } := by
  intro l hl
  have hl : l ∈ ls := hl
  by_cases e : l.key = k
  · refine ⟨row, ?_, hk l hl e⟩
    rw [Db.getRow_withLeases, e]
    exact Db.getRow_put_self ht
  · obtain ⟨l₀, hl₀, hk₀, hg₀⟩ := hold l hl e
    obtain ⟨row₀, hr₀, ha⟩ := h l₀ hl₀
    refine ⟨row₀, ?_, hg₀ ▸ ha⟩
    rw [Db.getRow_withLeases, Db.getRow_put_ne ht e, ← hk₀]
    exact hr₀

theorem mem_renew {ttl now : Time} {p : GPULease → Bool} {ls : List GPULease} {l : GPULease}
    (h : l ∈ renew ttl now p ls) : ∃ l₀ ∈ ls, l₀.key = l.key ∧ l₀.generation = l.generation := by
  obtain ⟨l₀, hl₀, rfl⟩ := List.mem_map.mp h
  refine ⟨l₀, hl₀, ?_⟩
  split <;> exact ⟨rfl, rfl⟩

theorem Aged.of_version {row row' : Row} {g : Nat} (h : Aged row g) (hv : row.stateVersion < row'.stateVersion) :
    Aged row' g := by
  have := h.le
  exact ⟨by omega, fun e => by omega⟩

/-- A row that keeps its version keeps its leases, if those of its own version go with its
instance. -/
theorem Aged.of_same {row row' : Row} {g : Nat} (h : Aged row g) (hv : row'.stateVersion = row.stateVersion)
    (hc : g = row.stateVersion → row'.active = true ∧ row'.runtimeGeneration = row.runtimeGeneration) : Aged row' g := by
  refine ⟨hv ▸ h.le, fun e => ?_⟩
  rw [hv] at e ⊢
  obtain ⟨ha, hg⟩ := hc e
  exact ⟨ha, hg.trans (h.current e).2⟩

theorem LeaseAge.putRow (h : LeaseAge db) {k : OwnerKey} {row : Row} (ht : row.ownerType = k.type)
    (hk : ∀ l ∈ db.gpuLeases, l.key = k → Aged row l.generation) : LeaseAge (db.put k.id row) := by
  have := h.put ht (fun l hl _ => ⟨l, hl, rfl, rfl⟩) hk
  rwa [← Db.gpuLeases_put db k.id row] at this

theorem LeaseAge.aged (h : LeaseAge db) {l : GPULease} (hl : l ∈ db.gpuLeases) {k : OwnerKey} (hk : l.key = k) {row : Row}
    (hr : db.getRow k = some row) : Aged row l.generation := by
  obtain ⟨row', hr', ha⟩ := h l hl
  rw [hk, hr] at hr'
  cases hr'
  exact ha

/-- Releasing the lease of an instance that ends leaves no lease of the row's version. -/
theorem LeaseAge.released (h : LeaseAge db) {w : WorkloadSnapshot} {row row' : Row} (hrow : currentRow w db = some row)
    (ht : row'.ownerType = row.ownerType) (hv : row'.stateVersion = row.stateVersion) :
    LeaseAge { db.put w.owner.id row' with gpuLeases := release w.owner db.gpuLeases } := by
  obtain ⟨hr, hg⟩ := currentRow_eq_some.mp hrow
  refine h.put (k := w.owner.key) (ht.trans (db.ownerType_of_getRow hr)) (fun l hl _ => ?_) fun l hl hk => ?_
  · exact ⟨l, (List.mem_filter.mp hl).1, rfl, rfl⟩
  · obtain ⟨hl, hne⟩ := List.mem_filter.mp hl
    have ha := h.aged hl hk hr
    refine ha.of_same hv fun e => ?_
    -- a lease of the row's version is one of the instance that ends
    have : l.generation = w.owner.generation := e.trans ((ha.current e).2.symm.trans hg)
    exact absurd ⟨hk, this⟩ (of_decide_eq_true hne)

theorem RouteEffect.leaseAge {r : RouteCall casing} {db' : Db} (heff : RouteEffect cfg r db db') (h : LeaseAge db) :
    LeaseAge db' := by
  cases heff with
  | create id row hnew hf hnone =>
    refine h.putRow (k := ⟨row.ownerType, id⟩) rfl fun l hl hk => ?_
    obtain ⟨row', hr', -⟩ := h l hl
    rw [hk, hnone] at hr'
    cases hr'
  | @change k row row' hr hm =>
    refine h.putRow hm.ownerType fun l hl hk => ?_
    have ha := h.aged hl hk hr
    rcases hm.keeps hr with hkeep | hq
    · rcases Nat.eq_or_lt_of_le hkeep.version with e | hlt
      · exact ha.of_same e.symm fun e => ⟨hkeep.active.trans (ha.current e).1, hkeep.generation⟩
      · exact ha.of_version hlt
    · exact ha.of_version hq.version
  | @delete k row hr ht =>
    intro l hl
    rw [Db.gpuLeases_delete] at hl
    obtain ⟨hl, hne⟩ := List.mem_filter.mp hl
    obtain ⟨row', hr', ha⟩ := h l hl
    refine ⟨row', ?_, ha⟩
    rw [Db.getRow_delete, if_neg (of_decide_eq_true hne)]
    exact hr'

/-- No step makes a lease younger than its row. -/
theorem LeaseAge.step {s s' : ControlPlane} {l : Label casing} (h : LeaseAge s.db)
    (hs : ControlPlane.step cfg assetPath s l = some s') : LeaseAge s'.db := by
  have ht := step_transaction hs
  generalize s'.db = db' at ht
  cases ht with
  | unchanged => exact h
  | route hid heff => exact heff.leaseAge h
  | @observed env c response todo row row' released hpc hrow hobs =>
    have ho := observeRow_spec hobs
    cases released with
    | true => exact h.released hrow ho.type ho.version
    | false =>
      obtain ⟨hr, -⟩ := currentRow_eq_some.mp hrow
      obtain ⟨hact, hg⟩ := ho.active rfl
      refine h.put (k := c.workload.owner.key) (ho.type.trans (s.db.ownerType_of_getRow hr)) (fun l hl _ => mem_renew hl)
        fun l hl hk => ?_
      obtain ⟨l₀, hl₀, hk₀, hg₀⟩ := mem_renew hl
      have ha := h.aged hl₀ (hk₀.trans hk) hr
      exact hg₀ ▸ ha.of_same ho.version fun _ => ⟨hact, hg⟩
  | @startFailed env c response todo row message hpc hna hrow =>
    obtain ⟨ht, -, hv, -, -⟩ := row.startFailed_spec message env.now
    exact h.released hrow ht hv
  | @agentError env c message todo row hpc hrow =>
    obtain ⟨hr, -⟩ := currentRow_eq_some.mp hrow
    have hkeep := row.withError_keeps message
    refine h.putRow (k := c.workload.owner.key) (hkeep.type.trans (s.db.ownerType_of_getRow hr)) fun l hl hk => ?_
    have ha := h.aged hl hk hr
    exact ha.of_same (by cases row <;> rfl) fun e => ⟨hkeep.active.trans (ha.current e).1, hkeep.generation⟩
  | reaped now hpc =>
    intro l hl
    exact h l (List.mem_filter.mp hl).1
  | @claim env k row attempt _ hpc hhead heff =>
    obtain ⟨hr, hq, -⟩ := head_spec hhead
    have hkt := s.db.ownerType_of_getRow hr
    -- a queued row owns no lease of its version
    have hnone {l : GPULease} (hl : l ∈ s.db.gpuLeases) (hk : l.key = k) : l.generation ≠ row.stateVersion := fun e => by
      have := ((h.aged hl hk hr).current e).1
      rw [Row.inactive_of_queued hq] at this
      cases this
    cases heff with
    | preflightFailed m htype =>
      obtain ⟨ht, -, hv, -, -⟩ := @Row.preflightFailed_spec m env.now _ htype
      exact h.putRow (ht.trans hkt) fun l hl hk => (h.aged hl hk hr).of_same hv fun e => absurd e (hnone hl hk)
    | blocked hacq ha =>
      obtain ⟨ht, -, hv, -, -⟩ := row.withGeneration_spec 0
      exact h.putRow (ht.trans hkt) fun l hl hk => (h.aged hl hk hr).of_same hv fun e => absurd e (hnone hl hk)
    | @claimed acq leases execution he hacq ha =>
      obtain ⟨ht, -, hv, hact, hg⟩ := row.claimed_spec
      have heff := tryAcquireLocked_ok hacq
      refine h.put (ht.trans hkt) (fun l hl hne => ?_) fun l hl hk => ?_
      · have hmem : l ∈ ownedBy l.key leases := mem_ownedBy.mpr ⟨hl, rfl⟩
        rw [heff.other hne] at hmem
        exact ⟨l, (mem_ownedBy.mp hmem).1, rfl, rfl⟩
      · cases heff with
        | refused hna => rw [ha] at hna; cases hna
        | renewed _ _ howned hgen =>
          obtain ⟨l₀, hl₀⟩ := List.exists_mem_of_ne_nil _ howned
          obtain ⟨hm, hk₀⟩ := mem_ownedBy.mp hl₀
          exact absurd (hgen l₀ hl₀) (hnone hm hk₀)
        | inserted _ _ _ howned _ =>
          rcases List.mem_append.mp hl with hl | hl
          · exact absurd (mem_ownedBy.mpr ⟨hl, hk⟩) (List.eq_nil_iff_forall_not_mem.mp howned l)
          · obtain ⟨gpu, -, rfl⟩ := List.mem_map.mp hl
            exact ⟨hv.ge, fun _ => ⟨hact, hg.trans hv.symm⟩⟩

end Age

/-! ## Claims -/

section Claims

variable {casing : Casing} {cfg : Settings} {assetPath : Uuid → Option PyStr}

/-- The step claims the row `k`: its START is sent. -/
def Claims (k : OwnerKey) (l : Label casing) (s' : ControlPlane) : Prop :=
  ∃ env w, l = .claim env ∧ s'.pc = .waiting ⟨w, .start, false⟩ [] ∧ w.owner.key = k

/-- A claimed row is the head of the queue, and its GPUs have been acquired. -/
theorem Claims.head {s s' : ControlPlane} {l : Label casing} {k : OwnerKey} (hc : Claims k l s')
    (hs : ControlPlane.step cfg assetPath s l = some s') :
    ∃ env row acquisition leases, l = .claim env ∧ s.pc = .claiming ∧ fifoHead (candidates s.db) = some (k, row) ∧
      tryAcquireLocked cfg.gpuLeaseTtl env.group ⟨k.type, k.id, row.name, row.stateVersion⟩ row.gpuIds env.now
        s.db.gpuLeases = .ok (acquisition, leases) ∧
      acquisition.acquired = true := by
  obtain ⟨env, w, rfl, hpc, hk⟩ := hc
  simp only [ControlPlane.step] at hs
  split at hs <;> [skip; cases hs]
  rename_i hclaiming
  split at hs
  · cases hs
    cases hpc
  rename_i attempt db hclaim
  cases hs
  rcases claimFifoHead_cases hclaim with ⟨rfl, -⟩ | ⟨k', row, hhead, heff⟩
  · cases hpc
  cases heff with
  | preflightFailed m ht => cases hpc
  | blocked hacq ha => cases hpc
  | claimed he hacq ha =>
    cases hpc
    have e : k' = k := hk
    subst e
    exact ⟨env, row, _, _, rfl, hclaiming, hhead, hacq, ha⟩

/-- The label begins a round. -/
def Label.begins : Label casing → Bool
  | .begin _ => true
  | _ => false

variable (casing cfg assetPath) in
/-- Nothing is claimed until the next round begins. -/
def ClaimsNothing (s : ControlPlane) : Prop :=
  ∀ ls : List (Label casing), (∀ l ∈ ls, l.begins = false) →
    (controlPlane casing cfg assetPath).EachStep (fun _ l s' => ∀ k, ¬ Claims k l s') s ls

theorem idle_step {s s' : ControlPlane} {l : Label casing} (h : s.pc = .idle) (hl : l.begins = false)
    (hs : ControlPlane.step cfg assetPath s l = some s') : s'.pc = .idle := by
  cases l with
  | begin order => cases hl
  | route r =>
    simp only [ControlPlane.step] at hs
    split at hs <;> cases hs
    exact h
  | abort =>
    cases hs
    rfl
  | _ =>
    simp only [ControlPlane.step, h] at hs
    cases hs

/-- A round that has ended claims nothing. -/
theorem idle_claims_nothing {s : ControlPlane} (h : s.pc = .idle) : ClaimsNothing casing cfg assetPath s := by
  intro ls hls
  induction ls generalizing s with
  | nil => trivial
  | cons l ls ih =>
    intro s' hs
    have hidle := idle_step h (hls l List.mem_cons_self) hs
    refine ⟨?_, ih hidle fun l' hl' => hls l' (List.mem_cons_of_mem _ hl')⟩
    rintro k ⟨env, w, -, hpc, -⟩
    rw [hidle] at hpc
    cases hpc

/-- The row `k` waits to be claimed since `queuedAt`. -/
def Waits (k : OwnerKey) (queuedAt : Option Time) (s : ControlPlane) : Prop :=
  ∃ row, s.db.getRow k = some row ∧ row.queued = true ∧ row.desiresRunning = true ∧ row.queuedAt = queuedAt

/-- A row that waits keeps its place in the queue. -/
theorem waits_key {k : OwnerKey} {ls : List (Label casing)} {s s' : ControlPlane} {row : Row} (h : RoundInv s)
    (hr : s.db.getRow k = some row) (hw : (controlPlane casing cfg assetPath).Always (Waits k row.queuedAt) s ls)
    (hrun : (controlPlane casing cfg assetPath).run s ls = some s') :
    ∃ row', (k, row') ∈ candidates s'.db ∧ queueSortKey (k, row') = queueSortKey (k, row) := by
  induction ls generalizing s row with
  | nil =>
    cases hrun
    obtain ⟨row', hr', hq, hd, -⟩ := hw
    rw [hr] at hr'
    cases hr'
    exact ⟨row, List.mem_filter.mpr ⟨Db.mem_rows.mpr hr, by rw [hq, hd]; rfl⟩, rfl⟩
  | cons l ls ih =>
    obtain ⟨s₁, hs, hrest⟩ := Option.bind_eq_some_iff.mp hrun
    have hw₁ := hw.2 s₁ hs
    obtain ⟨row₁, hr₁, -, -, hq₁⟩ := hw₁.head
    have hc : row₁.createdAt = row.createdAt := by
      rcases step_createdAt hs k row₁ hr₁ with ⟨row₀, hr₀, hc⟩ | hnew
      · rw [hr] at hr₀
        cases hr₀
        exact hc
      · exact absurd (h.rows k row hr).2 hnew
    obtain ⟨row', hm, hk⟩ := ih (h.step hs) hr₁ (hq₁ ▸ hw₁) hrest
    refine ⟨row', hm, hk.trans ?_⟩
    simp only [queueSortKey, hq₁, hc]

/-- A claim of a row whose GPUs are not all free does not succeed. -/
theorem not_claims_of_leased {s s' : ControlPlane} {l : Label casing} (h : LeaseAge s.db) {k : OwnerKey} {row : Row}
    (hhead : fifoHead (candidates s.db) = some (k, row)) {lease : GPULease} (hl : lease ∈ s.db.gpuLeases)
    (hg : lease.gpuIndex ∈ row.gpuIds) (hs : ControlPlane.step cfg assetPath s l = some s') (k' : OwnerKey) :
    ¬ Claims k' l s' := by
  intro hc
  obtain ⟨env, row', acq, leases, rfl, -, hhead', hacq, ha⟩ := hc.head hs
  rw [hhead] at hhead'
  cases hhead'
  obtain ⟨hr, hq, -⟩ := head_spec hhead
  cases tryAcquireLocked_ok hacq with
  | refused hna => rw [ha] at hna; cases hna
  | renewed _ _ howned hgen =>
    -- its own leases are of older versions
    obtain ⟨l₀, hl₀⟩ := List.exists_mem_of_ne_nil _ howned
    obtain ⟨hm, hk₀⟩ := mem_ownedBy.mp hl₀
    have hact := ((h.aged hm hk₀ hr).current (hgen l₀ hl₀)).1
    rw [Row.inactive_of_queued hq] at hact
    cases hact
  | @inserted _ requested _ _ hn _ hfree =>
    have hp := (normalizeGpuInts_ok hn).2.2
    have hmem : Int.ofNat lease.gpuIndex ∈ requested.map Int.ofNat := hp.mem_iff.mpr (List.mem_map_of_mem hg)
    obtain ⟨gpu, hgpu, e⟩ := List.mem_map.mp hmem
    exact hfree lease hl (Int.ofNat.inj e ▸ hgpu)

/-- The leases of every owner but the claimed one are as before the claim. -/
theorem claimFifoHead_leases {env : ClaimEnv} {db db' : Db} {attempt : ScheduleAttempt}
    (h : claimFifoHead cfg assetPath env db = .ok (attempt, db')) {k : OwnerKey}
    (hk : ∀ w, attempt = .claimed w → k ≠ w.owner.key) : db'.leasesOf k = db.leasesOf k := by
  rcases claimFifoHead_cases h with ⟨-, rfl⟩ | ⟨k', row, hhead, heff⟩
  · rfl
  cases heff with
  | preflightFailed m ht => rw [Db.leasesOf, Db.gpuLeases_put]; rfl
  | blocked hacq ha => rw [Db.leasesOf, Db.gpuLeases_put]; rfl
  | claimed he hacq ha => exact (tryAcquireLocked_ok hacq).other (hk _ rfl)

end Claims

/-! ## Runs -/

section Runs

variable (casing : Casing) (cfg : Settings) (assetPath : Uuid → Option PyStr)

/-- What every run of the control plane respects. -/
structure StrictFifo : Prop where
  /-- Of two rows that wait, the one behind is not claimed. -/
  order : ∀ (ls₁ ls₂ : List (Label casing)) (s s₁ s₂ : ControlPlane) (l : Label casing) (a b : OwnerKey) (rowA rowB : Row),
    (controlPlane casing cfg assetPath).run (controlPlane casing cfg assetPath).init ls₁ = some s →
    s.db.getRow a = some rowA → s.db.getRow b = some rowB →
    sortKeyLt (queueSortKey (a, rowA)) (queueSortKey (b, rowB)) = true →
    (controlPlane casing cfg assetPath).Always (fun t => Waits a rowA.queuedAt t ∧ Waits b rowB.queuedAt t) s ls₂ →
    (controlPlane casing cfg assetPath).run s ls₂ = some s₁ →
    (controlPlane casing cfg assetPath).step s₁ l = some s₂ → ¬ Claims b l s₂
  /-- A head whose GPUs are not all free ends the round, unless it leaves the queue because
  its preflight fails. -/
  blocked : ∀ (ls : List (Label casing)) (s s' : ControlPlane) (env : ClaimEnv) (k : OwnerKey) (row : Row) (lease : GPULease),
    (controlPlane casing cfg assetPath).run (controlPlane casing cfg assetPath).init ls = some s →
    fifoHead (candidates s.db) = some (k, row) → lease ∈ s.db.gpuLeases → lease.gpuIndex ∈ row.gpuIds →
    (controlPlane casing cfg assetPath).step s (.claim env) = some s' →
    (∀ k', ¬ Claims k' (.claim env : Label casing) s') ∧
    (ClaimsNothing casing cfg assetPath s' ∨
      row.ownerType ≠ .deployment ∧ ∃ m, s'.db.getRow k = some (row.preflightFailed m env.now))
  /-- A claim touches the leases of the claimed row only. -/
  leases : ∀ (env : ClaimEnv) (db db' : Db) (attempt : ScheduleAttempt) (k : OwnerKey),
    claimFifoHead cfg assetPath env db = .ok (attempt, db') → (∀ w, attempt = .claimed w → k ≠ w.owner.key) →
    db'.leasesOf k = db.leasesOf k

variable {casing cfg assetPath}

theorem leaseAge_of_run {ls : List (Label casing)} {s : ControlPlane}
    (h : (controlPlane casing cfg assetPath).run (controlPlane casing cfg assetPath).init ls = some s) :
    LeaseAge s.db := by
  have hstep {s : ControlPlane} {l s'} (h : LeaseAge s.db) (hs : (controlPlane casing cfg assetPath).step s l = some s')
      (_ : True) : LeaseAge s'.db := h.step hs
  have h0 : LeaseAge (controlPlane casing cfg assetPath).init.db := nofun
  exact @System.inv_of_run _ _ _ _ (fun s => LeaseAge s.db) hstep _ _ _ h0 (.of_true _ ls) h

variable (casing cfg assetPath)

theorem strictFifo : StrictFifo casing cfg assetPath := by
  refine ⟨?_, ?_, fun env db db' attempt k h hk => claimFifoHead_leases h hk⟩
  · intro ls₁ ls₂ s s₁ s₂ l a b rowA rowB hrun hra hrb hlt hwait hrun₂ hs hc
    have hinv := roundInv_of_run hrun
    obtain ⟨rowA', hma, hka⟩ := waits_key hinv hra (hwait.mono fun _ h => h.1) hrun₂
    obtain ⟨rowB', hmb, hkb⟩ := waits_key hinv hrb (hwait.mono fun _ h => h.2) hrun₂
    obtain ⟨env, row, acq, leases, rfl, -, hhead, -, -⟩ := hc.head hs
    have hb : row = rowB' := by
      have h₁ := (head_spec hhead).1
      have h₂ := Db.mem_rows.mp (List.mem_filter.mp hmb).1
      rw [h₁] at h₂
      exact Option.some.inj h₂
    refine fifoHead_min hhead hma ?_
    rw [hb, hka, hkb]
    exact hlt
  · intro ls s s' env k row lease hrun hhead hl hg hs
    have hs : ControlPlane.step cfg assetPath s (.claim env : Label casing) = some s' := hs
    have hnot := not_claims_of_leased (leaseAge_of_run hrun) hhead hl hg hs
    refine ⟨hnot, ?_⟩
    simp only [ControlPlane.step] at hs
    split at hs <;> [skip; cases hs]
    split at hs
    · cases hs
      exact .inl (idle_claims_nothing rfl)
    rename_i attempt db hclaim
    cases hs
    rcases claimFifoHead_cases hclaim with ⟨rfl, -⟩ | ⟨k', row', hhead', heff⟩
    · exact .inl (idle_claims_nothing rfl)
    rw [hhead] at hhead'
    cases hhead'
    have hr := (head_spec hhead).1
    cases heff with
    | preflightFailed m ht =>
      refine .inr ⟨ht, m, Db.getRow_put_self ?_⟩
      exact (@Row.preflightFailed_spec m env.now row ht).1.trans (s.db.ownerType_of_getRow hr)
    | blocked hacq ha => exact .inl (idle_claims_nothing rfl)
    | claimed he hacq ha => exact absurd ⟨env, _, rfl, rfl, rfl⟩ (hnot k)

end Runs

section Sample

open Sample

/-- A running deployment holds GPU 0. The job at the head needs that GPU, the one behind it
needs GPU 1. -/
def Sample.twoJobs : List (Label casing) :=
  running ++
    [.route (.createTrainingJob 2 (job (py "a") 0 (by decide)) (.ok ()) 5),
      .route (.createTrainingJob 3 (job (py "b") 1 (by decide)) (.ok ()) 6),
      .begin [qwen true], .send, .answer (answer .running), .apply (observation 7), .endScan, .reap 8]

/-- The head waits for a GPU that is not free; its preflight fails, and the same round claims
the job behind it. -/
theorem failed_head_lets_the_next_pass :
    ¬ ∀ (ls : List (Label casing)) (s s' : ControlPlane) (env : ClaimEnv) (k : OwnerKey) (row : Row) (lease : GPULease),
      (controlPlane casing cfg assetPath).run (controlPlane casing cfg assetPath).init ls = some s →
      fifoHead (candidates s.db) = some (k, row) → lease ∈ s.db.gpuLeases → lease.gpuIndex ∈ row.gpuIds →
      (controlPlane casing cfg assetPath).step s (.claim env) = some s' → ClaimsNothing casing cfg assetPath s' := by
  intro h
  have hlease : (⟨0, 9, .deployment, 1, py "qwen", 1, 2, 7, 37⟩ : GPULease) ∈
      [(⟨0, 9, .deployment, 1, py "qwen", 1, 2, 7, 37⟩ : GPULease)] := List.mem_cons_self
  have hround := h twoJobs _ _ ⟨9, 7, .control (py "dataset")⟩ ⟨.training, 2⟩ _ _ rfl rfl hlease List.mem_cons_self rfl
    [.claim ⟨9, 6, .ok (.obj [])⟩] (by decide)
  exact (hround _ rfl).1 ⟨.training, 3⟩ ⟨_, _, rfl, rfl, rfl⟩

end Sample

end OpenLLMOps
