import OpenLLMOps.ControlPlane.Effects

/-!
# The snapshots of a round

The snapshots that a round still works on are of active rows with their current
generation (`Pending`), so an answer finds the row that it is about. Routes
keep that, except `start_deployment` on a deployment that is STOPPING while the
round holds a snapshot of it (`NoStartOnPending`). So the snapshots of jobs are
always pending (`RoundInv`), and those of deployments are without such a start
(`SnapshotInv`).
-/

namespace OpenLLMOps

open Framework Vllm

/-- A row's version is positive, and an active row has a generation. -/
structure RowVersion (row : Row) : Prop where
  version : 1 ≤ row.stateVersion
  active : row.active = true → row.runtimeGeneration ≠ 0

/-- The snapshot is of an active row of its generation. -/
def Pending (db : Db) (w : WorkloadSnapshot) : Prop :=
  ∃ row, db.getRow w.owner.key = some row ∧ row.active = true ∧ row.runtimeGeneration = w.owner.generation

/-- What holds of the rows and the snapshots whatever the routes do. -/
structure RoundInv (s : ControlPlane) : Prop where
  rows : ∀ k row, s.db.getRow k = some row → RowVersion row ∧ k.id ∈ s.used
  generations : ∀ w ∈ s.pc.pending, w.owner.generation ≠ 0
  distinct : (s.pc.pending.map (·.owner.key)).Nodup
  jobs : ∀ w ∈ s.pc.pending, w.owner.type ≠ .deployment → Pending s.db w

/-- The invariant of the snapshots. -/
structure SnapshotInv (s : ControlPlane) : Prop where
  rows : ∀ k row, s.db.getRow k = some row → RowVersion row ∧ k.id ∈ s.used
  pending : ∀ w ∈ s.pc.pending, Pending s.db w
  distinct : (s.pc.pending.map (·.owner.key)).Nodup

/-- The step is no `start_deployment` on a STOPPING deployment of which the round holds a
snapshot. -/
def NoStartOnPending {casing : Casing} (s : ControlPlane) (l : Label casing) (_ : ControlPlane) : Prop :=
  match l with
  | .route r => ∀ id ∈ r.startsStopping s.db, (⟨.deployment, id⟩ : OwnerKey) ∉ s.pc.pending.map (·.owner.key)
  | _ => True

instance {casing : Casing} (s : ControlPlane) (l : Label casing) (s' : ControlPlane) :
    Decidable (NoStartOnPending s l s') := by
  unfold NoStartOnPending
  cases l <;> exact inferInstance

/-! ## Rows -/

section Rows

variable {casing : Casing} {cfg : Settings} {assetPath : Uuid → Option PyStr} {s : ControlPlane} {db' : Db}
  {w : WorkloadSnapshot}

theorem RowVersion.of_change {held : Prop} {row row' : Row} (h : RowVersion row)
    (hheld : held → row.runtimeGeneration ≠ 0) (hc : RowChange held row row') : RowVersion row' := by
  refine ⟨h.version.trans hc.version, fun ha => ?_⟩
  rcases hc.active ha with ⟨ha₀, e⟩ | ⟨-, e⟩
  · rw [e]
    exact ha₀.elim h.active hheld
  · rw [e]
    exact Nat.pos_iff_ne_zero.mp h.version

theorem RowVersion.of_fresh {row : Row} (h : Fresh row) : RowVersion row := by
  refine ⟨h.version.ge, fun ha => ?_⟩
  rw [Row.inactive_of_queued h.queued] at ha
  cases ha

theorem RowVersion.commandGeneration {row : Row} (h : RowVersion row) (ha : row.active = true) :
    row.commandGeneration = row.runtimeGeneration := by
  rw [Row.commandGeneration, if_neg (h.active ha)]

/-- The row that a pending answer is about. -/
theorem SnapshotInv.current (h : SnapshotInv s) (hw : w ∈ s.pc.pending) {row : Row}
    (hrow : currentRow w s.db = some row) :
    s.db.getRow w.owner.key = some row ∧ row.active = true ∧ row.runtimeGeneration = w.owner.generation := by
  obtain ⟨hr, hg⟩ := currentRow_eq_some.mp hrow
  obtain ⟨row', hr', ha, -⟩ := h.pending w hw
  rw [hr] at hr'
  cases hr'
  exact ⟨hr, ha, hg⟩

/-- The round holds snapshots of active rows only. -/
theorem SnapshotInv.held (h : SnapshotInv s) {k : OwnerKey} {row : Row} (hr : s.db.getRow k = some row)
    (hk : Held s k row) : row.active = true := by
  obtain ⟨w, hw, rfl, -⟩ := hk
  obtain ⟨row', hr', ha, -⟩ := h.pending w hw
  rw [hr] at hr'
  cases hr'
  exact ha

theorem Pending.generation_ne_zero (hp : Pending s.db w)
    (hrows : ∀ k row, s.db.getRow k = some row → RowVersion row ∧ k.id ∈ s.used) : w.owner.generation ≠ 0 := by
  obtain ⟨row, hr, ha, hg⟩ := hp
  rw [← hg]
  exact (hrows _ row hr).1.active ha

theorem SnapshotInv.toRoundInv (h : SnapshotInv s) : RoundInv s :=
  ⟨h.rows, fun w hw => (h.pending w hw).generation_ne_zero h.rows, h.distinct, fun w hw _ => h.pending w hw⟩

/-- Every step keeps the versions of the rows and the ids that were drawn. -/
theorem RoundInv.rows_step (h : RoundInv s) {l : Label casing} {s' : ControlPlane}
    (hs : ControlPlane.step cfg assetPath s l = some s') (k : OwnerKey) (row' : Row)
    (hr : s'.db.getRow k = some row') : RowVersion row' ∧ k.id ∈ s'.used := by
  rw [step_used hs, List.mem_append]
  rcases step_row hs k row' hr with ⟨row, hr₀, hc⟩ | ⟨hf, hid, -⟩
  · obtain ⟨hv, hu⟩ := h.rows k row hr₀
    refine ⟨hv.of_change ?_ hc, .inr hu⟩
    rintro ⟨w, hw, -, hg⟩
    rw [hg]
    exact h.generations w hw
  · exact ⟨.of_fresh hf, .inl hid⟩

end Rows

/-! ## Steps -/

section Steps

variable {casing : Casing} {cfg : Settings} {assetPath : Uuid → Option PyStr}

/-- The rows of the database have distinct keys. -/
theorem nodup_rows (db : Db) : (db.rows.map Prod.fst).Nodup := by
  have htable {R : Type} (t : LeaseOwnerType) (table : Table R) (f : R → Row) :
      ((table.entries.map fun e => ((⟨t, e.1⟩, f e.2) : OwnerKey × Row)).map Prod.fst).Nodup := by
    rw [List.map_map]
    have h : (table.entries.map Sigma.fst).Nodup := table.nodupKeys
    have e : table.entries.map (Prod.fst ∘ fun e => ((⟨t, e.1⟩, f e.2) : OwnerKey × Row)) =
        (table.entries.map Sigma.fst).map fun i => (⟨t, i⟩ : OwnerKey) := by
      rw [List.map_map]; rfl
    rw [e]
    exact h.map fun a b hab => (OwnerKey.mk.inj hab).2
  have htype {R : Type} {t : LeaseOwnerType} {table : Table R} {f : R → Row} {k : OwnerKey}
      (hk : k ∈ (table.entries.map fun e => ((⟨t, e.1⟩, f e.2) : OwnerKey × Row)).map Prod.fst) : k.type = t := by
    rw [List.map_map] at hk
    obtain ⟨e, -, rfl⟩ := List.mem_map.mp hk
    rfl
  rw [Db.rows, List.map_append, List.map_append, List.nodup_append, List.nodup_append]
  refine ⟨⟨htable _ _ _, htable _ _ _, fun a ha b hb e => ?_⟩, htable _ _ _, fun a ha b hb e => ?_⟩
  · have := (htype ha).symm.trans ((congrArg OwnerKey.type e).trans (htype hb))
    cases this
  · rcases List.mem_append.mp ha with ha | ha
    · have := (htype ha).symm.trans ((congrArg OwnerKey.type e).trans (htype hb))
      cases this
    · have := (htype ha).symm.trans ((congrArg OwnerKey.type e).trans (htype hb))
      cases this

/-- The snapshots of a new round. -/
theorem loadActiveWorkloads_spec {db : Db} (h : ∀ k row, db.getRow k = some row → RowVersion row) :
    (∀ w ∈ loadActiveWorkloads db, Pending db w) ∧ ((loadActiveWorkloads db).map (·.owner.key)).Nodup := by
  constructor
  · intro w hw
    obtain ⟨⟨k, row⟩, he, rfl⟩ := List.mem_map.mp hw
    obtain ⟨hm, ha⟩ := List.mem_filter.mp he
    have hr := Db.mem_rows.mp hm
    exact ⟨row, hr, ha, ((h k row hr).commandGeneration ha).symm⟩
  · rw [loadActiveWorkloads, List.map_map]
    have e : (db.rows.filter fun e => e.2.active).map ((·.owner.key) ∘ fun e => snapshot e.1 e.2 .empty) =
        (db.rows.filter fun e => e.2.active).map Prod.fst := rfl
    rw [e]
    exact (nodup_rows db).sublist (List.filter_sublist.map _)

theorem firstCall_workload (w : WorkloadSnapshot) : (firstCall w).workload = w := by
  unfold firstCall
  split <;> rfl

theorem Call.after_pending (c : Call) (todo : List WorkloadSnapshot) {w : WorkloadSnapshot}
    (h : w ∈ (c.after todo).pending) : w ∈ todo := by
  unfold Call.after at h
  split at h
  · cases h
  · exact h

theorem Pending.of_getRow {db db' : Db} {w : WorkloadSnapshot} (hp : Pending db w)
    (h : db'.getRow w.owner.key = db.getRow w.owner.key) : Pending db' w := by
  obtain ⟨row, hr, hrest⟩ := hp
  exact ⟨row, h.trans hr, hrest⟩

/-- A route keeps the pending snapshots, unless it starts one that is stopping. -/
theorem RouteEffect.pending {r : RouteCall casing} {db db' : Db} (h : RouteEffect cfg r db db')
    {w : WorkloadSnapshot} (hp : Pending db w)
    (hs : ∀ id ∈ r.startsStopping db, (⟨.deployment, id⟩ : OwnerKey) ≠ w.owner.key) : Pending db' w := by
  obtain ⟨row, hr, ha, hg⟩ := hp
  cases h with
  | create id row' hnew hf hnone =>
    refine ⟨row, ?_, ha, hg⟩
    rw [Db.getRow_put_ne (k := ⟨row'.ownerType, id⟩) rfl, hr]
    intro e
    rw [e, hnone] at hr
    cases hr
  | @change k row₀ row' hr₀ hm =>
    by_cases e : w.owner.key = k
    · rw [e, hr₀] at hr
      cases hr
      rcases hm.keeps hr₀ with hk | hq
      · refine ⟨row', ?_, hk.active.trans ha, hk.generation.trans hg⟩
        rw [e, Db.getRow_put_self hm.ownerType]
      · refine absurd ?_ (hs _ hq.starts)
        rw [e, ← hq.key]
    · refine ⟨row, ?_, ha, hg⟩
      rw [Db.getRow_put_ne hm.ownerType e, hr]
  | @delete k row₀ hr₀ ht =>
    refine ⟨row, ?_, ha, hg⟩
    rw [Db.getRow_delete, if_neg, Db.getRow_withLeases, hr]
    intro e
    rw [e, hr₀] at hr
    cases hr
    rw [Row.inactive_of_terminal ht] at ha
    cases ha

/-- The row of another workload after the transaction about `w`. -/
theorem getRow_put_other {db : Db} {w w' : WorkloadSnapshot} {row : Row} (ht : row.ownerType = w.owner.type)
    (hne : w'.owner.key ≠ w.owner.key) :
    (db.put w.owner.id row).getRow w'.owner.key = db.getRow w'.owner.key :=
  Db.getRow_put_ne (k := w.owner.key) ht hne

theorem starting_eq_some {pc : Pc} {o : LeaseOwner} (h : pc.starting = some o) :
    ∃ c todo, pc = .waiting c todo ∧ c.action = .start ∧ c.workload.owner = o := by
  unfold Pc.starting at h
  split at h
  · rename_i c todo
    split at h <;> cases h
    rename_i ha
    exact ⟨c, todo, rfl, ha, rfl⟩
  · cases h

/-- The call whose transaction comes next. -/
def Pc.call? : Pc → Option Call
  | .answered c _ _ | .unanswered c _ _ => some c
  | _ => none

/-- A claimed row is the only one of its round that is pending. -/
theorem RoundInv.claimed {s : ControlPlane} (h : RoundInv s) {env : ClaimEnv} {attempt : ScheduleAttempt}
    {db : Db} (hclaim : claimFifoHead cfg assetPath env s.db = .ok (attempt, db)) {w : WorkloadSnapshot}
    (hw : w ∈ (afterClaim attempt).pending) : Pending db w := by
  rcases claimFifoHead_cases hclaim with ⟨rfl, -⟩ | ⟨k, row, hhead, heff⟩
  · cases hw
  cases heff with
  | preflightFailed m ht => cases hw
  | blocked hacq ha => cases hw
  | claimed he hacq ha =>
    rw [List.mem_singleton.mp hw]
    obtain ⟨hr, -, -⟩ := head_spec hhead
    obtain ⟨ht, -, hv, hact, hg⟩ := row.claimed_spec
    refine ⟨row.claimed, Db.getRow_put_self (ht.trans (s.db.ownerType_of_getRow hr)), hact, ?_⟩
    have hne : row.claimed.runtimeGeneration ≠ 0 := by
      rw [hg]
      exact Nat.pos_iff_ne_zero.mp (h.rows k row hr).1.version
    show row.claimed.runtimeGeneration = row.claimed.commandGeneration
    rw [Row.commandGeneration, if_neg hne]

theorem afterClaim_distinct (attempt : ScheduleAttempt) :
    ((afterClaim attempt).pending.map (·.owner.key)).Nodup := by
  cases attempt with
  | claimed w => exact List.nodup_singleton _
  | _ => exact List.nodup_nil

/-- The snapshots after a step were there before, or are new and of active rows. -/
theorem RoundInv.pending_cases {s s' : ControlPlane} {l : Label casing} (h : RoundInv s)
    (hs : ControlPlane.step cfg assetPath s l = some s') :
    (s'.pc.pending.Sublist s.pc.pending) ∨
    (∀ w ∈ s'.pc.pending, Pending s'.db w) ∧ (s'.pc.pending.map (·.owner.key)).Nodup := by
  have hafter (c : Call) (todo : List WorkloadSnapshot) : (c.after todo).pending.Sublist (c.workload :: todo) := by
    unfold Call.after
    split
    · exact List.nil_sublist _
    · exact List.sublist_cons_self _ _
  cases l with
  | begin order =>
    simp only [ControlPlane.step] at hs
    split at hs <;> [skip; cases hs]
    rename_i hg
    cases hs
    obtain ⟨hp, hd⟩ := loadActiveWorkloads_spec fun k row hr => (h.rows k row hr).1
    exact .inr ⟨fun w hw => hp w (hg.2.mem_iff.mp hw), (hg.2.map _).nodup_iff.mpr hd⟩
  | claim env =>
    simp only [ControlPlane.step] at hs
    split at hs <;> [skip; cases hs]
    split at hs
    · cases hs
      exact .inl (List.nil_sublist _)
    · rename_i attempt db hclaim
      cases hs
      exact .inr ⟨fun w hw => h.claimed hclaim hw, afterClaim_distinct attempt⟩
  | route r =>
    simp only [ControlPlane.step] at hs
    split at hs <;> cases hs
    exact .inl (.refl _)
  | send =>
    simp only [ControlPlane.step] at hs
    split at hs <;> [skip; cases hs]
    rename_i w todo hpc
    cases hs
    rw [hpc, Pc.pending, Pc.pending, firstCall_workload]
    exact .inl (.refl _)
  | endScan =>
    simp only [ControlPlane.step] at hs
    split at hs <;> cases hs
    exact .inl (List.nil_sublist _)
  | answer response =>
    simp only [ControlPlane.step] at hs
    split at hs <;> [skip; cases hs]
    rename_i hpc
    cases hs
    rw [hpc]
    exact .inl (.refl _)
  | noAnswer message =>
    simp only [ControlPlane.step] at hs
    split at hs <;> [skip; cases hs]
    rename_i hpc
    cases hs
    rw [hpc]
    exact .inl (.refl _)
  | apply env =>
    simp only [ControlPlane.step] at hs
    split at hs <;> [skip; skip; cases hs]
    · rename_i c response todo hpc
      rw [hpc]
      split at hs
      · cases hs
        exact .inl (List.nil_sublist _)
      · cases hs
        simp only
        split
        · exact .inl (.refl _)
        · exact .inl (hafter c todo)
    · rename_i c message todo hpc
      rw [hpc]
      cases hs
      exact .inl (hafter c todo)
  | reap now =>
    simp only [ControlPlane.step] at hs
    split at hs <;> cases hs
    exact .inl (List.nil_sublist _)
  | abort =>
    cases hs
    exact .inl (List.nil_sublist _)

theorem RoundInv.distinct_step {s s' : ControlPlane} {l : Label casing} (h : RoundInv s)
    (hs : ControlPlane.step cfg assetPath s l = some s') : (s'.pc.pending.map (·.owner.key)).Nodup := by
  rcases h.pending_cases hs with hsub | ⟨-, hd⟩
  · exact h.distinct.sublist (hsub.map _)
  · exact hd

/-- A snapshot that the round still holds after the transaction about its answer has a STOP
to follow. -/
theorem RoundInv.stopFollows {s s' : ControlPlane} {env : ObservationEnv} (h : RoundInv s)
    (hs : ControlPlane.step cfg assetPath s (.apply env : Label casing) = some s') {c : Call}
    {response : AgentCommandResponse} {todo : List WorkloadSnapshot} (hpc : s.pc = .answered c response todo)
    {w : WorkloadSnapshot} (hw : w ∈ s'.pc.pending) (hk : w.owner.key = c.workload.owner.key) :
    c.stopFollows response = true := by
  have hd := h.distinct
  rw [hpc, Pc.pending, List.map_cons, List.nodup_cons] at hd
  simp only [ControlPlane.step, hpc] at hs
  split at hs
  · cases hs
    cases hw
  · cases hs
    by_contra hf
    simp only [hf, ↓reduceIte] at hw
    exact hd.1 (List.mem_map.mpr ⟨w, c.after_pending todo hw, hk⟩)

/-- One step keeps a snapshot pending that the round goes on to hold, unless it starts its
deployment while that is stopping. -/
theorem Pending.step {s s' : ControlPlane} {l : Label casing} {w : WorkloadSnapshot} (hp : Pending s.db w)
    (h : RoundInv s) (hs : ControlPlane.step cfg assetPath s l = some s') (hw : w ∈ s.pc.pending)
    (hw' : w ∈ s'.pc.pending)
    (hc : ∀ r, l = .route r → ∀ id ∈ r.startsStopping s.db, (⟨.deployment, id⟩ : OwnerKey) ≠ w.owner.key) :
    Pending s'.db w := by
  have ht := step_transaction hs
  generalize hdb : s'.db = db' at ht
  cases ht with
  | unchanged => exact hp
  | @route r _ hid heff => exact heff.pending hp (hc r rfl)
  | @observed env c response todo row₀ row' released hpc hrow hobs =>
    obtain ⟨hr₀, hg₀⟩ := currentRow_eq_some.mp hrow
    have ho := observeRow_spec hobs
    have ht' := ho.type.trans (s.db.ownerType_of_getRow hr₀)
    by_cases e : w.owner.key = c.workload.owner.key
    · have hf := h.stopFollows hs hpc hw' e
      simp only [Call.stopFollows, Bool.and_eq_true] at hf
      have hrel : released = false := by rw [ho.released_iff, hf.2]; rfl
      obtain ⟨ha', hg'⟩ := ho.active hrel
      obtain ⟨row, hr, -, hg⟩ := hp
      rw [e, hr₀] at hr
      cases hr
      refine ⟨row', ?_, ha', hg'.trans hg⟩
      rw [e, Db.getRow_withLeases]
      exact Db.getRow_put_self (k := c.workload.owner.key) ht'
    · exact hp.of_getRow (getRow_put_other ht' e)
  | @startFailed env c response todo row₀ message hpc hna hrow =>
    obtain ⟨hr₀, -⟩ := currentRow_eq_some.mp hrow
    have ht' := (row₀.startFailed_spec message env.now).1.trans (s.db.ownerType_of_getRow hr₀)
    by_cases e : w.owner.key = c.workload.owner.key
    · have hf := h.stopFollows hs hpc hw' e
      simp only [Call.stopFollows, Bool.and_eq_true, hna] at hf
      cases hf.1.2
    · exact hp.of_getRow (getRow_put_other ht' e)
  | @agentError env c message todo row₀ hpc hrow =>
    obtain ⟨hr₀, -⟩ := currentRow_eq_some.mp hrow
    have hk := row₀.withError_keeps message
    have ht' := hk.type.trans (s.db.ownerType_of_getRow hr₀)
    by_cases e : w.owner.key = c.workload.owner.key
    · obtain ⟨row, hr, ha, hg⟩ := hp
      rw [e, hr₀] at hr
      cases hr
      refine ⟨_, ?_, hk.active.trans ha, hk.generation.trans hg⟩
      rw [e]
      exact Db.getRow_put_self (k := c.workload.owner.key) ht'
    · exact hp.of_getRow (getRow_put_other ht' e)
  | reaped now hpc => exact hp
  | claim hpc _ _ =>
    rw [hpc] at hw
    cases hw

/-- A row that the round goes on to hold keeps its generation. -/
theorem RoundInv.generation_step {s s' : ControlPlane} {l : Label casing} (h : RoundInv s)
    (hs : ControlPlane.step cfg assetPath s l = some s') {w : WorkloadSnapshot} (hw : w ∈ s.pc.pending)
    (hw' : w ∈ s'.pc.pending) {row' : Row} (hr : s'.db.getRow w.owner.key = some row') :
    (∃ row, s.db.getRow w.owner.key = some row ∧ row'.runtimeGeneration = row.runtimeGeneration) ∨
      w.owner.id ∉ s.used := by
  rcases step_getRow hs hr with ⟨row, hr₀, hstep⟩ | ⟨-, -, hnew⟩
  · refine .inl ⟨row, hr₀, ?_⟩
    cases hstep with
    | kept => rfl
    | mutated hm =>
      rcases hm.keeps hr₀ with hk | hq
      · exact hk.generation
      · exact hq.generation
    | @observed env c response todo _ _ released hpc hk hg hobs =>
      have ho := observeRow_spec hobs
      have hf := h.stopFollows hs hpc hw' hk.symm
      simp only [Call.stopFollows, Bool.and_eq_true] at hf
      have hrel : released = false := by rw [ho.released_iff, hf.2]; rfl
      exact (ho.active hrel).2
    | @startFailed env c response todo _ message hpc hk hg hna => exact (row.startFailed_spec message env.now).2.2.2.1
    | agentError hpc hk hg => exact (row.withError_keeps _).generation
    | preflightFailed m hpc hq ht => rw [hpc] at hw; cases hw
    | blocked hpc hq => rw [hpc] at hw; cases hw
    | claimed hpc hq hpc' => rw [hpc] at hw; cases hw
  · exact .inr hnew

/-- One step keeps what holds of every round. -/
theorem RoundInv.step {s s' : ControlPlane} {l : Label casing} (h : RoundInv s)
    (hs : ControlPlane.step cfg assetPath s l = some s') : RoundInv s' := by
  have hrows := h.rows_step hs
  refine ⟨hrows, fun w hw => ?_, h.distinct_step hs, fun w hw ht => ?_⟩
  · rcases h.pending_cases hs with hsub | ⟨hp, -⟩
    · exact h.generations w (hsub.subset hw)
    · exact (hp w hw).generation_ne_zero hrows
  · rcases h.pending_cases hs with hsub | ⟨hp, -⟩
    · have hw₀ := hsub.subset hw
      refine (h.jobs w hw₀ ht).step h hs hw₀ hw fun r _ id _ e => ht ?_
      exact (congrArg OwnerKey.type e).symm
    · exact hp w hw

theorem RoundInv.init : RoundInv ⟨.empty, .idle, []⟩ := by
  refine ⟨fun k row hr => ?_, nofun, List.nodup_nil, nofun⟩
  obtain ⟨t, id⟩ := k
  cases t <;> cases hr

/-- One step keeps the snapshots pending, unless it starts a stopping deployment that the
round holds a snapshot of. -/
theorem SnapshotInv.pending_step {s s' : ControlPlane} {l : Label casing} (h : SnapshotInv s)
    (hs : ControlPlane.step cfg assetPath s l = some s') (hc : NoStartOnPending s l s') :
    ∀ w ∈ s'.pc.pending, Pending s'.db w := by
  intro w hw
  rcases h.toRoundInv.pending_cases hs with hsub | ⟨hp, -⟩
  · have hw₀ := hsub.subset hw
    refine (h.pending w hw₀).step h.toRoundInv hs hw₀ hw ?_
    rintro r rfl id hid e
    exact hc id hid (List.mem_map.mpr ⟨w, hw₀, e.symm⟩)
  · exact hp w hw

/-- One step keeps the invariant, unless it starts a stopping deployment that the round
holds a snapshot of. -/
theorem SnapshotInv.step {s s' : ControlPlane} {l : Label casing} (h : SnapshotInv s)
    (hs : ControlPlane.step cfg assetPath s l = some s') (hc : NoStartOnPending s l s') : SnapshotInv s' := by
  have hround := h.toRoundInv.step hs
  exact ⟨hround.rows, h.pending_step hs hc, hround.distinct⟩

theorem SnapshotInv.init : SnapshotInv ⟨.empty, .idle, []⟩ := ⟨RoundInv.init.rows, nofun, List.nodup_nil⟩

theorem roundInv_of_run {ls : List (Label casing)} {s : ControlPlane}
    (h : (controlPlane casing cfg assetPath).run (controlPlane casing cfg assetPath).init ls = some s) : RoundInv s := by
  have hstep {s l s'} (h : RoundInv s) (hs : (controlPlane casing cfg assetPath).step s l = some s') (_ : True) :
      RoundInv s' := h.step hs
  exact System.inv_of_run hstep RoundInv.init (.of_true _ ls) h

end Steps

end OpenLLMOps
