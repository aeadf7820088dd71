import OpenLLMOps.Agent.Processor
import OpenLLMOps.ControlPlane.Snapshots

/-!
# The scheduling loop

The `while` loop of `run_once` claims the head of the queue, sends its START and
applies the answer, until the queue is empty or its head is blocked. Its measure
is the number of rows in QUEUED whose desired state is running.

No step of the loop queues a row (`Drains`), if the routes that commit meanwhile
do not and no accepted START is answered ABSENT, which `_start` of the agent never
does (`startWorkload_present`). A claim after which the loop goes on takes the head
out of QUEUED (`claim_dequeues`). So the loop ends after as many claims as rows
were queued.
-/

namespace OpenLLMOps

open Framework Vllm

/-! ## The answers to a START -/

/-- An accepted answer is not that there is no container. -/
def AgentCommandResponse.Present (r : AgentCommandResponse) : Prop :=
  r.accepted = true → r.observedState ≠ .absent

instance (r : AgentCommandResponse) : Decidable r.Present := by
  unfold AgentCommandResponse.Present
  exact inferInstance

theorem stateFromInfo_present (type : LeaseOwnerType) (info : Container) : stateFromInfo type info ≠ .absent := by
  unfold stateFromInfo
  split <;> split <;> first | split <;> nofun | nofun

section Start

variable (settings : AgentSettings) (around : Surroundings) (c : AgentCommand)

theorem settledState_present (info : Container) :
    Effect.Returns (fun settled => settled.1 ≠ AgentWorkloadState.absent) (settledState settings around c info) := by
  have hstate := stateFromInfo_present c.owner.type info
  unfold settledState
  refine .ite ?_ (.pure hstate)
  split
  · exact .pure hstate
  · refine .bind fun quiesced => .pure ?_
    split
    · nofun
    · exact hstate

theorem responseFromInfo_present (info : Container) :
    Effect.Returns (fun result => result.response.Present) (responseFromInfo settings around c info) := by
  unfold responseFromInfo
  exact .bind_of (settledState_present settings around c info) fun settled h => .bind fun _ => .pure fun _ => h

/-- `_start` does not accept a command and report that there is no container. -/
theorem startWorkload_present :
    Effect.Returns (fun result => result.response.Present) (startWorkload settings around c) := by
  have hinfo := responseFromInfo_present settings around c
  unfold startWorkload
  refine .ite (.throw _) (.bind fun existing => ?_)
  split
  · exact hinfo _
  · split
    · exact .throw _
    · exact .bind fun info => hinfo info

end Start

/-! ## The queue -/

/-- No row has come into the queue: one that is in QUEUED was there before, and its desired
state was running if it is. -/
def Drains (db db' : Db) : Prop :=
  ∀ k row', db'.getRow k = some row' → row'.queued = true →
    ∃ row, db.getRow k = some row ∧ row.queued = true ∧ (row'.desiresRunning = true → row.desiresRunning = true)

instance (db db' : Db) : Decidable (Drains db db') :=
  decidable_of_iff
    (∀ e ∈ db'.rows, e.2.queued = true →
      (db.getRow e.1).any (fun row => row.queued && decide (e.2.desiresRunning → row.desiresRunning)) = true)
    (by simp only [Drains, Prod.forall, Db.mem_rows, Option.any_eq_true, Bool.and_eq_true, decide_eq_true_eq])

theorem Drains.refl (db : Db) : Drains db db := fun _ row' hr hq => ⟨row', hr, hq, id⟩

theorem Drains.trans {db db₁ db₂ : Db} (h : Drains db db₁) (h' : Drains db₁ db₂) : Drains db db₂ := by
  intro k row₂ hr₂ hq₂
  obtain ⟨row₁, hr₁, hq₁, hd₁⟩ := h' k row₂ hr₂ hq₂
  obtain ⟨row, hr, hq, hd⟩ := h k row₁ hr₁ hq₁
  exact ⟨row, hr, hq, hd ∘ hd₁⟩

/-- The number of rows that are QUEUED with desired state RUNNING. -/
def queueLength (db : Db) : Nat := (candidates db).length

theorem mem_candidates {db : Db} {k : OwnerKey} {row : Row} :
    (k, row) ∈ candidates db ↔ db.getRow k = some row ∧ row.queued = true ∧ row.desiresRunning = true := by
  rw [candidates, List.mem_filter, Db.mem_rows, Bool.and_eq_true]

theorem nodup_candidates (db : Db) : ((candidates db).map Prod.fst).Nodup :=
  (nodup_rows db).sublist (List.filter_sublist.map _)

theorem Drains.keys_subset {db db' : Db} (h : Drains db db') :
    (candidates db').map Prod.fst ⊆ (candidates db).map Prod.fst := by
  intro k hk
  obtain ⟨⟨k, row'⟩, hm, rfl⟩ := List.mem_map.mp hk
  obtain ⟨hr', hq', hd'⟩ := mem_candidates.mp hm
  obtain ⟨row, hr, hq, hd⟩ := h k row' hr' hq'
  exact List.mem_map.mpr ⟨(k, row), mem_candidates.mpr ⟨hr, hq, hd hd'⟩, rfl⟩

theorem Drains.length_le {db db' : Db} (h : Drains db db') : queueLength db' ≤ queueLength db := by
  have hsub := List.subperm_of_subset (nodup_candidates db') h.keys_subset
  simpa only [queueLength, List.length_map] using hsub.length_le

/-- A queue that has lost a row is shorter. -/
theorem Drains.length_lt {db db' : Db} (h : Drains db db') {k : OwnerKey} {row : Row}
    (hm : (k, row) ∈ candidates db) (hout : ∀ row', db'.getRow k = some row' → row'.queued = false) :
    queueLength db' < queueLength db := by
  have hk : k ∉ (candidates db').map Prod.fst := by
    intro hk
    obtain ⟨⟨k', row'⟩, hm', rfl⟩ := List.mem_map.mp hk
    obtain ⟨hr', hq', -⟩ := mem_candidates.mp hm'
    rw [hout row' hr'] at hq'
    cases hq'
  have hnodup : (k :: (candidates db').map Prod.fst).Nodup := List.nodup_cons.mpr ⟨hk, nodup_candidates db'⟩
  have hsub : k :: (candidates db').map Prod.fst ⊆ (candidates db).map Prod.fst :=
    List.cons_subset.mpr ⟨List.mem_map.mpr ⟨(k, row), hm, rfl⟩, h.keys_subset⟩
  have hle := (List.subperm_of_subset hnodup hsub).length_le
  simp only [List.length_cons, List.length_map] at hle
  exact hle

/-! ## Steps of the loop -/

/-- The points of the loop. -/
def Pc.scheduling : Pc → Prop
  | .claiming => True
  | .waiting c _ | .answered c _ _ | .unanswered c _ _ => c.action = .start
  | .idle | .next _ | .reaping => False

instance (pc : Pc) : Decidable pc.scheduling := by
  unfold Pc.scheduling
  cases pc <;> exact inferInstance

/-- The answer that the round is about to apply. -/
def Pc.answer? : Pc → Option AgentCommandResponse
  | .answered _ response _ => some response
  | _ => none

/-- What the loop relies on: a route that commits meanwhile queues no row, and an accepted START
is not answered ABSENT. -/
def Quiet {casing : Casing} (s : ControlPlane) (l : Label casing) (s' : ControlPlane) : Prop :=
  match l with
  | .route _ => Drains s.db s'.db
  | .answer response => response.Present
  | _ => True

instance {casing : Casing} (s : ControlPlane) (l : Label casing) (s' : ControlPlane) : Decidable (Quiet s l s') :=
  match l with
  | .route _ => inferInstanceAs (Decidable (Drains s.db s'.db))
  | .answer response => inferInstanceAs (Decidable response.Present)
  | .begin _ | .send | .endScan | .noAnswer _ | .apply _ | .reap _ | .claim _ | .abort => isTrue trivial

/-- The loop takes its steps with answers to come that are not ABSENT. -/
structure LoopInv (s : ControlPlane) : Prop where
  scheduling : s.pc.scheduling
  present : ∀ response ∈ s.pc.answer?, response.Present

section Steps

variable {casing : Casing} {cfg : Settings} {assetPath : Uuid → Option PyStr}

theorem applyDeploymentObservation_not_queued {now : Time} {response : AgentCommandResponse}
    (hpresent : response.Present) (d : Deployment) :
    (applyDeploymentObservation now response d).1.actualState ≠ .queued := by
  have hlive (o : AgentWorkloadState) : liveDeploymentState o ≠ .queued := by cases o <;> nofun
  unfold applyDeploymentObservation
  dsimp only
  split
  · rename_i habsent
    split
    · nofun
    · rename_i hacc
      exact absurd habsent (hpresent (Decidable.not_not.mp hacc))
  · nofun
  · nofun
  all_goals
    split
    · nofun
    · exact hlive _

/-- A row is only put into QUEUED by the accepted observation that there is no container. -/
theorem observeRow_not_queued {env : ObservationEnv} {response : AgentCommandResponse} {row row' : Row}
    {released : Bool} (h : observeRow env response row = .ok (row', released)) (hpresent : response.Present) :
    row'.queued = false := by
  have ho := observeRow_spec h
  cases released with
  | false => exact Row.active_not_queued (ho.active rfl).1
  | true =>
    cases row with
    | deployment d =>
      have he : Row.deployment (applyDeploymentObservation env.now response d).1 = row' :=
        congrArg Prod.fst (Except.ok.inj h)
      rw [← he]
      exact decide_eq_false (applyDeploymentObservation_not_queued hpresent d)
    | training j => exact Bool.eq_false_iff.mpr fun hq => nomatch (ho.ended rfl).2 hq
    | evaluation r => exact Bool.eq_false_iff.mpr fun hq => nomatch (ho.ended rfl).2 hq

theorem Row.startFailed_not_queued (message : PyStr) (now : Time) (row : Row) :
    (row.startFailed message now).queued = false := by
  cases row <;> rfl

theorem Row.preflightFailed_not_queued {m : PyStr} {now : Time} {row : Row} (ht : row.ownerType ≠ .deployment) :
    (row.preflightFailed m now).queued = false := by
  cases row with
  | deployment d => exact absurd rfl ht
  | _ => rfl

theorem Row.withError_queue (message : PyStr) (row : Row) :
    (row.withError message).queued = row.queued ∧ (row.withError message).desiresRunning = row.desiresRunning := by
  cases row <;> exact ⟨rfl, rfl⟩

theorem Row.withGeneration_queue (g : Nat) (row : Row) :
    (row.withGeneration g).queued = row.queued ∧ (row.withGeneration g).desiresRunning = row.desiresRunning := by
  cases row <;> exact ⟨rfl, rfl⟩

/-- A step of the loop queues no row. -/
theorem LoopInv.drains {s s' : ControlPlane} {l : Label casing} (h : LoopInv s)
    (hs : ControlPlane.step cfg assetPath s l = some s') (hquiet : Quiet s l s') : Drains s.db s'.db := by
  intro k row' hr' hq'
  have hout {row : Row} (h : row.queued = false) (e : row.queued = true) : False := by
    rw [h] at e
    cases e
  rcases step_getRow hs hr' with ⟨row, hr, hstep⟩ | ⟨-, hid, -⟩
  · refine ⟨row, hr, ?_⟩
    cases hstep with
    | kept => exact ⟨hq', id⟩
    | mutated hm =>
      obtain ⟨row₀, hr₀, hrest⟩ := hquiet k row' hr' hq'
      rw [hr] at hr₀
      cases hr₀
      exact hrest
    | @observed env c response todo _ _ released hpc hk hg hobs =>
      have hpresent := h.present response (by rw [hpc]; rfl)
      exact (hout (observeRow_not_queued hobs hpresent) hq').elim
    | startFailed hpc hk hg hna => exact (hout (Row.startFailed_not_queued _ _ row) hq').elim
    | agentError hpc hk hg =>
      rw [(row.withError_queue _).1] at hq'
      exact ⟨hq', fun hd => (row.withError_queue _).2 ▸ hd⟩
    | preflightFailed m hpc hq ht => exact (hout (Row.preflightFailed_not_queued ht) hq').elim
    | blocked hpc hq => exact ⟨hq, fun hd => (row.withGeneration_queue 0).2 ▸ hd⟩
    | claimed hpc hq hpc' => exact (hout (Row.active_not_queued row.claimed_spec.2.2.2.1) hq').elim
  · cases l with
    | route r => 
      obtain ⟨row, hr, hq, hd⟩ := hquiet k row' hr' hq'
      exact ⟨row, hr, hq, hd⟩
    | _ => cases hid

/-- A claim after which the loop goes on takes a row out of the queue: it is STARTING, or its
preflight has failed. -/
theorem claim_dequeues {s s' : ControlPlane} {env : ClaimEnv}
    (hs : ControlPlane.step cfg assetPath s (.claim env : Label casing) = some s') (hloop : s'.pc.scheduling) :
    ∃ k row row', (k, row) ∈ candidates s.db ∧ s'.db.getRow k = some row' ∧ row'.queued = false ∧
      (row' = row.claimed ∨ row.ownerType ≠ .deployment ∧ ∃ m, row' = row.preflightFailed m env.now) := by
  simp only [ControlPlane.step] at hs
  split at hs <;> [skip; cases hs]
  split at hs
  · cases hs
    cases hloop
  · rename_i attempt db hclaim
    cases hs
    rcases claimFifoHead_cases hclaim with ⟨rfl, -⟩ | ⟨k, row, hhead, heff⟩
    · cases hloop
    · obtain ⟨hr, hq, hd⟩ := head_spec hhead
      have hm : (k, row) ∈ candidates s.db := mem_candidates.mpr ⟨hr, hq, hd⟩
      have htype := s.db.ownerType_of_getRow hr
      cases heff with
      | preflightFailed m ht =>
        refine ⟨k, row, _, hm, Db.getRow_put_self ?_, Row.preflightFailed_not_queued ht, .inr ⟨ht, m, rfl⟩⟩
        exact (Row.preflightFailed_spec ht).1.trans htype
      | blocked hacq ha => cases hloop
      | claimed he hacq ha =>
        refine ⟨k, row, _, hm, Db.getRow_put_self ?_, Row.active_not_queued row.claimed_spec.2.2.2.1, .inl rfl⟩
        exact row.claimed_spec.1.trans htype

/-- The answer to apply is the one that was received. -/
theorem step_answer? {s s' : ControlPlane} {l : Label casing} (hs : ControlPlane.step cfg assetPath s l = some s')
    {response : AgentCommandResponse} (hr : s'.pc.answer? = some response) :
    s.pc.answer? = some response ∨ l = .answer response := by
  have hafter (c : Call) (todo : List WorkloadSnapshot) : (c.after todo).answer? = none := by
    unfold Call.after
    split <;> rfl
  cases l with
  | route r =>
    simp only [ControlPlane.step] at hs
    split at hs <;> cases hs
    exact .inl hr
  | answer response' =>
    simp only [ControlPlane.step] at hs
    split at hs <;> cases hs
    cases hr
    exact .inr rfl
  | apply env =>
    simp only [ControlPlane.step] at hs
    split at hs <;> [skip; skip; cases hs]
    · split at hs
      · cases hs
        cases hr
      · cases hs
        simp only at hr
        split at hr
        · cases hr
        · rw [hafter] at hr
          cases hr
    · cases hs
      rw [hafter] at hr
      cases hr
  | claim env =>
    simp only [ControlPlane.step] at hs
    split at hs <;> [skip; cases hs]
    split at hs
    · cases hs
      cases hr
    · rename_i attempt db hclaim
      cases hs
      cases attempt <;> cases hr
  | abort =>
    cases hs
    cases hr
  | _ =>
    simp only [ControlPlane.step] at hs
    split at hs <;> cases hs
    cases hr

theorem LoopInv.step {s s' : ControlPlane} {l : Label casing} (h : LoopInv s)
    (hs : ControlPlane.step cfg assetPath s l = some s') (hloop : s'.pc.scheduling) (hquiet : Quiet s l s') :
    LoopInv s' := by
  refine ⟨hloop, fun response hr => ?_⟩
  rcases step_answer? hs hr with hr₀ | rfl
  · exact h.present response hr₀
  · exact hquiet

/-- Whether a step is a claim. -/
def Label.claims : Label casing → Bool
  | .claim _ => true
  | _ => false

/-- A step of the loop shortens the queue if it is a claim. -/
theorem LoopInv.length_step {s s' : ControlPlane} {l : Label casing} (h : LoopInv s)
    (hs : ControlPlane.step cfg assetPath s l = some s') (hloop : s'.pc.scheduling) (hquiet : Quiet s l s') :
    (if l.claims then 1 else 0) + queueLength s'.db ≤ queueLength s.db := by
  have hdrains := h.drains hs hquiet
  cases l with
  | claim env =>
    obtain ⟨k, row, row', hm, hr', hq', -⟩ := claim_dequeues hs hloop
    have hlt := hdrains.length_lt hm fun row₁ hr₁ => by
      rw [hr'] at hr₁
      cases hr₁
      exact hq'
    simp only [Label.claims, ↓reduceIte]
    omega
  | _ =>
    simp only [Label.claims, Bool.false_eq_true, ↓reduceIte, Nat.zero_add]
    exact hdrains.length_le

/-- A run of the loop queues no row, and every claim has shortened the queue. -/
theorem LoopInv.run {ls : List (Label casing)} {s s' : ControlPlane} (h : LoopInv s)
    (hr : (controlPlane casing cfg assetPath).run s ls = some s')
    (hloop : (controlPlane casing cfg assetPath).EachStep (fun s l s' => s'.pc.scheduling ∧ Quiet s l s') s ls) :
    Drains s.db s'.db ∧ ls.countP (·.claims) + queueLength s'.db ≤ queueLength s.db := by
  induction ls generalizing s with
  | nil =>
    cases hr
    exact ⟨.refl _, (Nat.zero_add _).le⟩
  | cons l ls ih =>
    obtain ⟨s₁, hs, hr₁⟩ := Option.bind_eq_some_iff.mp hr
    obtain ⟨⟨hsched, hquiet⟩, hrest⟩ := hloop s₁ hs
    obtain ⟨hd, hlen⟩ := ih (h.step hs hsched hquiet) hr₁ hrest
    have hstep := h.length_step hs hsched hquiet
    refine ⟨(h.drains hs hquiet).trans hd, ?_⟩
    rw [List.countP_cons]
    omega

/-! ## Termination -/

variable (casing cfg assetPath)

/-- The loop ends: every iteration after which it goes on takes a row out of the queue for good. -/
structure SchedulingTerminates : Prop where
  /-- A run from the head of the loop that does not leave it makes no more claims than the queue
  has lost rows, and no row that has left QUEUED comes back. -/
  bounded : ∀ (ls : List (Label casing)) (s s' : ControlPlane), s.pc = .claiming →
    (controlPlane casing cfg assetPath).run s ls = some s' →
    (controlPlane casing cfg assetPath).EachStep (fun s l s' => s'.pc.scheduling ∧ Quiet s l s') s ls →
    Drains s.db s'.db ∧ ls.countP (·.claims) + queueLength s'.db ≤ queueLength s.db
  /-- A claimed row is STARTING, one whose preflight fails is FAILED. -/
  dequeues : ∀ (s s' : ControlPlane) (env : ClaimEnv),
    (controlPlane casing cfg assetPath).step s (.claim env) = some s' → s'.pc.scheduling →
    ∃ k row row', (k, row) ∈ candidates s.db ∧ s'.db.getRow k = some row' ∧ row'.queued = false ∧
      (row' = row.claimed ∨ row.ownerType ≠ .deployment ∧ ∃ m, row' = row.preflightFailed m env.now)
  /-- What the agent's `_start` returns meets the condition on the answers. -/
  answers : ∀ (settings : AgentSettings) (around : Surroundings) (c : AgentCommand),
    Effect.Returns (fun result => result.response.Present) (startWorkload settings around c)

theorem schedulingTerminates : SchedulingTerminates casing cfg assetPath where
  bounded ls s s' hpc hr hloop := by
    refine LoopInv.run ⟨?_, fun response h => ?_⟩ hr hloop
    · rw [hpc]
      trivial
    · rw [hpc] at h
      cases h
  dequeues s s' env hs hloop := @claim_dequeues casing cfg assetPath s s' env hs hloop
  answers := startWorkload_present

end Steps

section Sample

open Sample

/-- The head of the loop with a deployment in the queue. -/
def Sample.claiming : ControlPlane :=
  ((controlPlane casing cfg assetPath).run (controlPlane casing cfg assetPath).init (running.take 4)).get (by decide +kernel)

/-- One iteration claims it, and the queue is empty. -/
def Sample.iteration : List (Label casing) := (running.drop 4).take 3

/-- The state after it. -/
def Sample.claimed : ControlPlane :=
  ((controlPlane casing cfg assetPath).run claiming iteration).get (by decide +kernel)

theorem one_row_one_claim :
    Drains claiming.db claimed.db ∧ iteration.countP (·.claims) + queueLength claimed.db ≤ queueLength claiming.db ∧
      iteration.countP (·.claims) = 1 ∧ queueLength claiming.db = 1 := by
  have hpc : claiming.pc = .claiming := by decide +kernel
  have hrun : (controlPlane casing cfg assetPath).run claiming iteration = some claimed := (Option.some_get _).symm
  have hloop : (controlPlane casing cfg assetPath).EachStep (fun s l s' => s'.pc.scheduling ∧ Quiet s l s') claiming
      iteration := by
    decide +kernel
  obtain ⟨hdrains, hclaims⟩ := (schedulingTerminates casing cfg assetPath).bounded iteration claiming claimed hpc hrun hloop
  exact ⟨hdrains, hclaims, by decide +kernel, by decide +kernel⟩

end Sample

end OpenLLMOps
