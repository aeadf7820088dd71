import OpenLLMOps.ControlPlane.Effects

/-!
# The commands of the control plane

The command that a step puts on the wire: START by a claim, STATUS and STOP by the
round, a cleanup STOP by a delete route.
-/

namespace OpenLLMOps

open Framework Vllm

/-- The cleanup command that a delete route sends. -/
def RouteCall.cleanup {casing : Casing} (r : RouteCall casing) (db : Db) : Option AgentCommand :=
  match r with
  | .deleteDeployment id (some _) => send ⟨.deployment, id⟩
  | .deleteTrainingJob id (some _) => send ⟨.training, id⟩
  | .deleteEvaluationRun id (some _) => send ⟨.evaluation, id⟩
  | _ => none
where
  send (k : OwnerKey) : Option AgentCommand :=
    ((db.getRow k).filter fun row => row.isTerminal && 1 ≤ row.commandGeneration).map (cleanupCommand k)

/-- The command that a step of the control plane puts on the wire. -/
def Label.sends {casing : Casing} (db : Db) (l : Label casing) (pc : Pc) : Option AgentCommand :=
  match l with
  | .send | .apply _ | .claim _ =>
    match pc with
    | .waiting c _ => some (command c.workload c.action)
    | _ => none
  | .route r => r.cleanup db
  | _ => none

section Sends

variable {casing : Casing} {cfg : Settings} {assetPath : Uuid → Option PyStr} {s s' : ControlPlane}

theorem RouteCall.cleanup_action {r : RouteCall casing} {db : Db} {c : AgentCommand} (h : r.cleanup db = some c) :
    c.action = .stop := by
  have hsend (k : OwnerKey) (h : cleanup.send db k = some c) : c.action = .stop := by
    obtain ⟨row, -, rfl⟩ := Option.map_eq_some_iff.mp h
    rfl
  unfold cleanup at h
  split at h
  iterate 3 exact hsend _ h
  cases h

/-- A delete route sends the cleanup command of a row that it has found. -/
theorem RouteCall.cleanup_row {r : RouteCall casing} {db : Db} {c : AgentCommand} (h : r.cleanup db = some c) :
    ∃ k row, db.getRow k = some row ∧ row.isTerminal = true ∧ c = cleanupCommand k row := by
  have hsend (k : OwnerKey) (h : cleanup.send db k = some c) :
      ∃ k row, db.getRow k = some row ∧ row.isTerminal = true ∧ c = cleanupCommand k row := by
    obtain ⟨row, hrow, rfl⟩ := Option.map_eq_some_iff.mp h
    obtain ⟨hr, ht⟩ := Option.filter_eq_some_iff.mp hrow
    exact ⟨k, row, hr, (Bool.and_eq_true _ _ |>.mp ht).1, rfl⟩
  unfold cleanup at h
  split at h
  iterate 3 exact hsend _ h
  cases h

/-- A step sends the cleanup command of a row, or a command about a snapshot of the round. -/
theorem sends_cases {l : Label casing} {db : Db} {pc : Pc} {c : AgentCommand} (h : l.sends db pc = some c) :
    (∃ r k row, l = .route r ∧ db.getRow k = some row ∧ c = cleanupCommand k row) ∨
      ∃ w ∈ pc.pending, ∃ action, c = command w action := by
  cases l with
  | route r =>
    obtain ⟨k, row, hr, -, rfl⟩ := r.cleanup_row h
    exact .inl ⟨r, k, row, rfl, hr, rfl⟩
  | send | apply | claim =>
    simp only [Label.sends] at h
    split at h <;> cases h
    exact .inr ⟨_, List.mem_cons_self, _, rfl⟩
  | _ => cases h

theorem firstCall_action (w : WorkloadSnapshot) : (firstCall w).action ≠ .start := by
  unfold firstCall actionForActive
  split
  · nofun
  · simp only
    split <;> nofun

/-- Only a claim sends a START, for the row at the head of the queue. -/
theorem sends_start {l : Label casing} (hs : ControlPlane.step cfg assetPath s l = some s') {c : AgentCommand}
    (hc : l.sends s.db s'.pc = some c) (ha : c.action = .start) :
    ∃ env w, l = .claim env ∧ claimFifoHead cfg assetPath env s.db = .ok (.claimed w, s'.db) ∧
      c = command w .start := by
  cases l with
  | route r => rw [RouteCall.cleanup_action hc] at ha; cases ha
  | send =>
    simp only [ControlPlane.step] at hs
    split at hs <;> cases hs
    cases hc
    exact absurd ha (firstCall_action _)
  | apply env =>
    have hwait : ∃ call todo, s'.pc = .waiting call todo ∧ c = command call.workload call.action := by
      simp only [Label.sends] at hc
      split at hc <;> cases hc
      rename_i call todo hpc
      exact ⟨call, todo, hpc, rfl⟩
    obtain ⟨call, todo, hpc, rfl⟩ := hwait
    have hafter (c : Call) (todo' : List WorkloadSnapshot) : c.after todo' ≠ .waiting call todo := by
      unfold Call.after
      split <;> exact fun h => by cases h
    simp only [ControlPlane.step] at hs
    split at hs
    · split at hs
      · cases hs
        cases hpc
      · cases hs
        simp only at hpc
        split at hpc
        · cases hpc
          cases ha
        · exact absurd hpc (hafter _ _)
    · cases hs
      exact absurd hpc (hafter _ _)
    · cases hs
  | claim env =>
    simp only [ControlPlane.step] at hs
    split at hs
    · split at hs
      · cases hs
        cases hc
      · rename_i attempt db hclaim
        cases hs
        cases attempt with
        | claimed w =>
          cases hc
          exact ⟨env, w, rfl, hclaim, rfl⟩
        | _ => cases hc
    · cases hs
  | _ => cases hc

end Sends

end OpenLLMOps
