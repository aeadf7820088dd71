import OpenLLMOps.ControlPlane.Snapshots

/-!
# Late answers

The transaction about an answer looks for the row with the generation of its
snapshot, and `start_deployment` does not change the generation of the row that it
queues. So an answer about the previous instance finds the queued row exactly
if the deployment was started while the round held a snapshot of it. Without
such a start (`NoStartOnPending`), every snapshot of a restarted row has a
generation that is not older than the start (`Restarted`).
-/

namespace OpenLLMOps

open Framework Vllm

/-- The columns of a deployment that say what the user asked for and where it stands in the
queue. -/
def Deployment.request (d : Deployment) : DesiredServiceState × DeploymentState × Option Time × Option PyStr :=
  (d.desiredState, d.actualState, d.queuedAt, d.errorMessage)

section Runs

variable {casing : Casing} {cfg : Settings} {assetPath : Uuid → Option PyStr}

/-- The transaction after an answer about an instance older than `version` keeps the request
of the deployment `id`, and all leases but the ones of that instance. -/
def KeepsRequest (id : Uuid) (version : Nat) (s : ControlPlane) (l : Label casing) (s' : ControlPlane) : Prop :=
  match l with
  | .apply _ =>
    ∀ c, s.pc.call? = some c → c.workload.owner.key = ⟨.deployment, id⟩ → c.workload.owner.generation < version →
      (s'.db.deployments.lookup id).map Deployment.request = (s.db.deployments.lookup id).map Deployment.request ∧
      ∀ lease : GPULease, ¬ (lease.key = c.workload.owner.key ∧ lease.generation = c.workload.owner.generation) →
        (lease ∈ s'.db.gpuLeases ↔ lease ∈ s.db.gpuLeases)
  | _ => True

/-- Whenever a `start_deployment` of the run queues a row, no later answer about an instance
older than the row's new version undoes it. -/
def KeepsStarts (cfg : Settings) (assetPath : Uuid → Option PyStr) (ls : List (Label casing)) : Prop :=
  ∀ ls₁ id now ls₂ s d s' d', ls = ls₁ ++ .route (.startDeployment id now) :: ls₂ →
    (controlPlane casing cfg assetPath).run (controlPlane casing cfg assetPath).init ls₁ = some s →
    s.db.deployments.lookup id = some d → d.actualState ≠ .queued →
    (controlPlane casing cfg assetPath).step s (.route (.startDeployment id now)) = some s' →
    s'.db.deployments.lookup id = some d' → d'.actualState = .queued →
    (controlPlane casing cfg assetPath).EachStep (KeepsRequest id d'.stateVersion) s' ls₂

/-- The deployment `id` was queued with the version `version`: until it is claimed it is not
active, and then its generation is not older. -/
structure Restarted (id : Uuid) (version : Nat) (s : ControlPlane) : Prop where
  snapshots : SnapshotInv s
  drawn : id ∈ s.used
  row : ∀ row, s.db.getRow ⟨.deployment, id⟩ = some row →
    version ≤ row.stateVersion ∧ (row.active = true → version ≤ row.runtimeGeneration)

theorem Restarted.step {id : Uuid} {version : Nat} {s s' : ControlPlane} {l : Label casing}
    (h : Restarted id version s) (hs : ControlPlane.step cfg assetPath s l = some s')
    (hc : NoStartOnPending s l s') : Restarted id version s' := by
  have hdrawn : id ∈ s'.used := by
    rw [step_used hs]
    exact List.mem_append_right _ h.drawn
  refine ⟨h.snapshots.step hs hc, hdrawn, fun row' hr => ?_⟩
  rcases step_row hs _ row' hr with ⟨row, hr₀, hch⟩ | ⟨-, -, hnew⟩
  · obtain ⟨hv, hg⟩ := h.row row hr₀
    refine ⟨hv.trans hch.version, fun ha => ?_⟩
    rcases hch.active ha with ⟨ha₀, e⟩ | ⟨-, e⟩
    · rw [e]
      exact hg (ha₀.elim (fun ha₀ => ha₀) (h.snapshots.held hr₀))
    · rw [e]
      exact hv
  · exact absurd h.drawn hnew

/-- No snapshot of the round is of an older instance of a restarted deployment. -/
theorem Restarted.generation_ge {id : Uuid} {version : Nat} {s : ControlPlane} (h : Restarted id version s)
    {w : WorkloadSnapshot} (hw : w ∈ s.pc.pending) (hk : w.owner.key = ⟨.deployment, id⟩) :
    version ≤ w.owner.generation := by
  obtain ⟨row, hr, ha, hg⟩ := h.snapshots.pending w hw
  rw [hk] at hr
  rw [← hg]
  exact (h.row row hr).2 ha

theorem Pc.call?_pending {pc : Pc} {c : Call} (h : pc.call? = some c) : c.workload ∈ pc.pending := by
  cases pc with
  | answered c' response todo => cases h; exact List.mem_cons_self
  | unanswered c' message todo => cases h; exact List.mem_cons_self
  | _ => cases h

theorem Restarted.keepsRequest {id : Uuid} {version : Nat} {s s' : ControlPlane} {l : Label casing}
    (h : Restarted id version s) : KeepsRequest id version s l s' := by
  cases l with
  | apply env =>
    intro c hc hk hg
    have := h.generation_ge (Pc.call?_pending hc) hk
    omega
  | _ => trivial

theorem Restarted.of_queued {id : Uuid} {s : ControlPlane} {d : Deployment} (h : SnapshotInv s)
    (hd : s.db.deployments.lookup id = some d) (hq : d.actualState = .queued) : Restarted id d.stateVersion s := by
  have hr' : s.db.getRow ⟨.deployment, id⟩ = some (.deployment d) := Db.getRow_deployment.mpr ⟨d, hd, rfl⟩
  refine ⟨h, (h.rows _ _ hr').2, fun row hr => ?_⟩
  rw [hr'] at hr
  cases hr
  refine ⟨Nat.le_refl _, fun ha => ?_⟩
  rw [Row.inactive_of_queued (by simpa [Row.queued] using hq)] at ha
  cases ha

/-- In a run that starts no deployment of which the round holds a snapshot while it stops,
no answer about an earlier instance undoes a start. -/
theorem keepsStarts_of_noStartOnPending (ls : List (Label casing))
    (h : (controlPlane casing cfg assetPath).EachStep NoStartOnPending (controlPlane casing cfg assetPath).init ls) :
    KeepsStarts cfg assetPath ls := by
  intro ls₁ id now ls₂ s d s' d' hls hrun hd hne hs hd' hq
  subst hls
  have hsnap {s l s'} (h : SnapshotInv s) (hs : (controlPlane casing cfg assetPath).step s l = some s')
      (hc : NoStartOnPending s l s') : SnapshotInv s' := h.step hs hc
  have hrest {s l s'} (h : Restarted id d'.stateVersion s)
      (hs : (controlPlane casing cfg assetPath).step s l = some s') (hc : NoStartOnPending s l s') :
      Restarted id d'.stateVersion s' := h.step hs hc
  have hinv : SnapshotInv s := System.inv_of_run hsnap SnapshotInv.init h.of_append_left hrun
  obtain ⟨hc, htail⟩ := h.of_append hrun s' hs
  exact System.eachStep_of_invariant hrest (fun h _ _ => h.keepsRequest)
    (Restarted.of_queued (hsnap hinv hs hc) hd' hq) htail

end Runs

section Sample

open Sample

/-- A deployment is stopped, observed absent, and started again. -/
theorem keepsStarts_restarted :
    KeepsStarts cfg assetPath (running ++
      [.route (.stopDeployment 1), .begin [qwen false], .send, .answer (answer .absent), .apply (observation 4),
        .route (.startDeployment 1 5), .endScan, .reap 6, .claim ⟨6, 8, .escape⟩, .answer (answer .running),
        .apply (observation 7)]) :=
  keepsStarts_of_noStartOnPending _ (by decide)

/-- A deployment that its user stops and starts while the answer FAILED about its instance
is on the way: the answer turns the accepted start into FAILED. -/
theorem late_failure_undoes_start :
    ¬ KeepsStarts cfg assetPath (running ++
      [.begin [qwen true], .send, .answer (answer .failed), .route (.stopDeployment 1),
        .route (.startDeployment 1 5), .apply (observation 6)]) := by
  intro h
  have hstep := h (running ++ [.begin [qwen true], .send, .answer (answer .failed), .route (.stopDeployment 1)]) 1 5
    [.apply (observation 6)] _ _ _ _ rfl rfl rfl (by decide) rfl rfl rfl
  have hkeeps := (hstep _ rfl).1 ⟨qwen true, .status, false⟩ rfl rfl (by decide)
  exact absurd hkeeps.1 (by decide)

end Sample

end OpenLLMOps
