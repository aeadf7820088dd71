import OpenLLMOps.Agent.GpuExclusivity

/-!
# No command preempts a container

A container that is active stops by itself, or because a call of the agent stops or removes
it. `Spares` says that the latter does not happen: between two calls the containers only
change by themselves (`World.Passes`), and every call leaves the container as it finds it.

* `Spares.frame_other`: a command touches no other owner's container;
* `Careful.frame`: once no active container has the labels in question, the rest of a command
  spares those that have them;
* `Unpreempted`: what a command does to containers, and when it reports a deployment as failed;
* `unpreempted`: every command of every run.
-/

namespace OpenLLMOps

open Framework Docker

/-- From `w` to `w'` no call has stopped or removed a container of `k` that was active and whose labels
satisfy `P`. -/
inductive Spares (k : OwnerKey) (P : ContainerLabels → Prop) : World → World → Prop
  | refl (w : World) : Spares k P w w
  | passes {w' w₁ w : World} (h : World.Passes w' w₁) (hw : Spares k P w₁ w) : Spares k P w' w
  | call {w' w₁ w : World} (hevents : w'.events ⊆ w₁.events)
      (hkept : ∀ c, w₁.node.lookup k = some c → c.active = true → P c.labels → w'.node.lookup k = some c)
      (hw : Spares k P w₁ w) : Spares k P w' w

/-- No active container of `k` has labels that satisfy `P`. -/
def Node.Unprotected (n : Node) (k : OwnerKey) (P : ContainerLabels → Prop) : Prop :=
  ∀ c, n.lookup k = some c → c.active = true → ¬ P c.labels

section Spares

variable {k : OwnerKey} {P : ContainerLabels → Prop}

theorem Spares.trans {a b c : World} (h : Spares k P a b) (h' : Spares k P b c) : Spares k P a c := by
  induction h with
  | refl => exact h'
  | passes h _ ih => exact .passes h (ih h')
  | call hevents hkept _ ih => exact .call hevents hkept (ih h')

theorem Spares.of_passes {w' w : World} (h : World.Passes w' w) : Spares k P w' w := .passes h (.refl w)

theorem Spares.mono {P' : ContainerLabels → Prop} {w' w : World} (hP : ∀ labels, P' labels → P labels)
    (h : Spares k P w' w) : Spares k P' w' w := by
  induction h with
  | refl w => exact .refl w
  | passes h _ ih => exact .passes h ih
  | call hevents hkept _ ih => exact .call hevents (fun c hc ha hp => hkept c hc ha (hP _ hp)) ih

theorem wp_call_spares {α : Type} {op : DockerEvent → Node → Except Raised α × Node} {w : World}
    (hop : ∀ e n, Node.Le n w.node →
      ∀ c, n.lookup k = some c → c.active = true → P c.labels → (op e n).2.lookup k = some c) :
    Effect.wp (call op) (fun _ w' => Spares k P w' w) w := by
  have hafter (e : DockerEvent) (w₁ : World) (h₁ : World.Passes w₁ w) : Spares k P (w₁.left (op e w₁.node).2) w :=
    .call (List.Subset.refl w₁.events) (hop e w₁.node h₁.le) (.of_passes h₁)
  exact wp_call_passes hafter (fun _ h₁ => .of_passes h₁) hafter

/-- A call about another owner. -/
theorem call_spares {α : Type} {op : DockerEvent → Node → Except Raised α × Node}
    (hop : ∀ e n, (op e n).2.lookup k = n.lookup k) : Effect.Decreases (Spares k P) (call op) :=
  fun _ => wp_call_spares fun e n _ _ hc _ _ => (hop e n).trans hc

theorem lookup_stop {k' : OwnerKey} (hne : k' ≠ k) : Effect.Decreases (Spares k' P) (stop k) := by
  refine call_spares fun e n => ?_
  split
  · rfl
  · split
    · rfl
    · exact AList.lookup_insert_ne hne

theorem lookup_remove {k' : OwnerKey} (hne : k' ≠ k) : Effect.Decreases (Spares k' P) (remove k) := by
  refine call_spares fun e n => ?_
  split
  · rfl
  · split
    iterate 3 exact AList.lookup_erase_ne hne
    all_goals rfl

theorem lookup_run {k' : OwnerKey} (hne : k' ≠ k) (labels : ContainerLabels) (now : Time) :
    Effect.Decreases (Spares k' P) (run k labels now) := by
  refine call_spares fun e n => ?_
  split
  · rfl
  · exact AList.lookup_insert_ne hne

/-- Calls about one owner spare the containers of every other. -/
theorem Spares.frame_other {k' : OwnerKey} (hne : k' ≠ k) : Frame k (Spares k' P) :=
  ⟨Spares.trans, Spares.of_passes, lookup_stop hne, lookup_remove hne⟩

/-- A container is created only where there is none. -/
theorem run_spares (labels : ContainerLabels) (now : Time) : Effect.Decreases (Spares k P) (run k labels now) := by
  refine fun w => wp_call_spares fun e n _ c hc _ _ => ?_
  simp only [hc]

end Spares

/-- `Spares`, if no active container has the labels before. -/
def Careful (k : OwnerKey) (P : ContainerLabels → Prop) (w' w : World) : Prop :=
  World.Le w' w ∧ (w.node.Unprotected k P → Spares k P w' w)

section Careful

variable {k : OwnerKey} {P : ContainerLabels → Prop}

theorem Node.Unprotected.mono {n n' : Node} (h : n.Unprotected k P) (hle : Node.Le n' n) : n'.Unprotected k P := by
  intro c' hc' ha
  obtain ⟨c, hc, hl, hact⟩ := hle k c' hc'
  rw [hl]
  exact h c hc (hact ha)

/-- A container of the generation has been seen. -/
theorem Node.Unprotected.of_lookup {n : Node} {c : Container} {g : Nat} (hc : n.lookup k = some c)
    (hg : c.labels.generation = g) : n.Unprotected k fun labels => labels.generation ≠ g := by
  intro c' hc' _ hne
  cases hc.symm.trans hc'
  exact hne hg

theorem Careful.trans {a b c : World} (h : Careful k P a b) (h' : Careful k P b c) : Careful k P a c :=
  ⟨h.1.trans h'.1, fun hun => (h.2 (hun.mono h'.1)).trans (h'.2 hun)⟩

theorem Careful.call {α : Type} {op : DockerEvent → Node → Except Raised α × Node}
    (hle : Effect.Decreases World.Le (call op)) : Effect.Decreases (Careful k P) (call op) :=
  fun w => ⟨hle w, fun hun => wp_call_spares fun _ _ hn c hc ha hp => absurd hp (hun.mono hn c hc ha)⟩

theorem Careful.frame : Frame k (Careful k P) :=
  ⟨Careful.trans, fun h => ⟨h.le, fun _ => .of_passes h⟩, Careful.call (stop_le k), Careful.call (remove_le k)⟩

end Careful

/-! ## The operations -/

section Operations

variable {k : OwnerKey} {g : Nat} {w : World}

/-- Removing a container that is not active. -/
theorem remove_spares {P : ContainerLabels → Prop} (hidle : ∀ c, w.node.lookup k = some c → c.active = false) :
    Effect.wp (remove k) (fun _ w' => Spares k P w' w) w := by
  have h : Effect.wp (remove k) (fun _ w' => Careful k P w' w) w := Careful.frame.remove w
  refine Effect.wp_mono h fun _ w' hcareful => hcareful.2 fun c hc ha => ?_
  rw [hidle c hc] at ha
  cases ha

/-- `prepare_contract_start` finds only a container of the generation. -/
theorem wp_prepareContractStart_spares {P : ContainerLabels → Prop} {Q : Except Raised (Option Container) → World → Prop}
    (hnone : ∀ w', Spares k P w' w → Q (.ok none) w')
    (hsome : ∀ w' info, Spares k P w' w → w'.node.lookup k = some info → info.labels.managed = true →
      info.labels.generation = g → Q (.ok (some info)) w')
    (herr : ∀ w' e, Spares k P w' w → Q (.error e) w') : Effect.wp (prepareContractStart k g) Q w := by
  unfold prepareContractStart
  rw [Effect.wp_bind, Effect.wp_tryCatch, Effect.wp_map]
  refine wp_managedContainer_passes (fun w₁ c₁ h₁ hc₁ hm => ?_) (fun w₁ h₁ _ => hnone w₁ (.of_passes h₁)) fun w₁ h₁ =>
    herr w₁ _ (.of_passes h₁)
  show Effect.wp (reload k >>= _) Q w₁
  rw [Effect.wp_bind]
  refine wp_reload_passes (fun w₂ c₂ h₂ hc₂ => ?_) (fun w₂ h₂ _ => herr w₂ _ (.of_passes (h₂.trans h₁))) fun w₂ h₂ =>
    herr w₂ _ (.of_passes (h₂.trans h₁))
  obtain ⟨hl₂, -⟩ := (Node.Seen.of_lookup hc₁).mono h₂.le c₂ hc₂
  have h₂ := h₂.trans h₁
  rw [Effect.seq_ok, Effect.wp_ite]
  split
  · exact herr w₂ _ (.of_passes h₂)
  rw [Effect.wp_ite]
  split
  · rename_i hg
    rw [Effect.wp_bind]
    refine wp_reload_passes (fun w₃ c₃ h₃ hc₃ => ?_) (fun w₃ h₃ _ => herr w₃ _ (.of_passes (h₃.trans h₂)))
      fun w₃ h₃ => herr w₃ _ (.of_passes (h₃.trans h₂))
    obtain ⟨hl₃, -⟩ := (Node.Seen.of_lookup hc₂).mono h₃.le c₃ hc₃
    exact hsome w₃ c₃ (.of_passes (h₃.trans h₂)) hc₃ (by rw [hl₃, hl₂, hm]) (by rw [hl₃, hg])
  rw [Effect.wp_ite]
  split
  · exact herr w₂ _ (.of_passes h₂)
  · rename_i hidle
    rw [Effect.wp_bind]
    -- the old container is removed only where it is not active
    have hremove := remove_spares (P := P) (w := w₂) fun c hc => by
      cases hc₂.symm.trans hc
      exact Bool.eq_false_iff.mpr hidle
    refine Effect.wp_mono hremove fun r w₃ h₃ => ?_
    cases r with
    | ok u => exact hnone w₃ (h₃.trans (.of_passes h₂))
    | error e => exact herr w₃ e (h₃.trans (.of_passes h₂))

theorem wp_launch_spares {settings : AgentSettings} {around : Surroundings} {labels : ContainerLabels}
    {P : ContainerLabels → Prop} {Q : Except Raised Container → World → Prop}
    (hok : ∀ w' info, Spares k P w' w → w'.node.lookup k = some info → info.labels = labels → Q (.ok info) w')
    (herr : ∀ w' e, Spares k P w' w → Q (.error e) w') : Effect.wp (launch settings around k labels) Q w := by
  unfold launch
  rw [Effect.wp_bind]
  refine wp_inspect_passes (fun w₁ h₁ => ?_) fun w₁ h₁ => herr w₁ _ (.of_passes h₁)
  have h₁ : Spares k P w₁ w := .of_passes h₁
  rw [Effect.seq_ok]
  split
  · exact herr w₁ _ h₁
  rw [Effect.wp_bind]
  have hassert := assertGpusAvailable_reads settings around.busyGpuIds labels.gpuIds none
  refine Effect.wp_mono (hassert.to_wp w₁) fun r w₂ h₂ => ?_
  have h₂ := (Spares.of_passes h₂).trans h₁
  cases r with
  | error e => exact herr w₂ e h₂
  | ok u =>
    rw [Effect.seq_ok, Effect.wp_bind]
    have hrun : Effect.wp (run k labels around.now) (fun _ w' => Spares k P w' w₂) w₂ := run_spares labels around.now w₂
    refine Effect.wp_mp hrun (wp_run (fun w₃ c _ hc hl h₃ => ?_) fun w₃ h₃ => herr w₃ _ (h₃.trans h₂))
    have h₃ := h₃.trans h₂
    rw [Effect.seq_ok]
    refine wp_reload_passes (fun w₄ c₄ h₄ hc₄ => ?_) (fun w₄ h₄ _ => herr w₄ _ (.passes h₄ h₃)) fun w₄ h₄ =>
      herr w₄ _ (.passes h₄ h₃)
    obtain ⟨hl₄, -⟩ := (Node.Seen.of_lookup hc).mono h₄.le c₄ hc₄
    exact hok w₄ c₄ (.passes h₄ h₃) hc₄ (hl₄.trans hl)

/-- `cleanup_contract_workload` removes only a container that has ended. -/
theorem cleanupContractWorkload_spares {P : ContainerLabels → Prop} :
    Effect.wp (cleanupContractWorkload k g) (fun _ w' => Spares k P w' w) w := by
  unfold cleanupContractWorkload
  rw [Effect.wp_bind]
  refine wp_inspect_passes (fun w₁ h₁ => ?_) fun w₁ h₁ => .of_passes h₁
  rw [Effect.seq_ok]
  split
  · exact .of_passes h₁
  rw [Effect.wp_bind, Effect.wp_tryCatch, Effect.wp_map]
  refine wp_reload_passes (fun w₂ c h₂ hc => ?_) (fun w₂ h₂ hn => .of_passes (h₂.trans h₁))
    fun w₂ h₂ => .of_passes (h₂.trans h₁)
  have h₂ : Spares k P w₂ w := .of_passes (h₂.trans h₁)
  simp only [Except.map, Effect.seq_ok]
  iterate 3
    rw [Effect.wp_ite]
    split
    · exact h₂
  rw [Effect.wp_ite]
  split
  · exact h₂
  rename_i hidle
  iterate 2
    rw [Effect.wp_ite]
    split
    · exact h₂
  rw [Effect.wp_tryCatch]
  have hremove := remove_spares (P := P) (w := w₂) fun c' hc' => by
    cases hc.symm.trans hc'
    exact Bool.eq_false_iff.mpr hidle
  refine Effect.wp_mono hremove fun r w₃ h₃ => ?_
  cases r with
  | ok u => exact h₃.trans h₂
  | error e =>
    simp only
    rw [Effect.wp_ite]
    split <;> exact h₃.trans h₂

/-- `quiesce_failed_inference` confirms the end of a managed container. -/
theorem wp_quiesceFailedInference_managed {info : Container} (hc : w.node.lookup k = some info)
    (hm : info.labels.managed = true) :
    Effect.wp (quiesceFailedInference k g) (fun r w' => r = .ok true → w'.node.Ended k) w := by
  refine wp_quiesceFailedInference (fun w' hle hended _ => ?_) fun w' _ h => by cases h
  rcases hended with hun | hended
  · refine .of_none ?_
    cases hc' : w'.node.lookup k with
    | none => rfl
    | some c' =>
      obtain ⟨hl, -⟩ := (Node.Seen.of_lookup hc).mono hle c' hc'
      have hun := hun c' hc'
      rw [hl, hm] at hun
      cases hun
  · exact hended

end Operations

/-! ## Commands -/

section Commands

variable {settings : AgentSettings} {around : Surroundings} {c : AgentCommand} {w : World}

/-- From `w` to `w'` a deployment's container of the command's generation has been seen for which
`_inference_failure_reason` gives a reason, and `quiesce_failed_inference` is the only thing that may have
stopped or removed an active container. -/
def Quiesces (settings : AgentSettings) (around : Surroundings) (c : AgentCommand) (w' w : World) : Prop :=
  c.owner.type = .deployment ∧ ∃ w₁ info reason, Spares c.owner.key (fun _ => True) w₁ w ∧
    w₁.node.lookup c.owner.key = some info ∧ info.labels.generation = c.owner.generation ∧
    inferenceFailureReason settings around.now info = some reason ∧
    w' = (quiesceFailedInference c.owner.key c.owner.generation w₁).2

/-- What a command does to the containers that are active, and when it reports a deployment as failed. -/
structure Unpreempted (settings : AgentSettings) (around : Surroundings) (c : AgentCommand) (w : World)
    (outcome : Except Raised CommandResult) (w' : World) : Prop where
  /-- It stops and removes none of another owner. -/
  others : ∀ k ≠ c.owner.key, Spares k (fun _ => True) w' w
  /-- It stops and removes none of another generation. -/
  generations : Spares c.owner.key (fun labels => labels.generation ≠ c.owner.generation) w' w
  /-- If it is no plain STOP, it stops and removes none at all, or a failed deployment's. -/
  failing : ¬ (c.action = .stop ∧ c.execution.isEmpty = true) →
    Spares c.owner.key (fun _ => True) w' w ∨ c.action ≠ .stop ∧ Quiesces settings around c w' w
  /-- What is reported as failed has ended. -/
  confirmed : c.owner.type = .deployment → ∀ result, outcome = .ok result →
    result.response.observedState = .failed → w'.node.Ended c.owner.key

/-- The state of a container that is reported as failed. -/
theorem endedState_of_failed {info : Container} (h : stateFromInfo .deployment info = .failed) :
    info.active = false ∧ info.state.status ≠ .removing := by
  rw [Container.active]
  unfold stateFromInfo at h
  cases hs : info.state.status <;> rw [hs] at h <;> simp only at h
  case running => split at h <;> cases h
  case created | restarting | paused | removing => cases h
  all_goals exact ⟨rfl, fun e => by cases e⟩

/-- The part of `Unpreempted` about a container of the command's generation. -/
structure Answers (settings : AgentSettings) (around : Surroundings) (c : AgentCommand) (w : World)
    (outcome : Except Raised CommandResult) (w' : World) : Prop where
  generations : Spares c.owner.key (fun labels => labels.generation ≠ c.owner.generation) w' w
  failing : Spares c.owner.key (fun _ => True) w' w ∨ Quiesces settings around c w' w
  confirmed : c.owner.type = .deployment → ∀ result, outcome = .ok result →
    result.response.observedState = .failed → w'.node.Ended c.owner.key

/-- The answer about a managed container of the command's generation. -/
theorem responseFromInfo_unpreempted {info : Container} (hc : w.node.lookup c.owner.key = some info)
    (hm : info.labels.managed = true) (hg : info.labels.generation = c.owner.generation) :
    Effect.wp (responseFromInfo settings around c info) (Answers settings around c w) w := by
  have hspares : Effect.wp (responseFromInfo settings around c info)
      (fun _ w' => Careful c.owner.key (fun labels => labels.generation ≠ c.owner.generation) w' w) w :=
    responseFromInfo_frame Careful.frame info w
  refine Effect.wp_mp hspares ?_
  have hgenerations {w' : World} (h : Careful c.owner.key (fun labels => labels.generation ≠ c.owner.generation) w' w) :=
    h.2 (.of_lookup hc hg)
  by_cases ht : c.owner.type = .deployment
  · unfold responseFromInfo settledState answerMetadata
    simp only [ht]
    rw [Effect.wp_bind, Effect.wp_ite]
    split
    · rename_i hstarting
      split
      · refine fun h => ⟨hgenerations h, .inl (.refl w), fun _ result hr hfailed => ?_⟩
        cases hr
        rw [hstarting.2] at hfailed
        cases hfailed
      · rename_i reason hreason
        rw [Effect.wp_bind, hg]
        have hself : Effect.wp (quiesceFailedInference c.owner.key c.owner.generation)
          (fun _ w' => w' = (quiesceFailedInference c.owner.key c.owner.generation w).2) w := rfl
        refine Effect.wp_mono (Effect.wp_and hself (wp_quiesceFailedInference_managed hc hm)) fun r w' h => ?_
        obtain ⟨hw', hended⟩ := h
        have hquiesces : Quiesces settings around c w' w := ⟨ht, w, info, reason, .refl w, hc, hg, hreason, hw'⟩
        cases r with
        | error e => exact fun h => ⟨hgenerations h, .inr hquiesces, fun _ _ hr => by cases hr⟩
        | ok quiesced =>
          refine fun h => ⟨hgenerations h, .inr hquiesces, fun _ result hr hfailed => ?_⟩
          cases quiesced with
          | true => exact hended rfl
          | false =>
            cases hr
            rw [hstarting.2] at hfailed
            cases hfailed
    · refine fun h => ⟨hgenerations h, .inl (.refl w), fun _ result hr hfailed c' hc' => ?_⟩
      cases hr
      cases hc.symm.trans hc'
      exact endedState_of_failed hfailed
  · have hreads : Reads (responseFromInfo settings around c info) := by
      unfold responseFromInfo settledState
      simp only [ht, false_and, if_false]
      exact Reads.bind (Reads.pure _) fun _ => Reads.bind (answerMetadata_reads _ info) fun _ => Reads.pure _
    exact Effect.wp_mono (hreads.to_wp w) fun r w' hpasses h =>
      ⟨hgenerations h, .inl (.of_passes hpasses), fun e => absurd e ht⟩

theorem Answers.of_spares {outcome : Except Raised CommandResult} {w' : World}
    (h : Spares c.owner.key (fun _ => True) w' w)
    (hr : ∀ result, outcome = .ok result → result.response.observedState ≠ .failed) :
    Answers settings around c w outcome w' :=
  ⟨h.mono fun _ _ => trivial, .inl h, fun _ result hok hfailed => absurd hfailed (hr result hok)⟩

theorem Answers.of_error {e : Raised} {w' : World} (h : Spares c.owner.key (fun _ => True) w' w) :
    Answers settings around c w (.error e) w' := .of_spares h fun _ hr => by cases hr

theorem Answers.of_absent {w' : World} (h : Spares c.owner.key (fun _ => True) w' w) :
    Answers settings around c w (.ok acceptedAbsent) w' := by
  refine .of_spares h fun result hr => ?_
  cases hr
  exact fun e => by cases e

theorem Answers.after {outcome : Except Raised CommandResult} {w' w₁ : World}
    (h : Answers settings around c w₁ outcome w') (h₁ : Spares c.owner.key (fun _ => True) w₁ w) :
    Answers settings around c w outcome w' := by
  refine ⟨h.generations.trans (h₁.mono fun _ _ => trivial), ?_, h.confirmed⟩
  rcases h.failing with h | ⟨ht, w₂, info, reason, h₂, hseen⟩
  · exact .inl (h.trans h₁)
  · exact .inr ⟨ht, w₂, info, reason, h₂.trans h₁, hseen⟩

theorem startWorkload_unpreempted :
    Effect.wp (startWorkload settings around c) (Answers settings around c w) w := by
  unfold startWorkload
  rw [Effect.wp_ite]
  split
  · exact .of_error (.refl w)
  rw [Effect.wp_bind]
  refine wp_prepareContractStart_spares (fun w₁ h₁ => ?_) (fun w₁ info h₁ hc hm hg => ?_) fun w₁ e h₁ => .of_error h₁
  · rw [Effect.seq_ok]
    simp only
    split
    · exact .of_error h₁
    · rename_i labels hl
      obtain ⟨hg, ⟨hm, -, -⟩, -⟩ := launchLabels_spec hl
      rw [Effect.wp_bind]
      refine wp_launch_spares (fun w₂ info h₂ hc hlabels => ?_) fun w₂ e h₂ => .of_error (h₂.trans h₁)
      have hanswer : Effect.wp (responseFromInfo settings around c info) (Answers settings around c w₂) w₂ :=
        responseFromInfo_unpreempted hc (by rw [hlabels, hm]) (by rw [hlabels, hg])
      exact Effect.wp_mono hanswer fun _ _ h => h.after (h₂.trans h₁)
  · exact Effect.wp_mono (responseFromInfo_unpreempted hc hm hg) fun _ _ h => h.after h₁

theorem observe_unpreempted : Effect.wp (observe settings around c) (Answers settings around c w) w := by
  unfold observe
  rw [Effect.wp_bind, Effect.wp_tryCatch, Effect.wp_map]
  refine wp_getContractWorkload_passes (fun w₁ info h₁ hc hm => ?_) (fun w₁ h₁ _ => ?_) fun w₁ e h₁ he => ?_
  · have h₁ := Spares.of_passes (k := c.owner.key) (P := fun _ => True) h₁
    simp only [Except.map, Effect.seq_ok]
    rw [Effect.wp_ite]
    split
    · exact .of_error h₁
    · rename_i hg
      exact Effect.wp_mono (responseFromInfo_unpreempted hc hm (not_not.mp hg)) fun _ _ h => h.after h₁
  · exact .of_absent (.of_passes h₁)
  · rcases he with rfl | rfl <;> exact .of_error (.of_passes h₁)

/-- An ordinary STOP finds a job that has succeeded, or nothing. -/
theorem stopContractWorkload_returns (k : OwnerKey) (g : Nat) :
    Effect.Returns (fun found => ∀ info, found = some info → succeeded k.type info = true) (stopContractWorkload k g) := by
  have hremove : Effect.Returns (fun found => ∀ info, found = some info → succeeded k.type info = true)
      (do remove k; pure none) := .bind fun _ => .pure fun _ h => by cases h
  have hfound (info : Container) {m : Docker (Option Container)}
      (hm : Effect.Returns (fun found => ∀ info, found = some info → succeeded k.type info = true) m) :
      Effect.Returns (fun found => ∀ info, found = some info → succeeded k.type info = true)
        (if succeeded k.type info then pure (some info) else m) := by
    split
    · rename_i hs
      refine .pure fun info' h => ?_
      cases h
      exact hs
    · exact hm
  refine .bind fun _ => .bind fun container => .ite (.throw _) (.bind fun info => hfound info ?_)
  exact .ite (.bind fun _ => .bind fun info => hfound info hremove) hremove

/-- An ordinary STOP concerns the containers of its generation. -/
theorem stopWorkload_spares :
    Effect.wp (stopWorkload settings around c)
      (fun _ w' => Spares c.owner.key (fun labels => labels.generation ≠ c.owner.generation) w' w) w := by
  by_cases hun : w.node.Unprotected c.owner.key fun labels => labels.generation ≠ c.owner.generation
  · exact (stopWorkload_frame Careful.frame w).2 hun
  · -- the container is of another generation, and the STOP is rejected
    obtain ⟨c₀, hc₀⟩ := not_forall.mp hun
    simp only [not_forall, not_not] at hc₀
    obtain ⟨hc₀, -, hne⟩ := hc₀
    unfold stopWorkload stopContractWorkload
    rw [Effect.wp_bind, Effect.wp_tryCatch, Effect.wp_bind]
    refine wp_managedContainer_passes (fun w₁ c₁ h₁ _ _ => ?_) (fun w₁ h₁ _ => .of_passes h₁) fun w₁ h₁ => .of_passes h₁
    rw [Effect.seq_ok, Effect.wp_bind]
    refine wp_reload_passes (fun w₂ c₂ h₂ hc₂ => ?_) (fun w₂ h₂ _ => .of_passes (h₂.trans h₁))
      fun w₂ h₂ => .of_passes (h₂.trans h₁)
    have h₂ := h₂.trans h₁
    obtain ⟨hl, -⟩ := (Node.Seen.of_lookup hc₀).mono h₂.le c₂ hc₂
    rw [Effect.seq_ok, Effect.wp_ite, if_pos (by rw [hl]; exact hne)]
    exact .of_passes h₂

theorem stopWorkload_confirmed (ht : c.owner.type = .deployment) :
    Effect.wp (stopWorkload settings around c)
      (fun r _ => ∀ result, r = .ok result → result.response.observedState ≠ .failed) w := by
  have habsent (result : CommandResult) (h : Except.ok (ε := Raised) acceptedAbsent = .ok result) :
      result.response.observedState ≠ .failed := by
    cases h
    exact fun e => by cases e
  unfold stopWorkload
  rw [Effect.wp_bind, Effect.wp_tryCatch]
  refine Effect.wp_mono (stopContractWorkload_returns c.owner.key c.owner.generation w) fun r w₁ hr => ?_
  cases r with
  | error e =>
    simp only
    rw [Effect.wp_ite]
    split
    · exact habsent
    · exact fun _ h => by cases h
  | ok found =>
    cases found with
    | none => exact habsent
    | some info =>
      have hs := hr _ rfl info rfl
      have hkey : c.owner.key.type = .deployment := ht
      simp [succeeded, hkey] at hs

/-- STOP that cleans up. -/
theorem cleanup_spares :
    Effect.wp (cleanup c) (fun r w' => Spares c.owner.key (fun _ => True) w' w ∧
      ∀ result, r = .ok result → result.response.observedState ≠ .failed) w := by
  unfold cleanup
  rw [Effect.wp_bind]
  refine Effect.wp_mono (cleanupContractWorkload_spares (P := fun _ => True)) fun r w' h => ?_
  cases r with
  | error e => exact ⟨h, fun _ hr => by cases hr⟩
  | ok u =>
    refine ⟨h, fun result hr => ?_⟩
    cases hr
    exact fun e => by cases e

/-- What a command does from any state of the node. -/
theorem dispatch_unpreempted : Effect.wp (dispatch settings around c) (Unpreempted settings around c w) w := by
  have hothers : Effect.wp (dispatch settings around c)
      (fun _ w' => ∀ k ≠ c.owner.key, Spares k (fun _ => True) w' w) w := fun k hne =>
    dispatch_frame (Spares.frame_other hne) (fun labels _ => lookup_run hne labels around.now) w
  -- a command that stops and removes nothing
  have hspared {m : Docker CommandResult}
      (ho : Effect.wp m (fun _ w' => ∀ k ≠ c.owner.key, Spares k (fun _ => True) w' w) w)
      (hm : Effect.wp m (fun r w' => Spares c.owner.key (fun _ => True) w' w ∧
        ∀ result, r = .ok result → result.response.observedState ≠ .failed) w) :
      Effect.wp m (Unpreempted settings around c w) w :=
    ⟨ho, hm.1.mono fun _ _ => trivial, fun _ => .inl hm.1, fun _ result hr hfailed => absurd hfailed (hm.2 result hr)⟩
  have hthrow (e : Raised) (ho : Effect.wp (throw e : Docker CommandResult)
      (fun _ w' => ∀ k ≠ c.owner.key, Spares k (fun _ => True) w' w) w) :
      Effect.wp (throw e : Docker CommandResult) (Unpreempted settings around c w) w :=
    hspared ho ⟨.refl w, fun _ hr => by cases hr⟩
  -- a START or STATUS
  have hanswers {m : Docker CommandResult} (ha : c.action ≠ .stop)
      (ho : Effect.wp m (fun _ w' => ∀ k ≠ c.owner.key, Spares k (fun _ => True) w' w) w)
      (hm : Effect.wp m (Answers settings around c w) w) : Effect.wp m (Unpreempted settings around c w) w :=
    ⟨ho, hm.generations, fun _ => hm.failing.imp_right fun h => ⟨ha, h⟩, hm.confirmed⟩
  unfold dispatch at hothers ⊢
  split at hothers
  · rename_i ha
    exact hanswers (by rw [ha]; decide) hothers startWorkload_unpreempted
  · rename_i ha
    split at hothers
    · rename_i hempty
      rw [if_pos hempty]
      refine ⟨hothers, stopWorkload_spares, fun h => absurd ⟨ha, hempty⟩ h, fun ht result hr hfailed => ?_⟩
      exact absurd hfailed (stopWorkload_confirmed ht result hr)
    rename_i hne
    rw [if_neg hne]
    split at hothers
    · rename_i hcleanup
      rw [if_pos hcleanup]
      exact hspared hothers cleanup_spares
    · rename_i hother
      rw [if_neg hother]
      exact hthrow _ hothers
  · rename_i ha
    split at hothers
    · rename_i hempty
      rw [if_pos hempty]
      exact hanswers (by rw [ha]; decide) hothers observe_unpreempted
    · rename_i hne
      rw [if_neg hne]
      exact hthrow _ hothers

end Commands

namespace Agent

/-- A command leaves the node as it is, or is dispatched and preempts nothing. -/
def StepUnpreempted (settings : AgentSettings) (s : Agent) : NodeLabel → Agent → Prop
  | .command requestId c around events, s' =>
    s'.node = s.node ∨
      s'.node = (dispatch settings around c ⟨s.node, events, []⟩).2.node ∧
      (s.execute settings requestId c around events).1 = answer? (dispatch settings around c ⟨s.node, events, []⟩).1 ∧
      Unpreempted settings around c ⟨s.node, events, []⟩ (dispatch settings around c ⟨s.node, events, []⟩).1
        (dispatch settings around c ⟨s.node, events, []⟩).2
  | _, _ => True

/-- No command of a run preempts a container. -/
theorem unpreempted (settings : AgentSettings) (s : Agent) (ls : List NodeLabel) :
    (nodeSystem settings).EachStep (StepUnpreempted settings) s ls := by
  refine System.EachStep.of_step (fun {s l s'} h => ?_) s ls
  cases l with
  | command requestId c around events =>
    cases h
    have hunpreempted : Effect.wp (dispatch settings around c) (Unpreempted settings around c ⟨s.node, events, []⟩)
        ⟨s.node, events, []⟩ := dispatch_unpreempted
    unfold StepUnpreempted Agent.execute
    rcases execute_node_cases Prod.mk (fun c => dispatch settings around c) requestId c s.store
      (⟨s.node, events, []⟩ : World) with h | ⟨h, hanswer⟩
    · exact .inl (congrArg World.node h)
    · exact .inr ⟨congrArg World.node h, hanswer, hunpreempted⟩
  | _ => trivial

end Agent

end OpenLLMOps
