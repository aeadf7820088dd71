import OpenLLMOps.Agent.Processor

/-!
# What the operations guarantee

For each operation what it has made sure of when it returns or is rejected. An
exception that `execute` makes no rejection of (`Raised.result? = none`) is no answer,
so nothing is asked of it.
-/

namespace OpenLLMOps

open Framework Docker

/-! ## The runner -/

section Runner

variable {k : OwnerKey} {g : Nat} {w : World}

theorem wp_managedContainer_passes {Q : Except Raised Container → World → Prop}
    (hok : ∀ w' c, World.Passes w' w → w'.node.lookup k = some c → c.labels.managed = true → Q (.ok c) w')
    (hnone : ∀ w', World.Passes w' w → w'.node.Unmanaged k → Q (.error .workloadNotFound) w')
    (herr : ∀ w', World.Passes w' w → Q (.error .docker) w') : Effect.wp (managedContainer k) Q w := by
  unfold managedContainer
  rw [Effect.wp_bind]
  refine wp_inspect_passes (fun w' h => ?_) herr
  rw [Effect.seq_ok]
  cases hc : w'.node.lookup k with
  | none => exact hnone w' h (.of_none hc)
  | some c =>
    simp only
    rw [Effect.wp_ite]
    split
    · rename_i hm
      exact hok w' c h hc hm
    · rename_i hm
      refine hnone w' h fun c' hc' => ?_
      cases hc.symm.trans hc'
      exact Bool.eq_false_iff.mpr hm

theorem wp_managedContainer {Q : Except Raised Container → World → Prop}
    (hok : ∀ w' c, World.Le w' w → w'.node.lookup k = some c → Q (.ok c) w')
    (hnone : ∀ w', World.Le w' w → w'.node.Unmanaged k → Q (.error .workloadNotFound) w')
    (herr : ∀ w', World.Le w' w → Q (.error .docker) w') : Effect.wp (managedContainer k) Q w :=
  wp_managedContainer_passes (fun w' c h hc _ => hok w' c h.le hc) (fun w' h => hnone w' h.le) fun w' h => herr w' h.le

theorem wp_getContractWorkload_passes {Q : Except Raised Container → World → Prop}
    (hok : ∀ w' c, World.Passes w' w → w'.node.lookup k = some c → c.labels.managed = true → Q (.ok c) w')
    (hnone : ∀ w', World.Passes w' w → w'.node.Unmanaged k → Q (.error .workloadNotFound) w')
    (herr : ∀ w' e, World.Passes w' w → e = .notFound ∨ e = .docker → Q (.error e) w') :
    Effect.wp (getContractWorkload k) Q w := by
  unfold getContractWorkload
  rw [Effect.wp_bind]
  refine wp_managedContainer_passes (fun w₁ c₁ h₁ hc₁ hm => ?_) hnone fun w₁ h₁ => herr w₁ _ h₁ (.inr rfl)
  rw [Effect.seq_ok]
  refine wp_reload_passes (fun w₂ c h₂ hc => ?_)
    (fun w₂ h₂ _ => herr w₂ _ (h₂.trans h₁) (.inl rfl)) fun w₂ h₂ => herr w₂ _ (h₂.trans h₁) (.inr rfl)
  obtain ⟨hl, -⟩ := (Node.Seen.of_lookup hc₁).mono h₂.le c hc
  exact hok w₂ c (h₂.trans h₁) hc (by rw [hl, hm])

theorem wp_getContractWorkload {Q : Except Raised Container → World → Prop}
    (hok : ∀ w' c, World.Le w' w → w'.node.lookup k = some c → Q (.ok c) w')
    (hnone : ∀ w', World.Le w' w → w'.node.Unmanaged k → Q (.error .workloadNotFound) w')
    (herr : ∀ w' e, World.Le w' w → e = .notFound ∨ e = .docker → Q (.error e) w') :
    Effect.wp (getContractWorkload k) Q w :=
  wp_getContractWorkload_passes (fun w' c h hc _ => hok w' c h.le hc) (fun w' h => hnone w' h.le) fun w' e h => herr w' e h.le

/-- `prepare_contract_start` finds the container of the generation, leaves none behind, or rejects
the START because of another generation. -/
theorem wp_prepareContractStart {Q : Except Raised (Option Container) → World → Prop}
    (hnone : ∀ w', World.Le w' w → w'.node.Unmanaged k → Q (.ok none) w')
    (hsome : ∀ w' c, World.Le w' w → w'.node.lookup k = some c → c.labels.generation = g → Q (.ok (some c)) w')
    (hrej : ∀ w' m, World.Le w' w → w'.node.Quiet k g → Q (.error (.workloadConflict m)) w')
    (herr : ∀ w' e, World.Le w' w → e = .notFound ∨ e = .docker → Q (.error e) w') :
    Effect.wp (prepareContractStart k g) Q w := by
  unfold prepareContractStart
  rw [Effect.wp_bind, Effect.wp_tryCatch, Effect.wp_map]
  refine wp_managedContainer (fun w₁ _ h₁ _ => ?_) hnone fun w₁ h₁ => herr w₁ _ h₁ (.inr rfl)
  show Effect.wp (reload k >>= _) Q w₁
  rw [Effect.wp_bind]
  refine wp_reload (fun w₂ c h₂ hc => ?_) (fun w₂ h₂ _ => herr w₂ _ (h₂.trans h₁) (.inl rfl))
    fun w₂ h₂ => herr w₂ _ (h₂.trans h₁) (.inr rfl)
  have h₂ := h₂.trans h₁
  have hother (hne : c.labels.generation ≠ g) : w₂.node.Quiet k g :=
    (Node.Seen.of_lookup hc).quiet fun e => absurd e hne
  rw [Effect.seq_ok, Effect.wp_ite]
  split
  · rename_i hlt
    exact hrej w₂ _ h₂ (hother (Nat.ne_of_gt hlt))
  rw [Effect.wp_ite]
  split
  · rename_i hg
    rw [Effect.wp_bind]
    refine wp_reload (fun w₃ c₃ h₃ hc₃ => ?_) (fun w₃ h₃ _ => herr w₃ _ (h₃.trans h₂) (.inl rfl))
      fun w₃ h₃ => herr w₃ _ (h₃.trans h₂) (.inr rfl)
    obtain ⟨hl, -⟩ := (Node.Seen.of_lookup hc).mono h₃ c₃ hc₃
    exact hsome w₃ c₃ (h₃.trans h₂) hc₃ (by rw [hl, hg])
  rename_i hne
  rw [Effect.wp_ite]
  split
  · exact hrej w₂ _ h₂ (hother hne)
  · rw [Effect.wp_bind]
    exact wp_remove (fun w₃ h₃ hn => hnone w₃ (h₃.trans h₂) (.of_none hn))
      (fun w₃ h₃ _ => herr w₃ _ (h₃.trans h₂) (.inl rfl)) fun w₃ h₃ => herr w₃ _ (h₃.trans h₂) (.inr rfl)

/-- A container of the generation, of a newer one or of an older one that is active is not replaced. -/
theorem wp_prepareContractStart_kept (hs : Steady k w) {c : Container} (hc : w.node.lookup k = some c)
    (hm : c.labels.managed = true) (hkept : g ≤ c.labels.generation ∨ c.active = true) :
    Effect.wp (prepareContractStart k g) (fun r _ => r ≠ .ok none) w := by
  unfold prepareContractStart managedContainer
  rw [Effect.wp_bind, Effect.wp_tryCatch, Effect.wp_map, Effect.wp_bind]
  refine wp_inspect_steady hs (fun w₁ hs₁ he => ?_) fun _ h => by cases h
  rw [Effect.seq_ok, hc]
  simp only
  rw [Effect.wp_ite, if_pos hm, Effect.wp_pure]
  simp only [Except.map, Effect.seq_ok]
  rw [Effect.wp_bind]
  refine wp_reload_steady hs₁ (he.trans hc) (fun w₂ hs₂ hc₂ => ?_) fun _ h => by cases h
  rw [Effect.seq_ok, Effect.wp_ite]
  split
  · exact fun h => by cases h
  rename_i hge
  rw [Effect.wp_ite]
  split
  · rw [Effect.wp_bind]
    exact wp_reload_steady hs₂ hc₂ (fun _ _ _ h => by cases h) fun _ h => by cases h
  rename_i hne
  rw [Effect.wp_ite, if_pos (hkept.resolve_left (by omega))]
  exact fun h => by cases h

theorem inactive_of_succeeded {type : LeaseOwnerType} {c : Container} (h : succeeded type c = true) :
    c.active = false := by
  simp only [succeeded, Bool.and_eq_true, decide_eq_true_eq] at h
  rw [Container.active, h.1.2]
  rfl

/-- `stop_contract_workload` leaves no container behind, or one that has ended, or rejects the STOP
because of another generation. -/
theorem wp_stopContractWorkload {Q : Except Raised (Option Container) → World → Prop}
    (hnone : ∀ w', World.Le w' w → w'.node.lookup k = none → Q (.ok none) w')
    (hsome : ∀ w' c, World.Le w' w → w'.node.lookup k = some c → c.labels.generation = g → c.active = false →
      Q (.ok (some c)) w')
    (hnf : ∀ w', World.Le w' w → w'.node.Unmanaged k → Q (.error .workloadNotFound) w')
    (hrej : ∀ w' m, World.Le w' w → w'.node.Quiet k g → Q (.error (.workloadConflict m)) w')
    (herr : ∀ w' e, World.Le w' w → e = .notFound ∨ e = .docker → Q (.error e) w') :
    Effect.wp (stopContractWorkload k g) Q w := by
  unfold stopContractWorkload
  rw [Effect.wp_bind]
  refine wp_managedContainer (fun w₁ c₁ h₁ _ => ?_) hnf fun w₁ h₁ => herr w₁ _ h₁ (.inr rfl)
  rw [Effect.seq_ok, Effect.wp_bind]
  refine wp_reload (fun w₂ c₂ h₂ hc₂ => ?_) (fun w₂ h₂ _ => herr w₂ _ (h₂.trans h₁) (.inl rfl))
    fun w₂ h₂ => herr w₂ _ (h₂.trans h₁) (.inr rfl)
  have h₂ := h₂.trans h₁
  have hseen := Node.Seen.of_lookup hc₂
  rw [Effect.seq_ok, Effect.wp_ite]
  split
  · rename_i hne
    exact hrej w₂ _ h₂ (hseen.quiet fun e => absurd e hne)
  rename_i hg
  have hg := not_not.mp hg
  -- a removal ends the operation
  have hremove (w' : World) (h' : World.Le w' w) : Effect.wp (do remove k; pure none) Q w' := by
    rw [Effect.wp_bind]
    exact wp_remove (fun w₃ h₃ hn => hnone w₃ (h₃.trans h') hn) (fun w₃ h₃ _ => herr w₃ _ (h₃.trans h') (.inl rfl))
      fun w₃ h₃ => herr w₃ _ (h₃.trans h') (.inr rfl)
  -- so does a container that has succeeded
  have hdone (w' : World) (c : Container) (h' : World.Le w' w₂) (hc : w'.node.lookup k = some c)
      (hs : succeeded k.type c = true) : Q (.ok (some c)) w' := by
    obtain ⟨hl, -⟩ := hseen.mono h' c hc
    exact hsome w' c (h'.trans h₂) hc (by rw [hl, hg]) (inactive_of_succeeded hs)
  rw [Effect.wp_bind]
  refine wp_reload (fun w₃ c₃ h₃ hc₃ => ?_) (fun w₃ h₃ _ => herr w₃ _ (h₃.trans h₂) (.inl rfl))
    fun w₃ h₃ => herr w₃ _ (h₃.trans h₂) (.inr rfl)
  rw [Effect.seq_ok, Effect.wp_ite]
  split
  · rename_i hs
    exact hdone w₃ c₃ h₃ hc₃ hs
  rw [Effect.wp_ite]
  split
  · rw [Effect.wp_bind]
    refine wp_stop (fun w₄ h₄ => ?_) (fun w₄ h₄ _ => herr w₄ _ ((h₄.trans h₃).trans h₂) (.inl rfl))
      fun w₄ h₄ => herr w₄ _ ((h₄.trans h₃).trans h₂) (.inr rfl)
    have h₄ := h₄.trans h₃
    rw [Effect.seq_ok, Effect.wp_bind]
    refine wp_reload (fun w₅ c₅ h₅ hc₅ => ?_) (fun w₅ h₅ _ => herr w₅ _ ((h₅.trans h₄).trans h₂) (.inl rfl))
      fun w₅ h₅ => herr w₅ _ ((h₅.trans h₄).trans h₂) (.inr rfl)
    have h₅ := h₅.trans h₄
    rw [Effect.seq_ok, Effect.wp_ite]
    split
    · rename_i hs
      exact hdone w₅ c₅ h₅ hc₅ hs
    · exact hremove w₅ (h₅.trans h₂)
  · exact hremove w₃ (h₃.trans h₂)

/-- `cleanup_contract_workload` creates and starts nothing, and leaves no container behind if it
succeeds. -/
theorem wp_cleanupContractWorkload {Q : Except Raised Unit → World → Prop}
    (hok : ∀ w', World.Le w' w → w'.node.lookup k = none → Q (.ok ()) w')
    (herr : ∀ w' e, World.Le w' w → Q (.error e) w') : Effect.wp (cleanupContractWorkload k g) Q w := by
  unfold cleanupContractWorkload
  rw [Effect.wp_bind]
  refine wp_inspect (fun w₁ h₁ => ?_) fun w₁ h₁ => herr w₁ _ h₁
  rw [Effect.seq_ok]
  split
  · rename_i hc
    exact hok w₁ h₁ (by simpa using hc)
  rw [Effect.wp_bind, Effect.wp_tryCatch, Effect.wp_map]
  refine wp_reload (fun w₂ c h₂ hc => ?_) (fun w₂ h₂ hn => hok w₂ (h₂.trans h₁) hn)
    fun w₂ h₂ => herr w₂ _ (h₂.trans h₁)
  have h₂ := h₂.trans h₁
  show Effect.wp (if _ then _ else _) Q w₂
  iterate 6
    rw [Effect.wp_ite]
    split
    · exact herr w₂ _ h₂
  · rw [Effect.wp_tryCatch]
    exact wp_remove (fun w₃ h₃ hn => hok w₃ (h₃.trans h₂) hn) (fun w₃ h₃ hn => hok w₃ (h₃.trans h₂) hn)
      fun w₃ h₃ => herr w₃ _ (h₃.trans h₂)

/-- The second inspection of `quiesce_failed_inference`, which decides. -/
def confirmQuiesced (k : OwnerKey) : Docker Bool := do
  match ← tryCatch (Except.ok <$> reload k) (fun e =>
      match e with
      | .notFound => pure (.error true)
      | .docker => pure (.error false)
      | e => throw e) with
  | .error quiet => pure quiet
  | .ok container => pure (!container.active && container.state.status ≠ .removing)

/-- `quiesce_failed_inference` confirms only that the container has ended, or that nothing is managed. -/
theorem wp_quiesceFailedInference {Q : Except Raised Bool → World → Prop}
    (htrue : ∀ w', World.Le w' w → w'.node.Unmanaged k ∨ w'.node.Ended k → Q (.ok true) w')
    (hfalse : ∀ w', World.Le w' w → Q (.ok false) w') : Effect.wp (quiesceFailedInference k g) Q w := by
  have hconfirm (w' : World) (h' : World.Le w' w) : Effect.wp (confirmQuiesced k) Q w' := by
    unfold confirmQuiesced
    rw [Effect.wp_bind, Effect.wp_tryCatch, Effect.wp_map]
    refine wp_reload (fun w₃ c h₃ hc => ?_) (fun w₃ h₃ hn => htrue w₃ (h₃.trans h') (.inl (.of_none hn)))
      fun w₃ h₃ => hfalse w₃ (h₃.trans h')
    show Q (.ok (!c.active && _)) w₃
    cases hquiet : !c.active && decide (c.state.status ≠ .removing) with
    | false => exact hfalse w₃ (h₃.trans h')
    | true =>
      obtain ⟨hact, hstatus⟩ := Bool.and_eq_true_iff.mp hquiet
      refine htrue w₃ (h₃.trans h') (.inr fun c' hc' => ?_)
      cases hc.symm.trans hc'
      exact ⟨by simpa using hact, of_decide_eq_true hstatus⟩
  unfold quiesceFailedInference
  rw [Effect.wp_bind, Effect.wp_tryCatch, Effect.wp_bind]
  refine wp_managedContainer (fun w₁ _ h₁ _ => ?_) (fun w₁ h₁ hun => htrue w₁ h₁ (.inl hun)) hfalse
  rw [Effect.seq_ok, Effect.wp_map]
  refine wp_reload (fun w₂ c h₂ hc => ?_) (fun w₂ h₂ hn => htrue w₂ (h₂.trans h₁) (.inl (.of_none hn)))
    fun w₂ h₂ => hfalse w₂ (h₂.trans h₁)
  have h₂ := h₂.trans h₁
  show Effect.wp (if _ then _ else _) Q w₂
  rw [Effect.wp_ite]
  split
  · exact hfalse w₂ h₂
  split
  · exact hfalse w₂ h₂
  · rw [Effect.wp_tryCatch, Effect.wp_bind]
    exact wp_remove (fun w₃ h₃ hn => htrue w₃ (h₃.trans h₂) (.inl (.of_none hn)))
      (fun w₃ h₃ _ => hfalse w₃ (h₃.trans h₂)) fun w₃ h₃ => hfalse w₃ (h₃.trans h₂)
  · rw [Effect.wp_ite]
    split
    · rw [Effect.wp_bind, Effect.wp_tryCatch]
      exact wp_stop (fun w₃ h₃ => hconfirm w₃ (h₃.trans h₂)) (fun w₃ h₃ _ => hconfirm w₃ (h₃.trans h₂))
        fun w₃ h₃ => hconfirm w₃ (h₃.trans h₂)
    · exact hconfirm w₂ h₂

/-- The labels that a training container is launched with. -/
def Controlled (labels : ContainerLabels) : Prop :=
  (∃ path, labels.outputPath = some path ∧ path ≠ []) ∧ labels.trainingAlgorithm.isSome = true

theorem TrainingSpec.controlled (spec : TrainingSpec) (generation : Nat) : Controlled (spec.labels generation) :=
  ⟨⟨spec.outputPath, rfl, spec.outputPath_ne⟩, rfl⟩

/-- `training_metadata` rejects a job only if it has completed or the check of the output
directory fails. -/
theorem wp_trainingMetadata {completed : Bool} {files : TrainingFiles}
    {Q : Except Raised (List (PyStr × Json)) → World → Prop}
    (hctl : ∀ c, w.node.lookup k = some c → Controlled c.labels)
    (hok : ∀ w' m, World.Le w' w → Q (.ok m) w')
    (hrej : ∀ w' m, World.Le w' w → completed = true ∨ files.outputPath.isOk = false →
      Q (.error (.invalidWorkload m)) w')
    (hsilent : ∀ w' e, World.Le w' w → e.result? = none → Q (.error e) w') :
    Effect.wp (trainingMetadata k completed files) Q w := by
  unfold trainingMetadata
  rw [Effect.wp_bind]
  refine wp_managedContainer (fun w₁ c h₁ hc => ?_) (fun w₁ h₁ _ => hsilent w₁ _ h₁ rfl) fun w₁ h₁ =>
    hsilent w₁ _ h₁ rfl
  obtain ⟨c₀, hc₀, hl, -⟩ := h₁ k c hc
  obtain ⟨⟨path, hpath, hne⟩, halg⟩ := hctl c₀ hc₀
  obtain ⟨x, xs, rfl⟩ := List.exists_cons_of_ne_nil hne
  obtain ⟨algorithm, halg⟩ := Option.isSome_iff_exists.mp halg
  rw [Effect.seq_ok]
  simp only [hl, hpath, halg]
  split
  · rename_i hfile
    exact hrej w₁ _ h₁ (.inr (by rw [hfile]; rfl))
  rw [Effect.wp_ite]
  split
  · exact hsilent w₁ _ h₁ rfl
  split
  · rename_i hbroken
    refine hrej w₁ _ h₁ (.inl ?_)
    cases completed with
    | true => rfl
    | false => cases hbroken
  rw [Effect.wp_ite]
  split
  · exact hok w₁ _ h₁
  · rename_i hcompleted
    split
    · exact hrej w₁ _ h₁ (.inl (not_not.mp hcompleted))
    · exact hok w₁ _ h₁

theorem managedContainer_reads (k : OwnerKey) : Reads (managedContainer k) := by
  refine Reads.bind (inspect_reads k) fun c => ?_
  cases c with
  | none => exact Reads.throw _
  | some c => exact .ite (Reads.pure c) (Reads.throw _)

theorem getContractWorkload_reads (k : OwnerKey) : Reads (getContractWorkload k) :=
  Reads.bind (managedContainer_reads k) fun _ => reload_reads k

theorem trainingMetadata_reads (k : OwnerKey) (completed : Bool) (files : TrainingFiles) :
    Reads (trainingMetadata k completed files) := by
  refine Reads.bind (managedContainer_reads k) fun container => ?_
  split
  · split
    · exact Reads.throw _
    refine .ite (Reads.throw _) ?_
    simp only
    split
    · exact Reads.throw _
    refine .ite (Reads.pure _) ?_
    split
    · exact Reads.throw _
    · exact Reads.pure _
  · exact Reads.throw _

theorem evaluationMetadata_reads (k : OwnerKey) (files : EvaluationFiles) : Reads (evaluationMetadata k files) := by
  refine Reads.bind (managedContainer_reads k) fun container => ?_
  split
  · refine .ite (Reads.throw _) (.ite (Reads.throw _) ?_)
    split
    · exact Reads.throw _
    · exact Reads.pure _
  · exact Reads.throw _

theorem gpuAllocations_reads (ks : List OwnerKey) (allocations : List (Nat × OwnerKey)) :
    Reads (gpuAllocations ks allocations) := by
  induction ks generalizing allocations with
  | nil => exact Reads.pure allocations
  | cons k ks ih => exact Reads.bind (reload_reads k) fun c => .ite (ih _) (ih _)

theorem assertGpusAvailable_reads (settings : AgentSettings) (busy : Option (List Nat)) (gpuIds : List Nat)
    (excludeName : Option OwnerKey) : Reads (assertGpusAvailable settings busy gpuIds excludeName) := by
  refine Reads.bind list_reads fun owners => Reads.bind (gpuAllocations_reads owners []) fun allocations => ?_
  refine .ite (Reads.throw _) (.ite (Reads.pure ()) ?_)
  split
  · exact Reads.throw _
  · exact Reads.pure ()
  · exact Reads.throw _

/-- Where no container is left, a launch creates one with the labels or fails without a trace, except
for an exception that is no answer. -/
theorem wp_launch {settings : AgentSettings} {around : Surroundings} {labels : ContainerLabels}
    {Q : Except Raised Container → World → Prop} (hn : w.node.lookup k = none)
    (hok : ∀ w' c, w'.node.lookup k = some c → c.labels = labels → Q (.ok c) w')
    (hrej : ∀ w' e, w'.node.lookup k = none → Q (.error e) w')
    (hsilent : ∀ w' e, e.result? = none → Q (.error e) w') :
    Effect.wp (launch settings around k labels) Q w := by
  unfold launch
  rw [Effect.wp_bind]
  refine wp_inspect (fun w₁ h₁ => ?_) fun w₁ _ => hsilent w₁ _ rfl
  rw [Effect.seq_ok, h₁.lookup_none hn]
  simp only
  rw [Effect.wp_bind]
  refine Effect.wp_mono ((assertGpusAvailable_reads settings around.busyGpuIds labels.gpuIds none).to_wp w₁) fun r w₂ h₂ => ?_
  have h₂ := h₂.le
  cases r with
  | error e => exact hrej w₂ e ((h₂.trans h₁).lookup_none hn)
  | ok u =>
    rw [Effect.seq_ok, Effect.wp_bind]
    refine wp_run (fun w₃ c _ hc hl => ?_) fun w₃ => hsilent w₃ _ rfl
    rw [Effect.seq_ok]
    refine wp_reload (fun w₄ c₄ h₄ hc₄ => hok w₄ c₄ hc₄ ?_) (fun w₄ _ _ => hsilent w₄ _ rfl) fun w₄ _ =>
      hsilent w₄ _ rfl
    rw [((Node.Seen.of_lookup hc).mono h₄ c₄ hc₄).1, hl]

end Runner

/-! ## The processor -/

/-- An answer that says that the workload has ended is true of the node. -/
def Truthful (n : Node) (k : OwnerKey) (g : Nat) (a : Option CommandResult) : Prop :=
  ∀ result ∈ a, result.response.observedState.live = false → n.Quiet k g

instance (n : Node) (k : OwnerKey) (g : Nat) (a : Option CommandResult) : Decidable (Truthful n k g a) := by
  unfold Truthful
  exact inferInstance

theorem Truthful.of_quiet {n : Node} {k : OwnerKey} {g : Nat} {a : Option CommandResult} (h : n.Quiet k g) :
    Truthful n k g a := fun _ _ _ => h

theorem Truthful.of_silent {n : Node} {k : OwnerKey} {g : Nat} {e : Raised} (h : e.result? = none) :
    Truthful n k g (answer? (.error e)) := by
  intro result hr
  rw [answer?, h] at hr
  cases hr

theorem stateFromInfo_live {type : LeaseOwnerType} {info : Container} (h : info.active = true) :
    (stateFromInfo type info).live = true := by
  rw [Container.active] at h
  unfold stateFromInfo
  cases type with
  | deployment =>
    cases hs : info.state.status <;> rw [hs] at h <;> first | rfl | cases h
    show (if info.state.healthStatus = some .healthy then _ else _ : AgentWorkloadState).live = true
    split <;> rfl
  | training | evaluation => cases hs : info.state.status <;> rw [hs] at h <;> first | rfl | cases h

theorem inactive_of_ended {type : LeaseOwnerType} {info : Container} (h : (stateFromInfo type info).live = false) :
    info.active = false := by
  cases hact : info.active with
  | false => rfl
  | true => rw [stateFromInfo_live hact] at h; cases h

section Processor

variable {settings : AgentSettings} {around : Surroundings} {c : AgentCommand} {w : World}

/-- What a command's answer needs: the node may be entered at, and left for, any state below. -/
abbrev Sound (c : AgentCommand) (m : Docker CommandResult) (w : World) : Prop :=
  Effect.wp m (fun r w' => Truthful w'.node c.owner.key c.owner.generation (answer? r)) w

/-- The labels that a container of the owner was launched with, as far as they are asked for. -/
def Labelled (n : Node) (k : OwnerKey) : Prop :=
  ∀ c, n.lookup k = some c → c.labels.managed = true ∧ (k.type = .training → Controlled c.labels)

theorem Labelled.mono {n n' : Node} {k : OwnerKey} (h : Labelled n k) (hle : Node.Le n' n) : Labelled n' k := by
  intro c' hc'
  obtain ⟨c, hc, hl, -⟩ := hle k c' hc'
  rw [hl]
  exact h c hc

/-- A name that no managed container has is free. -/
theorem Labelled.free {n : Node} {k : OwnerKey} (h : Labelled n k) (hun : n.Unmanaged k) : n.lookup k = none := by
  cases hc : n.lookup k with
  | none => rfl
  | some c =>
    have hm := (h c hc).1
    rw [hun c hc] at hm
    cases hm

theorem Labelled.quiet {n : Node} {k : OwnerKey} {g : Nat} (h : Labelled n k) (hun : n.Unmanaged k) : n.Quiet k g :=
  .of_none (h.free hun)

/-- A state that is settled and not live is one of a container that is not active. -/
theorem wp_settledState {info : Container} (hseen : w.node.Seen c.owner.key info) (hlab : Labelled w.node c.owner.key)
    {Q : Except Raised (AgentWorkloadState × Option PyStr × Bool) → World → Prop}
    (hok : ∀ w' state failure uncertain, World.Le w' w →
      (state.live = false → w'.node.Quiet c.owner.key c.owner.generation) → Q (.ok (state, failure, uncertain)) w') :
    Effect.wp (settledState settings around c info) Q w := by
  have hstate (w' : World) (h : World.Le w' w) (hlive : (stateFromInfo c.owner.type info).live = false) :
      w'.node.Quiet c.owner.key c.owner.generation :=
    (hseen.mono h).quiet fun _ => inactive_of_ended hlive
  have hrefl : World.Le w w := Node.Le.refl w.node
  unfold settledState
  simp only
  rw [Effect.wp_ite]
  split
  · split
    · exact hok w _ _ _ hrefl (hstate w hrefl)
    · rw [Effect.wp_bind]
      refine wp_quiesceFailedInference (fun w' h hq => ?_) fun w' h => hok w' _ _ _ h (hstate w' h)
      exact hok w' _ _ _ h fun _ => hq.elim (hlab.mono h).quiet Node.Ended.quiet
  · exact hok w _ _ _ hrefl (hstate w hrefl)

/-- The check of the output directory passes, where it is made. -/
def OutputValid (around : Surroundings) (c : AgentCommand) : Prop :=
  c.owner.type = .training → around.training.outputPath.isOk = true

instance (around : Surroundings) (c : AgentCommand) : Decidable (OutputValid around c) := by
  unfold OutputValid
  exact inferInstance

/-- The metadata of an answer are refused only when nothing is active. -/
theorem wp_answerMetadata {state : AgentWorkloadState} {info : Container} (hlab : Labelled w.node c.owner.key)
    (hstate : state.live = false → w.node.Quiet c.owner.key c.owner.generation)
    (hout : OutputValid around c ∨ w.node.Quiet c.owner.key c.owner.generation)
    {Q : Except Raised (List (PyStr × Json)) → World → Prop}
    (hok : ∀ w' m, World.Le w' w → Q (.ok m) w')
    (hrej : ∀ w' e, World.Le w' w → w'.node.Quiet c.owner.key c.owner.generation → Q (.error e) w')
    (hsilent : ∀ w' e, World.Le w' w → e.result? = none → Q (.error e) w') :
    Effect.wp (answerMetadata around c state info) Q w := by
  unfold answerMetadata
  split
  · exact hok w _ (Node.Le.refl w.node)
  · rename_i ht
    refine wp_trainingMetadata (fun c hc => (hlab c hc).2 ht) hok (fun w' m h hwhy => hrej w' _ h ?_) hsilent
    rcases hwhy with hcompleted | hpath
    · refine (hstate ?_).mono h
      rw [of_decide_eq_true hcompleted]
      rfl
    · rcases hout with hvalid | hq
      · rw [hvalid ht] at hpath
        cases hpath
      · exact hq.mono h
  · split
    · rename_i hs
      refine Effect.wp_mono ((evaluationMetadata_reads _ _).to_wp w) fun r w' h => ?_
      have h := h.le
      cases r with
      | ok m => exact hok w' m h
      | error e => exact hrej w' e h ((hstate (by rw [hs]; rfl)).mono h)
    · exact hok w _ (Node.Le.refl w.node)

/-- An answer about a container of the owner. -/
theorem sound_responseFromInfo {info : Container} (hseen : w.node.Seen c.owner.key info)
    (hlab : Labelled w.node c.owner.key)
    (hout : OutputValid around c ∨ w.node.Quiet c.owner.key c.owner.generation) :
    Sound c (responseFromInfo settings around c info) w := by
  unfold Sound responseFromInfo
  rw [Effect.wp_bind]
  refine wp_settledState hseen hlab fun w₁ state failure uncertain h₁ hq => ?_
  rw [Effect.seq_ok, Effect.wp_bind]
  refine wp_answerMetadata (hlab.mono h₁) hq (hout.imp_right fun h => h.mono h₁) (fun w₂ m h₂ => ?_)
    (fun w₂ e _ hq₂ => .of_quiet hq₂) fun w₂ e _ hs => .of_silent hs
  rw [Effect.seq_ok, Effect.wp_pure]
  intro result hr hlive
  cases hr
  exact (hq hlive).mono h₂

/-- STATUS. -/
theorem sound_observe (hlab : Labelled w.node c.owner.key)
    (hout : OutputValid around c ∨ w.node.Quiet c.owner.key c.owner.generation) :
    Sound c (observe settings around c) w := by
  unfold Sound observe
  rw [Effect.wp_bind, Effect.wp_tryCatch, Effect.wp_map]
  refine wp_getContractWorkload (fun w₁ info h₁ hc => ?_) (fun w₁ h₁ hun => .of_quiet ((hlab.mono h₁).quiet hun))
    fun w₁ e _ he => ?_
  · simp only [Except.map, Effect.seq_ok]
    rw [Effect.wp_ite]
    have hseen := Node.Seen.of_lookup hc
    split
    · rename_i hne
      exact .of_quiet (hseen.quiet fun e => absurd e hne)
    · exact sound_responseFromInfo hseen (hlab.mono h₁) (hout.imp_right fun h => h.mono h₁)
  · rcases he with rfl | rfl <;> exact .of_silent rfl

/-- An ordinary STOP. -/
theorem sound_stopWorkload (hlab : Labelled w.node c.owner.key) : Sound c (stopWorkload settings around c) w := by
  unfold Sound stopWorkload
  rw [Effect.wp_bind, Effect.wp_tryCatch]
  refine wp_stopContractWorkload (g := c.owner.generation) (fun w₁ _ hn => .of_quiet (.of_none hn))
    (fun w₁ info h₁ hc _ hact => ?_) (fun w₁ h₁ hun => .of_quiet ((hlab.mono h₁).quiet hun))
    (fun w₁ m _ hq => .of_quiet hq) fun w₁ e _ he => ?_
  · have hseen := Node.Seen.of_lookup hc
    exact sound_responseFromInfo hseen (hlab.mono h₁) (.inr (hseen.quiet fun _ => hact))
  · rcases he with rfl | rfl <;> exact .of_silent rfl

/-- A STOP that cleans up, if nothing is active. -/
theorem sound_cleanup (hq : w.node.Quiet c.owner.key c.owner.generation) : Sound c (cleanup c) w := by
  unfold Sound cleanup
  rw [Effect.wp_bind]
  exact wp_cleanupContractWorkload (fun w₁ h₁ _ => .of_quiet (hq.mono h₁)) fun w₁ _ h₁ => .of_quiet (hq.mono h₁)

/-- The labels of a launch are of the command's generation, and those of a training job are complete. -/
theorem launchLabels_spec {labels : ContainerLabels} (h : launchLabels around c = .ok labels) :
    labels.generation = c.owner.generation ∧
      (labels.managed = true ∧ labels.trusted = true ∧ labels.canonical = true) ∧
      (c.owner.type = .training → Controlled labels) := by
  have hmap {α : Type} {x : Except Raised α} {f : α → ContainerLabels} (h : x.map f = .ok labels) :
      ∃ a, f a = labels := by
    cases x with
    | error e => cases h
    | ok a => cases h; exact ⟨a, rfl⟩
  unfold launchLabels at h
  split at h
  · rename_i ht
    obtain ⟨spec, rfl⟩ := hmap h
    exact ⟨rfl, ⟨rfl, rfl, rfl⟩, fun e => by rw [ht] at e; cases e⟩
  · obtain ⟨spec, rfl⟩ := hmap h
    exact ⟨rfl, ⟨rfl, rfl, rfl⟩, fun _ => spec.controlled _⟩
  · rename_i ht
    obtain ⟨spec, rfl⟩ := hmap h
    exact ⟨rfl, ⟨rfl, rfl, rfl⟩, fun e => by rw [ht] at e; cases e⟩

/-- A START that launches nothing: its checks fail, or the owner's container is not replaced. -/
def Launchless (around : Surroundings) (c : AgentCommand) (w : World) : Prop :=
  (launchLabels around c).isOk = false ∨
    Steady c.owner.key w ∧ ∃ container ∈ w.node.lookup c.owner.key,
      c.owner.generation ≤ container.labels.generation ∨ container.active = true

instance (around : Surroundings) (c : AgentCommand) (w : World) : Decidable (Launchless around c w) := by
  unfold Launchless
  exact inferInstance

/-- START. Without an active container its checks may fail; with one it must be the START that
the container was launched with, which names the right runner. -/
theorem sound_startWorkload (hlab : Labelled w.node c.owner.key)
    (hrunner : c.execution.runner = some c.owner.type.runner ∨ w.node.Quiet c.owner.key c.owner.generation)
    (hout : OutputValid around c ∨ w.node.Quiet c.owner.key c.owner.generation ∧ Launchless around c w) :
    Sound c (startWorkload settings around c) w := by
  unfold Sound startWorkload
  rw [Effect.wp_ite]
  split
  · rename_i hne
    exact .of_quiet (hrunner.resolve_left hne)
  rw [Effect.wp_bind]
  have hkept : Effect.wp (prepareContractStart c.owner.key c.owner.generation) (fun r _ =>
      r = .ok none → ∀ labels, launchLabels around c = .ok labels → OutputValid around c) w := by
    rcases hout with hvalid | ⟨-, herr | ⟨hs, container, hc, hkept⟩⟩
    · exact fun _ _ _ => hvalid
    · intro _ labels hl
      rw [hl] at herr
      cases herr
    · exact Effect.wp_mono (wp_prepareContractStart_kept hs hc (hlab container hc).1 hkept) fun r _ hr e =>
        absurd e hr
  refine Effect.wp_mp hkept (wp_prepareContractStart (g := c.owner.generation) (fun w₁ h₁ hun => ?_)
    (fun w₁ info h₁ hc hg => ?_) (fun w₁ m _ hq _ => .of_quiet hq) fun w₁ e _ he _ => ?_)
  · intro hvalid
    rw [Effect.seq_ok]
    simp only
    split
    · exact .of_quiet ((hlab.mono h₁).quiet hun)
    · rename_i labels hl
      obtain ⟨-, ⟨hm, -, -⟩, hctl⟩ := launchLabels_spec hl
      rw [Effect.wp_bind]
      refine wp_launch ((hlab.mono h₁).free hun) (fun w₂ info hc hlabels => ?_)
        (fun w₂ e hn₂ => .of_quiet (.of_none hn₂)) fun w₂ e hs => .of_silent hs
      refine sound_responseFromInfo (.of_lookup hc) (fun c' hc' => ?_)
        (.inl (hvalid rfl labels hl))
      rw [hc] at hc'
      cases hc'
      rw [hlabels]
      exact ⟨hm, hctl⟩
  · intro _
    exact sound_responseFromInfo (.of_lookup hc) (hlab.mono h₁) (hout.imp_right fun h => h.1.mono h₁)
  · rcases he with rfl | rfl <;> exact .of_silent rfl

/-! ## What the operations change -/

theorem answerMetadata_reads (state : AgentWorkloadState) (info : Container) :
    Reads (answerMetadata around c state info) := by
  unfold answerMetadata
  split
  · exact Reads.pure _
  · exact trainingMetadata_reads _ _ _
  · split
    · exact evaluationMetadata_reads _ _
    · exact Reads.pure _

section Frame

variable {r : World → World → Prop}

theorem prepareContractStart_frame {k : OwnerKey} (h : Frame k r) (g : Nat) :
    Effect.Decreases r (prepareContractStart k g) := by
  have hfind : Reads (tryCatch (some <$> managedContainer k) fun e =>
      if e = .workloadNotFound then pure none else throw e) :=
    Reads.tryCatch (.map _ (managedContainer_reads k)) fun e => .ite (Reads.pure _) (Reads.throw _)
  refine h.bind (h.reads hfind) fun found => ?_
  cases found with
  | none => exact h.reads (Reads.pure _)
  | some _ =>
    refine h.bind (h.reads (reload_reads k)) fun container => .ite (h.reads (Reads.throw _)) (.ite ?_ (.ite ?_ ?_))
    · exact h.reads (Reads.bind (reload_reads k) fun _ => Reads.pure _)
    · exact h.reads (Reads.throw _)
    · exact h.bind h.remove fun _ => h.reads (Reads.pure _)

theorem stopContractWorkload_frame {k : OwnerKey} (h : Frame k r) (g : Nat) :
    Effect.Decreases r (stopContractWorkload k g) := by
  have hremove : Effect.Decreases r (do remove k; pure (none : Option Container)) :=
    h.bind h.remove fun _ => h.reads (Reads.pure _)
  refine h.bind (h.reads (managedContainer_reads k)) fun _ => h.bind (h.reads (reload_reads k)) fun container => ?_
  refine .ite (h.reads (Reads.throw _)) (h.bind (h.reads (reload_reads k)) fun info => ?_)
  refine .ite (h.reads (Reads.pure _)) (.ite (h.bind h.stop fun _ => ?_) hremove)
  exact h.bind (h.reads (reload_reads k)) fun info => .ite (h.reads (Reads.pure _)) hremove

theorem cleanupContractWorkload_frame {k : OwnerKey} (h : Frame k r) (g : Nat) :
    Effect.Decreases r (cleanupContractWorkload k g) := by
  refine h.bind (h.reads (inspect_reads k)) fun found => ?_
  cases found with
  | none => exact h.reads (Reads.pure _)
  | some _ =>
    have hreload : Reads (tryCatch (some <$> reload k) fun e => if e = .notFound then pure none else throw e) :=
      Reads.tryCatch (.map _ (reload_reads k)) fun e => .ite (Reads.pure _) (Reads.throw _)
    refine h.bind (h.reads hreload) fun container => ?_
    cases container with
    | none => exact h.reads (Reads.pure _)
    | some container =>
      iterate 6 refine .ite (h.reads (Reads.throw _)) ?_
      exact h.tryCatch h.remove fun e => .ite (h.reads (Reads.pure _)) (h.reads (Reads.throw _))

theorem quiesceFailedInference_frame {k : OwnerKey} (h : Frame k r) (g : Nat) :
    Effect.Decreases r (quiesceFailedInference k g) := by
  have hconfirm : Reads (confirmQuiesced k) := by
    refine Reads.bind (Reads.tryCatch (.map _ (reload_reads k)) fun e => ?_) fun found => ?_
    · split
      · exact Reads.pure _
      · exact Reads.pure _
      · exact Reads.throw _
    · cases found <;> exact Reads.pure _
  unfold quiesceFailedInference
  refine h.bind (h.tryCatch (h.reads ?_) fun e => ?_) fun found => ?_
  · exact Reads.bind (managedContainer_reads k) fun _ => .map _ (reload_reads k)
  · split
    · exact h.reads (Reads.pure _)
    · exact h.reads (Reads.pure _)
    · exact h.reads (Reads.pure _)
    · exact h.reads (Reads.throw _)
  cases found with
  | error quiet => exact h.reads (Reads.pure _)
  | ok container =>
    refine .ite (h.reads (Reads.pure _)) ?_
    split
    · exact h.reads (Reads.pure _)
    · refine h.tryCatch (h.bind h.remove fun _ => h.reads (Reads.pure _)) fun e => ?_
      split
      · exact h.reads (Reads.pure _)
      · exact h.reads (Reads.pure _)
      · exact h.reads (Reads.throw _)
    · refine .ite (h.bind (h.tryCatch h.stop fun e => ?_) fun _ => h.reads hconfirm) (h.reads hconfirm)
      split
      · exact h.reads (Reads.pure _)
      · exact h.reads (Reads.pure _)
      · exact h.reads (Reads.throw _)

variable (h : Frame c.owner.key r)

include h

theorem responseFromInfo_frame (info : Container) : Effect.Decreases r (responseFromInfo settings around c info) := by
  have hsettled : Effect.Decreases r (settledState settings around c info) := by
    unfold settledState
    refine .ite ?_ (h.reads (Reads.pure _))
    split
    · exact h.reads (Reads.pure _)
    · exact h.bind (quiesceFailedInference_frame h _) fun _ => h.reads (Reads.pure _)
  exact h.bind hsettled fun _ => h.bind (h.reads (answerMetadata_reads _ info)) fun _ => h.reads (Reads.pure _)

theorem observe_frame : Effect.Decreases r (observe settings around c) := by
  have hfind : Reads (tryCatch (some <$> getContractWorkload c.owner.key) fun e =>
      if e = .workloadNotFound then pure none else throw e) :=
    Reads.tryCatch (.map _ (getContractWorkload_reads _)) fun e => .ite (Reads.pure _) (Reads.throw _)
  refine h.bind (h.reads hfind) fun found => ?_
  cases found with
  | none => exact h.reads (Reads.pure _)
  | some info => exact .ite (h.reads (Reads.throw _)) (responseFromInfo_frame h info)

theorem stopWorkload_frame : Effect.Decreases r (stopWorkload settings around c) := by
  refine h.bind (h.tryCatch (stopContractWorkload_frame h _) fun e => .ite (h.reads (Reads.pure _)) (h.reads (Reads.throw _)))
    fun found => ?_
  cases found with
  | none => exact h.reads (Reads.pure _)
  | some info => exact responseFromInfo_frame h info

theorem cleanup_frame : Effect.Decreases r (cleanup c) :=
  h.bind (cleanupContractWorkload_frame h _) fun _ => h.reads (Reads.pure _)

end Frame

/-- What is true of the labels of a container that a START launches. -/
structure Launched (c : AgentCommand) (labels : ContainerLabels) : Prop where
  start : c.action = .start
  runner : c.execution.runner = some c.owner.type.runner
  generation : labels.generation = c.owner.generation
  owned : labels.managed = true ∧ labels.trusted = true ∧ labels.canonical = true
  controlled : c.owner.type = .training → Controlled labels

theorem launch_frame {r : World → World → Prop} {k : OwnerKey} (h : Frame k r) {labels : ContainerLabels}
    (hrun : Effect.Decreases r (run k labels around.now)) : Effect.Decreases r (launch settings around k labels) := by
  refine h.bind (h.reads (inspect_reads _)) fun existing => ?_
  cases existing with
  | some _ => exact h.reads (Reads.throw _)
  | none =>
    exact h.bind (h.reads (assertGpusAvailable_reads _ _ _ _)) fun _ => h.bind hrun fun _ => h.reads (reload_reads _)

/-- What the launches of a command keep, and everything else that it does, the command keeps. -/
theorem dispatch_frame_launch {r : World → World → Prop} (h : Frame c.owner.key r)
    (hlaunch : ∀ labels, Launched c labels → Effect.Decreases r (launch settings around c.owner.key labels)) :
    Effect.Decreases r (dispatch settings around c) := by
  have hthrow {α : Type} (e : Raised) : Effect.Decreases r (throw e : Docker α) := h.reads (Reads.throw e)
  unfold dispatch
  split
  · rename_i ha
    unfold startWorkload
    split
    · exact hthrow _
    rename_i hrunner
    refine h.bind (prepareContractStart_frame h _) fun existing => ?_
    cases existing with
    | some info => exact responseFromInfo_frame h info
    | none =>
      simp only
      split
      · exact hthrow _
      rename_i labels hl
      obtain ⟨hg, hm, hctl⟩ := launchLabels_spec hl
      exact h.bind (hlaunch labels ⟨ha, not_not.mp hrunner, hg, hm, hctl⟩) fun info => responseFromInfo_frame h info
  · exact .ite (stopWorkload_frame h) (.ite (cleanup_frame h) (hthrow _))
  · exact .ite (observe_frame h) (hthrow _)

theorem dispatch_frame {r : World → World → Prop} (h : Frame c.owner.key r)
    (hrun : ∀ labels, Launched c labels → Effect.Decreases r (run c.owner.key labels around.now)) :
    Effect.Decreases r (dispatch settings around c) :=
  dispatch_frame_launch h fun labels hl => launch_frame h (hrun labels hl)

theorem dispatch_launches :
    Effect.Decreases (Launches c.owner.key (Launched c)) (dispatch settings around c) :=
  dispatch_frame Launches.frame fun _ hl => run_launches hl _

end Processor

end OpenLLMOps
