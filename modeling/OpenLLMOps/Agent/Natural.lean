import OpenLLMOps.Agent.Answers

/-!
# Jobs that end by themselves

What the agent does to the container of a job when containers change only by
themselves (`World.Undisturbed`): they go on, or exit.

* `World.Keeps`: STATUS and STOP leave a container that does not run as it is, or
  remove it, and do not remove one that has succeeded;
* `Conclusive`: a refusal, and an answer ABSENT or FAILED, is about a workload whose
  metadata are invalid or that has not succeeded and no longer can (`Node.Spent`).
-/

namespace OpenLLMOps

open Framework Docker

/-! ## Containers -/

/-- A change that a container makes by itself: it goes on, or exits. -/
def ByItself (ch : OwnerKey × Option ContainerState) : Prop :=
  ∃ state ∈ ch.2, state.status.active = true ∨ state.status = .exited

instance (ch : OwnerKey × Option ContainerState) : Decidable (ByItself ch) := by
  unfold ByItself
  exact inferInstance

/-- Containers change only by themselves. -/
def World.Undisturbed (w : World) : Prop := ∀ e ∈ w.events, ∀ ch ∈ e.changes, ByItself ch

namespace Node

/-- What the container of `k` keeps: one that does not run stays as it is, or is removed; one that
has succeeded is not removed. -/
structure Keeps (k : OwnerKey) (n' n : Node) : Prop where
  old : ∀ x', n'.lookup k = some x' → ∃ x, n.lookup k = some x ∧ x'.labels = x.labels ∧
    (x.state.status.runs = false → x' = x)
  succeeded : ∀ x, n.lookup k = some x → succeeded k.type x = true → n'.lookup k = some x

/-- The container of `k`, if there is one, has not succeeded and cannot. -/
def Spent (n : Node) (k : OwnerKey) : Prop :=
  ∀ x, n.lookup k = some x → x.state.status.runs = false ∧ succeeded k.type x = false

variable {k : OwnerKey} {n n' : Node}

theorem Keeps.of_lookup (h : n'.lookup k = n.lookup k) : Keeps k n' n := by
  refine ⟨fun x hx => ⟨x, ?_, rfl, fun _ => rfl⟩, fun x hx _ => h.trans hx⟩
  rw [← h, hx]

theorem Keeps.trans {a b c : Node} (h : Keeps k a b) (h' : Keeps k b c) : Keeps k a c := by
  refine ⟨fun x hx => ?_, fun x hx hs => h.succeeded x (h'.succeeded x hx hs) hs⟩
  obtain ⟨y, hy, hl, he⟩ := h.old x hx
  obtain ⟨z, hz, hl', he'⟩ := h'.old y hy
  refine ⟨z, hz, hl.trans hl', fun hr => ?_⟩
  obtain rfl := he' hr
  exact he hr

/-- A container that stays, with another state if it runs. -/
theorem Keeps.of_some {x x' : Container} (hx : n.lookup k = some x) (hx' : n'.lookup k = some x')
    (hl : x'.labels = x.labels) (he : x.state.status.runs = false → x' = x) : Keeps k n' n := by
  refine ⟨fun y hy => ?_, fun y hy hs => ?_⟩
  · cases hx'.symm.trans hy
    exact ⟨x, hx, hl, he⟩
  · cases hx.symm.trans hy
    have hruns : x.state.status.runs = false := by
      simp only [OpenLLMOps.succeeded, Bool.and_eq_true, decide_eq_true_eq] at hs
      rw [hs.1.2]
      rfl
    rw [hx', he hruns]

/-- A container that is removed without having succeeded. -/
theorem Keeps.of_removed (hs : ∀ x, n.lookup k = some x → OpenLLMOps.succeeded k.type x = false)
    (hx' : n'.lookup k = none) : Keeps k n' n := by
  refine ⟨fun y hy => ?_, fun y hy hy' => ?_⟩
  · rw [hx'] at hy
    cases hy
  · rw [hs y hy] at hy'
    cases hy'

theorem Keeps.change {ch : OwnerKey × Option ContainerState} (h : ByItself ch) : Keeps k (n.change ch) n := by
  have hlookup := n.lookup_change ch k
  split at hlookup
  · obtain ⟨state, hstate, hs⟩ := h
    rw [Option.mem_def.mp hstate] at hlookup
    cases hx : n.lookup k with
    | none => exact .of_lookup (by rw [hlookup, hx]; rfl)
    | some x =>
      rw [hx] at hlookup
      refine .of_some hx hlookup (x.labels_change state) fun hr => if_pos ⟨hs, ?_⟩
      rw [hr]
      exact nofun
  · exact .of_lookup hlookup

theorem Keeps.changes {es : List (OwnerKey × Option ContainerState)} (h : ∀ ch ∈ es, ByItself ch) :
    Keeps k (es.foldl Node.change n) n := by
  induction es generalizing n with
  | nil => exact .of_lookup rfl
  | cons e es ih =>
    obtain ⟨he, hes⟩ := List.forall_mem_cons.mp h
    exact (ih hes).trans (.change he)

theorem Keeps.none (h : Keeps k n' n) (hn : n.lookup k = none) : n'.lookup k = none := by
  cases hx : n'.lookup k with
  | none => rfl
  | some x =>
    obtain ⟨y, hy, -⟩ := h.old x hx
    rw [hn] at hy
    cases hy

theorem Spent.of_none (h : n.lookup k = none) : n.Spent k := by
  intro x hx
  rw [h] at hx
  cases hx

theorem Spent.keeps (h : n.Spent k) (hk : Keeps k n' n) : n'.Spent k := by
  intro x hx
  obtain ⟨y, hy, -, he⟩ := hk.old x hx
  obtain ⟨hr, hs⟩ := h y hy
  rw [he hr]
  exact ⟨hr, hs⟩

end Node

/-! ## Worlds -/

/-- Containers still change only by themselves, and the container of `k` keeps what it has; no
container that has been removed had succeeded. -/
structure World.Keeps (k : OwnerKey) (w' w : World) : Prop where
  undisturbed : w'.Undisturbed
  node : Node.Keeps k w'.node w.node
  removed : ∀ e ∈ w'.removed, e ∈ w.removed ∨ succeeded e.1.type e.2 = false

section Worlds

variable {k : OwnerKey} {w : World}

theorem World.Keeps.trans {a b c : World} (h : World.Keeps k a b) (h' : World.Keeps k b c) : World.Keeps k a c :=
  ⟨h.undisturbed, h.node.trans h'.node, fun e he => (h.removed e he).elim (h'.removed e) .inr⟩

theorem World.Passes.keeps {w' : World} (h : World.Passes w' w) (hw : w.Undisturbed) : World.Keeps k w' w := by
  obtain ⟨es, he, hes⟩ := h.node
  refine ⟨fun e he => hw e (h.events he), ?_, fun e he => .inl (h.removed ▸ he)⟩
  rw [he]
  refine .changes fun ch hch => ?_
  obtain ⟨e, he, hce⟩ := hes ch hch
  exact hw e he ch hce

/-- A call that removes no container. -/
theorem World.Keeps.left {n : Node} (hw : w.Undisturbed) (hn : Node.Keeps k n w.node)
    (hs : ∀ e ∈ w.node.taken n, succeeded e.1.type e.2 = false) : World.Keeps k (w.left n) w :=
  ⟨hw, hn, fun e he => (List.mem_append.mp he).imp_right (hs e)⟩

theorem mem_taken {n n' : Node} {e : OwnerKey × Container} (h : e ∈ n.taken n') :
    n.lookup e.1 = some e.2 ∧ n'.lookup e.1 = none := by
  obtain ⟨⟨k, x⟩, hx, he⟩ := List.mem_filterMap.mp h
  split at he <;> cases he
  rename_i hnone
  exact ⟨AList.mem_lookup_iff.mpr hx, Option.isNone_iff_eq_none.mp hnone⟩

/-- The container is stopped: it stays. -/
theorem World.Keeps.insert {w₁ : World} (h : World.Keeps k w₁ w) {x x' : Container} (hx : w₁.node.lookup k = some x)
    (hl : x'.labels = x.labels) (hr : x.state.status.runs = true) : World.Keeps k (w₁.left (w₁.node.insert k x')) w := by
  have hnode : Node.Keeps k (w₁.node.insert k x') w₁.node := by
    refine .of_some hx (AList.lookup_insert _) hl fun hr' => ?_
    rw [hr] at hr'
    cases hr'
  refine (World.Keeps.left h.undisturbed hnode fun e he => ?_).trans h
  obtain ⟨hx, hnone⟩ := mem_taken he
  by_cases hk : e.1 = k
  · rw [hk, AList.lookup_insert] at hnone
    cases hnone
  · rw [AList.lookup_insert_ne hk, hx] at hnone
    cases hnone

/-- The container is removed, without having succeeded. -/
theorem World.Keeps.erase {w₁ : World} (h : World.Keeps k w₁ w)
    (hs : ∀ x, w₁.node.lookup k = some x → succeeded k.type x = false) :
    World.Keeps k (w₁.left (w₁.node.erase k)) w := by
  refine (World.Keeps.left h.undisturbed (.of_removed hs (AList.lookup_erase k _)) fun e he => ?_).trans h
  obtain ⟨hx, hnone⟩ := mem_taken he
  by_cases hk : e.1 = k
  · rw [hk] at hx ⊢
    exact hs _ hx
  · rw [AList.lookup_erase_ne hk, hx] at hnone
    cases hnone

/-- `container.stop`: a container that was stopped does not run. -/
theorem wp_stop_keeps (hw : w.Undisturbed) {Q : Except Raised Unit → World → Prop}
    (hok : ∀ w', World.Keeps k w' w → (∀ x, w'.node.lookup k = some x → x.state.status.runs = false) → Q (.ok ()) w')
    (herr : ∀ w' e, World.Keeps k w' w → e = .notFound ∨ e = .docker → Q (.error e) w') :
    Effect.wp (stop k) Q w := by
  have hinactive {x : Container} (h : x.state.status = .created ∨ ¬ x.active = true) : x.state.status.runs = false := by
    rw [Container.active] at h
    revert h
    cases x.state.status <;> simp [ContainerStatus.active, ContainerStatus.runs]
  have hruns {x : Container} (h : ¬ (x.state.status = .created ∨ ¬ x.active = true)) : x.state.status.runs = true := by
    rw [Container.active] at h
    revert h
    cases x.state.status <;> simp [ContainerStatus.active, ContainerStatus.runs]
  unfold stop
  refine wp_call_passes (fun e w₁ h₁ => ?_) (fun w₁ h₁ => herr w₁ _ (h₁.keeps hw) (.inr rfl)) fun e w₁ h₁ => ?_
  · cases hx : w₁.node.lookup k with
    | none =>
      simp only [World.left_self]
      exact herr w₁ _ (h₁.keeps hw) (.inl rfl)
    | some x =>
      simp only
      split
      · rename_i hi
        simp only [World.left_self]
        refine hok w₁ (h₁.keeps hw) fun y hy => ?_
        cases hx.symm.trans hy
        exact hinactive hi
      · rename_i hr
        refine hok _ ((h₁.keeps hw).insert hx rfl (hruns hr)) fun y hy => ?_
        rw [World.left, AList.lookup_insert] at hy
        cases hy
        rfl
  · cases hx : w₁.node.lookup k with
    | none =>
      simp only [World.left_self]
      exact herr w₁ _ (h₁.keeps hw) (.inr rfl)
    | some x =>
      simp only
      split
      · simp only [World.left_self]
        exact herr w₁ _ (h₁.keeps hw) (.inr rfl)
      · rename_i hr
        exact herr _ _ ((h₁.keeps hw).insert hx rfl (hruns hr)) (.inr rfl)

/-- `container.remove` of a container that has not succeeded and cannot. -/
theorem wp_remove_keeps (hw : w.Undisturbed) (hs : w.node.Spent k) {Q : Except Raised Unit → World → Prop}
    (hok : ∀ w', World.Keeps k w' w → w'.node.lookup k = none → Q (.ok ()) w')
    (herr : ∀ w' e, World.Keeps k w' w → e = .notFound ∨ e = .docker → Q (.error e) w') :
    Effect.wp (remove k) Q w := by
  have herase {w₁ : World} (h₁ : World.Passes w₁ w) : World.Keeps k (w₁.left (w₁.node.erase k)) w :=
    (h₁.keeps hw).erase fun x hx => ((hs.keeps (h₁.keeps hw).node) x hx).2
  unfold remove
  refine wp_call_passes (fun e w₁ h₁ => ?_) (fun w₁ h₁ => herr w₁ _ (h₁.keeps hw) (.inr rfl)) fun e w₁ h₁ => ?_
  · cases hx : w₁.node.lookup k with
    | none =>
      simp only [World.left_self]
      exact herr w₁ _ (h₁.keeps hw) (.inl rfl)
    | some x =>
      simp only
      split
      iterate 3 exact hok _ (herase h₁) (AList.lookup_erase k _)
      all_goals
        simp only [World.left_self]
        exact herr w₁ _ (h₁.keeps hw) (.inr rfl)
  · cases hx : w₁.node.lookup k with
    | none =>
      simp only [World.left_self]
      exact herr w₁ _ (h₁.keeps hw) (.inr rfl)
    | some x =>
      simp only
      split
      iterate 3 exact herr _ _ (herase h₁) (.inr rfl)
      all_goals
        simp only [World.left_self]
        exact herr w₁ _ (h₁.keeps hw) (.inr rfl)

/-- `stop_contract_workload` of the container's generation returns one that has succeeded, or leaves none. -/
theorem wp_stopContractWorkload_keeps {g : Nat} (hw : w.Undisturbed)
    (hg : ∀ x, w.node.lookup k = some x → x.labels.generation = g) {Q : Except Raised (Option Container) → World → Prop}
    (hnone : ∀ w', World.Keeps k w' w → w'.node.lookup k = none → Q (.ok none) w')
    (hsome : ∀ w' c, World.Keeps k w' w → succeeded k.type c = true → Q (.ok (some c)) w')
    (hnf : ∀ w', World.Keeps k w' w → w'.node.Unmanaged k → Q (.error .workloadNotFound) w')
    (herr : ∀ w' e, World.Keeps k w' w → e = .notFound ∨ e = .docker → Q (.error e) w') :
    Effect.wp (stopContractWorkload k g) Q w := by
  unfold stopContractWorkload
  rw [Effect.wp_bind]
  refine wp_managedContainer_passes (fun w₁ c₁ h₁ _ _ => ?_) (fun w₁ h₁ => hnf w₁ (h₁.keeps hw)) fun w₁ h₁ =>
    herr w₁ _ (h₁.keeps hw) (.inr rfl)
  rw [Effect.seq_ok, Effect.wp_bind]
  refine wp_reload_passes (fun w₂ c₂ h₂ hc₂ => ?_)
    (fun w₂ h₂ _ => herr w₂ _ ((h₂.trans h₁).keeps hw) (.inl rfl)) fun w₂ h₂ => herr w₂ _ ((h₂.trans h₁).keeps hw) (.inr rfl)
  have h₂ := (h₂.trans h₁).keeps (k := k) hw
  rw [Effect.seq_ok, Effect.wp_ite]
  split
  · rename_i hne
    obtain ⟨c, hc, hl, -⟩ := h₂.node.old c₂ hc₂
    exact absurd (hl ▸ hg c hc) hne
  -- a container that does not run and has not succeeded is removed
  have hremove (w' : World) (h' : World.Keeps k w' w) (hs : w'.node.Spent k) :
      Effect.wp (do remove k; pure none) Q w' := by
    rw [Effect.wp_bind]
    exact wp_remove_keeps h'.undisturbed hs (fun w₃ h₃ hn => hnone w₃ (h₃.trans h') hn) fun w₃ e h₃ he =>
      herr w₃ e (h₃.trans h') he
  rw [Effect.wp_bind]
  refine wp_reload_passes (fun w₃ c₃ h₃ hc₃ => ?_)
    (fun w₃ h₃ _ => herr w₃ _ ((h₃.keeps h₂.undisturbed).trans h₂) (.inl rfl)) fun w₃ h₃ =>
      herr w₃ _ ((h₃.keeps h₂.undisturbed).trans h₂) (.inr rfl)
  have h₃ := (h₃.keeps (k := k) h₂.undisturbed).trans h₂
  rw [Effect.seq_ok, Effect.wp_ite]
  split
  · rename_i hs
    exact hsome w₃ c₃ h₃ hs
  rename_i hs₃
  rw [Effect.wp_ite]
  split
  · rw [Effect.wp_bind]
    refine wp_stop_keeps h₃.undisturbed (fun w₄ h₄ hr => ?_) fun w₄ e h₄ he => herr w₄ e (h₄.trans h₃) he
    have h₄ := h₄.trans h₃
    rw [Effect.seq_ok, Effect.wp_bind]
    refine wp_reload_passes (fun w₅ c₅ h₅ hc₅ => ?_)
      (fun w₅ h₅ _ => herr w₅ _ ((h₅.keeps h₄.undisturbed).trans h₄) (.inl rfl)) fun w₅ h₅ =>
        herr w₅ _ ((h₅.keeps h₄.undisturbed).trans h₄) (.inr rfl)
    have h₅' := h₅.keeps (k := k) h₄.undisturbed
    rw [Effect.seq_ok, Effect.wp_ite]
    split
    · rename_i hs
      exact hsome w₅ c₅ (h₅'.trans h₄) hs
    · rename_i hs
      refine hremove w₅ (h₅'.trans h₄) fun x hx => ?_
      cases hc₅.symm.trans hx
      obtain ⟨y, hy, -, he⟩ := h₅'.node.old c₅ hc₅
      exact ⟨by rw [he (hr y hy)]; exact hr y hy, Bool.eq_false_iff.mpr hs⟩
  · rename_i hact
    refine hremove w₃ h₃ fun x hx => ?_
    cases hc₃.symm.trans hx
    refine ⟨?_, Bool.eq_false_iff.mpr hs₃⟩
    cases hr : c₃.state.status.runs with
    | false => rfl
    | true => exact absurd (Container.active_of_runs hr) hact

end Worlds

/-! ## The containers of others -/

/-- The computation has touched no container but that of `k`. -/
structure World.Touches (k : OwnerKey) (w' w : World) : Prop where
  node : ∃ es : List (OwnerKey × Option ContainerState),
    (∀ k', k' ≠ k → w'.node.lookup k' = (es.foldl Node.change w.node).lookup k') ∧
      ∀ ch ∈ es, ∃ e ∈ w.events, ch ∈ e.changes
  events : w'.events ⊆ w.events
  removed : ∀ e ∈ w'.removed, e ∈ w.removed ∨ e.1 = k

section Touches

variable {k : OwnerKey}

theorem World.Passes.touches {w' w : World} (h : World.Passes w' w) : World.Touches k w' w := by
  obtain ⟨es, he, hes⟩ := h.node
  exact ⟨⟨es, fun k' _ => by rw [he], hes⟩, h.events, fun e he => .inl (h.removed ▸ he)⟩

theorem World.Touches.trans {a b c : World} (h : World.Touches k a b) (h' : World.Touches k b c) :
    World.Touches k a c := by
  obtain ⟨es, he, hes⟩ := h.node
  obtain ⟨es', he', hes'⟩ := h'.node
  refine ⟨⟨es' ++ es, fun k' hk => ?_, fun ch hch => ?_⟩, fun e he => h'.events (h.events he), fun e he =>
    (h.removed e he).elim (h'.removed e) .inr⟩
  · rw [he k' hk, List.foldl_append]
    exact Node.lookup_changes_congr es (he' k' hk)
  · rcases List.mem_append.mp hch with hch | hch
    · exact hes' ch hch
    · obtain ⟨e, he, hce⟩ := hes ch hch
      exact ⟨e, h'.events he, hce⟩

/-- A call that leaves the containers of others as they are. -/
theorem Docker.call_touches {α : Type} {op : DockerEvent → Node → Except Raised α × Node}
    (h : ∀ e n k', k' ≠ k → (op e n).2.lookup k' = n.lookup k') : Effect.Decreases (World.Touches k) (call op) := by
  intro w
  have hleft (e : DockerEvent) (w₁ : World) (h₁ : World.Passes w₁ w) :
      World.Touches k (w₁.left (op e w₁.node).2) w := by
    refine World.Touches.trans ⟨⟨[], h e w₁.node, nofun⟩, List.Subset.refl _, fun x hx => ?_⟩ h₁.touches
    refine (List.mem_append.mp hx).imp_right fun hx => ?_
    obtain ⟨hsome, hnone⟩ := mem_taken hx
    by_contra hk
    rw [h e w₁.node x.1 hk, hsome] at hnone
    cases hnone
  exact wp_call_passes (Q := fun _ w' => World.Touches k w' w) hleft (fun _ h₁ => h₁.touches) hleft

theorem Docker.frame_touches (k : OwnerKey) : Frame k (World.Touches k) := by
  refine ⟨World.Touches.trans, World.Passes.touches, call_touches fun e n k' hk => ?_, call_touches fun e n k' hk => ?_⟩
  · split
    · rfl
    · split
      · rfl
      · exact AList.lookup_insert_ne hk
  · split
    · rfl
    · split <;> first | rfl | exact AList.lookup_erase_ne hk

theorem dispatch_touches {settings : AgentSettings} {around : Surroundings} {c : AgentCommand} :
    Effect.Decreases (World.Touches c.owner.key) (dispatch settings around c) := by
  refine dispatch_frame (frame_touches _) fun labels _ => call_touches fun e n k' hk => ?_
  split
  · rfl
  · exact AList.lookup_insert_ne hk

/-- The container of another owner. -/
theorem World.Touches.keeps {w' w : World} (h : World.Touches k w' w) (hw : w.Undisturbed) {k' : OwnerKey}
    (hk : k' ≠ k) : Node.Keeps k' w'.node w.node := by
  obtain ⟨es, he, hes⟩ := h.node
  refine .trans (.of_lookup (he k' hk)) (.changes fun ch hch => ?_)
  obtain ⟨e, he, hce⟩ := hes ch hch
  exact hw e he ch hce

end Touches

/-- A container that has not succeeded and cannot is at most removed. -/
theorem Docker.frame_spent (k : OwnerKey) :
    Frame k fun w' w => w.Undisturbed → w'.Undisturbed ∧ (w.node.Spent k → w'.node.Spent k) := by
  refine ⟨fun h h' hw => ?_, fun h hw => ?_, fun w hw => ?_, fun w hw => ?_⟩
  · obtain ⟨hw', hs'⟩ := h' hw
    obtain ⟨hw'', hs''⟩ := h hw'
    exact ⟨hw'', fun hs => hs'' (hs' hs)⟩
  · have hk := h.keeps (k := k) hw
    exact ⟨hk.undisturbed, fun hs => hs.keeps hk.node⟩
  · have hstop := wp_stop_keeps (k := k) hw (Q := fun _ w' => World.Keeps k w' w) (fun _ h _ => h) fun _ _ h _ => h
    exact ⟨hstop.undisturbed, fun hs => hs.keeps hstop.node⟩
  · have hremove : World.Touches k (Docker.remove k w).2 w := (frame_touches k).remove w
    refine ⟨fun e he => hw e (hremove.events he), fun hs => ?_⟩
    have hkeeps := wp_remove_keeps (k := k) hw hs (Q := fun _ w' => World.Keeps k w' w) (fun _ h _ => h) fun _ _ h _ => h
    exact hs.keeps hkeeps.node

/-! ## Answers -/

/-- A refusal, and an answer ABSENT or FAILED, is about invalid metadata or a container that has not
succeeded and cannot. -/
def Conclusive (n : Node) (k : OwnerKey) (response : AgentCommandResponse) : Prop :=
  response.accepted = false ∨ response.observedState = .absent ∨ response.observedState = .failed →
    response.observedState = .failed ∧ response.errorCode = some (py "invalid_workload") ∨ n.Spent k

theorem Conclusive.of_spent {n : Node} {k : OwnerKey} {response : AgentCommandResponse} (h : n.Spent k) :
    Conclusive n k response := fun _ => .inr h

theorem Conclusive.keeps {n n' : Node} {k : OwnerKey} {response : AgentCommandResponse} (h : Conclusive n k response)
    (hk : Node.Keeps k n' n) : Conclusive n' k response := fun hr => (h hr).imp_right fun hs => hs.keeps hk

section Answers

variable {settings : AgentSettings} {around : Surroundings} {c : AgentCommand} {w : World}

/-- What is asked of the answer to a command about a job. -/
abbrev Concludes (c : AgentCommand) (r : Except Raised CommandResult) (n : Node) : Prop :=
  ∀ result ∈ answer? r, Conclusive n c.owner.key result.response

theorem Concludes.of_silent {n : Node} {e : Raised} (h : e.result? = none) : Concludes c (.error e) n := by
  intro result hr
  rw [answer?, h] at hr
  cases hr

theorem Concludes.of_spent {r : Except Raised CommandResult} {n : Node} (h : n.Spent c.owner.key) : Concludes c r n :=
  fun _ _ => .of_spent h

theorem Concludes.of_invalid {n : Node} (message : PyStr) : Concludes c (.error (.invalidWorkload message)) n := by
  intro result hr
  cases hr
  exact fun _ => .inl ⟨rfl, rfl⟩

/-- The metadata of an answer are refused only as invalid. -/
theorem wp_answerMetadata_invalid {state : AgentWorkloadState} {info : Container}
    {Q : Except Raised (List (PyStr × Json)) → World → Prop} (hok : ∀ w' m, World.Passes w' w → Q (.ok m) w')
    (hrej : ∀ w' m, World.Passes w' w → Q (.error (.invalidWorkload m)) w')
    (hsilent : ∀ w' e, World.Passes w' w → e.result? = none → Q (.error e) w') :
    Effect.wp (answerMetadata around c state info) Q w := by
  have hrefl := World.Passes.refl w
  unfold answerMetadata
  split
  · exact hok w _ hrefl
  · unfold trainingMetadata
    rw [Effect.wp_bind]
    refine wp_managedContainer_passes (fun w₁ x h₁ _ _ => ?_) (fun w₁ h₁ _ => hsilent w₁ _ h₁ rfl) fun w₁ h₁ =>
      hsilent w₁ _ h₁ rfl
    rw [Effect.seq_ok]
    split
    · split
      · exact hrej w₁ _ h₁
      rw [Effect.wp_ite]
      split
      · exact hsilent w₁ _ h₁ rfl
      simp only
      split
      · exact hrej w₁ _ h₁
      rw [Effect.wp_ite]
      split
      · exact hok w₁ _ h₁
      · split
        · exact hrej w₁ _ h₁
        · exact hok w₁ _ h₁
    · exact hrej w₁ _ h₁
  · split
    · unfold evaluationMetadata
      rw [Effect.wp_bind]
      refine wp_managedContainer_passes (fun w₁ x h₁ _ _ => ?_) (fun w₁ h₁ _ => hsilent w₁ _ h₁ rfl) fun w₁ h₁ =>
        hsilent w₁ _ h₁ rfl
      rw [Effect.seq_ok]
      split
      · rw [Effect.wp_ite, Effect.wp_ite]
        split
        · exact hrej w₁ _ h₁
        split
        · exact hsilent w₁ _ h₁ rfl
        · split
          · exact hrej w₁ _ h₁
          · exact hok w₁ _ h₁
      · exact hrej w₁ _ h₁
    · exact hok w _ hrefl

theorem stateFromInfo_ne_absent (type : LeaseOwnerType) (info : Container) : stateFromInfo type info ≠ .absent := by
  unfold stateFromInfo
  cases type <;> cases info.state.status <;> simp only [ne_eq, reduceCtorEq, not_false_eq_true] <;> split <;> nofun

/-- A job that is reported FAILED does not run and has not succeeded. -/
theorem ended_of_failed {type : LeaseOwnerType} {info : Container} (hjob : type ≠ .deployment)
    (h : stateFromInfo type info = .failed) : info.state.status.runs = false ∧ succeeded type info = false := by
  cases type with
  | deployment => exact absurd rfl hjob
  | training | evaluation =>
    simp only [stateFromInfo] at h
    simp only [succeeded]
    revert h
    cases info.state.status <;> simp [ContainerStatus.runs]

theorem stateFromInfo_succeeded {type : LeaseOwnerType} {info : Container} (h : succeeded type info = true) :
    stateFromInfo type info = .succeeded := by
  simp only [succeeded, Bool.and_eq_true, decide_eq_true_eq] at h
  obtain ⟨⟨hjob, hs⟩, hcode⟩ := h
  cases type with
  | deployment => exact absurd rfl hjob
  | training | evaluation => simp only [stateFromInfo, hs, hcode, if_pos]

theorem concludes_responseFromInfo {info : Container} (hjob : c.owner.type ≠ .deployment) (hw : w.Undisturbed)
    (hinfo : stateFromInfo c.owner.type info = .failed → w.node.Spent c.owner.key) :
    Effect.wp (responseFromInfo settings around c info)
      (fun r w' => World.Keeps c.owner.key w' w ∧ Concludes c r w'.node) w := by
  unfold responseFromInfo settledState
  rw [Effect.wp_bind]
  simp only
  rw [Effect.wp_ite, if_neg fun h => hjob h.1, Effect.wp_pure, Effect.seq_ok]
  simp only
  rw [Effect.wp_bind]
  refine wp_answerMetadata_invalid (fun w₁ m h₁ => ⟨h₁.keeps hw, ?_⟩) (fun w₁ m h₁ => ⟨h₁.keeps hw, .of_invalid m⟩)
    fun w₁ e h₁ he => ⟨h₁.keeps hw, .of_silent he⟩
  intro result hr
  cases hr
  rintro (h | h | h)
  · cases h
  · exact absurd h (stateFromInfo_ne_absent _ _)
  · exact .inr ((hinfo h).keeps (h₁.keeps hw).node)

/-- A container that is managed if it is there. -/
theorem lookup_none_of_unmanaged {n : Node} {k : OwnerKey} (hm : ∀ x, n.lookup k = some x → x.labels.managed = true)
    (hun : n.Unmanaged k) : n.lookup k = none := by
  cases hx : n.lookup k with
  | none => rfl
  | some x =>
    have h := hm x hx
    rw [hun x hx] at h
    cases h

/-- STATUS. -/
theorem concludes_observe (hjob : c.owner.type ≠ .deployment) (hw : w.Undisturbed)
    (hm : ∀ x, w.node.lookup c.owner.key = some x → x.labels.managed = true)
    (hg : ∀ x, w.node.lookup c.owner.key = some x → x.labels.generation = c.owner.generation) :
    Effect.wp (observe settings around c) (fun r w' => World.Keeps c.owner.key w' w ∧ Concludes c r w'.node) w := by
  unfold observe
  rw [Effect.wp_bind, Effect.wp_tryCatch, Effect.wp_map]
  refine wp_getContractWorkload_passes (fun w₁ info h₁ hx _ => ?_) (fun w₁ h₁ hun => ⟨h₁.keeps hw, ?_⟩) fun w₁ e h₁ he => ?_
  · have h₁ := h₁.keeps (k := c.owner.key) hw
    simp only [Except.map, Effect.seq_ok]
    rw [Effect.wp_ite]
    split
    · rename_i hne
      obtain ⟨y, hy, hl, -⟩ := h₁.node.old info hx
      exact absurd (hl ▸ hg y hy) hne
    · refine Effect.wp_mono (concludes_responseFromInfo hjob h₁.undisturbed fun hf y hy => ?_) fun r w' h =>
        ⟨h.1.trans h₁, h.2⟩
      cases hx.symm.trans hy
      exact ended_of_failed hjob hf
  · refine .of_spent (.of_none (lookup_none_of_unmanaged (fun x hx => ?_) hun))
    obtain ⟨y, hy, hl, -⟩ := (h₁.keeps (k := c.owner.key) hw).node.old x hx
    rw [hl]
    exact hm y hy
  · rcases he with rfl | rfl <;> exact ⟨h₁.keeps hw, .of_silent rfl⟩

/-- An ordinary STOP. -/
theorem concludes_stopWorkload (hjob : c.owner.type ≠ .deployment) (hw : w.Undisturbed)
    (hm : ∀ x, w.node.lookup c.owner.key = some x → x.labels.managed = true)
    (hg : ∀ x, w.node.lookup c.owner.key = some x → x.labels.generation = c.owner.generation) :
    Effect.wp (stopWorkload settings around c) (fun r w' => World.Keeps c.owner.key w' w ∧ Concludes c r w'.node) w := by
  unfold stopWorkload
  rw [Effect.wp_bind, Effect.wp_tryCatch]
  refine wp_stopContractWorkload_keeps hw hg (fun w₁ h₁ hn => ⟨h₁, .of_spent (.of_none hn)⟩) (fun w₁ info h₁ hs => ?_)
    (fun w₁ h₁ hun => ⟨h₁, ?_⟩) fun w₁ e h₁ he => ?_
  · have hresponse : Effect.wp (responseFromInfo settings around c info)
        (fun r w' => World.Keeps c.owner.key w' w ∧ Concludes c r w'.node) w₁ := by
      refine Effect.wp_mono (concludes_responseFromInfo hjob h₁.undisturbed fun hf => ?_) fun r w' h =>
        ⟨h.1.trans h₁, h.2⟩
      rw [@stateFromInfo_succeeded c.owner.type info hs] at hf
      cases hf
    exact hresponse
  · refine .of_spent (.of_none (lookup_none_of_unmanaged (fun x hx => ?_) hun))
    obtain ⟨y, hy, hl, -⟩ := h₁.node.old x hx
    rw [hl]
    exact hm y hy
  · rcases he with rfl | rfl <;> exact ⟨h₁, .of_silent rfl⟩

/-- START, where the owner has no container. -/
theorem concludes_startWorkload (hjob : c.owner.type ≠ .deployment) (hw : w.Undisturbed)
    (hn : w.node.lookup c.owner.key = none) :
    Effect.wp (startWorkload settings around c) (fun r w' => Concludes c r w'.node) w := by
  have hspent {w' : World} (h : World.Passes w' w) : w'.node.Spent c.owner.key :=
    .of_none (h.le.lookup_none hn)
  unfold startWorkload
  rw [Effect.wp_ite]
  split
  · exact .of_invalid _
  rw [Effect.wp_bind]
  unfold prepareContractStart
  rw [Effect.wp_bind, Effect.wp_tryCatch, Effect.wp_map]
  refine wp_managedContainer_passes (fun w₁ x h₁ hx _ => ?_) (fun w₁ h₁ _ => ?_) fun w₁ h₁ => .of_silent rfl
  · rw [h₁.le.lookup_none hn] at hx
    cases hx
  simp only [Except.map]
  rw [Effect.wp_ite, if_pos trivial, Effect.wp_pure, Effect.seq_ok]
  simp only
  rw [Effect.wp_pure, Effect.seq_ok]
  simp only
  split
  · exact .of_spent (hspent h₁)
  rename_i labels hl
  unfold launch
  rw [Effect.wp_bind, Effect.wp_bind]
  refine wp_inspect_passes (fun w₂ h₂ => ?_) fun w₂ _ => .of_silent rfl
  have h₂ := h₂.trans h₁
  rw [Effect.seq_ok, h₂.le.lookup_none hn]
  simp only
  rw [Effect.wp_bind]
  refine Effect.wp_mono ((assertGpusAvailable_reads settings around.busyGpuIds labels.gpuIds none).to_wp w₂) fun r w₃ h₃ => ?_
  have h₃ := h₃.trans h₂
  cases r with
  | error e => exact .of_spent (hspent h₃)
  | ok u =>
    rw [Effect.seq_ok, Effect.wp_bind]
    refine wp_run (fun w₄ x he hx _ => ?_) fun w₄ => .of_silent rfl
    have hw₄ : w₄.Undisturbed := fun e hmem => hw e (h₃.events (he hmem))
    rw [Effect.seq_ok]
    refine wp_reload_passes (fun w₅ info h₅ hinfo => ?_) (fun w₅ _ _ => .of_silent rfl) fun w₅ _ => .of_silent rfl
    rw [Effect.seq_ok]
    refine Effect.wp_mono (concludes_responseFromInfo hjob (h₅.keeps (k := c.owner.key) hw₄).undisturbed
      fun hf y hy => ?_) fun r w' h => h.2
    cases hinfo.symm.trans hy
    exact ended_of_failed hjob hf

/-- A command about a job: STATUS and STOP of the container's generation, and START where there is
none. -/
theorem concludes_dispatch (hjob : c.owner.type ≠ .deployment) (hw : w.Undisturbed)
    (hm : ∀ x, w.node.lookup c.owner.key = some x →
      x.labels.managed = true ∧ x.labels.generation = c.owner.generation)
    (hstart : c.action = .start → w.node.lookup c.owner.key = none)
    (hempty : c.action ≠ .start → c.execution.isEmpty = true) :
    Effect.wp (dispatch settings around c)
      (fun r w' => (c.action ≠ .start → World.Keeps c.owner.key w' w) ∧ Concludes c r w'.node) w := by
  unfold dispatch
  split
  · rename_i ha
    exact Effect.wp_mono (concludes_startWorkload hjob hw (hstart ha)) fun r w' h => ⟨fun hne => absurd ha hne, h⟩
  · rename_i ha
    rw [if_pos (hempty (by rw [ha]; exact nofun))]
    exact Effect.wp_mono (concludes_stopWorkload hjob hw (fun x hx => (hm x hx).1) fun x hx => (hm x hx).2)
      fun r w' h => ⟨fun _ => h.1, h.2⟩
  · rename_i ha
    rw [if_pos (hempty (by rw [ha]; exact nofun))]
    exact Effect.wp_mono (concludes_observe hjob hw (fun x hx => (hm x hx).1) fun x hx => (hm x hx).2)
      fun r w' h => ⟨fun _ => h.1, h.2⟩

end Answers

end OpenLLMOps
