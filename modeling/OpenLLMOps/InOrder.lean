import OpenLLMOps.Agent.Truthful
import OpenLLMOps.ControlPlane.Commands
import OpenLLMOps.ControlPlane.Snapshots

/-!
# Generations in order

The control plane composed with the agent by a line that keeps the order of the
commands: it delivers the oldest one or loses it. Answers are not tied to the
commands, so the control plane may get any.

The generation that a command about a row carries is `Row.commandGeneration`, and
no step lowers it. So the generations of an owner's commands grow along the line
(`Line.Inv`), the watermark is not above that of the row, and no command is
answered `stale_generation`.
-/

namespace OpenLLMOps

open Framework Vllm

/-! ## Answers -/

/-- The code of the answer to a command below the watermark. -/
def staleGeneration : PyStr := py "stale_generation"

/-- The answer does not say that the command is old. -/
def CommandResult.NotStale (r : CommandResult) : Prop := r.response.errorCode ≠ some staleGeneration

instance (r : CommandResult) : Decidable r.NotStale := by
  unfold CommandResult.NotStale
  exact inferInstance

theorem Raised.result_notStale {e : Raised} {r : CommandResult} (h : e.result? = some r) : r.NotStale := by
  have hne (code : PyStr) (hc : code ≠ staleGeneration) (status : Nat) (message : PyStr) :
      (rejected status message code).NotStale := fun e => hc (Option.some.inj e)
  cases e with
  | validation errors => cases h; exact hne _ (by decide) _ _
  | invalidWorkload message => cases h; exact hne _ (by decide) _ _
  | workloadConflict message => cases h; exact hne _ (by decide) _ _
  | _ => cases h

section Dispatch

variable (settings : AgentSettings) (around : Surroundings) (c : AgentCommand)

theorem responseFromInfo_notStale (info : Container) :
    Effect.Returns CommandResult.NotStale (responseFromInfo settings around c info) := by
  unfold responseFromInfo
  exact .bind fun _ => .bind fun _ => .pure nofun

theorem dispatch_notStale : Effect.Returns CommandResult.NotStale (dispatch settings around c) := by
  have hinfo := responseFromInfo_notStale settings around c
  have habsent : acceptedAbsent.NotStale := nofun
  unfold dispatch
  split
  · unfold startWorkload
    refine .ite (.throw _) (.bind fun existing => ?_)
    split
    · exact hinfo _
    · split
      · exact .throw _
      · exact .bind fun info => hinfo info
  · refine .ite (.bind fun info => ?_) (.ite ?_ (.throw _))
    · split
      · exact .pure habsent
      · exact hinfo _
    · exact .bind fun _ => .pure habsent
  · refine .ite (.bind fun info => ?_) (.throw _)
    split
    · exact .pure habsent
    · exact .ite (.throw _) (hinfo _)

/-- An answer after the dispatch. -/
theorem answer_notStale {w : World} {r : CommandResult} (h : answer? (dispatch settings around c w).1 = some r) :
    r.NotStale := by
  have hd := dispatch_notStale settings around c w
  unfold Effect.wp at hd
  cases ho : (dispatch settings around c w).1 with
  | ok result =>
    rw [ho] at h
    cases h
    exact hd _ ho
  | error e =>
    rw [ho] at h
    exact e.result_notStale h

/-- A command that is not below the watermark is not answered that it is, if no answer that is
kept says so. -/
theorem execute_notStale {s : Agent} {requestId : Uuid} {events : List DockerEvent}
    (hg : s.store.generation c.owner.key ≤ c.owner.generation) (hcached : ∀ e ∈ s.store.requests, e.2.result.NotStale)
    {r : CommandResult} (hr : (s.execute settings requestId c around events).1 = some r) : r.NotStale := by
  have hreused (code message : PyStr) (hc : code ≠ staleGeneration) : (rejected 409 message code).NotStale :=
    fun e => hc (Option.some.inj e)
  cases hreq : s.store.getRequest requestId with
  | some cached =>
    have he : (s.execute settings requestId c around events).1 =
        if cached.fingerprint ≠ (some requestId, c) then
          some (rejected 409 (py "request_id 已绑定到不同命令") (py "request_id_reused"))
        else some cached.result := by
      simp only [Agent.execute, OpenLLMOps.execute, if_neg (Nat.not_lt.mpr hg), hreq]
      split <;> rfl
    rw [he] at hr
    split at hr <;> cases hr
    · exact hreused _ _ (by decide)
    · exact hcached _ (Dict.mem_of_get? hreq)
  | none =>
    have hcases := execute_cases Prod.mk (fun c => dispatch settings around c) (⟨s.node, events, []⟩ : World) hg hreq
    simp only [Agent.execute] at hr
    rcases hcases with ⟨message, -, -, he⟩ | ⟨store, -, he⟩ <;> rw [he] at hr
    · cases hr
      exact hreused _ _ (by decide)
    · exact answer_notStale settings around c hr

end Dispatch

/-! ## The line -/

/-- The control plane, the commands under way with their request ids, oldest first, and the
agent. -/
structure Line where
  plane : ControlPlane
  queue : List (Uuid × AgentCommand)
  agent : Agent

namespace Line

inductive Label (casing : Casing)
  /-- A step of the control plane; a command that it sends has this request id. -/
  | plane (l : OpenLLMOps.Label casing) (requestId : Uuid)
  /-- The agent executes the oldest command. -/
  | deliver (around : Surroundings) (events : List DockerEvent)
  /-- The oldest command is lost. -/
  | lose
  /-- A container changes by itself. -/
  | change (e : OwnerKey × Option ContainerState)

section System

variable (casing : Casing) (cfg : Settings) (assetPath : Uuid → Option PyStr) (settings : AgentSettings)

def step {casing : Casing} (s : Line) : Label casing → Option Line
  | .plane l requestId =>
    (ControlPlane.step cfg assetPath s.plane l).map fun plane =>
      { s with
        plane := plane
        queue := s.queue ++ ((l.sends s.plane.db plane.pc).map fun c => (requestId, c)).toList }
  | .deliver around events =>
    match s.queue with
    | [] => none
    | (requestId, c) :: queue =>
      some { s with queue := queue, agent := (s.agent.execute settings requestId c around events).2 }
  | .lose =>
    match s.queue with
    | [] => none
    | _ :: queue => some { s with queue := queue }
  | .change e => some { s with agent := { s.agent with node := s.agent.node.change e } }

/-- The line on an empty database and a new node. -/
def system : System Line (Label casing) where
  init := ⟨(controlPlane casing cfg assetPath).init, [], (Agent.system settings).init⟩
  step := Line.step cfg assetPath settings

/-- The watermark of a row's owner is not above the row's generations. -/
def WatermarkBounded (s : Line) : Prop :=
  ∀ k row, s.plane.db.getRow k = some row →
    s.agent.store.generation k ≤ row.stateVersion ∧
      (row.runtimeGeneration ≠ 0 → s.agent.store.generation k ≤ row.runtimeGeneration)

/-- The command that is executed is not answered `stale_generation`. -/
def AnswersCurrent {casing : Casing} (s : Line) (l : Label casing) (_ : Line) : Prop :=
  match l with
  | .deliver around events =>
    ∀ m ∈ s.queue.head?, ∀ r ∈ (s.agent.execute settings m.1 m.2 around events).1, r.NotStale
  | _ => True

/-- No command under way about `k` and no command that the agent has seen is above `g`. -/
structure Top (s : Line) (k : OwnerKey) (g : Nat) : Prop where
  queue : ∀ m ∈ s.queue, m.2.owner.key = k → m.2.owner.generation ≤ g
  watermark : s.agent.store.generation k ≤ g

/-- The invariant of the line. -/
structure Inv (s : Line) : Prop where
  round : RoundInv s.plane
  rows : ∀ k row, s.plane.db.getRow k = some row → row.runtimeGeneration ≤ row.stateVersion ∧ s.Top k row.commandGeneration
  /-- The round's commands are about the current generation of a row that is still there. -/
  pending : ∀ w ∈ s.plane.pc.pending, w.owner.id ∈ s.plane.used ∧ s.Top w.owner.key w.owner.generation ∧
    ∀ row, s.plane.db.getRow w.owner.key = some row → row.runtimeGeneration = w.owner.generation
  drawn : ∀ k, k.id ∉ s.plane.used → s.Top k 0 ∧ ∀ m ∈ s.queue, m.2.owner.key ≠ k
  ordered : s.queue.Pairwise fun m m' => m.2.owner.key = m'.2.owner.key → m.2.owner.generation ≤ m'.2.owner.generation
  ahead : ∀ m ∈ s.queue, s.agent.store.generation m.2.owner.key ≤ m.2.owner.generation
  cached : ∀ e ∈ s.agent.store.requests, e.2.result.NotStale

end System

/-! ### Steps -/

section Steps

variable {casing : Casing} {cfg : Settings} {assetPath : Uuid → Option PyStr} {settings : AgentSettings} {s s' : Line}

theorem Inv.init : Inv ⟨⟨.empty, .idle, []⟩, [], ⟨.empty, ∅⟩⟩ := by
  refine ⟨RoundInv.init, fun k row hr => ?_, nofun, fun k _ => ⟨⟨nofun, Nat.le_refl 0⟩, nofun⟩, .nil, nofun,
    fun e he => ?_⟩
  · obtain ⟨t, id⟩ := k
    cases t <;> cases hr
  · cases he

theorem Top.mono {k : OwnerKey} {g g' : Nat} (h : s.Top k g) (hle : g ≤ g') : s.Top k g' :=
  ⟨fun m hm hk => (h.queue m hm hk).trans hle, h.watermark.trans hle⟩

/-- A step of the control plane, before the command that it sends is under way. -/
theorem Inv.plane (h : Inv s) {l : OpenLLMOps.Label casing} {plane : ControlPlane}
    (hs : ControlPlane.step cfg assetPath s.plane l = some plane) : Inv { s with plane := plane } := by
  have hround := h.round.step hs
  have hused {id : Uuid} (hid : id ∈ s.plane.used) : id ∈ plane.used := by
    rw [step_used hs]
    exact List.mem_append_right _ hid
  have hrows : ∀ k row, plane.db.getRow k = some row →
      row.runtimeGeneration ≤ row.stateVersion ∧ s.Top k row.commandGeneration := by
    intro k row' hr
    rcases step_row hs k row' hr with ⟨row, hr₀, hch⟩ | ⟨hf, -, hnew⟩
    · obtain ⟨hg, htop⟩ := h.rows k row hr₀
      obtain ⟨hg', hle⟩ := hch.commandGeneration_le hg
      exact ⟨hg', htop.mono hle⟩
    · refine ⟨?_, (h.drawn k hnew).1.mono (Nat.zero_le _)⟩
      rw [hf.generation]
      exact Nat.zero_le _
  refine ⟨hround, fun k row hr => ?_, fun w hw => ?_, fun k hk => ?_, h.ordered, h.ahead, h.cached⟩
  · obtain ⟨hg, htop⟩ := hrows k row hr
    exact ⟨hg, htop.queue, htop.watermark⟩
  · rcases h.round.pending_cases hs with hsub | ⟨hp, -⟩
    · have hw₀ := hsub.subset hw
      obtain ⟨hid, htop, hgen⟩ := h.pending w hw₀
      refine ⟨hused hid, ⟨htop.queue, htop.watermark⟩, fun row' hr => ?_⟩
      rcases h.round.generation_step hs hw₀ hw hr with ⟨row, hr₀, e⟩ | hnew
      · exact e.trans (hgen row hr₀)
      · exact absurd hid hnew
    · obtain ⟨row, hr, ha, hg⟩ := hp w hw
      obtain ⟨hv, hid⟩ := hround.rows _ row hr
      obtain ⟨-, htop⟩ := hrows _ row hr
      rw [hv.commandGeneration ha, hg] at htop
      refine ⟨hid, ⟨htop.queue, htop.watermark⟩, fun row' hr' => ?_⟩
      rw [hr] at hr'
      cases hr'
      exact hg
  · obtain ⟨htop, hne⟩ := h.drawn k fun hid => hk (hused hid)
    exact ⟨⟨htop.queue, htop.watermark⟩, hne⟩

/-- A command that is not below those before it and not above the ones that may follow. -/
structure Next (s : Line) (c : AgentCommand) : Prop where
  drawn : c.owner.id ∈ s.plane.used
  top : s.Top c.owner.key c.owner.generation
  row : ∀ row, s.plane.db.getRow c.owner.key = some row → c.owner.generation ≤ row.commandGeneration
  pending : ∀ w ∈ s.plane.pc.pending, w.owner.key = c.owner.key → c.owner.generation ≤ w.owner.generation

/-- The next command takes its place at the end of the line. -/
theorem Inv.send (h : Inv s) {c : AgentCommand} (hc : Next s c) (requestId : Uuid) :
    Inv { s with queue := s.queue ++ [(requestId, c)] } := by
  have htop {k : OwnerKey} {g : Nat} (ht : s.Top k g) (hle : c.owner.key = k → c.owner.generation ≤ g) :
      Top { s with queue := s.queue ++ [(requestId, c)] } k g := by
    refine ⟨fun m hm hk => ?_, ht.watermark⟩
    rcases List.mem_append.mp hm with hm | hm
    · exact ht.queue m hm hk
    · obtain rfl := List.mem_singleton.mp hm
      exact hle hk
  refine ⟨h.round, fun k row hr => ?_, fun w hw => ?_, fun k hk => ?_, ?_, fun m hm => ?_, h.cached⟩
  · obtain ⟨hg, ht⟩ := h.rows k row hr
    refine ⟨hg, htop ht ?_⟩
    rintro rfl
    exact hc.row row hr
  · obtain ⟨hid, ht, hgen⟩ := h.pending w hw
    exact ⟨hid, htop ht fun e => hc.pending w hw e.symm, hgen⟩
  · obtain ⟨ht, hne⟩ := h.drawn k hk
    have hkey : c.owner.key ≠ k := by
      rintro rfl
      exact hk hc.drawn
    refine ⟨htop ht fun e => absurd e hkey, fun m hm => ?_⟩
    rcases List.mem_append.mp hm with hm | hm
    · exact hne m hm
    · obtain rfl := List.mem_singleton.mp hm
      exact hkey
  · refine List.pairwise_append.mpr ⟨h.ordered, List.pairwise_singleton _ _, fun m hm m' hm' hk => ?_⟩
    obtain rfl := List.mem_singleton.mp hm'
    exact hc.top.queue m hm hk
  · rcases List.mem_append.mp hm with hm | hm
    · exact h.ahead m hm
    · obtain rfl := List.mem_singleton.mp hm
      exact hc.top.watermark

/-- The command that a step of the control plane sends is the next one. -/
theorem Inv.next (h : Inv s) {l : OpenLLMOps.Label casing} {plane : ControlPlane}
    (hs : ControlPlane.step cfg assetPath s.plane l = some plane) {c : AgentCommand}
    (hc : l.sends s.plane.db plane.pc = some c) : Next { s with plane := plane } c := by
  have h' := h.plane hs
  rcases sends_cases hc with ⟨r, k, row, rfl, hr, rfl⟩ | ⟨w, hw, action, rfl⟩
  · have hpc : plane.pc = s.plane.pc := by
      simp only [ControlPlane.step] at hs
      split at hs <;> cases hs
      rfl
    obtain ⟨hg, ht⟩ := h.rows k row hr
    have hid := (h.round.rows k row hr).2
    refine ⟨?_, ⟨ht.queue, ht.watermark⟩, fun row' hr' => ?_, fun w hw hk => ?_⟩
    · rw [step_used hs]
      exact List.mem_append_right _ hid
    · rcases step_row hs _ row' hr' with ⟨row₀, hr₀, hch⟩ | ⟨-, -, hnew⟩
      · have e : row₀ = row := Option.some.inj (hr₀.symm.trans hr)
        subst e
        exact (hch.commandGeneration_le hg).2
      · exact absurd hid hnew
    · have hw : w ∈ s.plane.pc.pending := hpc ▸ hw
      have hgen := (h.pending w hw).2.2 row (by rw [hk]; exact hr)
      have hne := h.round.generations w hw
      show row.commandGeneration ≤ w.owner.generation
      rw [Row.commandGeneration, hgen, if_neg hne]
  · obtain ⟨hid, ht, hgen⟩ := h'.pending w hw
    refine ⟨hid, ht, fun row hr => ?_, fun w' hw' hk => ?_⟩
    · have hne := h'.round.generations w hw
      show w.owner.generation ≤ row.commandGeneration
      rw [Row.commandGeneration, hgen row hr, if_neg hne]
    · have e := List.inj_on_of_nodup_map h'.round.distinct hw' hw hk
      rw [e]
      exact Nat.le_refl _

/-- The oldest command leaves the line. -/
theorem Inv.tail (h : Inv s) {m : Uuid × AgentCommand} {queue : List (Uuid × AgentCommand)}
    (hq : s.queue = m :: queue) : Inv { s with queue := queue } := by
  have hmem {m' : Uuid × AgentCommand} (hm : m' ∈ queue) : m' ∈ s.queue := hq ▸ List.mem_cons_of_mem m hm
  have htop {k : OwnerKey} {g : Nat} (ht : s.Top k g) : Top { s with queue := queue } k g :=
    ⟨fun m' hm => ht.queue m' (hmem hm), ht.watermark⟩
  have hord := h.ordered
  rw [hq] at hord
  refine ⟨h.round, fun k row hr => ?_, fun w hw => ?_, fun k hk => ?_, hord.of_cons, fun m' hm => ?_, h.cached⟩
  · exact (h.rows k row hr).imp_right htop
  · exact (h.pending w hw).imp_right fun hp => hp.imp_left htop
  · exact (h.drawn k hk).imp htop fun hne m' hm => hne m' (hmem hm)
  · exact h.ahead m' (hmem hm)

/-- The agent executes the oldest command. -/
theorem Inv.deliver (h : Inv s) {requestId : Uuid} {c : AgentCommand} {queue : List (Uuid × AgentCommand)}
    (hq : s.queue = (requestId, c) :: queue) (around : Surroundings) (events : List DockerEvent) :
    Inv { s with queue := queue, agent := (s.agent.execute settings requestId c around events).2 } := by
  have ht := h.tail hq
  have hfirst : (requestId, c) ∈ s.queue := hq ▸ List.mem_cons_self
  have hord := h.ordered
  rw [hq, List.pairwise_cons] at hord
  -- the watermark after the command
  have hgen (k : OwnerKey) :
      (s.agent.execute settings requestId c around events).2.store.generation k = s.agent.store.generation k ∨
        k = c.owner.key ∧
          (s.agent.execute settings requestId c around events).2.store.generation k = c.owner.generation :=
    @generation_execute _ _ _ Prod.mk (fun c => dispatch settings around c) requestId c s.agent.store
      ⟨s.agent.node, events, []⟩ k
  have htop {k : OwnerKey} {g : Nat} (hold : s.Top k g) :
      Top { s with queue := queue, agent := (s.agent.execute settings requestId c around events).2 } k g := by
    refine ⟨fun m hm => hold.queue m (hq ▸ List.mem_cons_of_mem _ hm), ?_⟩
    show (s.agent.execute settings requestId c around events).2.store.generation k ≤ g
    rcases hgen k with e | ⟨rfl, e⟩
    · rw [e]
      exact hold.watermark
    · rw [e]
      exact hold.queue _ hfirst rfl
  refine ⟨h.round, fun k row hr => ?_, fun w hw => ?_, fun k hk => ?_, ht.ordered, fun m hm => ?_, ?_⟩
  · exact (h.rows k row hr).imp_right htop
  · exact (h.pending w hw).imp_right fun hp => hp.imp_left htop
  · exact (h.drawn k hk).imp htop fun hne m hm => hne m (hq ▸ List.mem_cons_of_mem _ hm)
  · show (s.agent.execute settings requestId c around events).2.store.generation m.2.owner.key ≤ m.2.owner.generation
    rcases hgen m.2.owner.key with e | ⟨hk, e⟩
    · rw [e]
      exact ht.ahead m hm
    · rw [e]
      exact hord.1 m hm hk.symm
  · intro e he
    have hkept : e ∈ s.agent.store.requests ∨ (s.agent.execute settings requestId c around events).1 = some e.2.result :=
      @requests_execute _ _ _ Prod.mk (fun c => dispatch settings around c) requestId c s.agent.store
        ⟨s.agent.node, events, []⟩ e he
    rcases hkept with hold | hnew
    · exact h.cached e hold
    · exact execute_notStale settings around c (h.ahead _ hfirst) h.cached hnew

theorem Inv.step {l : Label casing} (h : Inv s) (hs : Line.step cfg assetPath settings s l = some s') : Inv s' := by
  cases l with
  | plane l requestId =>
    obtain ⟨plane, hplane, rfl⟩ := Option.map_eq_some_iff.mp hs
    have hafter := h.plane hplane
    cases hc : l.sends s.plane.db plane.pc with
    | none =>
      show Inv { s with plane := plane, queue := s.queue ++ [] }
      rw [List.append_nil]
      exact hafter
    | some c => exact hafter.send (h.next hplane hc) requestId
  | deliver around events =>
    simp only [Line.step] at hs
    split at hs <;> cases hs
    rename_i hq
    exact h.deliver hq around events
  | lose =>
    simp only [Line.step] at hs
    split at hs <;> cases hs
    rename_i hq
    exact h.tail hq
  | change e =>
    cases hs
    have htop {k : OwnerKey} {g : Nat} (ht : s.Top k g) :
        Top { s with agent := { s.agent with node := s.agent.node.change e } } k g := ⟨ht.queue, ht.watermark⟩
    refine ⟨h.round, fun k row hr => ?_, fun w hw => ?_, fun k hk => ?_, h.ordered, h.ahead, h.cached⟩
    · exact (h.rows k row hr).imp_right htop
    · exact (h.pending w hw).imp_right fun hp => hp.imp_left htop
    · exact (h.drawn k hk).imp_left htop

theorem Inv.watermarkBounded (h : Inv s) : WatermarkBounded s := by
  intro k row hr
  obtain ⟨hg, ht⟩ := h.rows k row hr
  have hw := ht.watermark
  unfold Row.commandGeneration at hw
  split at hw <;> omega

theorem Inv.answersCurrent {l : Label casing} (h : Inv s) : AnswersCurrent settings s l s' := by
  cases l with
  | deliver around events =>
    intro m hm r hr
    exact execute_notStale settings around m.2 (h.ahead m (List.mem_of_mem_head? hm)) h.cached hr
  | _ => trivial

end Steps

/-- In every run, the watermark of an owner whose row exists is not above the row's generations,
and no command is answered `stale_generation`. -/
theorem never_stale (casing : Casing) (cfg : Settings) (assetPath : Uuid → Option PyStr) (settings : AgentSettings)
    (ls : List (Label casing)) :
    (system casing cfg assetPath settings).Always WatermarkBounded (system casing cfg assetPath settings).init ls ∧
      (system casing cfg assetPath settings).EachStep (AnswersCurrent settings)
        (system casing cfg assetPath settings).init ls := by
  have hstep {s l s'} (h : Inv s) (hs : (system casing cfg assetPath settings).step s l = some s') (_ : True) : Inv s' :=
    h.step hs
  have hall := System.EachStep.of_true (M := system casing cfg assetPath settings) (system casing cfg assetPath settings).init ls
  exact ⟨System.always_of_invariant hstep Inv.watermarkBounded Inv.init hall,
    System.eachStep_of_invariant hstep (fun h _ _ => h.answersCurrent) Inv.init hall⟩

end Line

end OpenLLMOps
