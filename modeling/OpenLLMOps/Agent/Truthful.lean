import OpenLLMOps.Agent.Answers
import OpenLLMOps.Framework.System

/-!
# Answers that end a workload

The agent's command state and its containers, under any commands with new request
ids and watermarks that they do not undercut, any faults of Docker and any changes
of the containers. The control plane takes the observations ABSENT, FAILED and
SUCCEEDED as leave to release the GPUs of the generation, and `_rejected` makes
FAILED of every rejection.

A command that asks for something that is refused is answered FAILED whatever the
container does, and so is a training job whose output directory fails its check
while it runs. `Settles` excludes exactly these commands for an active container.
-/

namespace OpenLLMOps

open Framework Docker

/-- The agent. A command's fingerprint is the command itself, with or without its request id. -/
structure Agent where
  store : CommandStateStore (Option Uuid × AgentCommand)
  node : Node
  deriving DecidableEq

namespace Agent

inductive Label
  /-- A command, what it finds on the node outside Docker, and what happens at its calls to Docker. -/
  | command (requestId : Uuid) (c : AgentCommand) (around : Surroundings) (events : List DockerEvent)
  /-- A container changes by itself. -/
  | change (e : OwnerKey × Option ContainerState)

section System

variable (settings : AgentSettings)

/-- `CommandProcessor.execute`. -/
def execute (s : Agent) (requestId : Uuid) (c : AgentCommand) (around : Surroundings) (events : List DockerEvent) :
    Option CommandResult × Agent :=
  let (answer, store, world) :=
    OpenLLMOps.execute Prod.mk (fun c => dispatch settings around c) requestId c s.store ⟨s.node, events, []⟩
  (answer, ⟨store, world.node⟩)

def step (s : Agent) : Label → Option Agent
  | .command requestId c around events =>
    if s.store.generation c.owner.key ≤ c.owner.generation ∧ s.store.getRequest requestId = none then
      some (s.execute settings requestId c around events).2
    else none
  | .change e => some { s with node := s.node.change e }

/-- The agent on a new node. -/
def system : System Agent Label where
  init := ⟨.empty, ∅⟩
  step := Agent.step settings

/-- The answer to a command, if it says that the workload has ended, is true when it is given. -/
def AnswersTruthfully (s : Agent) (l : Label) (s' : Agent) : Prop :=
  match l with
  | .command requestId c around events =>
    Truthful s'.node c.owner.key c.owner.generation (s.execute settings requestId c around events).1
  | .change _ => True

/-- While a container of the generation is active, a START agrees with the binding of the generation
and the execution of another command is empty; and a START or STATUS of a training job finds the
output directory valid, unless nothing is active and nothing is launched. -/
def Settles (s : Agent) (l : Label) (_ : Agent) : Prop :=
  match l with
  | .command _ c around events =>
    match c.action with
    | .start =>
      (s.store.Agrees c.owner.key c.owner.generation (none, c) ∨ s.node.Quiet c.owner.key c.owner.generation) ∧
        (OutputValid around c ∨ s.node.Quiet c.owner.key c.owner.generation ∧ Launchless around c ⟨s.node, events, []⟩)
    | .stop => c.execution.isEmpty = true ∨ s.node.Quiet c.owner.key c.owner.generation
    | .status =>
      (c.execution.isEmpty = true ∧ OutputValid around c) ∨ s.node.Quiet c.owner.key c.owner.generation
  | .change _ => True

instance (s : Agent) (l : Label) (s' : Agent) : Decidable (AnswersTruthfully settings s l s') := by
  unfold AnswersTruthfully
  cases l <;> exact inferInstance

instance (s : Agent) (l : Label) (s' : Agent) : Decidable (Settles s l s') := by
  unfold Settles
  cases l with
  | change e => exact inferInstance
  | command requestId c around events =>
    simp only
    split <;> exact inferInstance

/-- The containers come from STARTs that the store has seen. -/
structure Inv (s : Agent) : Prop where
  /-- The last START is of the container's generation or a newer one, up to the watermark. -/
  bound : ∀ k container, s.node.lookup k = some container → ∃ b, Dict.get? s.store.starts k = some b ∧
    container.labels.generation ≤ b.generation ∧ b.generation ≤ s.store.generation k
  /-- A START with the binding of the container's generation names the owner's runner. -/
  runner : ∀ k container b c, s.node.lookup k = some container → Dict.get? s.store.starts k = some b →
    container.labels.generation = b.generation → b.fingerprint = (none, c) →
    c.execution.runner = some k.type.runner
  labelled : ∀ k, Labelled s.node k

theorem Inv.init : Inv (system settings).init := by
  have hnone (k : OwnerKey) : (system settings).init.node.lookup k = none := rfl
  refine ⟨fun k c hc => ?_, fun k c _ _ hc => ?_, fun k c hc => ?_⟩ <;> rw [hnone] at hc <;> cases hc

variable {settings}

/-- Fewer containers keep the invariant. -/
theorem Inv.of_le {s : Agent} (h : Inv s) {node : Node} (hle : Node.Le node s.node) : Inv { s with node := node } := by
  refine ⟨fun k c hc => ?_, fun k c b cmd hc hb hg => ?_, fun k => (h.labelled k).mono hle⟩
  · obtain ⟨c₀, hc₀, hl, -⟩ := hle k c hc
    rw [hl]
    exact h.bound k c₀ hc₀
  · obtain ⟨c₀, hc₀, hl, -⟩ := hle k c hc
    exact h.runner k c₀ b cmd hc₀ hb (hl ▸ hg)

/-- What the store keeps, as far as the invariant reads it. -/
theorem Inv.of_store {s : Agent} (h : Inv s) {store : CommandStateStore (Option Uuid × AgentCommand)}
    (hs : store.starts = s.store.starts) (hg : ∀ k, s.store.generation k ≤ store.generation k) :
    Inv { s with store := store } := by
  refine ⟨fun k c hc => ?_, fun k c b cmd hc hb => ?_, h.labelled⟩
  · obtain ⟨b, hb, hle, hle'⟩ := h.bound k c hc
    exact ⟨b, hs ▸ hb, hle, hle'.trans (hg k)⟩
  · exact h.runner k c b cmd hc (hs ▸ hb)

/-- After the store has seen a START of a generation that is not old, a container of the owner is of
this START's generation only if it was bound to it. -/
theorem Inv.bindStart {s : Agent} (h : Inv s) {c : AgentCommand}
    {store : CommandStateStore (Option Uuid × AgentCommand)}
    (hg : s.store.generation c.owner.key ≤ c.owner.generation)
    (hs : s.store.bindStart c.owner.key c.owner.generation (none, c) = .ok store) : Inv { s with store := store } := by
  have hagrees : s.store.Agrees c.owner.key c.owner.generation (none, c) :=
    (s.store.bindStart_isOk_iff _ _ _).mp (by rw [hs]; rfl)
  have hgen (k : OwnerKey) : store.generation k =
      if c.owner.key = k then max (s.store.generation c.owner.key) c.owner.generation else s.store.generation k := by
    rw [CommandStateStore.generation, CommandStateStore.generations_bindStart hs]
    exact s.store.generation_advanceGeneration _ _ k
  refine ⟨fun k x hx => ?_, fun k x b cmd hx hb hxg hf => ?_, h.labelled⟩
  · obtain ⟨b, hb, hle, hle'⟩ := h.bound k x hx
    rw [CommandStateStore.get?_bindStart hs, hgen]
    split
    · rename_i e
      subst e
      exact ⟨_, rfl, (hle.trans hle').trans hg, Nat.le_max_right _ _⟩
    · exact ⟨b, hb, hle, hle'⟩
  · obtain ⟨b₀, hb₀, hle, hle'⟩ := h.bound k x hx
    simp only [CommandStateStore.get?_bindStart hs] at hb
    split at hb
    · rename_i e
      subst e
      cases hb
      -- the old binding is of the same generation, so it is the new one
      have hsame : b₀.generation = c.owner.generation := by
        simp only at hxg
        omega
      have hf₀ : b₀.fingerprint = (none, c) := hagrees b₀ hb₀ hsame
      exact h.runner _ x b₀ cmd hx hb₀ (hxg.trans hsame.symm) (hf₀.trans hf)
    · exact h.runner k x b cmd hx hb hxg hf

/-- A command that was dispatched may have launched a container; its store was prepared for it. -/
theorem Inv.dispatched {s : Agent} (h : Inv s) {c : AgentCommand} {node : Node} {events : List DockerEvent}
    (hg : s.store.generation c.owner.key = c.owner.generation)
    (hb : c.action = .start → Dict.get? s.store.starts c.owner.key = some ⟨c.owner.generation, (none, c)⟩)
    {w : World} (hl : Launches c.owner.key (Launched c) w ⟨node, events, []⟩) (hn : node = s.node) :
    Inv { s with node := w.node } := by
  subst hn
  refine ⟨fun k x hx => ?_, fun k x b cmd hx hs hxg hf => ?_, fun k x hx => ?_⟩
  · rcases hl k x hx with ⟨y, hy, hlab⟩ | ⟨rfl, hnew⟩
    · rw [hlab]
      exact h.bound k y hy
    · exact ⟨_, hb hnew.start, hnew.generation.le, hg.ge⟩
  · rcases hl k x hx with ⟨y, hy, hlab⟩ | ⟨rfl, hnew⟩
    · exact h.runner k y b cmd hy hs (hlab ▸ hxg) hf
    · rw [hb hnew.start] at hs
      cases hs
      cases hf
      exact hnew.runner
  · rcases hl k x hx with ⟨y, hy, hlab⟩ | ⟨rfl, hnew⟩
    · rw [hlab]
      exact h.labelled k y hy
    · exact ⟨hnew.owned.1, hnew.controlled⟩

/-- What the store knows when a command is dispatched. -/
theorem Inv.observe {s : Agent} (h : Inv s) {c : AgentCommand}
    {store : CommandStateStore (Option Uuid × AgentCommand)}
    (hg : s.store.generation c.owner.key ≤ c.owner.generation) (hs : s.store.observe Prod.mk c = .ok store) :
    Inv { s with store := store } ∧ store.generation c.owner.key = c.owner.generation ∧
      (c.action = .start → Dict.get? store.starts c.owner.key = some ⟨c.owner.generation, (none, c)⟩) := by
  unfold CommandStateStore.observe at hs
  split at hs
  · refine ⟨h.bindStart hg hs, ?_, fun _ => ?_⟩
    · rw [CommandStateStore.generation, CommandStateStore.generations_bindStart hs]
      refine (s.store.generation_advanceGeneration _ _ _).trans ?_
      rw [if_pos rfl, Nat.max_eq_right hg]
    · rw [CommandStateStore.get?_bindStart hs, if_pos rfl]
  · rename_i ha
    cases hs
    have hgen := s.store.generation_advanceGeneration c.owner.key c.owner.generation
    refine ⟨h.of_store (CommandStateStore.starts_advanceGeneration _ _ _) fun k => ?_, ?_, fun e => absurd e ha⟩
    · rw [hgen]
      split
      · rename_i e
        exact e ▸ Nat.le_max_left _ _
      · exact le_refl _
    · rw [hgen, if_pos rfl, Nat.max_eq_right hg]

/-- A START that agrees with its binding names the owner's runner, if a container of its generation
is there. -/
theorem Inv.runner_of_agrees {s : Agent} (h : Inv s) {c : AgentCommand}
    (hg : s.store.generation c.owner.key ≤ c.owner.generation)
    (hagrees : s.store.Agrees c.owner.key c.owner.generation (none, c)) :
    c.execution.runner = some c.owner.type.runner ∨ s.node.Quiet c.owner.key c.owner.generation := by
  by_cases hq : s.node.Quiet c.owner.key c.owner.generation
  · exact .inr hq
  refine .inl ?_
  simp only [Node.Quiet, not_forall] at hq
  obtain ⟨x, hx, hxg, -⟩ := hq
  obtain ⟨b, hb, hle, hle'⟩ := h.bound _ x hx
  have hsame : b.generation = c.owner.generation := by omega
  exact h.runner _ x b c hx hb (hxg.trans hsame.symm) (hagrees b hb hsame)

theorem Inv.step {s s' : Agent} {l : Label} (h : Inv s) (hs : Agent.step settings s l = some s') : Inv s' := by
  cases l with
  | change e =>
    cases hs
    exact h.of_le (.change s.node e)
  | command requestId c around events =>
    simp only [Agent.step] at hs
    split at hs <;> cases hs
    rename_i hen
    unfold Agent.execute
    rcases execute_cases Prod.mk (fun c => dispatch settings around c) (⟨s.node, events, []⟩ : World) hen.1 hen.2 with
      ⟨message, -, -, he⟩ | ⟨store, hobs, he⟩ <;> rw [he]
    · refine h.of_store (CommandStateStore.starts_record _ _ _ _) fun k => le_of_eq ?_
      rw [CommandStateStore.generation, CommandStateStore.generation, CommandStateStore.generations_record]
    · obtain ⟨hinv, hg, hb⟩ := h.observe hen.1 hobs
      have hlaunch := @dispatch_launches settings around c ⟨s.node, events, []⟩
      refine (hinv.dispatched hg hb hlaunch rfl).of_store (CommandStateStore.starts_record _ _ _ _) fun k =>
        le_of_eq ?_
      rw [CommandStateStore.generation, CommandStateStore.generation, CommandStateStore.generations_record]

/-- A command that settles is answered truthfully. -/
theorem Inv.truthful {s s' : Agent} {l : Label} (h : Inv s) (hs : Agent.step settings s l = some s')
    (hset : Settles s l s') : AnswersTruthfully settings s l s' := by
  cases l with
  | change e => trivial
  | command requestId c around events =>
    simp only [Agent.step] at hs
    split at hs <;> cases hs
    rename_i hen
    have hlab : Labelled (⟨s.node, events, []⟩ : World).node c.owner.key := h.labelled c.owner.key
    simp only [Settles] at hset
    show Truthful (s.execute settings requestId c around events).2.node c.owner.key c.owner.generation
      (s.execute settings requestId c around events).1
    unfold Agent.execute
    rcases execute_cases Prod.mk (fun c => dispatch settings around c) (⟨s.node, events, []⟩ : World) hen.1 hen.2 with
      ⟨message, ha, hno, he⟩ | ⟨store, hobs, he⟩ <;> rw [he]
    · rw [ha] at hset
      exact .of_quiet (hset.1.resolve_left hno)
    · have hsound : Sound c (dispatch settings around c) ⟨s.node, events, []⟩ := by
        unfold dispatch
        split <;> rename_i ha <;> rw [ha] at hset
        · exact sound_startWorkload hlab (hset.1.elim (h.runner_of_agrees hen.1) .inr) hset.2
        · unfold Sound
          rw [Effect.wp_ite]
          split
          · exact sound_stopWorkload hlab
          · rename_i hne
            have hq := hset.resolve_left hne
            rw [Effect.wp_ite]
            split
            · exact sound_cleanup hq
            · exact .of_quiet hq
        · unfold Sound
          rw [Effect.wp_ite]
          split
          · exact sound_observe hlab (hset.imp_left And.right)
          · rename_i hne
            exact .of_quiet (hset.resolve_left fun e => hne e.1)
      exact hsound

/-- In a run whose commands all settle, every answer that ends a workload is true. -/
theorem answersTruthfully_of_settles (settings : AgentSettings) (ls : List Label)
    (h : (system settings).EachStep Settles (system settings).init ls) :
    (system settings).EachStep (AnswersTruthfully settings) (system settings).init ls :=
  System.eachStep_of_invariant (M := system settings) (fun hi hs _ => hi.step hs)
    (fun hi hs hset => hi.truthful hs hset) (Inv.init settings) h

end System

section Example

/-- The START of a training job, and its STATUS. -/
def trainingCommand (action : AgentAction) (execution : Execution) : AgentCommand :=
  ⟨action, ⟨.training, 7, py "tuning", 1⟩, [0], execution⟩

def trainingExecution : Execution :=
  .json (.obj [(py "runner", .str (py "llamafactory")), (py "model_path", .str (py "/models/qwen")),
    (py "dataset_path", .str (py "/datasets/7.jsonl")), (py "stage", .str (py "sft")),
    (py "algorithm", .str (py "lora")), (py "output_dir", .str (py "/checkpoints/7"))])

/-- A node on which the job can be launched, with this check of its output directory. -/
def trainingSurroundings (outputPath : Except PyStr Unit) : Surroundings where
  now := 0
  validationErrors := []
  preflight := ⟨.error .other, .ok ⟨[0], py "/checkpoints/7", .lora, nofun⟩, .error .other⟩
  busyGpuIds := some []
  training := ⟨outputPath, false, [], fun _ => [], .error []⟩
  evaluation := ⟨false, .error []⟩

/-- The job is started, and asked about while its output directory has this check. -/
def observedJob (outputPath : Except PyStr Unit) : List Label :=
  [.command 1 (trainingCommand .start trainingExecution) (trainingSurroundings (.ok ())) [],
    .command 2 (trainingCommand .status .empty) (trainingSurroundings outputPath) []]

def defaults : AgentSettings := ⟨1800, 60, true⟩

/-- A job that runs is answered FAILED if its output directory is gone. -/
theorem missing_output_fails_running_job :
    ¬ (system defaults).EachStep (AnswersTruthfully defaults) (system defaults).init
      (observedJob (.error (py "训练输出目录不存在"))) := by
  decide

theorem answersTruthfully_observedJob :
    (system defaults).EachStep (AnswersTruthfully defaults) (system defaults).init (observedJob (.ok ())) :=
  answersTruthfully_of_settles defaults _ (by decide)

end Example

end Agent

end OpenLLMOps
