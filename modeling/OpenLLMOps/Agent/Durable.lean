import OpenLLMOps.Agent.StateFile
import OpenLLMOps.Framework.System

/-!
# Writes before side effects

The agent as a process that may fail to write its state file and may crash at any point.
`execute` changes the store in memory and then writes it; a command whose watermark (or
binding) is in memory already writes nothing.

* `ProcessInv`: memory and file differ exactly in what a failed write has left behind
  (`unsavedGenerations`, `unsavedStarts`);
* `durableFirst_iff`: `_dispatch` is entered only with the watermark and the binding on
  disk, and never for an older generation than before, if and only if no command relies on
  a write that has failed.
-/

namespace OpenLLMOps

open Framework

/-- What becomes of `_persist`. -/
inductive Write
  | done
  /-- It raises, before or after the file has been replaced. -/
  | raised (replaced : Bool)
  /-- The process crashes, before or after the file has been replaced. -/
  | crashed (replaced : Bool)
  deriving DecidableEq

/-- The process and its file. The last three fields are a history that no step reads: the commands
that have been dispatched, newest first, and the owners whose watermark or binding has been changed in
memory by a write that failed, and has not been written since. -/
structure AgentProcess (F : Type) where
  memory : CommandStateStore F
  file : Option (CommandStateStore F)
  dispatched : List (OwnerKey × Nat)
  unsavedGenerations : List OwnerKey
  unsavedStarts : List OwnerKey

inductive ProcessLabel
  /-- A command, what becomes of its first write, what its dispatch returns or raises (`none` is a
  crash), and what becomes of the write of its answer. -/
  | command (requestId : Uuid) (c : AgentCommand) (write : Write) (outcome : Option (Except Raised CommandResult))
      (record : Write)
  | restart

namespace AgentProcess

variable {F : Type}

/-- The process is started again. -/
def restart (s : AgentProcess F) : AgentProcess F :=
  { s with memory := .load s.file, unsavedGenerations := [], unsavedStarts := [] }

/-- The file has been replaced. -/
def saved (s : AgentProcess F) : AgentProcess F :=
  { s with file := some s.memory.persisted, unsavedGenerations := [], unsavedStarts := [] }

/-- `_persist`; the flag says that the command goes on. -/
def persist (s : AgentProcess F) : Write → AgentProcess F × Bool
  | .done => (s.saved, true)
  | .raised replaced => (if replaced then s.saved else s, false)
  | .crashed replaced => ((if replaced then s.saved else s).restart, false)

/-- What the file says. -/
def disk (s : AgentProcess F) : CommandStateStore F := s.file.getD .empty

/-- The process with what is to be written. -/
def observed (s : AgentProcess F) (c : AgentCommand) (memory : CommandStateStore F) : AgentProcess F :=
  { s with
    memory := memory
    unsavedGenerations :=
      if s.memory.generation c.owner.key < c.owner.generation then c.owner.key :: s.unsavedGenerations
      else s.unsavedGenerations
    unsavedStarts := if c.action = .start then c.owner.key :: s.unsavedStarts else s.unsavedStarts }

/-- `advance_generation` or `bind_start` has something to write. -/
def writes (s : AgentProcess F) (c : AgentCommand) : Bool :=
  s.memory.generation c.owner.key < c.owner.generation ||
    (decide (c.action = .start) && ((Dict.get? s.memory.starts c.owner.key).filter (·.generation = c.owner.generation)).isNone)

section Step

variable (fingerprint : Option Uuid → AgentCommand → F)

/-- `put_request`, unless an exception escapes before it. -/
def recorded (s : AgentProcess F) (requestId : Uuid) (c : AgentCommand) (result : Option CommandResult)
    (record : Write) : AgentProcess F :=
  match result with
  | none => s
  | some result =>
    ({ s with memory := s.memory.putRequest requestId (fingerprint (some requestId) c) result }.persist record).1

/-- `_dispatch` and what follows it. -/
def dispatch (s : AgentProcess F) (requestId : Uuid) (c : AgentCommand) (outcome : Option (Except Raised CommandResult))
    (record : Write) : AgentProcess F :=
  let s := { s with dispatched := (c.owner.key, c.owner.generation) :: s.dispatched }
  match outcome with
  | none => s.restart
  | some outcome => s.recorded fingerprint requestId c (answer? outcome) record

/-- The file has the watermark of the command, and the binding of a START. -/
def Recorded (s : AgentProcess F) (c : AgentCommand) : Prop :=
  c.owner.generation ≤ s.disk.generation c.owner.key ∧
    (c.action = .start → Dict.get? s.disk.starts c.owner.key = some ⟨c.owner.generation, fingerprint none c⟩)

/-- No command is dispatched after one of a newer generation of its owner. -/
def NoOlder (s : AgentProcess F) : Prop :=
  s.dispatched.Pairwise fun new old => new.1 = old.1 → old.2 ≤ new.2

variable [DecidableEq F]

/-- `execute` up to the dispatch; the flag says that `_dispatch` is entered. -/
def arrive (s : AgentProcess F) (requestId : Uuid) (c : AgentCommand) (write record : Write) : AgentProcess F × Bool :=
  if c.owner.generation < s.memory.generation c.owner.key then (s, false)
  else
    match s.memory.getRequest requestId with
    | some _ => (s, false)
    | none =>
      match s.memory.observe fingerprint c with
      | .error message =>
        let result := rejected 409 message (py "generation_reused")
        let memory := s.memory.putRequest requestId (fingerprint (some requestId) c) result
        (({ s with memory := memory }.persist record).1, false)
      | .ok memory =>
        if s.writes c then
          (s.observed c memory).persist write
        else (s, true)

/-- One step; the endpoint has checked that the generation is at least 1. -/
def step (s : AgentProcess F) : ProcessLabel → Option (AgentProcess F)
  | .restart => some s.restart
  | .command requestId c write outcome record =>
    if 1 ≤ c.owner.generation then
      let (s, entered) := s.arrive fingerprint requestId c write record
      some (if entered then s.dispatch fingerprint requestId c outcome record else s)
    else none

/-- The agent of a new node. -/
def system : System (AgentProcess F) ProcessLabel where
  init := ⟨.empty, none, [], [], []⟩
  step := step fingerprint

/-- When `_dispatch` is entered, the file has the watermark and the binding. -/
def DurableFirst (s : AgentProcess F) (l : ProcessLabel) (_ : AgentProcess F) : Prop :=
  match l with
  | .command requestId c write _ record =>
    (s.arrive fingerprint requestId c write record).2 = true →
      (s.arrive fingerprint requestId c write record).1.Recorded fingerprint c
  | .restart => True

/-- A command that is dispatched without a write of its own does not rely on a write that has
failed. -/
def SavedBefore (s : AgentProcess F) (l : ProcessLabel) (_ : AgentProcess F) : Prop :=
  match l with
  | .command requestId c write _ record =>
    (s.arrive fingerprint requestId c write record).2 = true → s.writes c = false →
      c.owner.key ∉ s.unsavedGenerations ∧ (c.action = .start → c.owner.key ∉ s.unsavedStarts)
  | .restart => True

end Step

/-! ## The invariant -/

/-- What memory and file have in common. -/
structure ProcessInv (s : AgentProcess F) : Prop where
  memory : s.memory.WellFormed
  disk : s.disk.WellFormed
  generations : ∀ k, if k ∈ s.unsavedGenerations then s.disk.generation k < s.memory.generation k
    else s.disk.generation k = s.memory.generation k
  starts : ∀ k, if k ∈ s.unsavedStarts then
      ∃ b, Dict.get? s.memory.starts k = some b ∧ ∀ b' ∈ Dict.get? s.disk.starts k, b'.generation < b.generation
    else Dict.get? s.disk.starts k = Dict.get? s.memory.starts k

section Invariant

variable {s : AgentProcess F} {c : AgentCommand}

theorem ProcessInv.init : ProcessInv (⟨.empty, none, [], [], []⟩ : AgentProcess F) :=
  ⟨.empty, .empty, fun _ => rfl, fun _ => rfl⟩

theorem ProcessInv.load (h : ProcessInv s) : CommandStateStore.load s.file = s.disk := by
  have hdisk := h.disk
  unfold AgentProcess.disk at hdisk ⊢
  cases hfile : s.file with
  | none => rfl
  | some file =>
    rw [hfile] at hdisk
    exact CommandStateStore.load_eq hdisk

theorem ProcessInv.restart (h : ProcessInv s) : ProcessInv s.restart := by
  have hmemory : s.restart.memory = s.disk := h.load
  refine ⟨?_, h.disk, fun k => ?_, fun k => ?_⟩
  · rw [hmemory]
    exact h.disk
  · rw [hmemory]
    exact rfl
  · rw [hmemory]
    exact rfl

/-- A write that succeeds leaves nothing behind. -/
theorem ProcessInv.saved (h : s.memory.WellFormed) : ProcessInv s.saved :=
  ⟨h, h.persisted, fun k => CommandStateStore.generation_persisted h k, fun k => CommandStateStore.starts_persisted h k⟩

theorem ProcessInv.persist (h : ProcessInv s) (write : Write) : ProcessInv (s.persist write).1 := by
  have hreplaced (replaced : Bool) : ProcessInv (if replaced then s.saved else s) := by
    split
    · exact .saved h.memory
    · exact h
  cases write with
  | done => exact .saved h.memory
  | raised replaced => exact hreplaced replaced
  | crashed replaced => exact (hreplaced replaced).restart

/-- What the file says of the watermarks only grows. -/
theorem ProcessInv.le (h : ProcessInv s) (k : OwnerKey) : s.disk.generation k ≤ s.memory.generation k := by
  have hk := h.generations k
  split at hk
  · exact Nat.le_of_lt hk
  · exact hk.le

/-- A write can only add to the watermarks of the file. -/
theorem ProcessInv.disk_persist (h : ProcessInv s) (write : Write) (k : OwnerKey) :
    s.disk.generation k ≤ (s.persist write).1.disk.generation k := by
  have hsaved : s.disk.generation k ≤ s.saved.disk.generation k := by
    show _ ≤ s.memory.persisted.generation k
    rw [CommandStateStore.generation_persisted h.memory]
    exact h.le k
  have hreplaced (replaced : Bool) : s.disk.generation k ≤ (if replaced then s.saved else s).disk.generation k := by
    split
    · exact hsaved
    · exact Nat.le_refl _
  cases write with
  | done => exact hsaved
  | raised replaced => exact hreplaced replaced
  | crashed replaced => exact hreplaced replaced

theorem dispatched_persist (write : Write) : (s.persist write).1.dispatched = s.dispatched := by
  have hreplaced (replaced : Bool) : (if replaced then s.saved else s).dispatched = s.dispatched := by
    split <;> rfl
  cases write with
  | done => rfl
  | raised replaced => exact hreplaced replaced
  | crashed replaced => exact hreplaced replaced

/-- The memory gets another answer. -/
theorem ProcessInv.of_memory (h : ProcessInv s) {memory : CommandStateStore F} (hmemory : memory.WellFormed)
    (hg : ∀ k, memory.generation k = s.memory.generation k)
    (hs : ∀ k, Dict.get? memory.starts k = Dict.get? s.memory.starts k) : ProcessInv { s with memory := memory } := by
  refine ⟨hmemory, h.disk, fun k => ?_, fun k => ?_⟩
  · show if k ∈ s.unsavedGenerations then s.disk.generation k < memory.generation k else _ = memory.generation k
    rw [hg]
    exact h.generations k
  · show if k ∈ s.unsavedStarts then ∃ b, Dict.get? memory.starts k = some b ∧ _ else _ = Dict.get? memory.starts k
    rw [hs]
    exact h.starts k

theorem ProcessInv.putRequest (h : ProcessInv s) (requestId : Uuid) (f : F) (result : CommandResult) :
    ProcessInv { s with memory := s.memory.putRequest requestId f result } :=
  h.of_memory (h.memory.putRequest requestId f result) (s.memory.generation_putRequest requestId f result)
    fun k => by rw [CommandStateStore.starts_putRequest]

/-- The binding of the file is as old as that of the memory. -/
theorem ProcessInv.older (h : ProcessInv s) {k : OwnerKey} {g : Nat}
    (hmemory : ∀ b, Dict.get? s.memory.starts k = some b → b.generation < g) {b' : StartBinding F}
    (hb' : Dict.get? s.disk.starts k = some b') : b'.generation < g := by
  have hk := h.starts k
  split at hk
  · obtain ⟨b, hb, hlt⟩ := hk
    exact Nat.lt_trans (hlt b' hb') (hmemory b hb)
  · exact hmemory b' (hk ▸ hb')

/-- A command that has something to write is of a newer generation than the binding. -/
theorem ProcessInv.binding_of_writes (h : ProcessInv s) (hg : s.memory.generation c.owner.key ≤ c.owner.generation)
    (hw : s.writes c = true) (b : StartBinding F) (hb : Dict.get? s.memory.starts c.owner.key = some b) :
    b.generation < c.owner.generation := by
  have hle := (h.memory.bound c.owner.key b hb).2
  simp only [writes, hb, Bool.or_eq_true, decide_eq_true_eq, Bool.and_eq_true, Option.isNone_iff_eq_none,
    Option.filter_eq_none_iff] at hw
  rcases hw with hlt | ⟨-, hne⟩
  · omega
  · have hne := hne b rfl
    omega

variable {fingerprint : Option Uuid → AgentCommand → F}

variable (fingerprint) in
/-- What follows the dispatch. -/
theorem ProcessInv.dispatch (h : ProcessInv s) (c : AgentCommand) (requestId : Uuid) (outcome : Option (Except Raised CommandResult))
    (record : Write) :
    let p := s.dispatch fingerprint requestId c outcome record
    ProcessInv p ∧ p.dispatched = (c.owner.key, c.owner.generation) :: s.dispatched ∧
      ∀ k, s.disk.generation k ≤ p.disk.generation k := by
  have hstart : ProcessInv { s with dispatched := (c.owner.key, c.owner.generation) :: s.dispatched } :=
    ⟨h.memory, h.disk, h.generations, h.starts⟩
  cases outcome with
  | none => exact ⟨hstart.restart, rfl, fun k => Nat.le_refl _⟩
  | some outcome =>
    simp only [AgentProcess.dispatch, recorded]
    split
    · exact ⟨hstart, rfl, fun k => Nat.le_refl _⟩
    · rename_i result _
      have hput := hstart.putRequest requestId (fingerprint (some requestId) c) result
      generalize s.memory.putRequest requestId (fingerprint (some requestId) c) result = memory at hput ⊢
      exact ⟨hput.persist record, dispatched_persist record, fun k => hput.disk_persist record k⟩

variable [DecidableEq F] {memory : CommandStateStore F}

/-- The cases of `arrive`. -/
inductive Arrival (fingerprint : Option Uuid → AgentCommand → F) (s : AgentProcess F) (requestId : Uuid)
    (c : AgentCommand) (write record : Write) : AgentProcess F × Bool → Prop
  | answered : Arrival fingerprint s requestId c write record (s, false)
  | refused {memory : CommandStateStore F} {f : F} {result : CommandResult}
      (hmemory : memory = s.memory.putRequest requestId f result) :
      Arrival fingerprint s requestId c write record (({ s with memory := memory }.persist record).1, false)
  | written {memory : CommandStateStore F} (hg : s.memory.generation c.owner.key ≤ c.owner.generation)
      (hobs : s.memory.observe fingerprint c = .ok memory) (hw : s.writes c = true) :
      Arrival fingerprint s requestId c write record ((s.observed c memory).persist write)
  | ready {memory : CommandStateStore F} (hg : s.memory.generation c.owner.key ≤ c.owner.generation)
      (hobs : s.memory.observe fingerprint c = .ok memory) (hw : s.writes c = false) :
      Arrival fingerprint s requestId c write record (s, true)

theorem arrive_cases (fingerprint : Option Uuid → AgentCommand → F) (s : AgentProcess F) (requestId : Uuid)
    (c : AgentCommand) (write record : Write) :
    Arrival fingerprint s requestId c write record (s.arrive fingerprint requestId c write record) := by
  unfold arrive
  split
  · exact .answered
  rename_i hg
  split
  · exact .answered
  split
  · exact .refused rfl
  rename_i memory hobs
  split
  · exact .written (Nat.not_lt.mp hg) hobs ‹_›
  · exact .ready (Nat.not_lt.mp hg) hobs (Bool.eq_false_iff.mpr ‹_›)

/-- The store after `bind_start` or `advance_generation`. -/
theorem generation_observe (hobs : s.memory.observe fingerprint c = .ok memory) (k : OwnerKey) :
    memory.generation k =
      if c.owner.key = k then max (s.memory.generation c.owner.key) c.owner.generation else s.memory.generation k := by
  rw [← CommandStateStore.generation_advanceGeneration]
  unfold CommandStateStore.observe at hobs
  split at hobs
  · rw [CommandStateStore.generation, CommandStateStore.generations_bindStart hobs, CommandStateStore.generation]
  · cases hobs
    rfl

theorem starts_observe (hobs : s.memory.observe fingerprint c = .ok memory) (k : OwnerKey) :
    Dict.get? memory.starts k =
      if c.action = .start ∧ c.owner.key = k then some ⟨c.owner.generation, fingerprint none c⟩
      else Dict.get? s.memory.starts k := by
  unfold CommandStateStore.observe at hobs
  split at hobs
  · rename_i hstart
    rw [CommandStateStore.get?_bindStart hobs]
    simp only [hstart, true_and]
  · rename_i hstart
    cases hobs
    rw [CommandStateStore.starts_advanceGeneration, if_neg (fun h => hstart h.1)]

/-- The memory is ahead of the file by what is to be written. -/
theorem ProcessInv.observed (h : ProcessInv s) (hc : 1 ≤ c.owner.generation)
    (hg : s.memory.generation c.owner.key ≤ c.owner.generation)
    (hobs : s.memory.observe fingerprint c = .ok memory) (hw : s.writes c = true) : ProcessInv (s.observed c memory) := by
  have hmemory : memory.WellFormed := by
    have hobs := hobs
    unfold CommandStateStore.observe at hobs
    split at hobs
    · exact h.memory.bindStart hc hobs
    · cases hobs
      exact h.memory.advanceGeneration hc
  refine ⟨hmemory, h.disk, fun k => ?_, fun k => ?_⟩
  · have hk := h.generations k
    have hle := h.le k
    simp only [AgentProcess.observed, generation_observe hobs]
    by_cases e : c.owner.key = k
    · subst e
      rw [if_pos rfl, Nat.max_eq_right hg]
      by_cases hlt : s.memory.generation c.owner.key < c.owner.generation
      · rw [if_pos hlt, if_pos List.mem_cons_self]
        exact Nat.lt_of_le_of_lt hle hlt
      · rw [if_neg hlt]
        have heq : s.memory.generation c.owner.key = c.owner.generation := by omega
        rwa [heq] at hk
    · rw [if_neg e]
      have hmem : (k ∈ if s.memory.generation c.owner.key < c.owner.generation then
          c.owner.key :: s.unsavedGenerations else s.unsavedGenerations) ↔ k ∈ s.unsavedGenerations := by
        split
        · rw [List.mem_cons, or_iff_right (Ne.symm e)]
        · exact Iff.rfl
      simp only [hmem]
      exact hk
  · have hk := h.starts k
    simp only [AgentProcess.observed, starts_observe hobs]
    by_cases e : c.action = .start ∧ c.owner.key = k
    · obtain ⟨hstart, rfl⟩ := e
      simp only [hstart, and_self, if_true, List.mem_cons, true_or]
      exact ⟨_, rfl, fun b' hb' => h.older (h.binding_of_writes hg hw) hb'⟩
    · rw [if_neg e]
      have hmem : (k ∈ if c.action = .start then c.owner.key :: s.unsavedStarts else s.unsavedStarts) ↔
          k ∈ s.unsavedStarts := by
        split
        · rename_i hstart
          rw [List.mem_cons, or_iff_right fun hk => e ⟨hstart, hk.symm⟩]
        · exact Iff.rfl
      simp only [hmem]
      exact hk

variable (fingerprint) in
/-- What a command leaves before the dispatch. -/
theorem ProcessInv.arrive (h : ProcessInv s) (hc : 1 ≤ c.owner.generation) (requestId : Uuid) (write record : Write) :
    let p := s.arrive fingerprint requestId c write record
    ProcessInv p.1 ∧ p.1.dispatched = s.dispatched ∧ (∀ k, s.disk.generation k ≤ p.1.disk.generation k) ∧
      (p.2 = true → s.memory.generation c.owner.key ≤ c.owner.generation) := by
  have hcases := arrive_cases fingerprint s requestId c write record
  generalize hp : s.arrive fingerprint requestId c write record = p at hcases
  dsimp only
  cases hcases with
  | answered => exact ⟨h, rfl, fun k => Nat.le_refl _, nofun⟩
  | @refused memory f result hmemory =>
    have hput : ProcessInv { s with memory := memory } := by
      rw [hmemory]
      exact h.putRequest requestId f result
    exact ⟨hput.persist record, dispatched_persist record, fun k => hput.disk_persist record k, nofun⟩
  | written hg hobs hw =>
    have hobserved := h.observed hc hg hobs hw
    exact ⟨hobserved.persist write, dispatched_persist write, fun k => hobserved.disk_persist write k, fun _ => hg⟩
  | ready hg hobs hw => exact ⟨h, rfl, fun k => Nat.le_refl _, fun _ => hg⟩

/-- The watermark and the binding are in memory. -/
theorem memory_of_ready {memory : CommandStateStore F}
    (hg : s.memory.generation c.owner.key ≤ c.owner.generation) (hobs : s.memory.observe fingerprint c = .ok memory)
    (hw : s.writes c = false) : s.memory.generation c.owner.key = c.owner.generation ∧ (c.action = .start →
      Dict.get? s.memory.starts c.owner.key = some ⟨c.owner.generation, fingerprint none c⟩) := by
  simp only [writes, Bool.or_eq_false_iff, decide_eq_false_iff_not] at hw
  obtain ⟨hlt, hbinding⟩ := hw
  refine ⟨by omega, fun hstart => ?_⟩
  rw [decide_eq_true hstart, Bool.true_and, Option.isNone_eq_false_iff, Option.isSome_iff_exists] at hbinding
  obtain ⟨b, hb⟩ := hbinding
  simp only [CommandStateStore.observe, if_pos hstart, CommandStateStore.bindStart, hb] at hobs
  split at hobs <;> [cases hobs; skip]
  rename_i hf
  obtain ⟨hb, hgen⟩ := Option.filter_eq_some_iff.mp hb
  rw [hb, ← of_decide_eq_true hgen, ← not_not.mp hf]

/-- The dispatch is entered with everything written exactly if it does not rely on a write that has
failed. -/
theorem ProcessInv.recorded_iff (h : ProcessInv s) (hc : 1 ≤ c.owner.generation) {requestId : Uuid} {write record : Write}
    (hentered : (s.arrive fingerprint requestId c write record).2 = true) :
    (s.arrive fingerprint requestId c write record).1.Recorded fingerprint c ↔
      (s.writes c = false → c.owner.key ∉ s.unsavedGenerations ∧ (c.action = .start → c.owner.key ∉ s.unsavedStarts)) := by
  have hcases := arrive_cases fingerprint s requestId c write record
  generalize s.arrive fingerprint requestId c write record = p at hcases hentered
  cases hcases with
  | answered => cases hentered
  | refused hmemory => cases hentered
  | @written memory hg hobs hw =>
    have hmemory : memory.WellFormed := (h.observed hc hg hobs hw).memory
    cases write with
    | raised replaced | crashed replaced => cases hentered
    | done =>
      refine ⟨fun _ hnot => ?_, fun _ => ⟨?_, fun hstart => ?_⟩⟩
      · rw [hw] at hnot
        cases hnot
      · show c.owner.generation ≤ memory.persisted.generation c.owner.key
        rw [CommandStateStore.generation_persisted hmemory, generation_observe hobs, if_pos rfl]
        exact Nat.le_max_right _ _
      · show Dict.get? memory.persisted.starts c.owner.key = _
        rw [CommandStateStore.starts_persisted hmemory, starts_observe hobs, if_pos ⟨hstart, rfl⟩]
  | ready hg hobs hw =>
    obtain ⟨hgen, hbinding⟩ := memory_of_ready hg hobs hw
    have hk := h.generations c.owner.key
    have hb := h.starts c.owner.key
    refine ⟨fun hrec _ => ⟨fun hmem => ?_, fun hstart hmem => ?_⟩, fun hsaved => ?_⟩
    · rw [if_pos hmem] at hk
      have hle : c.owner.generation ≤ s.disk.generation c.owner.key := hrec.1
      omega
    · rw [if_pos hmem] at hb
      obtain ⟨b, hmemory, hlt⟩ := hb
      rw [hbinding hstart] at hmemory
      cases hmemory
      exact absurd (hlt _ (hrec.2 hstart)) (Nat.lt_irrefl _)
    · obtain ⟨hgenerations, hstarts⟩ := hsaved hw
      rw [if_neg hgenerations] at hk
      refine ⟨(hk.trans hgen).ge, fun hstart => ?_⟩
      rw [if_neg (hstarts hstart)] at hb
      exact hb.trans (hbinding hstart)

/-- The commands that have been dispatched are not above the file. -/
structure DispatchInv (s : AgentProcess F) : Prop extends ProcessInv s where
  noOlder : s.NoOlder
  durable : ∀ d ∈ s.dispatched, d.2 ≤ s.disk.generation d.1

/-- The step of a command that is not dispatched, or of one that is. -/
theorem ProcessInv.step_cases (h : ProcessInv s) {l : ProcessLabel} {s' : AgentProcess F}
    (hs : AgentProcess.step fingerprint s l = some s') :
    ProcessInv s' ∧ (∀ k, s.disk.generation k ≤ s'.disk.generation k) ∧
      (s'.dispatched = s.dispatched ∨
        ∃ requestId c write outcome record, l = .command requestId c write outcome record ∧ 1 ≤ c.owner.generation ∧
          (s.arrive fingerprint requestId c write record).2 = true ∧
          s.memory.generation c.owner.key ≤ c.owner.generation ∧
          s'.dispatched = (c.owner.key, c.owner.generation) :: s.dispatched ∧
          ∀ k, (s.arrive fingerprint requestId c write record).1.disk.generation k ≤ s'.disk.generation k) := by
  cases l with
  | restart =>
    cases hs
    exact ⟨h.restart, fun k => Nat.le_refl _, .inl rfl⟩
  | command requestId c write outcome record =>
    simp only [AgentProcess.step] at hs
    split at hs <;> [skip; cases hs]
    rename_i hc
    obtain ⟨harrive, hdispatched, hle, hg⟩ := h.arrive fingerprint hc requestId write record
    cases hs
    split
    · rename_i hentered
      obtain ⟨hdispatch, hd, hle'⟩ := harrive.dispatch fingerprint c requestId outcome record
      refine ⟨hdispatch, fun k => (hle k).trans (hle' k), .inr ⟨requestId, c, write, outcome, record, rfl, hc, hentered,
        hg hentered, ?_, hle'⟩⟩
      rw [hd, hdispatched]
    · exact ⟨harrive, hle, .inl hdispatched⟩

theorem ProcessInv.durable_iff_saved (h : ProcessInv s) {l : ProcessLabel} {s' : AgentProcess F}
    (hs : AgentProcess.step fingerprint s l = some s') : s.DurableFirst fingerprint l s' ↔ s.SavedBefore fingerprint l s' := by
  cases l with
  | restart => exact Iff.rfl
  | command requestId c write outcome record =>
    simp only [AgentProcess.step] at hs
    split at hs <;> [skip; cases hs]
    exact forall_congr' fun hentered => h.recorded_iff ‹_› hentered

theorem DispatchInv.step (h : DispatchInv s) {l : ProcessLabel} {s' : AgentProcess F}
    (hs : AgentProcess.step fingerprint s l = some s') (hc : s.SavedBefore fingerprint l s') : DispatchInv s' := by
  have hdurable := (h.durable_iff_saved hs).mpr hc
  obtain ⟨hinv, hle, hd | ⟨requestId, c, write, outcome, record, rfl, hpos, hentered, hg, hd, hle'⟩⟩ := h.step_cases hs
  · refine ⟨hinv, ?_, fun d hmem => (h.durable d (hd ▸ hmem)).trans (hle d.1)⟩
    rw [NoOlder, hd]
    exact h.noOlder
  · refine ⟨hinv, ?_, fun d hmem => ?_⟩
    · rw [NoOlder, hd]
      refine List.pairwise_cons.mpr ⟨fun old hold e => ?_, h.noOlder⟩
      have holder := h.durable old hold
      have hmemory := h.le old.1
      have e : c.owner.key = old.1 := e
      rw [← e] at holder hmemory
      exact holder.trans (hmemory.trans hg)
    · rw [hd] at hmem
      rcases List.mem_cons.mp hmem with rfl | hmem
      · exact (hdurable hentered).1.trans (hle' _)
      · exact (h.durable d hmem).trans (hle d.1)

end Invariant

/-- In a run every dispatch is entered with its watermark and its binding on disk, and none is of an
older generation than one before, if and only if no command relies on a write that has failed. -/
theorem durableFirst_iff {F : Type} [DecidableEq F] (fingerprint : Option Uuid → AgentCommand → F)
    (ls : List ProcessLabel) :
    (system fingerprint).EachStep (DurableFirst fingerprint) (system fingerprint).init ls ∧
        (system fingerprint).Always NoOlder (system fingerprint).init ls ↔
      (system fingerprint).EachStep (SavedBefore fingerprint) (system fingerprint).init ls := by
  have hstep {s l s'} (h : ProcessInv s) (hs : (system fingerprint).step s l = some s')
      (_ : s.SavedBefore fingerprint l s') : ProcessInv s' := (h.step_cases hs).1
  have hdispatch {s l s'} (h : DispatchInv s) (hs : (system fingerprint).step s l = some s')
      (hc : s.SavedBefore fingerprint l s') : DispatchInv s' := h.step hs hc
  have heach : (system fingerprint).EachStep (DurableFirst fingerprint) (system fingerprint).init ls ↔
      (system fingerprint).EachStep (SavedBefore fingerprint) (system fingerprint).init ls :=
    System.eachStep_iff_eachStep hstep (fun h hs => h.durable_iff_saved hs) ProcessInv.init
  refine ⟨fun h => heach.mp h.1, fun h => ⟨heach.mpr h, ?_⟩⟩
  exact System.always_of_invariant hdispatch DispatchInv.noOlder ⟨.init, List.Pairwise.nil, nofun⟩ h

section Sample

/-- A STATUS of a deployment. -/
def Sample.status (generation : Nat) : AgentCommand :=
  ⟨.status, ⟨.deployment, 1, py "qwen", generation⟩, [0], .empty⟩

/-- The first write of generation 2 fails, its retry is dispatched, and the process is started again. -/
def Sample.failedWrite : List ProcessLabel :=
  [.command 1 (Sample.status 2) (.raised false) none .done,
    .command 2 (Sample.status 2) .done (some (.error .docker)) .done, .restart,
    .command 3 (Sample.status 1) .done (some (.error .docker)) .done]

/-- The retry writes nothing, and after the restart generation 1 is dispatched again. -/
theorem failed_write_loses_watermark :
    ¬ ((system Prod.mk).EachStep (DurableFirst Prod.mk) (system Prod.mk).init Sample.failedWrite ∧
      (system Prod.mk).Always NoOlder (system Prod.mk).init Sample.failedWrite) := by
  rintro ⟨-, h⟩
  have hrun : (system Prod.mk).run (system Prod.mk).init Sample.failedWrite =
      some ⟨⟨[(⟨.deployment, 1⟩, 1)], [], []⟩, some ⟨[(⟨.deployment, 1⟩, 1)], [], []⟩,
        [(⟨.deployment, 1⟩, 1), (⟨.deployment, 1⟩, 2)], [], []⟩ := by rfl
  have hend := h.of_run hrun
  have hle : 2 ≤ 1 := (List.pairwise_cons.mp hend).1 _ List.mem_cons_self rfl
  omega

end Sample

end AgentProcess

end OpenLLMOps
