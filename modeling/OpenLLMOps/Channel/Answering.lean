import OpenLLMOps.Agent.Definite
import OpenLLMOps.Channel.Network

/-!
# What the processor answers

The `processor` of `execute_command` is the command processor of the agent (`answering`), whose store has seen any
commands and restarts (`processor`). The control plane takes every answer of it, and no error of `execute_command` for
one (`settles_outcome`).
-/

namespace OpenLLMOps.Wire

open Framework

/-- The command as `CommandProcessor` takes it. Its dispatcher does not read the GPUs. -/
def AgentCommand.toProcessor (c : AgentCommand) : OpenLLMOps.AgentCommand :=
  ⟨c.action, c.owner, c.gpuIds.map Int.toNat, .json (.obj c.execution)⟩

inductive ProcessorLabel
  /-- A command, with what it finds on the node. -/
  | execute (around : OpenLLMOps.Surroundings) (world : World) (command : AgentCommand)
  /-- The agent is started again, with the file that it has written. -/
  | restart

section Processor

variable {F : Type} [DecidableEq F] (settings : AgentSettings) (fingerprint : Option Uuid → AgentCommand → F)

/-- `processor.execute` with a store, on a node: the answer, if no exception escapes, the store and the node. -/
def process (store : CommandStateStore F) (around : OpenLLMOps.Surroundings) (world : World) (command : AgentCommand) :
    Option CommandResult × CommandStateStore F × World :=
  execute (fun requestId _ => fingerprint requestId command) (fun c => dispatch settings around c) command.requestId
    command.toProcessor store world

/-- What `processor.execute` returns: nothing either if its state cannot be written. -/
def answered (store : CommandStateStore F) (around : OpenLLMOps.Surroundings) (world : World) (written : Bool)
    (command : AgentCommand) : Option CommandResult :=
  if written then (process settings fingerprint store around world command).1 else none

/-- The store of the processor, from a new node. -/
def processor : System (CommandStateStore F) ProcessorLabel where
  init := .empty
  step store
    | .execute around world command => some (process settings fingerprint store around world command).2.1
    | .restart => some (.load (some store.persisted))

variable {settings fingerprint}

theorem answered_definite {store : CommandStateStore F} (hstore : store.Definite) {around : OpenLLMOps.Surroundings}
    {world : World} {written : Bool} {command : AgentCommand} {result : CommandResult}
    (h : answered settings fingerprint store around world written command = some result) : result.Definite :=
  execute_definite hstore (Option.ite_none_right_eq_some.mp h).2

/-- The answers in the cache are definite, after any commands and restarts. -/
theorem processor_definite (ls : List ProcessorLabel) :
    (processor settings fingerprint).Always CommandStateStore.Definite (processor settings fingerprint).init ls := by
  refine System.always_of_invariant (fun {store l store'} hstore hs _ => ?_) id ?_ (.of_true _ ls)
  · cases l with
    | execute around world command =>
      obtain rfl := Option.some.inj hs
      exact hstore.execute
    | restart =>
      obtain rfl := Option.some.inj hs
      exact hstore.reload
  · exact fun _ he => absurd he List.not_mem_nil

end Processor

section Answering

variable {D : Type}

/-- What `execute_command` makes of the answer, given at a time. An exception that escapes has a message if it is a
`RunnerError`, `DockerException`, `OSError` or `RuntimeError`. -/
def outcome (result : Option CommandResult) (observedAt : D) (escaped : Option PyStr) (requestId : Uuid) : Outcome D :=
  match result, escaped with
  | some result, _ =>
    .answer ⟨requestId, result.response.accepted, result.response.observedState, observedAt, result.response.message,
      result.response.errorCode, result.response.metadata⟩ result.statusCode
  | none, some message => .unavailable message
  | none, none => .fault

/-- The processor of an agent, with the store and the node that it has when a command arrives. -/
def answering {F : Type} [DecidableEq F] (settings : AgentSettings) (fingerprint : Option Uuid → AgentCommand → F)
    (store : CommandStateStore F) (around : OpenLLMOps.Surroundings) (world : World) (written : Bool)
    (observedAt : D) (escaped : Option PyStr) (command : AgentCommand) : Outcome D :=
  outcome (answered settings fingerprint store around world written command) observedAt escaped command.requestId

/-- The control plane takes the answers, and no error for one. -/
theorem settles_outcome {result : Option CommandResult} (hdefinite : ∀ r ∈ result, r.Definite) {observedAt now : D}
    {escaped : Option PyStr} {command : AgentCommand} {r : AgentCommandResponse D} {status : Nat}
    (h : (outcome result observedAt escaped command.requestId).response command now = (r, status)) (body : Bytes)
    (headers : List (PyStr × PyStr)) : HttpResponse.settles ⟨status, body, headers⟩ r.sorted = result.isSome := by
  unfold HttpResponse.settles
  cases result with
  | some result =>
    obtain ⟨rfl, rfl⟩ := Prod.mk.inj h
    dsimp only
    rcases hdefinite result rfl with hok | ⟨hclient, haccepted, hstate, hcode⟩
    · rw [hok]
      rfl
    · rw [if_pos hclient]
      show definiteRejection _ = true
      simp only [definiteRejection, AgentCommandResponse.sorted, haccepted, hstate]
      simpa using hcode
  | none =>
    cases escaped <;> (obtain ⟨rfl, rfl⟩ := Prod.mk.inj h; rfl)

end Answering

end OpenLLMOps.Wire
