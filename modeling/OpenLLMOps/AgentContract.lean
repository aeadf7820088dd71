import OpenLLMOps.Vllm.ControlPlane

/-!
# The contract between the control plane and the agent

`AgentCommand` and `AgentCommandResponse`, which `schemas/agent_contract.py` of
the control plane and `agent_contract.py` of the agent define alike. The
execution of a command is any JSON object; the ones that the model looks into
have constructors of their own.
-/

namespace OpenLLMOps

open Framework Vllm

inductive AgentAction
  | start
  | stop
  | status
  deriving DecidableEq

inductive AgentWorkloadState
  | absent
  | starting
  | running
  | stopping
  | succeeded
  | failed
  deriving DecidableEq

namespace AgentWorkloadState

def value : AgentWorkloadState → PyStr
  | absent => py "absent"
  | starting => py "starting"
  | running => py "running"
  | stopping => py "stopping"
  | succeeded => py "succeeded"
  | failed => py "failed"

/-- The observations on which a lease is renewed. -/
def live : AgentWorkloadState → Bool
  | starting | running | stopping => true
  | absent | succeeded | failed => false

end AgentWorkloadState

/-- `AgentCommand.execution`. -/
inductive Execution
  /-- The empty object of STATUS and of an ordinary STOP. -/
  | empty
  /-- `CLEANUP_EXECUTION`. -/
  | cleanupTerminal
  /-- The execution of a deployment. -/
  | vllm (e : DeploymentExecution)
  /-- The execution of a job, or any other object. -/
  | json (e : Json)
  deriving DecidableEq

/-- The port of a deployment's execution. -/
def Execution.port? : Execution → Option (Option Int)
  | .vllm e => some e.port
  | _ => none

/-- What a command says, without its `request_id`. -/
structure AgentCommand where
  action : AgentAction
  owner : LeaseOwner
  gpuIds : List Nat
  execution : Execution
  deriving DecidableEq

/-- `AgentCommandResponse`: the fields that the control plane reads. -/
structure AgentCommandResponse where
  accepted : Bool
  observedState : AgentWorkloadState
  message : Option PyStr
  errorCode : Option PyStr
  metadata : List (PyStr × Json)
  deriving DecidableEq

/-- `message or default`: an empty message counts as none. -/
def orText (message : Option PyStr) (default : PyStr) : PyStr :=
  match message with
  | none | some [] => default
  | some s => s

end OpenLLMOps
