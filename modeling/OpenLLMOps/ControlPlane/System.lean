import OpenLLMOps.ControlPlane.Reconciler
import OpenLLMOps.Framework.System

/-!
# The control plane as a transition system

One reconciler runs `run_once` over and over while routes commit between its
transactions. A state is the database and the point that the reconciler has
reached (`Pc`); a step is one transaction, a command sent or its answer.
Answers, clocks, the outcomes of file checks and faults are in the labels, so a
run is any interleaving with any answers. `abort` is an exception or a restart:
the round ends where it is.
-/

namespace OpenLLMOps

open Framework Vllm

/-- A route call with everything that it finds outside the database. -/
inductive RouteCall (casing : Casing)
  | createDeployment (id : Uuid) (payload : AcceptedDeployment casing) (asset : Except HttpError ModelAsset) (now : Time)
  | updateDeployment (id : Uuid) (payload : AcceptedUpdate casing)
  | startDeployment (id : Uuid) (now : Time)
  | stopDeployment (id : Uuid)
  | deleteDeployment (id : Uuid) (agent : Option (Option AgentCommandResponse))
  | createTrainingJob (id : Uuid) (payload : AcceptedJob) (checks : Except HttpError Unit) (now : Time)
  | terminateTrainingJob (id : Uuid) (now : Time)
  | deleteTrainingJob (id : Uuid) (agent : Option (Option AgentCommandResponse))
  | createEvaluationRun (id : Uuid) (payload : AcceptedJob) (checks : Except HttpError Unit) (now : Time)
  | cancelEvaluationRun (id : Uuid) (now : Time)
  | deleteEvaluationRun (id : Uuid) (agent : Option (Option AgentCommandResponse))

/-- The route as one transaction. -/
def RouteCall.run {casing : Casing} (cfg : Settings) : RouteCall casing → Db → Except HttpError Db
  | .createDeployment id payload asset now => OpenLLMOps.createDeployment cfg id payload.toDeploymentCreate asset now
  | .updateDeployment id payload => OpenLLMOps.updateDeployment cfg id payload.toDeploymentUpdate
  | .startDeployment id now => OpenLLMOps.startDeployment id now
  | .stopDeployment id => OpenLLMOps.stopDeployment id
  | .deleteDeployment id agent => OpenLLMOps.deleteDeployment id agent
  | .createTrainingJob id payload checks now => OpenLLMOps.createTrainingJob cfg id payload.toJobCreate checks now
  | .terminateTrainingJob id now => OpenLLMOps.terminateTrainingJob id now
  | .deleteTrainingJob id agent => OpenLLMOps.deleteTrainingJob id agent
  | .createEvaluationRun id payload checks now => OpenLLMOps.createEvaluationRun cfg id payload.toJobCreate checks now
  | .cancelEvaluationRun id now => OpenLLMOps.cancelEvaluationRun id now
  | .deleteEvaluationRun id agent => OpenLLMOps.deleteEvaluationRun id agent

/-- The id that the route draws for a new row. -/
def RouteCall.newId {casing : Casing} : RouteCall casing → Option Uuid
  | .createDeployment id _ _ _ | .createTrainingJob id _ _ _ | .createEvaluationRun id _ _ _ => some id
  | _ => none

/-- A command that the reconciler has sent. `probe` marks the STATUS that precedes the STOP
of a training job. -/
structure Call where
  workload : WorkloadSnapshot
  action : AgentAction
  probe : Bool
  deriving DecidableEq

/-- The point that `run_once` has reached; `todo` are the active workloads that it has
not looked at yet. -/
inductive Pc
  | idle
  | next (todo : List WorkloadSnapshot)
  | waiting (call : Call) (todo : List WorkloadSnapshot)
  | answered (call : Call) (response : AgentCommandResponse) (todo : List WorkloadSnapshot)
  | unanswered (call : Call) (message : PyStr) (todo : List WorkloadSnapshot)
  | reaping
  | claiming
  deriving DecidableEq

/-- The database, the reconciler, and the ids that `uuid4` has returned: it never
returns one again. -/
structure ControlPlane where
  db : Db
  pc : Pc
  used : List Uuid

inductive Label (casing : Casing)
  | route (r : RouteCall casing)
  /-- `_load_active_workloads`, which returned the snapshots in this order. -/
  | begin (order : List WorkloadSnapshot)
  | send
  | endScan
  | answer (response : AgentCommandResponse)
  /-- `NodeAgentError` with this message. -/
  | noAnswer (message : PyStr)
  | apply (env : ObservationEnv)
  | reap (now : Time)
  | claim (env : ClaimEnv)
  | abort

/-- Where `run_once` goes on after a call. -/
def Call.after (c : Call) (todo : List WorkloadSnapshot) : Pc :=
  if c.action = .start then .claiming else .next todo

/-- The first call for an active workload. -/
def firstCall (w : WorkloadSnapshot) : Call :=
  if probeBeforeStop w then ⟨w, .status, true⟩ else ⟨w, actionForActive w, false⟩

/-- Whether the STOP follows the probe. -/
def Call.stopFollows (c : Call) (response : AgentCommandResponse) : Bool :=
  c.probe && response.accepted && response.observedState.live

/-- The transaction after an answer. -/
def Call.transaction (cfg : Settings) (env : ObservationEnv) (c : Call) (response : AgentCommandResponse)
    (db : Db) : Except RoundError Db :=
  if c.action = .start ∧ ¬ response.accepted then
    .ok (failStart c.workload (orText response.message (orText response.errorCode (py "node-agent 明确拒绝启动")))
      env.now db)
  else applyObservation cfg env c.workload response db

section System

variable (casing : Casing) (cfg : Settings) (assetPath : Uuid → Option PyStr)

/-- The state after a claim: a START is sent, the round ends, or the next row is tried. -/
def afterClaim : ScheduleAttempt → Pc
  | .empty | .blocked _ => .idle
  | .claimed w => .waiting ⟨w, .start, false⟩ []
  | .preflightFailed => .claiming

/-- One step. -/
def ControlPlane.step {casing : Casing} (s : ControlPlane) : Label casing → Option ControlPlane
  | .route r =>
    if ∃ id ∈ r.newId, id ∈ s.used then none
    else
      some { s with
        db := match r.run cfg s.db with
          | .error _ => s.db
          | .ok db => db
        used := r.newId.toList ++ s.used }
  | .begin order =>
    if s.pc = .idle ∧ order.Perm (loadActiveWorkloads s.db) then some { s with pc := .next order } else none
  | .send =>
    match s.pc with
    | .next (w :: todo) => some { s with pc := .waiting (firstCall w) todo }
    | _ => none
  | .endScan => if s.pc = .next [] then some { s with pc := .reaping } else none
  | .answer response =>
    match s.pc with
    | .waiting c todo => some { s with pc := .answered c response todo }
    | _ => none
  | .noAnswer message =>
    match s.pc with
    | .waiting c todo => some { s with pc := .unanswered c message todo }
    | _ => none
  | .apply env =>
    match s.pc with
    | .answered c response todo =>
      match c.transaction cfg env response s.db with
      | .error _ => some { s with pc := .idle }
      | .ok db =>
        some { s with
          db := db
          pc := if c.stopFollows response then .waiting ⟨c.workload, .stop, false⟩ todo else c.after todo }
    | .unanswered c message todo =>
      some { s with db := recordAgentError c.workload message s.db, pc := c.after todo }
    | _ => none
  | .reap now =>
    if s.pc = .reaping then some { s with db := reapTerminalExpiredLeases now s.db, pc := .claiming }
    else none
  | .claim env =>
    if s.pc = .claiming then
      match claimFifoHead cfg assetPath env s.db with
      | .error _ => some { s with pc := .idle }
      | .ok (attempt, db) => some { s with db := db, pc := afterClaim attempt }
    else none
  | .abort => some { s with pc := .idle }

/-- The control plane, started on an empty database. -/
def controlPlane : System ControlPlane (Label casing) where
  init := ⟨.empty, .idle, []⟩
  step := ControlPlane.step cfg assetPath

end System

/-- The workloads whose answers the round still waits for or has not applied. -/
def Pc.pending : Pc → List WorkloadSnapshot
  | .next todo => todo
  | .waiting c todo | .answered c _ todo | .unanswered c _ todo => c.workload :: todo
  | .idle | .reaping | .claiming => []

/-- The owner whose START the round waits for. -/
def Pc.starting : Pc → Option LeaseOwner
  | .waiting c _ => if c.action = .start then some c.workload.owner else none
  | _ => none

/-! ## A deployment that runs -/

namespace Sample

def casing : Casing := fun _ c _ => [c]

def cfg : Settings := ⟨2, 30⟩

def assetPath : Uuid → Option PyStr := fun _ => some (py "/models/qwen")

def payload : AcceptedDeployment casing :=
  ⟨⟨py "qwen", py "qwen", 7, .generate, [0], 1, ⟨some 4096, none, none⟩, []⟩, by decide⟩

/-- A job for one GPU. -/
def job (name : PyStr) (gpu : Nat) (h : JobCreate.accepted ⟨name, [gpu]⟩ = true) : AcceptedJob := ⟨⟨name, [gpu]⟩, h⟩

def answer (observed : AgentWorkloadState) : AgentCommandResponse := ⟨true, observed, none, none, []⟩

def observation (now : Time) : ObservationEnv := ⟨now, .escape, .escape, .escape⟩

/-- The snapshot of the deployment's first instance. -/
def qwen (desiresRunning : Bool) : WorkloadSnapshot := ⟨⟨.deployment, 1, py "qwen", 1⟩, [0], desiresRunning, .empty⟩

/-- A deployment is created, claimed and observed running; the next claim finds nothing. -/
def running : List (Label casing) :=
  [.route (.createDeployment 1 payload (.ok ⟨true, .base⟩) 1), .begin [], .endScan, .reap 2, .claim ⟨2, 9, .escape⟩,
    .answer (answer .running), .apply (observation 3), .claim ⟨3, 8, .escape⟩]

end Sample

end OpenLLMOps
