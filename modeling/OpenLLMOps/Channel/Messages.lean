import OpenLLMOps.Agent.Processor
import OpenLLMOps.Framework.Json.Sorted

/-!
# Commands and answers as bytes

`AgentCommand` and `AgentCommandResponse` with all their fields, `canonical_json` of them, and how pydantic reads
them back (`validate_command`, `validate_response`). Neither is taken for the other (`command_not_response`,
`response_not_command`): their models forbid the other's fields.
-/

namespace OpenLLMOps.Wire

open Framework

mutual

/-- How deep arrays and objects are in one another. -/
def jsonDepth : Json → Nat
  | .arr xs => depthItems xs + 1
  | .obj kvs => depthEntries kvs + 1
  | _ => 0

def depthItems : List Json → Nat
  | [] => 0
  | x :: xs => max (jsonDepth x) (depthItems xs)

def depthEntries : List (PyStr × Json) → Nat
  | [] => 0
  | (_, v) :: kvs => max (jsonDepth v) (depthEntries kvs)

end

/-- `canonical_json` of what `model_dump` gives; `none` is a `ValueError`. -/
def canonicalJson (v : Json) : Option Bytes := (dumps .canonical 0 v).bind PyStr.encode

/-- What pydantic makes of JSON, the coercions of its lax mode included, and `isoformat` of a time. -/
structure Pydantic (D : Type) where
  json : Bytes → Option Json
  float : PyStr → PyFloat
  int : Json → Option Int
  bool : Json → Option Bool
  uuid : Json → Option Uuid
  datetime : Json → Option D
  isoformat : D → PyStr

variable {D : Type}

/-- A value that comes back from its text. -/
structure Pydantic.Sound (p : Pydantic D) (v : Json) : Prop where
  readable : v.Readable (.plain p.float)
  unicode : v.EachString IsUnicode
  /-- The recursion limit of the parser. -/
  depth : jsonDepth v ≤ 200

/-- What it reads of a canonical text, and of values of the type asked for. -/
structure Pydantic.Reads (p : Pydantic D) : Prop where
  json : ∀ {v body}, p.Sound v → canonicalJson v = some body → p.json body = some (v.sorted .canonical)
  int : ∀ n, p.int (.int n) = some n
  bool : ∀ b, p.bool (.bool b) = some b
  uuid : ∀ u < 2 ^ 128, p.uuid (.str (uuidText u)) = some u
  datetime : ∀ d, p.datetime (.str (p.isoformat d)) = some d
  isoformat : ∀ d, IsUnicode (p.isoformat d)

/-! ## The models -/

/-- `AgentCommand`. -/
structure AgentCommand where
  requestId : Uuid
  action : AgentAction
  owner : LeaseOwner
  gpuIds : List Int
  execution : List (PyStr × Json)
  deriving DecidableEq

/-- `AgentCommandResponse`. -/
structure AgentCommandResponse (D : Type) where
  requestId : Uuid
  accepted : Bool
  observedState : AgentWorkloadState
  observedAt : D
  message : Option PyStr
  errorCode : Option PyStr
  metadata : List (PyStr × Json)
  deriving DecidableEq

def actionValue : AgentAction → PyStr
  | .start => py "start"
  | .stop => py "stop"
  | .status => py "status"

/-- `str | None`. -/
def optionalText : Option PyStr → Json
  | none => .null
  | some s => .str s

def ownerNames : List String := ["type", "id", "name", "generation"]

def commandNames : List String := ["contract_version", "request_id", "action", "owner", "resources", "execution"]

def responseNames : List String :=
  ["contract_version", "request_id", "accepted", "observed_state", "observed_at", "message", "error_code", "metadata"]

/-- `model_dump` of `AgentOwner`. -/
def ownerFields (o : LeaseOwner) : List (PyStr × Json) :=
  [(py "type", .str o.type.value), (py "id", .str (uuidText o.id)), (py "name", .str o.name),
    (py "generation", .int o.generation)]

/-- `model_dump` of `AgentResourceRequest`. -/
def resourceFields (gpuIds : List Int) : List (PyStr × Json) := [(py "gpu_ids", .arr (gpuIds.map .int))]

/-- `model_dump`. -/
def AgentCommand.fields (c : AgentCommand) : List (PyStr × Json) :=
  [(py "contract_version", .str (py "1")), (py "request_id", .str (uuidText c.requestId)),
    (py "action", .str (actionValue c.action)), (py "owner", .obj (ownerFields c.owner)),
    (py "resources", .obj (resourceFields c.gpuIds)), (py "execution", .obj c.execution)]

def AgentCommand.json (c : AgentCommand) : Json := .obj c.fields

/-- `model_dump`. -/
def AgentCommandResponse.fields (p : Pydantic D) (r : AgentCommandResponse D) : List (PyStr × Json) :=
  [(py "contract_version", .str (py "1")), (py "request_id", .str (uuidText r.requestId)),
    (py "accepted", .bool r.accepted), (py "observed_state", .str r.observedState.value),
    (py "observed_at", .str (p.isoformat r.observedAt)), (py "message", optionalText r.message),
    (py "error_code", optionalText r.errorCode), (py "metadata", .obj r.metadata)]

def AgentCommandResponse.json (p : Pydantic D) (r : AgentCommandResponse D) : Json := .obj (r.fields p)

/-! ## Reading them -/

/-- A value of an enumeration. -/
def enumeration {α : Type} (all : List α) (value : α → PyStr) (v : Json) : Option α :=
  (strictStr? v).bind fun s => all.find? fun a => value a = s

def ownerType? : Json → Option LeaseOwnerType := enumeration [.deployment, .training, .evaluation] LeaseOwnerType.value

def action? : Json → Option AgentAction := enumeration [.start, .stop, .status] actionValue

def workloadState? : Json → Option AgentWorkloadState :=
  enumeration [.absent, .starting, .running, .stopping, .succeeded, .failed] AgentWorkloadState.value

/-- `Literal["1"]`. -/
def contractVersion? (v : Json) : Option Unit := if v = .str (py "1") then some () else none

/-- `Field(min_length=1, max_length=128)`. -/
def ownerName? (v : Json) : Option PyStr := (strictStr? v).filter fun s => 1 ≤ s.length ∧ s.length ≤ 128

/-- `str | None`. -/
def optionalText? : Json → Option (Option PyStr)
  | .null => some none
  | v => (strictStr? v).map some

/-- `dict[str, Any]`. -/
def object? : Json → Option (List (PyStr × Json))
  | .obj kvs => some kvs
  | _ => none

section

variable (p : Pydantic D)

/-- `Field(ge=1)`. -/
def generation? (v : Json) : Option Nat := ((p.int v).filter fun n => 1 ≤ n).map Int.toNat

/-- `Field(min_length=1)`. -/
def gpuIds? (v : Json) : Option (List Int) := (strictList? p.int v).filter fun gpuIds => 1 ≤ gpuIds.length

/-- `AgentOwner`. -/
def owner? (v : Json) : Option LeaseOwner := do
  let kvs ← strictFields? ownerNames v
  let type ← requiredField kvs ownerType? "type"
  let id ← requiredField kvs p.uuid "id"
  let name ← requiredField kvs ownerName? "name"
  let generation ← requiredField kvs (generation? p) "generation"
  some ⟨type, id, name, generation⟩

/-- `AgentResourceRequest`. -/
def resources? (v : Json) : Option (List Int) := do
  let kvs ← strictFields? ["gpu_ids"] v
  requiredField kvs (gpuIds? p) "gpu_ids"

/-- `AgentCommand.model_validate`; `fresh` is the default of `request_id`. -/
def AgentCommand.validate (fresh : Uuid) (v : Json) : Option AgentCommand := do
  let kvs ← strictFields? commandNames v
  let _ ← defaultedField kvs () contractVersion? "contract_version"
  let requestId ← defaultedField kvs fresh p.uuid "request_id"
  let action ← requiredField kvs action? "action"
  let owner ← requiredField kvs (owner? p) "owner"
  let gpuIds ← requiredField kvs (resources? p) "resources"
  let execution ← defaultedField kvs [] object? "execution"
  some ⟨requestId, action, owner, gpuIds, execution⟩

/-- `AgentCommandResponse.model_validate`. -/
def AgentCommandResponse.validate (v : Json) : Option (AgentCommandResponse D) := do
  let kvs ← strictFields? responseNames v
  let _ ← defaultedField kvs () contractVersion? "contract_version"
  let requestId ← requiredField kvs p.uuid "request_id"
  let accepted ← requiredField kvs p.bool "accepted"
  let observedState ← requiredField kvs workloadState? "observed_state"
  let observedAt ← requiredField kvs p.datetime "observed_at"
  let message ← defaultedField kvs none optionalText? "message"
  let errorCode ← defaultedField kvs none optionalText? "error_code"
  let metadata ← defaultedField kvs [] object? "metadata"
  some ⟨requestId, accepted, observedState, observedAt, message, errorCode, metadata⟩

/-- `model_validate_json`. -/
def AgentCommand.validateJson (fresh : Uuid) (body : Bytes) : Option AgentCommand :=
  (p.json body).bind (AgentCommand.validate p fresh)

/-- `model_validate_json`. -/
def AgentCommandResponse.validateJson (body : Bytes) : Option (AgentCommandResponse D) :=
  (p.json body).bind (AgentCommandResponse.validate p)

end

/-! ## The round trip -/

/-- The command with the keys of its execution sorted, as the agent reads it. -/
def AgentCommand.sorted (c : AgentCommand) : AgentCommand :=
  { c with execution := Json.sortedFields .canonical c.execution }

/-- The answer with the keys of its metadata sorted, as the control plane reads it. -/
def AgentCommandResponse.sorted (r : AgentCommandResponse D) : AgentCommandResponse D :=
  { r with metadata := Json.sortedFields .canonical r.metadata }

/-- A command that the constructor accepts, with a payload that comes back. -/
structure AgentCommand.Valid (p : Pydantic D) (c : AgentCommand) : Prop where
  requestId : c.requestId < 2 ^ 128
  ownerId : c.owner.id < 2 ^ 128
  name : 1 ≤ c.owner.name.length ∧ c.owner.name.length ≤ 128
  generation : 1 ≤ c.owner.generation
  gpuIds : 1 ≤ c.gpuIds.length
  sound : p.Sound c.json

structure AgentCommandResponse.Valid (p : Pydantic D) (r : AgentCommandResponse D) : Prop where
  requestId : r.requestId < 2 ^ 128
  sound : p.Sound (r.json p)

section

variable {p : Pydantic D} {c : AgentCommand} {r : AgentCommandResponse D} {body : Bytes}

theorem ownerType?_value (type : LeaseOwnerType) : ownerType? (.str type.value) = some type := by
  cases type <;> decide

theorem action?_value (action : AgentAction) : action? (.str (actionValue action)) = some action := by
  cases action <;> decide

theorem workloadState?_value (state : AgentWorkloadState) : workloadState? (.str state.value) = some state := by
  cases state <;> decide

theorem sorted_optionalText (s : Option PyStr) : (optionalText s).sorted .canonical = optionalText s := by
  cases s <;> rfl

theorem optionalText?_optionalText (s : Option PyStr) : optionalText? (optionalText s) = some s := by
  cases s <;> rfl

theorem sortedItems_int (ns : List Int) : Json.sortedItems .canonical (ns.map .int) = ns.map .int := by
  induction ns with
  | nil => rfl
  | cons n ns ih => rw [List.map_cons, Json.sortedItems, ih]; rfl

theorem owner?_sorted (hp : p.Reads) (hc : c.Valid p) :
    owner? p (.obj (Json.sortedFields .canonical (ownerFields c.owner))) =
    some c.owner := by
  have hn : ((ownerFields c.owner).map Prod.fst).Nodup := show (ownerNames.map py).Nodup by decide
  have hname : ownerName? (.str c.owner.name) = some c.owner.name :=
    Option.filter_eq_some_iff.mpr ⟨rfl, decide_eq_true hc.name⟩
  have hgeneration : generation? p (.int c.owner.generation) = some c.owner.generation := by
    have := hc.generation
    rw [generation?, hp.int, Option.filter_some, if_pos (decide_eq_true (by omega))]
    rfl
  refine bind_eq_some.mpr ⟨_, strictFields?_sorted rfl, ?_⟩
  refine bind_eq_some.mpr ⟨c.owner.type, requiredField_sorted hn rfl (ownerType?_value _), ?_⟩
  refine bind_eq_some.mpr ⟨c.owner.id, requiredField_sorted hn rfl (hp.uuid _ hc.ownerId), ?_⟩
  refine bind_eq_some.mpr ⟨c.owner.name, requiredField_sorted hn rfl hname, ?_⟩
  exact bind_eq_some.mpr ⟨c.owner.generation, requiredField_sorted hn rfl hgeneration, rfl⟩

theorem resources?_sorted (hp : p.Reads) (hc : c.Valid p) :
    resources? p (.obj (Json.sortedFields .canonical (resourceFields c.gpuIds))) = some c.gpuIds := by
  have hn : ((resourceFields c.gpuIds).map Prod.fst).Nodup := List.nodup_singleton _
  have hgpuIds : gpuIds? p (.arr (Json.sortedItems .canonical (c.gpuIds.map .int))) = some c.gpuIds := by
    rw [sortedItems_int]
    exact Option.filter_eq_some_iff.mpr ⟨mapM_of_map fun n _ => hp.int n, decide_eq_true hc.gpuIds⟩
  exact bind_eq_some.mpr ⟨_, strictFields?_sorted rfl, requiredField_sorted hn rfl hgpuIds⟩

theorem AgentCommand.nodup_fields (c : AgentCommand) : (c.fields.map Prod.fst).Nodup :=
  show (commandNames.map py).Nodup by decide

theorem AgentCommandResponse.nodup_fields (p : Pydantic D) (r : AgentCommandResponse D) :
    ((r.fields p).map Prod.fst).Nodup :=
  show (responseNames.map py).Nodup by decide

/-- A command is read back. -/
theorem validate_command (hp : p.Reads) (hc : c.Valid p) (hb : canonicalJson c.json = some body) (fresh : Uuid) :
    AgentCommand.validateJson p fresh body = some c.sorted := by
  have hn := c.nodup_fields
  rw [AgentCommand.validateJson, hp.json hc.sound hb, Option.bind_some]
  refine bind_eq_some.mpr ⟨_, strictFields?_sorted rfl, ?_⟩
  refine bind_eq_some.mpr ⟨(), defaultedField_sorted hn rfl (if_pos rfl), ?_⟩
  refine bind_eq_some.mpr ⟨c.requestId, defaultedField_sorted hn rfl (hp.uuid _ hc.requestId), ?_⟩
  refine bind_eq_some.mpr ⟨c.action, requiredField_sorted hn rfl (action?_value _), ?_⟩
  refine bind_eq_some.mpr ⟨c.owner, requiredField_sorted hn rfl (owner?_sorted hp hc), ?_⟩
  refine bind_eq_some.mpr ⟨c.gpuIds, requiredField_sorted hn rfl (resources?_sorted hp hc), ?_⟩
  exact bind_eq_some.mpr ⟨Json.sortedFields .canonical c.execution, defaultedField_sorted hn rfl rfl, rfl⟩

/-- An answer is read back. -/
theorem validate_response (hp : p.Reads) (hr : r.Valid p) (hb : canonicalJson (r.json p) = some body) :
    AgentCommandResponse.validateJson p body = some r.sorted := by
  have hn := r.nodup_fields p
  have htext (s : Option PyStr) : optionalText? ((optionalText s).sorted .canonical) = some s := by
    rw [sorted_optionalText, optionalText?_optionalText]
  rw [AgentCommandResponse.validateJson, hp.json hr.sound hb, Option.bind_some]
  refine bind_eq_some.mpr ⟨_, strictFields?_sorted rfl, ?_⟩
  refine bind_eq_some.mpr ⟨(), defaultedField_sorted hn rfl (if_pos rfl), ?_⟩
  refine bind_eq_some.mpr ⟨r.requestId, requiredField_sorted hn rfl (hp.uuid _ hr.requestId), ?_⟩
  refine bind_eq_some.mpr ⟨r.accepted, requiredField_sorted hn rfl (hp.bool _), ?_⟩
  refine bind_eq_some.mpr ⟨r.observedState, requiredField_sorted hn rfl (workloadState?_value _), ?_⟩
  refine bind_eq_some.mpr ⟨r.observedAt, requiredField_sorted hn rfl (hp.datetime _), ?_⟩
  refine bind_eq_some.mpr ⟨r.message, defaultedField_sorted hn rfl (htext _), ?_⟩
  refine bind_eq_some.mpr ⟨r.errorCode, defaultedField_sorted hn rfl (htext _), ?_⟩
  exact bind_eq_some.mpr ⟨Json.sortedFields .canonical r.metadata, defaultedField_sorted hn rfl rfl, rfl⟩

/-- A command that is sent back is no answer. -/
theorem command_not_response (hp : p.Reads) (hc : c.Valid p) (hb : canonicalJson c.json = some body) :
    AgentCommandResponse.validateJson p body = none := by
  have haction : py "action" ∈ c.fields.map Prod.fst := show py "action" ∈ commandNames.map py by decide
  have hno : strictFields? responseNames (c.json.sorted .canonical) = none := strictFields?_none haction (by decide)
  rw [AgentCommandResponse.validateJson, hp.json hc.sound hb, Option.bind_some, AgentCommandResponse.validate, hno]
  rfl

/-- An answer that is sent back is no command. -/
theorem response_not_command (hp : p.Reads) (hr : r.Valid p)
    (hb : canonicalJson (r.json p) = some body) (fresh : Uuid) :
    AgentCommand.validateJson p fresh body = none := by
  have haccepted : py "accepted" ∈ (r.fields p).map Prod.fst := show py "accepted" ∈ responseNames.map py by decide
  have hno : strictFields? commandNames ((r.json p).sorted .canonical) = none :=
    strictFields?_none haccepted (by decide)
  rw [AgentCommand.validateJson, hp.json hr.sound hb, Option.bind_some, AgentCommand.validate, hno]
  rfl

/-- What the agent read has the same canonical bytes. -/
theorem canonicalJson_sorted (hc : c.Valid p) : canonicalJson c.sorted.json = canonicalJson c.json := by
  have hexecution : (Json.obj c.execution).Readable (.plain p.float) := hc.sound.readable.2.2.2.2.2.2.1
  have hsame := @dumps_sorted (.plain p.float) .canonical 1 (.obj c.execution) hexecution
  have hsame : dumps .canonical 1 (.obj (Json.sortedFields .canonical c.execution)) =
    dumps .canonical 1 (.obj c.execution) := hsame
  have hfields : dumpsEntries .canonical 1 c.sorted.fields = dumpsEntries .canonical 1 c.fields := by
    simp only [AgentCommand.fields, AgentCommand.sorted, dumpsEntries, hsame]
  have hjson : dumps .canonical 0 c.sorted.json = dumps .canonical 0 c.json := by
    rw [AgentCommand.json, AgentCommand.json, dumps, dumps, hfields]
  rw [canonicalJson, canonicalJson, hjson]

/-- Canonical bytes are one line. -/
theorem canonicalJson_line {v : Json} (hv : v.EachString IsUnicode) (hb : canonicalJson v = some body) : 10 ∉ body := by
  obtain ⟨text, htext, hbody⟩ := Option.bind_eq_some_iff.mp hb
  have hunicode : IsUnicode text := fun c hc => (dumps_unicode JsonStyle.spaced_canonical hv htext c hc).1
  intro hmem
  have hmem : 10 ∈ text := ascii_of_encode (by decide) hunicode hbody hmem
  exact absurd (dumps_printable htext 10 hmem) (by decide)

end

end OpenLLMOps.Wire
