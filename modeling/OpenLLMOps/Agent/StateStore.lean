import OpenLLMOps.AgentContract
import OpenLLMOps.Framework.Dict

/-!
# The agent's command state

`CommandStateStore` of `command_service.py`: for each owner the newest generation
that the agent has seen (the watermark) and the START that it has bound to a
generation, and the answers to the last requests. An owner's key is its type and
its id; `F` are the fingerprints (SHA-256 of the canonical JSON).
-/

namespace OpenLLMOps

open Framework

/-- `CommandResult`. -/
structure CommandResult where
  statusCode : Nat
  response : AgentCommandResponse
  deriving DecidableEq

/-- `_accepted_absent`. -/
def acceptedAbsent : CommandResult := ⟨200, ⟨true, .absent, none, none, []⟩⟩

/-- `_rejected`. -/
def rejected (statusCode : Nat) (message errorCode : PyStr) : CommandResult :=
  ⟨statusCode, ⟨false, .failed, some message, some errorCode, []⟩⟩

/-- `MAX_CACHED_REQUESTS`. -/
def maxCachedRequests : Nat := 2048

/-- An entry of `_starts`. -/
structure StartBinding (F : Type) where
  generation : Nat
  fingerprint : F
  deriving DecidableEq

structure CachedCommand (F : Type) where
  fingerprint : F
  result : CommandResult
  deriving DecidableEq

structure CommandStateStore (F : Type) where
  generations : List (OwnerKey × Nat)
  starts : List (OwnerKey × StartBinding F)
  requests : List (Uuid × CachedCommand F)
  deriving DecidableEq

namespace CommandStateStore

variable {F : Type}

/-- The store of a new node. -/
def empty : CommandStateStore F := ⟨[], [], []⟩

/-- `generation`. -/
def generation (s : CommandStateStore F) (k : OwnerKey) : Nat := (Dict.get? s.generations k).getD 0

/-- `advance_generation`. -/
def advanceGeneration (s : CommandStateStore F) (k : OwnerKey) (generation : Nat) : CommandStateStore F :=
  if s.generation k < generation then { s with generations := Dict.set s.generations k generation } else s

/-- `bind_start`; an error is a `WorkloadConflict`. -/
def bindStart [DecidableEq F] (s : CommandStateStore F) (k : OwnerKey) (generation : Nat) (fingerprint : F) :
    Except PyStr (CommandStateStore F) :=
  match (Dict.get? s.starts k).filter (·.generation = generation) with
  | some current =>
    if current.fingerprint ≠ fingerprint then .error (py "同一 generation 已绑定到不同启动参数")
    else .ok (s.advanceGeneration k generation)
  | none =>
    .ok ({ s with starts := Dict.set s.starts k ⟨generation, fingerprint⟩ }.advanceGeneration k generation)

/-- `get_request`. -/
def getRequest (s : CommandStateStore F) (requestId : Uuid) : Option (CachedCommand F) :=
  Dict.get? s.requests requestId

/-- `put_request`: the oldest entries make room. -/
def putRequest (s : CommandStateStore F) (requestId : Uuid) (fingerprint : F) (result : CommandResult) :
    CommandStateStore F :=
  let requests := Dict.set s.requests requestId ⟨fingerprint, result⟩
  { s with requests := requests.drop (requests.length - maxCachedRequests) }

/-- `put_request`, unless an exception escapes before it. -/
def record (s : CommandStateStore F) (requestId : Uuid) (fingerprint : F) (result : Option CommandResult) :
    CommandStateStore F :=
  match result with
  | none => s
  | some result => s.putRequest requestId fingerprint result

@[simp] theorem starts_advanceGeneration (s : CommandStateStore F) (k : OwnerKey) (g : Nat) :
    (s.advanceGeneration k g).starts = s.starts := by
  unfold advanceGeneration
  split <;> rfl

@[simp] theorem starts_putRequest (s : CommandStateStore F) (requestId : Uuid) (f : F) (result : CommandResult) :
    (s.putRequest requestId f result).starts = s.starts := by
  rw [putRequest]

@[simp] theorem starts_record (s : CommandStateStore F) (requestId : Uuid) (f : F) (result : Option CommandResult) :
    (s.record requestId f result).starts = s.starts := by
  cases result with
  | none => rfl
  | some result => rw [record, starts_putRequest]

@[simp] theorem generations_record (s : CommandStateStore F) (requestId : Uuid) (f : F)
    (result : Option CommandResult) : (s.record requestId f result).generations = s.generations := by
  cases result with
  | none => rfl
  | some result => rw [record, putRequest]

@[simp] theorem generation_putRequest (s : CommandStateStore F) (requestId : Uuid) (f : F) (result : CommandResult)
    (k : OwnerKey) : (s.putRequest requestId f result).generation k = s.generation k := by
  have hg : (s.putRequest requestId f result).generations = s.generations := by rw [putRequest]
  rw [generation, hg, generation]

@[simp] theorem generation_record (s : CommandStateStore F) (requestId : Uuid) (f : F) (result : Option CommandResult)
    (k : OwnerKey) : (s.record requestId f result).generation k = s.generation k := by
  rw [generation, generations_record, generation]

@[simp] theorem requests_advanceGeneration (s : CommandStateStore F) (k : OwnerKey) (g : Nat) :
    (s.advanceGeneration k g).requests = s.requests := by
  unfold advanceGeneration
  split <;> rfl

/-- The answers that are kept after another one: old ones and the new one. -/
theorem mem_putRequest {s : CommandStateStore F} {requestId : Uuid} {f : F} {result : CommandResult}
    {e : Uuid × CachedCommand F} (h : e ∈ (s.putRequest requestId f result).requests) :
    e ∈ s.requests ∨ e.2.result = result := by
  simp only [putRequest] at h
  rcases Dict.mem_set (List.mem_of_mem_drop h) with h | rfl
  · exact .inl h
  · exact .inr rfl

theorem generation_advanceGeneration (s : CommandStateStore F) (k : OwnerKey) (g : Nat) (k' : OwnerKey) :
    (s.advanceGeneration k g).generation k' = if k = k' then max (s.generation k) g else s.generation k' := by
  unfold advanceGeneration
  split
  · rename_i hlt
    show (Dict.get? (Dict.set s.generations k g) k').getD 0 = _
    rw [Dict.get?_set]
    split
    · rw [Nat.max_eq_right (Nat.le_of_lt hlt)]
      rfl
    · rfl
  · rename_i hge
    split
    · rename_i e
      rw [Nat.max_eq_left (Nat.not_lt.mp hge), e]
    · rfl

/-- The store has no start binding of the generation, or one with the fingerprint. -/
def Agrees (s : CommandStateStore F) (k : OwnerKey) (generation : Nat) (fingerprint : F) : Prop :=
  ∀ b ∈ Dict.get? s.starts k, b.generation = generation → b.fingerprint = fingerprint

variable [DecidableEq F]

instance (s : CommandStateStore F) (k : OwnerKey) (g : Nat) (f : F) : Decidable (s.Agrees k g f) := by
  unfold Agrees
  exact inferInstance

/-- `bind_start` refuses exactly a START that does not agree with its binding. -/
theorem bindStart_isOk_iff (s : CommandStateStore F) (k : OwnerKey) (g : Nat) (f : F) :
    (s.bindStart k g f).isOk = true ↔ s.Agrees k g f := by
  unfold bindStart Agrees
  cases hb : Dict.get? s.starts k with
  | none => simp [Except.isOk, Except.toBool]
  | some b =>
    by_cases hg : b.generation = g
    · by_cases hf : b.fingerprint = f <;> simp [Option.filter, hg, hf, Except.isOk, Except.toBool]
    · simp [Option.filter, hg, Except.isOk, Except.toBool]

/-- `bind_start` leaves its own binding and those of the other owners. -/
theorem get?_bindStart {s s' : CommandStateStore F} {k : OwnerKey} {g : Nat} {f : F}
    (h : s.bindStart k g f = .ok s') (k' : OwnerKey) :
    Dict.get? s'.starts k' = if k = k' then some ⟨g, f⟩ else Dict.get? s.starts k' := by
  unfold bindStart at h
  split at h
  · rename_i b hb
    split at h <;> [cases h; skip]
    rename_i hf
    cases h
    rw [starts_advanceGeneration]
    split
    · rename_i e
      obtain ⟨hb, hg⟩ := Option.filter_eq_some_iff.mp hb
      rw [← e, hb, ← of_decide_eq_true hg, ← not_not.mp hf]
    · rfl
  · cases h
    rw [starts_advanceGeneration, Dict.get?_set]

/-- The bindings after `bind_start`: the old ones and the new one. -/
theorem starts_bindStart {s s' : CommandStateStore F} {k : OwnerKey} {g : Nat} {f : F}
    (h : s.bindStart k g f = .ok s') {k' : OwnerKey} {b : StartBinding F} (hb : Dict.get? s'.starts k' = some b) :
    Dict.get? s.starts k' = some b ∨ k' = k ∧ b = ⟨g, f⟩ := by
  rw [get?_bindStart h] at hb
  split at hb
  · rename_i e
    cases hb
    exact .inr ⟨e.symm, rfl⟩
  · exact .inl hb

/-- `bind_start` advances the watermark. -/
theorem generations_bindStart {s s' : CommandStateStore F} {k : OwnerKey} {g : Nat} {f : F}
    (h : s.bindStart k g f = .ok s') : s'.generations = (s.advanceGeneration k g).generations := by
  unfold bindStart at h
  split at h
  · split at h <;> cases h
    rfl
  · cases h
    unfold advanceGeneration generation
    split <;> rfl

theorem requests_bindStart {s s' : CommandStateStore F} {k : OwnerKey} {g : Nat} {f : F}
    (h : s.bindStart k g f = .ok s') : s'.requests = s.requests := by
  unfold bindStart at h
  split at h
  · split at h <;> cases h
    exact requests_advanceGeneration _ _ _
  · cases h
    exact requests_advanceGeneration _ _ _

end CommandStateStore

end OpenLLMOps
