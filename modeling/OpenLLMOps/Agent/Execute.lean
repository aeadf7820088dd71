import OpenLLMOps.Agent.Docker
import OpenLLMOps.Agent.StateStore

/-!
# Executing a command

`CommandProcessor.execute`, over any `_dispatch` on any node state `N`. The
watermark and the binding of a START are written before the dispatch; an
exception that the processor does not turn into a rejection leaves the store
without an entry for the request (`none`: the endpoint answers 5xx).
-/

namespace OpenLLMOps

open Framework

/-- The rejection that `execute` makes of an exception, if it handles it. -/
def Raised.result? : Raised → Option CommandResult
  | .validation errors => some (rejected 422 (py "execution 参数无效：" ++ errors) (py "invalid_execution"))
  | .invalidWorkload message => some (rejected 422 message (py "invalid_workload"))
  | .workloadConflict message => some (rejected 409 message (py "workload_conflict"))
  | .workloadNotFound | .notFound | .docker | .other => none

theorem Raised.result_rejected {e : Raised} {r : CommandResult} (h : e.result? = some r) : r.response.accepted = false := by
  cases e <;> cases h <;> rfl

/-- What `execute` returns after the dispatch; `none` is an exception that escapes. -/
def answer? : Except Raised CommandResult → Option CommandResult
  | .ok result => some result
  | .error e => e.result?

section Execute

variable {F N : Type} [DecidableEq F] (fingerprint : Option Uuid → AgentCommand → F)
  (dispatch : AgentCommand → N → Except Raised CommandResult × N)

/-- What the store does before the dispatch: it advances the watermark, and binds a START. -/
def CommandStateStore.observe (s : CommandStateStore F) (c : AgentCommand) : Except PyStr (CommandStateStore F) :=
  if c.action = .start then s.bindStart c.owner.key c.owner.generation (fingerprint none c)
  else .ok (s.advanceGeneration c.owner.key c.owner.generation)

theorem requests_observe {s s' : CommandStateStore F} {c : AgentCommand} (h : s.observe fingerprint c = .ok s') :
    s'.requests = s.requests := by
  unfold CommandStateStore.observe at h
  split at h
  · exact CommandStateStore.requests_bindStart h
  · cases h
    exact CommandStateStore.requests_advanceGeneration _ _ _

/-- `CommandProcessor.execute`, with `fingerprint none` the fingerprint of a command without
its `request_id`. -/
def execute (requestId : Uuid) (c : AgentCommand) (s : CommandStateStore F) (node : N) :
    Option CommandResult × CommandStateStore F × N :=
  if c.owner.generation < s.generation c.owner.key then
    (some (rejected 409 (py "命令 generation 早于节点已观察到的 generation") (py "stale_generation")), s, node)
  else
    match s.getRequest requestId with
    | some cached =>
      if cached.fingerprint ≠ fingerprint (some requestId) c then
        (some (rejected 409 (py "request_id 已绑定到不同命令") (py "request_id_reused")), s, node)
      else (some cached.result, s, node)
    | none =>
      match s.observe fingerprint c with
      | .error message =>
        let result := rejected 409 message (py "generation_reused")
        (some result, s.putRequest requestId (fingerprint (some requestId) c) result, node)
      | .ok s =>
        let (outcome, node) := dispatch c node
        let result := answer? outcome
        (result, s.record requestId (fingerprint (some requestId) c) result, node)

/-- A command below the watermark is rejected. -/
theorem execute_stale {requestId : Uuid} {c : AgentCommand} {s : CommandStateStore F} (node : N)
    (h : c.owner.generation < s.generation c.owner.key) :
    execute fingerprint dispatch requestId c s node =
      (some (rejected 409 (py "命令 generation 早于节点已观察到的 generation") (py "stale_generation")), s, node) := by
  unfold execute
  rw [if_pos h]

/-- A command that is neither old nor repeated: it disagrees with the binding of its generation, or
is dispatched. -/
theorem execute_cases {requestId : Uuid} {c : AgentCommand} {s : CommandStateStore F} (node : N)
    (hg : s.generation c.owner.key ≤ c.owner.generation) (hr : s.getRequest requestId = none) :
    (∃ message, c.action = .start ∧ ¬ s.Agrees c.owner.key c.owner.generation (fingerprint none c) ∧
      execute fingerprint dispatch requestId c s node =
        (some (rejected 409 message (py "generation_reused")),
          s.record requestId (fingerprint (some requestId) c) (rejected 409 message (py "generation_reused")), node)) ∨
    ∃ s', s.observe fingerprint c = .ok s' ∧
      execute fingerprint dispatch requestId c s node =
        (answer? (dispatch c node).1,
          s'.record requestId (fingerprint (some requestId) c) (answer? (dispatch c node).1), (dispatch c node).2) := by
  unfold execute
  rw [if_neg (Nat.not_lt.mpr hg), hr]
  simp only
  cases hobs : s.observe fingerprint c with
  | ok s' => exact .inr ⟨s', rfl, rfl⟩
  | error message =>
    refine .inl ⟨message, ?_⟩
    unfold CommandStateStore.observe at hobs
    split at hobs <;> [skip; cases hobs]
    rename_i hstart
    refine ⟨hstart, fun hagrees => ?_, rfl⟩
    have hok := (s.bindStart_isOk_iff c.owner.key c.owner.generation (fingerprint none c)).mpr hagrees
    rw [hobs] at hok
    cases hok

/-- A command leaves the node as it was, or is dispatched. -/
theorem execute_node_cases (requestId : Uuid) (c : AgentCommand) (s : CommandStateStore F) (node : N) :
    (execute fingerprint dispatch requestId c s node).2.2 = node ∨
      (execute fingerprint dispatch requestId c s node).2.2 = (dispatch c node).2 ∧
      (execute fingerprint dispatch requestId c s node).1 = answer? (dispatch c node).1 := by
  unfold execute
  split
  · exact .inl rfl
  split
  · split <;> exact .inl rfl
  split
  · exact .inl rfl
  · exact .inr ⟨rfl, rfl⟩

/-- The node after a command: as it was, or as the dispatch left it. -/
theorem node_execute (requestId : Uuid) (c : AgentCommand) (s : CommandStateStore F) (node : N) :
    (execute fingerprint dispatch requestId c s node).2.2 = node ∨
      (execute fingerprint dispatch requestId c s node).2.2 = (dispatch c node).2 :=
  (execute_node_cases fingerprint dispatch requestId c s node).imp_right And.left

/-- The bindings after a command: the old ones, and the one of a START. -/
theorem starts_execute {requestId : Uuid} {c : AgentCommand} {s : CommandStateStore F} {node : N} {k : OwnerKey}
    {b : StartBinding F} (hb : Dict.get? (execute fingerprint dispatch requestId c s node).2.1.starts k = some b) :
    Dict.get? s.starts k = some b ∨
      c.action = .start ∧ k = c.owner.key ∧ b = ⟨c.owner.generation, fingerprint none c⟩ := by
  unfold execute at hb
  split at hb
  · exact .inl hb
  split at hb
  · split at hb <;> exact .inl hb
  split at hb
  · simp only [CommandStateStore.starts_putRequest] at hb
    exact .inl hb
  · rename_i s' hobs
    simp only [CommandStateStore.starts_record] at hb
    unfold CommandStateStore.observe at hobs
    split at hobs
    · rename_i hstart
      rcases CommandStateStore.starts_bindStart hobs hb with h | ⟨hk, e⟩
      · exact .inl h
      · exact .inr ⟨hstart, hk, e⟩
    · cases hobs
      rw [CommandStateStore.starts_advanceGeneration] at hb
      exact .inl hb

/-- The watermark of an owner after a command: the old one, or the generation of the command. -/
theorem generation_execute {requestId : Uuid} {c : AgentCommand} {s : CommandStateStore F} {node : N} (k : OwnerKey) :
    (execute fingerprint dispatch requestId c s node).2.1.generation k = s.generation k ∨
      k = c.owner.key ∧ (execute fingerprint dispatch requestId c s node).2.1.generation k = c.owner.generation := by
  -- the store after the watermark has been advanced
  have hadvance {s' : CommandStateStore F}
      (hs : s'.generation k = (s.advanceGeneration c.owner.key c.owner.generation).generation k) :
      s'.generation k = s.generation k ∨ k = c.owner.key ∧ s'.generation k = c.owner.generation := by
    rw [hs, s.generation_advanceGeneration]
    split
    · rename_i e
      subst e
      rcases Nat.le_total (s.generation c.owner.key) c.owner.generation with hle | hle
      · exact .inr ⟨rfl, Nat.max_eq_right hle⟩
      · exact .inl (Nat.max_eq_left hle)
    · exact .inl rfl
  unfold execute
  split
  · exact .inl rfl
  split
  · split <;> exact .inl rfl
  split
  · exact .inl (CommandStateStore.generation_putRequest _ _ _ _ _)
  · rename_i s' hobs
    simp only [CommandStateStore.generation_record]
    unfold CommandStateStore.observe at hobs
    split at hobs
    · have hg := CommandStateStore.generations_bindStart hobs
      refine hadvance ?_
      rw [CommandStateStore.generation, hg, CommandStateStore.generation]
    · cases hobs
      exact hadvance rfl

/-- The answers that the store keeps after a command: the old ones and the one to the command. -/
theorem requests_execute {requestId : Uuid} {c : AgentCommand} {s : CommandStateStore F} {node : N}
    {e : Uuid × CachedCommand F} (he : e ∈ (execute fingerprint dispatch requestId c s node).2.1.requests) :
    e ∈ s.requests ∨ (execute fingerprint dispatch requestId c s node).1 = some e.2.result := by
  unfold execute at he ⊢
  by_cases hg : c.owner.generation < s.generation c.owner.key
  · rw [if_pos hg] at he ⊢
    exact .inl he
  rw [if_neg hg] at he ⊢
  cases hr : s.getRequest requestId with
  | some cached =>
    rw [hr] at he
    simp only at he ⊢
    split at he <;> exact .inl he
  | none =>
    rw [hr] at he
    cases hobs : s.observe fingerprint c with
    | error message =>
      simp only [hobs] at he ⊢
      exact (CommandStateStore.mem_putRequest he).imp_right fun e => by rw [e]
    | ok s' =>
      simp only [hobs] at he ⊢
      rw [← requests_observe fingerprint hobs]
      cases ha : answer? (dispatch c node).1 with
      | none =>
        rw [ha] at he
        exact .inl he
      | some result =>
        rw [ha] at he
        exact (CommandStateStore.mem_putRequest he).imp_right fun e => by rw [e]

end Execute

end OpenLLMOps
