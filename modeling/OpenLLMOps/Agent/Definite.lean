import OpenLLMOps.Agent.Execute
import OpenLLMOps.Agent.Processor
import OpenLLMOps.Agent.StateFile

/-!
# Definite answers

Whatever the command processor answers is a 200 or a 4xx that says that the command was refused: what `_dispatch`
returns has the status 200 (`dispatch_ok`), the other answers are those of `_rejected`. So the answers in the cache are
definite, and stay so (`execute_definite`), also after a restart.
-/

namespace OpenLLMOps

open Framework

/-- The status is 200, or a 4xx of a response that reports a failure and gives its code. -/
def CommandResult.Definite (r : CommandResult) : Prop :=
  r.statusCode = 200 ∨ (400 ≤ r.statusCode ∧ r.statusCode < 500) ∧ r.response.accepted = false ∧
    r.response.observedState = .failed ∧ r.response.errorCode.getD [] ≠ []

theorem rejected_definite {statusCode : Nat} (hstatus : 400 ≤ statusCode ∧ statusCode < 500) (message : PyStr)
    {errorCode : PyStr} (hcode : errorCode ≠ []) : (rejected statusCode message errorCode).Definite :=
  .inr ⟨hstatus, rfl, rfl, hcode⟩

theorem Raised.result_definite {e : Raised} {r : CommandResult} (h : e.result? = some r) : r.Definite := by
  cases e with
  | validation errors =>
    cases h
    exact rejected_definite (by decide) _ (by decide)
  | invalidWorkload message =>
    cases h
    exact rejected_definite (by decide) _ (by decide)
  | workloadConflict message =>
    cases h
    exact rejected_definite (by decide) _ (by decide)
  | workloadNotFound | notFound | docker | other => cases h

/-- The cached answers are definite. -/
def CommandStateStore.Definite {F : Type} (s : CommandStateStore F) : Prop := ∀ e ∈ s.requests, e.2.result.Definite

theorem CommandStateStore.Definite.reload {F : Type} {s : CommandStateStore F} (hs : s.Definite) :
    (load (some s.persisted)).Definite := fun e he => hs e ((sortedBy_perm _).subset he)

/-! ## What is dispatched -/

section Dispatch

variable (settings : AgentSettings) (around : Surroundings) (c : AgentCommand)

theorem responseFromInfo_ok (info : Container) :
    Effect.Returns (fun result => result.statusCode = 200) (responseFromInfo settings around c info) := by
  unfold responseFromInfo
  exact .bind fun _ => .bind fun _ => .pure rfl

theorem observe_ok : Effect.Returns (fun result => result.statusCode = 200) (observe settings around c) := by
  unfold observe
  refine .bind fun found => ?_
  split
  · exact .pure rfl
  · exact .ite (.throw _) (responseFromInfo_ok settings around c _)

theorem stopWorkload_ok : Effect.Returns (fun result => result.statusCode = 200) (stopWorkload settings around c) := by
  unfold stopWorkload
  refine .bind fun found => ?_
  split
  · exact .pure rfl
  · exact responseFromInfo_ok settings around c _

theorem cleanup_ok : Effect.Returns (fun result => result.statusCode = 200) (cleanup c) := by
  unfold cleanup
  exact .bind fun _ => .pure rfl

theorem startWorkload_ok : Effect.Returns (fun result => result.statusCode = 200) (startWorkload settings around c) := by
  have hinfo := responseFromInfo_ok settings around c
  unfold startWorkload
  refine .ite (.throw _) (.bind fun existing => ?_)
  split
  · exact hinfo _
  · split
    · exact .throw _
    · exact .bind fun info => hinfo info

/-- What the dispatcher returns is no rejection. -/
theorem dispatch_ok : Effect.Returns (fun result => result.statusCode = 200) (dispatch settings around c) := by
  unfold dispatch
  split
  · exact startWorkload_ok settings around c
  · exact .ite (stopWorkload_ok settings around c) (.ite (cleanup_ok c) (.throw _))
  · exact .ite (observe_ok settings around c) (.throw _)

theorem answer?_definite {w : World} {r : CommandResult} (h : answer? (dispatch settings around c w).1 = some r) :
    r.Definite := by
  have hok := dispatch_ok settings around c w
  cases hd : (dispatch settings around c w).1 with
  | ok result =>
    rw [hd] at h
    cases h
    exact .inl (hok r hd)
  | error e =>
    rw [hd] at h
    exact Raised.result_definite h

end Dispatch

/-! ## What is executed -/

section Execute

variable {F : Type} [DecidableEq F] {fingerprint : Option Uuid → AgentCommand → F} {settings : AgentSettings}
  {around : Surroundings} {requestId : Uuid} {c : AgentCommand} {s : CommandStateStore F} {w : World}

/-- An answer is definite, if the cached ones are. -/
theorem execute_definite (hs : s.Definite) {r : CommandResult}
    (h : (execute fingerprint (fun c => dispatch settings around c) requestId c s w).1 = some r) : r.Definite := by
  unfold execute at h
  split at h
  · cases h
    exact rejected_definite (by decide) _ (by decide)
  split at h
  · rename_i cached hcached
    split at h <;> cases h
    · exact rejected_definite (by decide) _ (by decide)
    · exact hs _ (Dict.mem_of_get? hcached)
  split at h
  · cases h
    exact rejected_definite (by decide) _ (by decide)
  · exact answer?_definite settings around c h

theorem CommandStateStore.Definite.execute (hs : s.Definite) :
    (OpenLLMOps.execute fingerprint (fun c => dispatch settings around c) requestId c s w).2.1.Definite := by
  intro e he
  rcases requests_execute fingerprint (fun c => dispatch settings around c) he with he | hr
  · exact hs e he
  · exact execute_definite hs hr

end Execute

end OpenLLMOps
