import OpenLLMOps.Agent.Durable

/-!
# A restart between two commands

The agent goes on with what is in memory, or is started again and goes on with what is in
its file. Watermarks, bindings and cached answers are the same in both; the cached answers
stand in the order of their insertion in memory and in the order of their ids in the file,
and the order decides which are evicted.

`restartInvisible_iff`: the restart is invisible if and only if the cached answers were
inserted in the order of their ids.
-/

namespace OpenLLMOps

open Framework

namespace CommandStateStore

section Serve

variable {F N : Type} [DecidableEq F] (fingerprint : Option Uuid → AgentCommand → F)
  (dispatch : AgentCommand → N → Except Raised CommandResult × N)

/-- Commands one after another: the answers, and the store and the node after the last. -/
def serve : List (Uuid × AgentCommand) → CommandStateStore F → N →
    List (Option CommandResult) × CommandStateStore F × N
  | [], s, node => ([], s, node)
  | c :: cs, s, node =>
    let (result, s, node) := execute fingerprint dispatch c.1 c.2 s node
    let (results, s, node) := serve cs s node
    (result :: results, s, node)

end Serve

variable {F : Type}

/-- The two stores have the same watermarks, bindings and cached answers. -/
structure Alike (s t : CommandStateStore F) : Prop where
  generation : ∀ k, s.generation k = t.generation k
  starts : ∀ k, Dict.get? s.starts k = Dict.get? t.starts k
  getRequest : ∀ requestId, s.getRequest requestId = t.getRequest requestId

/-- Between `s` and `t` the entries that were inserted first have been evicted. -/
def EvictsOldest (s t : CommandStateStore F) : Prop :=
  ∃ new, t.requests = (s.requests ++ new).rtake maxCachedRequests

/-- The cached answers were inserted in the order of their ids. -/
def InsertedInOrder (s : CommandStateStore F) : Prop :=
  s.requests.Pairwise fun a b => PyStr.le (uuidText a.1) (uuidText b.1)

instance (s : CommandStateStore F) : Decidable s.InsertedInOrder := by
  unfold InsertedInOrder
  exact inferInstance

/-- The file has the cached answers in the order of their ids. -/
theorem requests_persisted (s : CommandStateStore F) :
    s.persisted.requests = s.requests ↔ s.InsertedInOrder := by
  refine ⟨fun h => ?_, fun h => ?_⟩
  · have hsorted : (sortedBy uuidText s.requests).Pairwise fun a b => PyStr.le (uuidText a.1) (uuidText b.1) := by
      have htotal : Std.Total fun a b : Uuid × CachedCommand F => PyStr.le (uuidText a.1) (uuidText b.1) :=
        ⟨fun a b => le_total (uuidText a.1) (uuidText b.1)⟩
      have htrans : IsTrans _ fun a b : Uuid × CachedCommand F => PyStr.le (uuidText a.1) (uuidText b.1) :=
        ⟨fun a b c => le_trans (α := PyStr)⟩
      exact List.pairwise_insertionSort _ _
    rw [InsertedInOrder, ← h]
    exact hsorted
  · exact h.insertionSort_eq

/-! ## The last entries -/

theorem rtake_of_length_le {α : Type} {l : List α} {n : Nat} (h : l.length ≤ n) : l.rtake n = l := by
  rw [List.rtake, Nat.sub_eq_zero_of_le h, List.drop_zero]

/-- As many new entries as evict `first` and the entry after it. -/
theorem rtake_of_parting {α : Type} {l first l' new : List α} {a : α} {n : Nat} (h : l = first ++ a :: l')
    (hle : l.length ≤ n) (hnew : new.length = n - l.length + first.length + 1) : (l ++ new).rtake n = l' ++ new := by
  have hcount : (l ++ new).length - n = (first ++ [a]).length := by
    rw [List.length_append, hnew, List.length_append, List.length_singleton]
    omega
  have hsplit : l ++ new = (first ++ [a]) ++ (l' ++ new) := by
    rw [h, List.append_assoc, List.append_assoc, List.singleton_append, List.cons_append]
  rw [List.rtake, hcount, hsplit, List.drop_left]

/-- What an earlier eviction has removed would have been removed by the next one. -/
theorem rtake_rtake_append {α : Type} (l m : List α) (n : Nat) : (l.rtake n ++ m).rtake n = (l ++ m).rtake n := by
  simp only [List.rtake_eq_reverse_take_reverse, List.reverse_append, List.reverse_reverse, List.take_append,
    List.take_take]
  rw [Nat.min_eq_left (Nat.sub_le _ _)]

variable {s : CommandStateStore F}

/-- The entry of a new request is the last. -/
theorem requests_putRequest {requestId : Uuid} (h : s.getRequest requestId = none) (f : F) (result : CommandResult) :
    (s.putRequest requestId f result).requests =
      (s.requests ++ [(requestId, CachedCommand.mk f result)]).rtake maxCachedRequests := by
  have hset (e : CachedCommand F) : Dict.set s.requests requestId e = s.requests ++ [(requestId, e)] :=
    Dict.set_of_notMem (Dict.get?_eq_none.mp h) e
  simp only [putRequest, hset, List.rtake]

theorem length_putRequest (s : CommandStateStore F) (requestId : Uuid) (f : F) (result : CommandResult) :
    (s.putRequest requestId f result).requests.length ≤ maxCachedRequests := by
  simp only [putRequest, List.length_drop]
  omega

theorem EvictsOldest.trans {t u : CommandStateStore F} (h : s.EvictsOldest t) (h' : t.EvictsOldest u) : s.EvictsOldest u := by
  obtain ⟨new, hnew⟩ := h
  obtain ⟨new', hnew'⟩ := h'
  refine ⟨new ++ new', ?_⟩
  rw [hnew', hnew, rtake_rtake_append, List.append_assoc]

/-! ## The same order -/

/-- The stores are alike and evict the same entries. -/
structure Same (s t : CommandStateStore F) : Prop where
  generation : ∀ k, s.generation k = t.generation k
  starts : ∀ k, Dict.get? s.starts k = Dict.get? t.starts k
  requests : s.requests = t.requests

variable {t : CommandStateStore F}

theorem Same.alike (h : Same s t) : Alike s t := by
  refine ⟨h.generation, h.starts, fun requestId => ?_⟩
  rw [getRequest, h.requests, getRequest]

theorem Same.advanceGeneration (h : Same s t) (k : OwnerKey) (g : Nat) :
    Same (s.advanceGeneration k g) (t.advanceGeneration k g) := by
  refine ⟨fun k' => ?_, fun k' => ?_, ?_⟩
  · rw [generation_advanceGeneration, generation_advanceGeneration, h.generation, h.generation]
  · rw [starts_advanceGeneration, starts_advanceGeneration, h.starts]
  · rw [requests_advanceGeneration, requests_advanceGeneration, h.requests]

theorem Same.putRequest (h : Same s t) (requestId : Uuid) (f : F) (result : CommandResult) :
    Same (s.putRequest requestId f result) (t.putRequest requestId f result) := by
  refine ⟨fun k => ?_, fun k => ?_, ?_⟩
  · rw [generation_putRequest, generation_putRequest, h.generation]
  · rw [starts_putRequest, starts_putRequest, h.starts]
  · simp only [CommandStateStore.putRequest, h.requests]

theorem Same.record (h : Same s t) (requestId : Uuid) (f : F) (result : Option CommandResult) :
    Same (s.record requestId f result) (t.record requestId f result) := by
  cases result with
  | none => exact h
  | some result => exact h.putRequest requestId f result

/-- The answers and the nodes are equal, and the stores are the same. -/
def SameOutcome {A N : Type} (p q : A × CommandStateStore F × N) : Prop :=
  p.1 = q.1 ∧ Same p.2.1 q.2.1 ∧ p.2.2 = q.2.2

/-! ## Runs -/

variable [DecidableEq F] (fingerprint : Option Uuid → AgentCommand → F)

section Run

variable {N : Type} (dispatch : AgentCommand → N → Except Raised CommandResult × N)

/-- What a command does to the cached answers. -/
theorem execute_evictsOldest (hs : s.requests.length ≤ maxCachedRequests) (requestId : Uuid) (c : AgentCommand) (node : N) :
    s.EvictsOldest (execute fingerprint dispatch requestId c s node).2.1 ∧
      (execute fingerprint dispatch requestId c s node).2.1.requests.length ≤ maxCachedRequests := by
  have hsame {t : CommandStateStore F} (ht : t.requests = s.requests) :
      s.EvictsOldest t ∧ t.requests.length ≤ maxCachedRequests := by
    refine ⟨⟨[], ?_⟩, ht ▸ hs⟩
    rw [List.append_nil, rtake_of_length_le hs, ht]
  have hput {t : CommandStateStore F} (ht : t.requests = s.requests) (hr : s.getRequest requestId = none) (f : F)
      (result : CommandResult) : s.EvictsOldest (t.putRequest requestId f result) ∧
        (t.putRequest requestId f result).requests.length ≤ maxCachedRequests := by
    have hr' : t.getRequest requestId = none := by rwa [getRequest, ht]
    refine ⟨⟨[(requestId, ⟨f, result⟩)], ?_⟩, length_putRequest t requestId f result⟩
    rw [requests_putRequest hr', ht]
  unfold execute
  split
  · exact hsame rfl
  split
  · split <;> exact hsame rfl
  rename_i hr
  split
  · exact hput rfl hr _ _
  · rename_i s' hobs
    simp only [record]
    split
    · exact hsame (requests_observe fingerprint hobs)
    · exact hput (requests_observe fingerprint hobs) hr _ _

/-- Without a restart the entries that were inserted first are evicted. -/
theorem serve_evictsOldest (cs : List (Uuid × AgentCommand)) (hs : s.requests.length ≤ maxCachedRequests) (node : N) :
    s.EvictsOldest (serve fingerprint dispatch cs s node).2.1 := by
  induction cs generalizing s node with
  | nil => exact ⟨[], by rw [List.append_nil, rtake_of_length_le hs]; rfl⟩
  | cons c cs ih =>
    obtain ⟨hevicts, hlength⟩ := execute_evictsOldest fingerprint dispatch hs c.1 c.2 node
    exact hevicts.trans (ih hlength _)

/-- `observe` raises for both or for none. -/
theorem Same.observe (h : Same s t) (c : AgentCommand) :
    (∃ message, s.observe fingerprint c = .error message ∧ t.observe fingerprint c = .error message) ∨
      ∃ s' t', s.observe fingerprint c = .ok s' ∧ t.observe fingerprint c = .ok t' ∧ Same s' t' := by
  unfold CommandStateStore.observe bindStart
  rw [h.starts]
  split
  · split
    · split
      · exact .inl ⟨_, rfl, rfl⟩
      · exact .inr ⟨_, _, rfl, rfl, h.advanceGeneration _ _⟩
    · refine .inr ⟨_, _, rfl, rfl, Same.advanceGeneration ?_ _ _⟩
      refine ⟨h.generation, fun k => ?_, h.requests⟩
      rw [Dict.get?_set, Dict.get?_set, h.starts]
  · exact .inr ⟨_, _, rfl, rfl, h.advanceGeneration _ _⟩

/-- A command is answered alike, and leaves the stores the same. -/
theorem Same.outcome_execute (h : Same s t) (requestId : Uuid) (c : AgentCommand) (node : N) :
    SameOutcome (execute fingerprint dispatch requestId c s node) (execute fingerprint dispatch requestId c t node) := by
  unfold execute
  rw [h.generation, h.alike.getRequest]
  split
  · exact ⟨rfl, h, rfl⟩
  split
  · split <;> exact ⟨rfl, h, rfl⟩
  rcases h.observe fingerprint c with ⟨message, hs, ht⟩ | ⟨s', t', hs, ht, h'⟩
  · simp only [hs, ht]
    exact ⟨rfl, h.putRequest _ _ _, rfl⟩
  · simp only [hs, ht]
    exact ⟨rfl, h'.record _ _ _, rfl⟩

theorem Same.outcome_serve (h : Same s t) (cs : List (Uuid × AgentCommand)) (node : N) :
    SameOutcome (serve fingerprint dispatch cs s node) (serve fingerprint dispatch cs t node) := by
  induction cs generalizing s t node with
  | nil => exact ⟨rfl, h, rfl⟩
  | cons c cs ih =>
    obtain ⟨hresult, hstore, hnode⟩ := h.outcome_execute fingerprint dispatch c.1 c.2 node
    simp only [serve]
    rw [hresult, hnode]
    obtain ⟨hresults, hrest⟩ := ih hstore (execute fingerprint dispatch c.1 c.2 t node).2.2
    exact ⟨congrArg (List.cons _) hresults, hrest⟩

/-- Requests with new ids whose command is dispatched: their answers come last. -/
theorem requests_serve_new {c : AgentCommand} (hc : c.action = .status) {requestIds : List Uuid}
    (hnodup : requestIds.Nodup) (hnew : ∀ requestId ∈ requestIds, requestId ∉ Dict.keys s.requests)
    (hs : s.requests.length ≤ maxCachedRequests) (hg : s.generation c.owner.key ≤ c.owner.generation) :
    (serve fingerprint (fun _ node => (.ok acceptedAbsent, node)) (requestIds.map (·, c)) s ()).2.1.requests =
      (s.requests ++ requestIds.map fun requestId =>
        (requestId, CachedCommand.mk (fingerprint (some requestId) c) acceptedAbsent)).rtake maxCachedRequests := by
  induction requestIds generalizing s with
  | nil =>
    rw [List.map_nil, List.map_nil, List.append_nil, rtake_of_length_le hs]
    rfl
  | cons requestId requestIds ih =>
    obtain ⟨hnot, hnodup⟩ := List.nodup_cons.mp hnodup
    have hr : s.getRequest requestId = none := Dict.get?_eq_none.mpr (hnew requestId List.mem_cons_self)
    have hobs : s.observe fingerprint c = .ok (s.advanceGeneration c.owner.key c.owner.generation) := by
      rw [observe, hc]
      rfl
    have hr' : (s.advanceGeneration c.owner.key c.owner.generation).getRequest requestId = none := by
      rwa [getRequest, requests_advanceGeneration]
    have hput := requests_putRequest hr' (fingerprint (some requestId) c) acceptedAbsent
    rw [requests_advanceGeneration] at hput
    simp only [List.map_cons, serve, execute, if_neg (Nat.not_lt.mpr hg), hr, hobs, answer?, record]
    have hnew' : ∀ requestId' ∈ requestIds, requestId' ∉ Dict.keys ((s.advanceGeneration c.owner.key
        c.owner.generation).putRequest requestId (fingerprint (some requestId) c) acceptedAbsent).requests := by
      intro requestId' h' hmem
      rw [hput] at hmem
      obtain ⟨e, he, hkey⟩ := List.mem_map.mp hmem
      rcases List.mem_append.mp (List.mem_of_mem_drop he) with he | he
      · exact hnew requestId' (List.mem_cons_of_mem _ h') (hkey ▸ List.mem_map_of_mem he)
      · have hkey : requestId = requestId' := by rw [← hkey, List.mem_singleton.mp he]
        exact hnot (hkey ▸ h')
    have hg' : ((s.advanceGeneration c.owner.key c.owner.generation).putRequest requestId
        (fingerprint (some requestId) c) acceptedAbsent).generation c.owner.key ≤ c.owner.generation := by
      rw [generation_putRequest, generation_advanceGeneration, if_pos rfl, Nat.max_eq_right hg]
    rw [ih hnodup hnew' (length_putRequest _ _ _ _) hg', hput, rtake_rtake_append, List.append_assoc]
    rfl

end Run

/-! ## Another order -/

/-- Where two orders of the same entries part. -/
theorem exists_parting {α : Type} {l m : List α} (hp : l.Perm m) (hne : l ≠ m) :
    ∃ first x l' y m', l = first ++ x :: l' ∧ m = first ++ y :: m' ∧ x ≠ y := by
  induction l generalizing m with
  | nil => exact absurd hp.nil_eq hne
  | cons a l ih =>
    cases m with
    | nil => exact absurd hp.eq_nil (List.cons_ne_nil a l)
    | cons b m =>
      by_cases e : a = b
      · subst e
        obtain ⟨first, x, l', y, m', hl, hm, hxy⟩ := ih (List.perm_cons a |>.mp hp) (fun h => hne (congrArg _ h))
        exact ⟨a :: first, x, l', y, m', congrArg _ hl, congrArg _ hm, hxy⟩
      · exact ⟨[], a, l, b, m, rfl, rfl, e⟩

theorem exists_new (l : List Nat) (n : Nat) : ∃ new : List Nat, new.length = n ∧ new.Nodup ∧ ∀ i ∈ new, i ∉ l := by
  have hbound : ∃ m, ∀ i ∈ l, i < m := by
    induction l with
    | nil => exact ⟨0, fun _ h => by cases h⟩
    | cons a l ih =>
      obtain ⟨m, hm⟩ := ih
      refine ⟨max m (a + 1), fun i h => ?_⟩
      rcases List.mem_cons.mp h with rfl | h
      · omega
      · have hlt := hm i h
        omega
  obtain ⟨m, hm⟩ := hbound
  refine ⟨List.range' m n, List.length_range', List.nodup_range', fun i h hmem => ?_⟩
  have hlt := hm i hmem
  have hle := (List.mem_range'_1.mp h).1
  omega

/-- The answers in another order: after enough new requests one of them is cached in one store
only. -/
theorem exists_lost {t : CommandStateStore F} (hs : s.requests.length ≤ maxCachedRequests)
    (hnodup : (Dict.keys s.requests).Nodup) (hp : s.requests.Perm t.requests) (hne : s.requests ≠ t.requests)
    (hg : ∀ k, s.generation k = t.generation k) :
    ∃ cs : List (Uuid × AgentCommand), (∀ c ∈ cs, 1 ≤ c.2.owner.generation) ∧ ∃ requestId,
      (serve fingerprint (fun _ node => (.ok acceptedAbsent, node)) cs s ()).2.1.getRequest requestId ≠
        (serve fingerprint (fun _ node => (.ok acceptedAbsent, node)) cs t ()).2.1.getRequest requestId := by
  obtain ⟨first, x, l, y, m, hl, hm, hxy⟩ := exists_parting hp hne
  let k : OwnerKey := ⟨.deployment, 0⟩
  let c : AgentCommand := ⟨.status, ⟨.deployment, 0, [], s.generation k + 1⟩, [], .empty⟩
  -- as many requests as evict the entries before the parting and the one there
  obtain ⟨requestIds, hlength, hfresh, hnew⟩ :=
    exists_new (Dict.keys s.requests) (maxCachedRequests - s.requests.length + first.length + 1)
  have hkeys : ∀ requestId ∈ requestIds, requestId ∉ Dict.keys t.requests :=
    fun requestId h hmem => hnew requestId h ((hp.map Prod.fst).mem_iff.mpr hmem)
  have hlen : t.requests.length = s.requests.length := hp.length_eq.symm
  have hserve := requests_serve_new fingerprint (c := c) rfl hfresh hnew hs (Nat.le_succ _)
  have hserve' := requests_serve_new fingerprint (c := c) rfl hfresh hkeys (hlen.trans_le hs)
    (by rw [← hg]; exact Nat.le_succ _)
  refine ⟨requestIds.map (·, c), fun e he => ?_, x.1, ?_⟩
  · obtain ⟨requestId, -, rfl⟩ := List.mem_map.mp he
    exact Nat.le_add_left _ _
  rw [rtake_of_parting hl hs (by rw [List.length_map, hlength])] at hserve
  rw [rtake_of_parting hm (hlen.trans_le hs) (by rw [List.length_map, hlength, hlen])] at hserve'
  have hxnew : x.1 ∈ Dict.keys s.requests := by
    rw [hl]
    exact List.mem_map_of_mem (List.mem_append_right _ List.mem_cons_self)
  rw [hl, Dict.keys, List.map_append, List.map_cons] at hnodup
  obtain ⟨-, hnodup, hdisjoint⟩ := List.nodup_append.mp hnodup
  have hgone : (serve fingerprint (fun _ node => (.ok acceptedAbsent, node)) (requestIds.map (·, c)) s ()).2.1.getRequest
      x.1 = none := by
    rw [getRequest, hserve, Dict.get?_eq_none, Dict.keys, List.map_append, List.mem_append]
    rintro (hmem | hmem)
    · exact (List.nodup_cons.mp hnodup).1 hmem
    · rw [List.map_map, List.mem_map] at hmem
      obtain ⟨requestId, h, e⟩ := hmem
      have e : requestId = x.1 := e
      exact hnew requestId h (e ▸ hxnew)
  have hkept : x ∈ m := by
    have hmem : x ∈ t.requests := hp.mem_iff.mp (hl ▸ List.mem_append_right _ List.mem_cons_self)
    rw [hm] at hmem
    rcases List.mem_append.mp hmem with hmem | hmem
    · exact absurd rfl (hdisjoint x.1 (List.mem_map_of_mem hmem) x.1 List.mem_cons_self)
    · exact (List.mem_cons.mp hmem).resolve_left hxy
  rw [hgone]
  intro hnone
  rw [getRequest, hserve', eq_comm, Dict.get?_eq_none] at hnone
  exact hnone (List.mem_map_of_mem (List.mem_append_left _ hkept))

end CommandStateStore

namespace AgentProcess

open CommandStateStore

variable {F : Type} [DecidableEq F] (fingerprint : Option Uuid → AgentCommand → F)

/-- On any commands, and with any dispatcher and node, the agent answers after a restart as it would
without one: the answers and the node are equal, watermarks, bindings and cached answers are, and the
entries that were inserted first have been evicted. -/
def RestartInvisible (s : AgentProcess F) : Prop :=
  ∀ (N : Type) (dispatch : AgentCommand → N → Except Raised CommandResult × N) (node : N)
    (cs : List (Uuid × AgentCommand)), (∀ c ∈ cs, 1 ≤ c.2.owner.generation) →
    let continued := serve fingerprint dispatch cs s.memory node
    let restarted := serve fingerprint dispatch cs s.restart.memory node
    continued.1 = restarted.1 ∧ continued.2.2 = restarted.2.2 ∧ Alike continued.2.1 restarted.2.1 ∧
      EvictsOldest s.memory restarted.2.1

/-! ## The size of the cache -/

/-- Memory and file keep at most `MAX_CACHED_REQUESTS` answers. -/
structure Bounded (s : AgentProcess F) : Prop where
  memory : s.memory.requests.length ≤ maxCachedRequests
  disk : s.disk.requests.length ≤ maxCachedRequests

section Bounded

omit [DecidableEq F]

variable {s : AgentProcess F}

theorem Bounded.of_memory (hb : Bounded s) {memory : CommandStateStore F}
    (hmemory : memory.requests.length ≤ maxCachedRequests) : Bounded { s with memory := memory } := ⟨hmemory, hb.disk⟩

theorem Bounded.restart (hb : Bounded s) (h : ProcessInv s) : Bounded s.restart := by
  have hmemory : s.restart.memory = s.disk := h.load
  exact ⟨hmemory ▸ hb.disk, hb.disk⟩

theorem Bounded.saved (hb : Bounded s) : Bounded s.saved :=
  ⟨hb.memory, (sortedBy_perm s.memory.requests).length_eq.trans_le hb.memory⟩

theorem Bounded.persist (hb : Bounded s) (h : ProcessInv s) (write : Write) : Bounded (s.persist write).1 := by
  have hreplaced (replaced : Bool) : Bounded (if replaced then s.saved else s) ∧ ProcessInv (if replaced then s.saved else s) := by
    split
    · exact ⟨hb.saved, .saved h.memory⟩
    · exact ⟨hb, h⟩
  cases write with
  | done => exact hb.saved
  | raised replaced => exact (hreplaced replaced).1
  | crashed replaced => exact (hreplaced replaced).1.restart (hreplaced replaced).2

end Bounded

variable {fingerprint} {s s' : AgentProcess F}

omit [DecidableEq F] in
theorem Bounded.dispatch (hb : Bounded s) (h : ProcessInv s) (c : AgentCommand) (requestId : Uuid)
    (outcome : Option (Except Raised CommandResult)) (record : Write) :
    Bounded (s.dispatch fingerprint requestId c outcome record) := by
  have hstart : ProcessInv { s with dispatched := (c.owner.key, c.owner.generation) :: s.dispatched } :=
    ⟨h.memory, h.disk, h.generations, h.starts⟩
  have hbstart : Bounded { s with dispatched := (c.owner.key, c.owner.generation) :: s.dispatched } := ⟨hb.memory, hb.disk⟩
  cases outcome with
  | none => exact hbstart.restart hstart
  | some outcome =>
    simp only [AgentProcess.dispatch, recorded]
    split
    · exact hbstart
    · rename_i result _
      have hput := hstart.putRequest requestId (fingerprint (some requestId) c) result
      have hlength := length_putRequest s.memory requestId (fingerprint (some requestId) c) result
      generalize s.memory.putRequest requestId (fingerprint (some requestId) c) result = memory at hput hlength ⊢
      exact (hbstart.of_memory hlength).persist hput record

theorem Bounded.step (hb : Bounded s) (h : ProcessInv s) {l : ProcessLabel}
    (hs : AgentProcess.step fingerprint s l = some s') : Bounded s' := by
  cases l with
  | restart =>
    cases hs
    exact hb.restart h
  | command requestId c write outcome record =>
    simp only [AgentProcess.step] at hs
    split at hs <;> [skip; cases hs]
    rename_i hc
    have harrive : Bounded (s.arrive fingerprint requestId c write record).1 := by
      have hcases := arrive_cases fingerprint s requestId c write record
      generalize s.arrive fingerprint requestId c write record = p at hcases
      cases hcases with
      | answered => exact hb
      | @refused memory f result hmemory =>
        have hput : ProcessInv { s with memory := memory } := by
          rw [hmemory]
          exact h.putRequest requestId f result
        have hlength : memory.requests.length ≤ maxCachedRequests := by
          rw [hmemory]
          exact length_putRequest _ _ _ _
        exact (hb.of_memory hlength).persist hput record
      | @written memory hg hobs hw =>
        have hlength : memory.requests.length ≤ maxCachedRequests := by
          rw [requests_observe fingerprint hobs]
          exact hb.memory
        have hbobserved : Bounded (s.observed c memory) := ⟨hlength, hb.disk⟩
        exact hbobserved.persist (h.observed hc hg hobs hw) write
      | ready hg hobs hw => exact hb
    cases hs
    split
    · exact harrive.dispatch (h.arrive fingerprint hc requestId write record).1 c requestId outcome record
    · exact harrive

/-- The process in a run. -/
theorem inv_of_reached {ls : List ProcessLabel} (hrun : (system fingerprint).run (system fingerprint).init ls = some s) :
    ProcessInv s ∧ Bounded s := by
  have hstep {s l s'} (h : ProcessInv s ∧ Bounded s) (hs : (system fingerprint).step s l = some s') (_ : True) :
      ProcessInv s' ∧ Bounded s' := ⟨(h.1.step_cases hs).1, h.2.step h.1 hs⟩
  have hinit : ProcessInv (system fingerprint).init ∧ Bounded (system fingerprint).init :=
    ⟨.init, ⟨Nat.zero_le _, Nat.zero_le _⟩⟩
  exact System.inv_of_run hstep hinit (System.EachStep.of_true _ _) hrun

omit [DecidableEq F] in
/-- The process has what it has written. -/
theorem ProcessInv.restarted (h : ProcessInv s) (hsaved : s.file = some s.memory.persisted) :
    s.restart.memory = s.memory.persisted := by
  show CommandStateStore.load s.file = _
  rw [hsaved, load_eq h.memory.persisted]

/-- In another order the restart is not invisible: the cache gets full, and not the same answers are
evicted. -/
theorem ProcessInv.insertedInOrder (h : ProcessInv s) (hb : Bounded s) (hsaved : s.file = some s.memory.persisted)
    (hinvisible : s.RestartInvisible fingerprint) : s.memory.InsertedInOrder := by
  rw [← requests_persisted]
  by_contra hne
  obtain ⟨cs, hcs, requestId, hlost⟩ := exists_lost fingerprint hb.memory h.memory.requests
    (sortedBy_perm s.memory.requests).symm (Ne.symm hne) fun k => (generation_persisted h.memory k).symm
  obtain ⟨-, -, halike, -⟩ := hinvisible Unit (fun _ node => (.ok acceptedAbsent, node)) () cs hcs
  rw [h.restarted hsaved] at halike
  exact hlost (halike.getRequest requestId)

/-- When everything has been written, a restart is invisible if and only if the cached answers were
inserted in the order of their ids. -/
theorem restartInvisible_iff {F : Type} [DecidableEq F] (fingerprint : Option Uuid → AgentCommand → F)
    {s : AgentProcess F} {ls : List ProcessLabel} (hrun : (system fingerprint).run (system fingerprint).init ls = some s)
    (hsaved : s.file = some s.memory.persisted) : s.RestartInvisible fingerprint ↔ s.memory.InsertedInOrder := by
  obtain ⟨hinv, hbounded⟩ := inv_of_reached hrun
  have hwf := hinv.memory
  refine ⟨hinv.insertedInOrder hbounded hsaved, fun horder N dispatch node cs _ => ?_⟩
  have hsame : CommandStateStore.Same s.memory s.memory.persisted :=
    ⟨fun k => (generation_persisted hwf k).symm, fun k => (starts_persisted hwf k).symm,
      ((requests_persisted _).mpr horder).symm⟩
  obtain ⟨hresults, hstore, hnode⟩ := hsame.outcome_serve fingerprint dispatch cs node
  obtain ⟨new, hnew⟩ := serve_evictsOldest fingerprint dispatch cs hbounded.memory node
  rw [hinv.restarted hsaved]
  exact ⟨hresults, hnode, hstore.alike, new, hstore.requests ▸ hnew⟩

section Sample

/-- Two commands, the second with the smaller request id or with the greater. -/
def Sample.twoRequests (first second : Uuid) : List ProcessLabel :=
  [.command first (Sample.status 1) .done (some (.ok acceptedAbsent)) .done,
    .command second (Sample.status 1) .done (some (.ok acceptedAbsent)) .done]

/-- The ids are in order, and a restart is invisible. -/
theorem restartInvisible_in_order : ∃ s, (system Prod.mk).run (system Prod.mk).init (Sample.twoRequests 1 2) = some s ∧
    s.file = some s.memory.persisted ∧ s.RestartInvisible Prod.mk := by
  have hrun : ((system Prod.mk).run (system Prod.mk).init (Sample.twoRequests 1 2)).map (fun s => (s.memory.requests.map
      Prod.fst, decide (s.file = some s.memory.persisted), decide s.memory.InsertedInOrder)) = some ([1, 2], true, true) := by
    decide +kernel
  obtain ⟨s, hs, h⟩ := Option.map_eq_some_iff.mp hrun
  simp only [Prod.mk.injEq, decide_eq_true_eq] at h
  exact ⟨s, hs, h.2.1, (restartInvisible_iff Prod.mk hs h.2.1).mpr h.2.2⟩

/-- After the restart the answer to the second command is evicted before the answer to the first. -/
theorem restart_reorders_cache : ∃ s, (system Prod.mk).run (system Prod.mk).init (Sample.twoRequests 2 1) = some s ∧
    s.file = some s.memory.persisted ∧ ¬ s.RestartInvisible Prod.mk := by
  have hrun : ((system Prod.mk).run (system Prod.mk).init (Sample.twoRequests 2 1)).map (fun s => (s.memory.requests.map
      Prod.fst, decide (s.file = some s.memory.persisted), decide s.memory.InsertedInOrder)) = some ([2, 1], true, false) := by
    decide +kernel
  obtain ⟨s, hs, h⟩ := Option.map_eq_some_iff.mp hrun
  simp only [Prod.mk.injEq, decide_eq_true_eq, decide_eq_false_iff_not] at h
  obtain ⟨hinv, hbounded⟩ := inv_of_reached hs
  exact ⟨s, hs, h.2.1, fun hinvisible => h.2.2 (hinv.insertedInOrder hbounded h.2.1 hinvisible)⟩

end Sample

end AgentProcess

end OpenLLMOps
