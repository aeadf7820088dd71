import OpenLLMOps.Agent.Processor
import OpenLLMOps.Vllm.Command

/-!
# The state file

`_persist` and `_load` of `CommandStateStore`. `json.dumps` sorts the keys of every object,
so the file has the entries of the three dictionaries in another order; the values are read
back as they were written.

`load_eq`: a fresh process has exactly what the file holds, provided that no binding is
above its watermark (`WellFormed`).
-/

namespace OpenLLMOps

open Framework Vllm

/-- `owner_key`. -/
def OwnerKey.text (k : OwnerKey) : PyStr := k.type.value ++ py ":" ++ uuidText k.id

/-- The entries in the order of their keys as text. -/
def sortedBy {K V : Type} (text : K → PyStr) (d : List (K × V)) : List (K × V) :=
  d.insertionSort fun a b => PyStr.le (text a.1) (text b.1)

section SortedBy

variable {K V : Type} {text : K → PyStr}

theorem sortedBy_perm (d : List (K × V)) : (sortedBy text d).Perm d := List.perm_insertionSort _ d

theorem nodup_sortedBy {d : List (K × V)} (h : (Dict.keys d).Nodup) : (Dict.keys (sortedBy text d)).Nodup :=
  ((sortedBy_perm d).map Prod.fst).nodup_iff.mpr h

theorem mem_sortedBy {d : List (K × V)} {e : K × V} : e ∈ sortedBy text d ↔ e ∈ d := (sortedBy_perm d).mem_iff

variable [DecidableEq K]

theorem get?_sortedBy {d : List (K × V)} (h : (Dict.keys d).Nodup) (k : K) :
    Dict.get? (sortedBy text d) k = Dict.get? d k :=
  Dict.get?_perm h (sortedBy_perm d).symm k

end SortedBy

namespace CommandStateStore

variable {F : Type}

/-- The state that `_persist` writes. -/
def persisted (s : CommandStateStore F) : CommandStateStore F :=
  ⟨sortedBy OwnerKey.text s.generations, sortedBy OwnerKey.text s.starts, sortedBy uuidText s.requests⟩

/-- `_load`. -/
def load : Option (CommandStateStore F) → CommandStateStore F
  | none => .empty
  | some file =>
    let starts := file.starts.filter fun e => 1 ≤ e.2.generation
    ⟨starts.foldl (fun generations e => Dict.set generations e.1 (max ((Dict.get? generations e.1).getD 0) e.2.generation))
        (file.generations.filter fun e => 1 ≤ e.2),
      starts, file.requests⟩

/-- The keys are distinct, and every binding is of a generation that has been observed. -/
structure WellFormed (s : CommandStateStore F) : Prop where
  generations : (Dict.keys s.generations).Nodup
  starts : (Dict.keys s.starts).Nodup
  requests : (Dict.keys s.requests).Nodup
  positive : ∀ e ∈ s.generations, 1 ≤ e.2
  bound : ∀ k b, Dict.get? s.starts k = some b → 1 ≤ b.generation ∧ b.generation ≤ s.generation k

section WellFormed

variable {s : CommandStateStore F}

theorem WellFormed.empty : WellFormed (empty : CommandStateStore F) :=
  ⟨List.nodup_nil, List.nodup_nil, List.nodup_nil, nofun, nofun⟩

/-- An entry of `generations` for every binding. -/
theorem WellFormed.get?_generations (h : s.WellFormed) {e : OwnerKey × StartBinding F} (he : e ∈ s.starts) :
    ∃ g, Dict.get? s.generations e.1 = some g ∧ 1 ≤ e.2.generation ∧ e.2.generation ≤ g := by
  obtain ⟨h₁, hle⟩ := h.bound e.1 e.2 (Dict.get?_of_mem h.starts he)
  unfold generation at hle
  cases hg : Dict.get? s.generations e.1 with
  | none =>
    rw [hg, Option.getD_none] at hle
    omega
  | some g =>
    rw [hg, Option.getD_some] at hle
    exact ⟨g, rfl, h₁, hle⟩

/-- A fresh process has what the file holds. -/
theorem load_eq (h : s.WellFormed) : load (some s) = s := by
  have hgenerations : (s.generations.filter fun e => 1 ≤ e.2) = s.generations :=
    List.filter_eq_self.mpr fun e he => decide_eq_true (h.positive e he)
  have hstarts : (s.starts.filter fun e => 1 ≤ e.2.generation) = s.starts :=
    List.filter_eq_self.mpr fun e he => decide_eq_true (h.get?_generations he).choose_spec.2.1
  have hfold : ∀ starts ⊆ s.starts, starts.foldl (fun generations e =>
      Dict.set generations e.1 (max ((Dict.get? generations e.1).getD 0) e.2.generation)) s.generations = s.generations := by
    intro starts
    induction starts with
    | nil => exact fun _ => rfl
    | cons e starts ih =>
      intro hsub
      obtain ⟨he, hsub⟩ := List.cons_subset.mp hsub
      obtain ⟨g, hg, -, hle⟩ := h.get?_generations he
      rw [List.foldl_cons, hg, Option.getD_some, Nat.max_eq_left hle, Dict.set_self hg]
      exact ih hsub
  simp only [load, hgenerations, hstarts, hfold s.starts (List.Subset.refl _)]

theorem generation_persisted (h : s.WellFormed) (k : OwnerKey) : s.persisted.generation k = s.generation k := by
  simp only [generation, persisted, get?_sortedBy h.generations]

theorem starts_persisted (h : s.WellFormed) (k : OwnerKey) :
    Dict.get? s.persisted.starts k = Dict.get? s.starts k := get?_sortedBy h.starts k

theorem WellFormed.persisted (h : s.WellFormed) : s.persisted.WellFormed := by
  refine ⟨nodup_sortedBy h.generations, nodup_sortedBy h.starts, nodup_sortedBy h.requests,
    fun e he => h.positive e (mem_sortedBy.mp he), fun k b hb => ?_⟩
  rw [generation_persisted h]
  exact h.bound k b ((starts_persisted h k).symm.trans hb)

theorem WellFormed.advanceGeneration (h : s.WellFormed) {k : OwnerKey} {g : Nat} (hg : 1 ≤ g) :
    (s.advanceGeneration k g).WellFormed := by
  refine ⟨?_, ?_, ?_, fun e he => ?_, fun k' b hb => ?_⟩
  · unfold CommandStateStore.advanceGeneration
    split
    · exact Dict.nodup_set h.generations k g
    · exact h.generations
  · rw [starts_advanceGeneration]
    exact h.starts
  · rw [requests_advanceGeneration]
    exact h.requests
  · unfold CommandStateStore.advanceGeneration at he
    split at he
    · rcases Dict.mem_set he with he | rfl
      · exact h.positive e he
      · exact hg
    · exact h.positive e he
  · rw [starts_advanceGeneration] at hb
    obtain ⟨h₁, hle⟩ := h.bound k' b hb
    refine ⟨h₁, ?_⟩
    rw [generation_advanceGeneration]
    split
    · rename_i e
      subst e
      omega
    · exact hle

theorem WellFormed.putRequest (h : s.WellFormed) (requestId : Uuid) (f : F) (result : CommandResult) :
    (s.putRequest requestId f result).WellFormed := by
  have hgenerations : (s.putRequest requestId f result).generations = s.generations := by
    rw [CommandStateStore.putRequest]
  refine ⟨?_, ?_, ?_, ?_, fun k b hb => ?_⟩
  · rw [hgenerations]
    exact h.generations
  · rw [starts_putRequest]
    exact h.starts
  · simp only [CommandStateStore.putRequest]
    have hset : (Dict.keys (Dict.set s.requests requestId ⟨f, result⟩)).Nodup := Dict.nodup_set h.requests _ _
    have hdrop (n : Nat) : (Dict.keys ((Dict.set s.requests requestId ⟨f, result⟩).drop n)).Nodup :=
      ((List.drop_sublist n _).map Prod.fst).nodup hset
    exact hdrop _
  · rw [hgenerations]
    exact h.positive
  · rw [starts_putRequest] at hb
    rw [generation_putRequest]
    exact h.bound k b hb

theorem WellFormed.record (h : s.WellFormed) (requestId : Uuid) (f : F) (result : Option CommandResult) :
    (s.record requestId f result).WellFormed := by
  cases result with
  | none => exact h
  | some result => exact h.putRequest requestId f result

variable [DecidableEq F]

theorem WellFormed.bindStart (h : s.WellFormed) {k : OwnerKey} {g : Nat} {f : F} (hg : 1 ≤ g)
    {s' : CommandStateStore F} (hs : s.bindStart k g f = .ok s') : s'.WellFormed := by
  have hadvanced : (s.advanceGeneration k g).WellFormed := h.advanceGeneration hg
  have hgeneration (k' : OwnerKey) : s'.generation k' = (s.advanceGeneration k g).generation k' := by
    rw [generation, generations_bindStart hs, generation]
  refine ⟨?_, ?_, ?_, ?_, fun k' b hb => ?_⟩
  · rw [generations_bindStart hs]
    exact hadvanced.generations
  · unfold CommandStateStore.bindStart at hs
    split at hs
    · split at hs <;> cases hs
      rw [starts_advanceGeneration]
      exact h.starts
    · cases hs
      rw [starts_advanceGeneration]
      exact Dict.nodup_set h.starts k _
  · rw [requests_bindStart hs]
    exact h.requests
  · rw [generations_bindStart hs]
    exact hadvanced.positive
  · rw [hgeneration, generation_advanceGeneration]
    rw [get?_bindStart hs] at hb
    split at hb
    · cases hb
      rename_i e
      rw [if_pos e]
      exact ⟨hg, Nat.le_max_right _ _⟩
    · rename_i e
      rw [if_neg e]
      exact h.bound k' b hb

end WellFormed

end CommandStateStore

end OpenLLMOps
