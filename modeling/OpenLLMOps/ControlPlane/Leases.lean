import Mathlib.Data.List.Sort
import OpenLLMOps.ControlPlane.Entities

/-!
# The GPU lease table

`GPULeaseManager` of `app/services/gpu_scheduler.py`, on the list of lease
rows. A caller holds the scheduler lock or its own transaction, so each
operation is a function from the table to the table. `tryAcquireLocked` does not
insert when a requested GPU is leased, and the GPUs of a request are distinct,
so the unique constraint on `gpu_index` cannot fail inside it.

`CompleteGroup` is what one acquisition creates: the leases of a set of GPUs,
of one generation and one group. The lemmas say for each operation which leases
of an owner (`leasesOf`) it keeps.
-/

namespace OpenLLMOps

open Framework

/-- What `try_acquire_locked` raises. -/
inductive LeaseError
  /-- `LeaseInvariantError`: the owner holds other GPUs, another generation or several groups. -/
  | invariant
  /-- `ValueError` of `_normalize_gpu_ids`. -/
  | gpuIds
  deriving DecidableEq

structure LeaseAcquisition where
  acquired : Bool
  gpuIds : List Nat
  leaseGroupId : Option Uuid
  blockingOwner : Option LeaseOwner
  idempotent : Bool
  deriving DecidableEq

/-- `ORDER BY gpu_index`. -/
def orderByGpu (ls : List GPULease) : List GPULease :=
  ls.insertionSort fun a b => a.gpuIndex ≤ b.gpuIndex

/-- `_normalize_gpu_ids`. -/
def normalizeGpuIds (gpuIds : List Nat) : Except LeaseError (List Nat) :=
  let normalized := gpuIds.insertionSort (· ≤ ·)
  if normalized = [] then .error .gpuIds
  else if ¬ normalized.Nodup then .error .gpuIds
  else .ok normalized

/-- The owner that a lease names. -/
def GPULease.owner (l : GPULease) : LeaseOwner := ⟨l.ownerType, l.ownerId, l.ownerName, l.generation⟩

/-- Setting the heartbeat of the leases that satisfy `p`. -/
def renew (ttl now : Time) (p : GPULease → Bool) (leases : List GPULease) : List GPULease :=
  leases.map fun l => if p l then { l with heartbeatAt := now, expiresAt := now + ttl } else l

/-- `try_acquire_locked`, with `group` the fresh group id. -/
def tryAcquireLocked (ttl : Time) (group : Uuid) (owner : LeaseOwner) (gpuIds : List Nat) (now : Time)
    (leases : List GPULease) : Except LeaseError (LeaseAcquisition × List GPULease) := do
  let requested ← normalizeGpuIds gpuIds
  match orderByGpu (leases.filter (·.key = owner.key)) with
  | first :: rest =>
    let owned := first :: rest
    if owned.map (·.gpuIndex) ≠ requested ∨ (∃ l ∈ owned, l.generation ≠ owner.generation) ∨
        (∃ l ∈ owned, l.leaseGroupId ≠ first.leaseGroupId) then
      .error .invariant
    else
      .ok (⟨true, requested, some first.leaseGroupId, none, true⟩, renew ttl now (·.key = owner.key) leases)
  | [] =>
    match orderByGpu (leases.filter (·.gpuIndex ∈ requested)) with
    | conflict :: _ => .ok (⟨false, requested, none, some conflict.owner, false⟩, leases)
    | [] =>
      .ok (⟨true, requested, some group, none, false⟩,
        leases ++ requested.map fun gpu =>
          ⟨gpu, group, owner.type, owner.id, owner.name, owner.generation, now, now, now + ttl⟩)

/-- `heartbeat`. -/
def heartbeat (ttl : Time) (owner : LeaseOwner) (now : Time) (leases : List GPULease) : List GPULease :=
  renew ttl now (fun l => l.key = owner.key ∧ l.generation = owner.generation) leases

/-- `release`. -/
def release (owner : LeaseOwner) (leases : List GPULease) : List GPULease :=
  leases.filter fun l => ¬ (l.key = owner.key ∧ l.generation = owner.generation)

/-- `reap_expired_locked`, for the confirmed owners and generations. -/
def reapExpiredLocked (confirmed : OwnerKey × Nat → Bool) (now : Time) (leases : List GPULease) :
    List GPULease :=
  leases.filter fun l => ¬ (l.expiresAt ≤ now ∧ confirmed (l.key, l.generation))

/-- The deletion at the end of `confirm_absent_and_release_leases`. -/
def releaseAll (k : OwnerKey) (leases : List GPULease) : List GPULease :=
  leases.filter fun l => ¬ l.key = k

/-! ## One complete group -/

/-- The leases are one group over the GPUs `gpuIds`, of the generation `g`. -/
structure CompleteGroup (ls : List GPULease) (g : Nat) (gpuIds : List Nat) : Prop where
  gpus : (ls.map (·.gpuIndex)).Perm gpuIds
  generation : ∀ l ∈ ls, l.generation = g
  group : ∃ group, ∀ l ∈ ls, l.leaseGroupId = group

theorem CompleteGroup.ne_nil {ls : List GPULease} {g : Nat} {gpuIds : List Nat}
    (h : CompleteGroup ls g gpuIds) (hne : gpuIds ≠ []) : ls ≠ [] := by
  rintro rfl
  exact hne (List.nil_perm.mp h.gpus)

theorem normalizeGpuIds_ok {gpuIds : List Nat} (hne : gpuIds ≠ []) (hn : gpuIds.Nodup) :
    normalizeGpuIds gpuIds = .ok (gpuIds.insertionSort (· ≤ ·)) := by
  have hp : (gpuIds.insertionSort (· ≤ ·)).Perm gpuIds := List.perm_insertionSort _ _
  have h₁ : gpuIds.insertionSort (· ≤ ·) ≠ [] := fun e => hne (List.nil_perm.mp (e ▸ hp))
  simp only [normalizeGpuIds, h₁, ↓reduceIte, hp.nodup_iff, hn, not_true_eq_false]

/-! ## What each operation keeps -/

section Filter

variable (k : OwnerKey)

/-- The leases of `k` in a table. -/
abbrev ownedBy (ls : List GPULease) : List GPULease := ls.filter (·.key = k)

theorem renew_keeps (ttl now : Time) (p : GPULease → Bool) (ls : List GPULease) :
    ownedBy k (renew ttl now p ls) = renew ttl now p (ownedBy k ls) := by
  simp only [renew, ownedBy, List.filter_map]
  congr 1
  refine List.filter_congr fun l _ => ?_
  simp only [Function.comp_apply]
  split <;> rfl

theorem CompleteGroup.renew {ls : List GPULease} {g : Nat} {gpuIds : List Nat}
    (h : CompleteGroup ls g gpuIds) (ttl now : Time) (p : GPULease → Bool) :
    CompleteGroup (renew ttl now p ls) g gpuIds := by
  have field {α : Type} (f : GPULease → α)
      (hf : ∀ l h e, f { l with heartbeatAt := h, expiresAt := e } = f l) (l : GPULease) :
      f (if p l then { l with heartbeatAt := now, expiresAt := now + ttl } else l) = f l := by
    split
    · exact hf _ _ _
    · rfl
  refine ⟨?_, ?_, ?_⟩
  · simpa only [OpenLLMOps.renew, List.map_map, Function.comp_def,
      field (·.gpuIndex) fun _ _ _ => rfl] using h.gpus
  · intro l hl
    obtain ⟨l', hl', rfl⟩ := List.mem_map.mp hl
    rw [field (·.generation) fun _ _ _ => rfl]
    exact h.generation l' hl'
  · obtain ⟨group, hg⟩ := h.group
    refine ⟨group, fun l hl => ?_⟩
    obtain ⟨l', hl', rfl⟩ := List.mem_map.mp hl
    rw [field (·.leaseGroupId) fun _ _ _ => rfl]
    exact hg l' hl'

/-- A heartbeat of one owner leaves the leases of the others alone. -/
theorem heartbeat_other {owner : LeaseOwner} (hk : owner.key ≠ k) (ttl now : Time) (ls : List GPULease) :
    ownedBy k (heartbeat ttl owner now ls) = ownedBy k ls := by
  rw [heartbeat, renew_keeps, renew]
  refine (List.map_congr_left fun l hl => ?_).trans (List.map_id _)
  have hl : l.key = k := of_decide_eq_true (List.mem_filter.mp hl).2
  have : ¬ (l.key = owner.key ∧ l.generation = owner.generation) := fun h => hk (h.1.symm.trans hl)
  rw [if_neg (by simpa using this)]
  rfl

theorem release_other {owner : LeaseOwner} (hk : owner.key ≠ k) (ls : List GPULease) :
    ownedBy k (release owner ls) = ownedBy k ls := by
  simp only [ownedBy, release, List.filter_filter]
  refine List.filter_congr fun l _ => ?_
  by_cases h : l.key = k
  · simp [h, Ne.symm hk]
  · simp [h]

/-- Releasing the generation of a whole group releases all of it. -/
theorem release_group {owner : LeaseOwner} {ls : List GPULease}
    (h : ∀ l ∈ ownedBy owner.key ls, l.generation = owner.generation) :
    ownedBy owner.key (release owner ls) = [] := by
  simp only [ownedBy, release, List.filter_filter, List.filter_eq_nil_iff]
  intro l hl
  by_cases hk : l.key = owner.key
  · simp [hk, h l (List.mem_filter.mpr ⟨hl, by simpa using hk⟩)]
  · simp [hk]

theorem releaseAll_other {k' : OwnerKey} (hk : k' ≠ k) (ls : List GPULease) :
    ownedBy k (releaseAll k' ls) = ownedBy k ls := by
  simp only [ownedBy, releaseAll, List.filter_filter]
  refine List.filter_congr fun l _ => ?_
  by_cases h : l.key = k
  · simp [h, Ne.symm hk]
  · simp [h]

theorem releaseAll_self (ls : List GPULease) : ownedBy k (releaseAll k ls) = [] := by
  simp [ownedBy, releaseAll, List.filter_filter]

/-- Reaping keeps the leases of an owner that no generation of is confirmed. -/
theorem reap_other {confirmed : OwnerKey × Nat → Bool} (h : ∀ g, confirmed (k, g) = false) (now : Time)
    (ls : List GPULease) : ownedBy k (reapExpiredLocked confirmed now ls) = ownedBy k ls := by
  simp only [ownedBy, reapExpiredLocked, List.filter_filter]
  refine List.filter_congr fun l _ => ?_
  by_cases hk : l.key = k
  · simp [hk, h]
  · simp [hk]

theorem reap_nil (confirmed : OwnerKey × Nat → Bool) (now : Time) {ls : List GPULease}
    (h : ownedBy k ls = []) : ownedBy k (reapExpiredLocked confirmed now ls) = [] := by
  simp only [ownedBy, List.filter_eq_nil_iff, reapExpiredLocked, List.mem_filter] at h ⊢
  exact fun l hl => h l hl.1

end Filter

/-! ## Acquiring -/

section Acquire

variable (ttl now : Time) (group : Uuid) (owner : LeaseOwner) {gpuIds : List Nat} {leases : List GPULease}

theorem orderByGpu_perm (ls : List GPULease) : (orderByGpu ls).Perm ls := List.perm_insertionSort _ _

theorem orderByGpu_eq_nil {ls : List GPULease} : orderByGpu ls = [] ↔ ls = [] :=
  ⟨fun h => List.nil_perm.mp (h ▸ orderByGpu_perm ls), fun h => by subst h; rfl⟩

/-- What `try_acquire_locked` does for an owner without leases: it is blocked by
a leased GPU and changes nothing, or inserts a complete group on free GPUs. -/
theorem tryAcquireLocked_of_unowned (hne : gpuIds ≠ []) (hn : gpuIds.Nodup)
    (h0 : ownedBy owner.key leases = []) :
    (∃ acq, tryAcquireLocked ttl group owner gpuIds now leases = .ok (acq, leases) ∧ acq.acquired = false) ∨
    ∃ acq new, tryAcquireLocked ttl group owner gpuIds now leases = .ok (acq, leases ++ new) ∧
      acq.acquired = true ∧ (∀ l ∈ new, l.key = owner.key) ∧ CompleteGroup new owner.generation gpuIds ∧
      ∀ l ∈ leases, l.gpuIndex ∉ gpuIds := by
  have hp : (gpuIds.insertionSort (· ≤ ·)).Perm gpuIds := List.perm_insertionSort _ _
  simp only [tryAcquireLocked, normalizeGpuIds_ok hne hn, bind, Except.bind,
    orderByGpu_eq_nil.mpr h0]
  split
  · exact .inl ⟨_, rfl, rfl⟩
  · rename_i hfree
    refine .inr ⟨_, _, rfl, rfl, ?_, ⟨?_, ?_, group, ?_⟩, ?_⟩
    · intro l hl
      obtain ⟨gpu, -, rfl⟩ := List.mem_map.mp hl
      rfl
    · simpa [List.map_map, Function.comp_def] using hp
    · intro l hl
      obtain ⟨gpu, -, rfl⟩ := List.mem_map.mp hl
      rfl
    · intro l hl
      obtain ⟨gpu, -, rfl⟩ := List.mem_map.mp hl
      rfl
    · intro l hl hg
      have := List.filter_eq_nil_iff.mp (orderByGpu_eq_nil.mp hfree) l hl
      exact this (by simpa using hp.mem_iff.mpr hg)

end Acquire

end OpenLLMOps
