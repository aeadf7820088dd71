import OpenLLMOps.ControlPlane.Leases
import OpenLLMOps.Framework.Effect
import OpenLLMOps.Framework.Lists
import OpenLLMOps.Framework.System

/-!
# Integrity of the lease table

`try_acquire_locked` as it works on the table: it inserts one lease after the
other inside a SAVEPOINT, and the unique constraint on `gpu_index` or another
constraint of the columns may refuse an insert. `tryAcquire_eq` says that it
computes `tryAcquireLocked`.

`leaseTable` runs the operations of the lease manager in any order on one table.
Its state remembers the acquisitions that inserted leases; `LeaseTableInv` says
that the leases of an owner are what the last of them inserted.
-/

namespace OpenLLMOps

open Framework

/-- What leaves `try_acquire_locked`. -/
inductive AcquireError
  | lease (e : LeaseError)
  /-- `IntegrityError`: the unique constraint on `gpu_index`. -/
  | integrity
  /-- An error of the database about a column. -/
  | data
  deriving DecidableEq

/-- A computation on the lease table. -/
abbrev LeaseTx := Effect (List GPULease) AcquireError

/-- `_normalize_gpu_ids` of any integers. -/
def normalizeGpuInts (gpuIds : List Int) : Except LeaseError (List Nat) :=
  match gpuIds.insertionSort (· ≤ ·) with
  | [] => .error .gpuIds
  | first :: rest =>
    if first < 0 ∨ ¬ (first :: rest).Nodup then .error .gpuIds else .ok ((first :: rest).map Int.toNat)

namespace LeaseTx

/-- `SELECT … WHERE p ORDER BY gpu_index FOR UPDATE`. -/
def select (p : GPULease → Bool) : LeaseTx (List GPULease) := fun ls => (.ok (orderByGpu (ls.filter p)), ls)

def update (f : List GPULease → List GPULease) : LeaseTx Unit := fun ls => (.ok (), f ls)

/-- One INSERT, with `valid` what the database requires of the columns. -/
def insert (valid : GPULease → Bool) (l : GPULease) : LeaseTx Unit := fun ls =>
  if ¬ valid l then (.error .data, ls)
  else if ∃ l' ∈ ls, l'.gpuIndex = l.gpuIndex then (.error .integrity, ls)
  else (.ok (), ls ++ [l])

def insertAll (valid : GPULease → Bool) : List GPULease → LeaseTx Unit
  | [] => pure ()
  | l :: ls => do
    insert valid l
    insertAll valid ls

/-- `begin_nested`: an exception rolls back to the SAVEPOINT. -/
def nested {α : Type} (m : LeaseTx α) : LeaseTx α := fun ls =>
  match m ls with
  | (.ok a, ls') => (.ok a, ls')
  | (.error e, _) => (.error e, ls)

end LeaseTx

/-- The leases that an acquisition inserts. -/
def newLeases (ttl : Time) (group : Uuid) (owner : LeaseOwner) (requested : List Nat) (now : Time) : List GPULease :=
  requested.map fun gpu => ⟨gpu, group, owner.type, owner.id, owner.name, owner.generation, now, now, now + ttl⟩

/-- The insertion of a whole group: the SAVEPOINT and the handler of `IntegrityError`. -/
def insertGroup (valid : GPULease → Bool) (ttl : Time) (group : Uuid) (owner : LeaseOwner) (requested : List Nat)
    (now : Time) : LeaseTx LeaseAcquisition :=
  tryCatch
    (do
      LeaseTx.nested (LeaseTx.insertAll valid (newLeases ttl group owner requested now))
      pure ⟨true, requested, some group, none, false⟩)
    fun
      | .integrity => do
        let conflict ← LeaseTx.select (·.gpuIndex ∈ requested)
        pure ⟨false, requested, none, conflict.head?.map GPULease.owner, false⟩
      | e => throw e

/-- `try_acquire_locked`, with `group` the fresh group id. -/
def tryAcquire (valid : GPULease → Bool) (ttl : Time) (group : Uuid) (owner : LeaseOwner) (gpuIds : List Int)
    (now : Time) : LeaseTx LeaseAcquisition :=
  match normalizeGpuInts gpuIds with
  | .error e => throw (.lease e)
  | .ok requested => do
    let owned ← LeaseTx.select (·.key = owner.key)
    match owned with
    | first :: rest =>
      let owned := first :: rest
      if owned.map (·.gpuIndex) ≠ requested ∨ (∃ l ∈ owned, l.generation ≠ owner.generation) ∨
          (∃ l ∈ owned, l.leaseGroupId ≠ first.leaseGroupId) then
        throw (.lease .invariant)
      else
        LeaseTx.update (renew ttl now (·.key = owner.key))
        pure ⟨true, requested, some first.leaseGroupId, none, true⟩
    | [] =>
      let conflicts ← LeaseTx.select (·.gpuIndex ∈ requested)
      match conflicts with
      | conflict :: _ => pure ⟨false, requested, none, some conflict.owner, false⟩
      | [] => insertGroup valid ttl group owner requested now

/-! ## What an acquisition does -/

theorem normalizeGpuInts_ok {gpuIds : List Int} {requested : List Nat} (h : normalizeGpuInts gpuIds = .ok requested) :
    requested ≠ [] ∧ requested.Nodup ∧ (requested.map Int.ofNat).Perm gpuIds := by
  have hp := List.perm_insertionSort (· ≤ ·) gpuIds
  have hs := List.pairwise_insertionSort (· ≤ ·) gpuIds
  unfold normalizeGpuInts at h
  split at h <;> [cases h; skip]
  rename_i first rest he
  split at h <;> [cases h; skip]
  rename_i hc
  simp only [not_or, not_not, Int.not_lt] at hc
  cases h
  rw [he] at hp hs
  have hpos : ∀ n ∈ first :: rest, 0 ≤ n := by
    intro n hn
    rcases List.mem_cons.mp hn with rfl | hn
    · exact hc.1
    · exact hc.1.trans ((List.pairwise_cons.mp hs).1 n hn)
  have hcast : ((first :: rest).map Int.toNat).map Int.ofNat = first :: rest := by
    rw [List.map_map]
    exact (List.map_congr_left fun n hn => Int.toNat_of_nonneg (hpos n hn)).trans (List.map_id _)
  refine ⟨List.cons_ne_nil _ _, ?_, by rw [hcast]; exact hp⟩
  exact List.Nodup.of_map Int.ofNat (by rw [hcast]; exact hc.2)

theorem normalizeGpuInts_ofNat (gpuIds : List Nat) :
    normalizeGpuInts (gpuIds.map Int.ofNat) = normalizeGpuIds gpuIds := by
  have hs : (gpuIds.map Int.ofNat).insertionSort (· ≤ ·) = (gpuIds.insertionSort (· ≤ ·)).map Int.ofNat := by
    refine (List.map_insertionSort _ _ Int.ofNat _ fun a _ b _ => ?_).symm
    exact Int.ofNat_le.symm
  have hinj : Function.Injective Int.ofNat := fun _ _ => Int.ofNat.inj
  simp only [normalizeGpuInts, normalizeGpuIds, hs]
  cases gpuIds.insertionSort (· ≤ ·) with
  | nil => rfl
  | cons first rest =>
    have hpos : ¬ Int.ofNat first < 0 := Int.not_lt.mpr (Int.natCast_nonneg first)
    have hnd : (Int.ofNat first :: rest.map Int.ofNat).Nodup ↔ (first :: rest).Nodup :=
      List.nodup_map_iff (l := first :: rest) hinj
    have hcast : ((first :: rest).map Int.ofNat).map Int.toNat = first :: rest := by
      rw [List.map_map]
      exact List.map_id _
    rw [List.map_cons] at hcast ⊢
    simp only [hpos, false_or, hnd, reduceCtorEq, ↓reduceIte]
    rw [hcast]

namespace LeaseTx

open Effect

section Rules

variable {ls : List GPULease}

@[simp] theorem wp_select {p : GPULease → Bool} {Q : Except AcquireError (List GPULease) → List GPULease → Prop} :
    wp (select p) Q ls ↔ Q (.ok (orderByGpu (ls.filter p))) ls := Iff.rfl

@[simp] theorem wp_update {f : List GPULease → List GPULease} {Q : Except AcquireError Unit → List GPULease → Prop} :
    wp (update f) Q ls ↔ Q (.ok ()) (f ls) := Iff.rfl

/-- What a nested transaction leaves after an exception is what it found. -/
theorem wp_nested {α : Type} {m : LeaseTx α} {Q : Except AcquireError α → List GPULease → Prop}
    (h : wp m (fun r ls' => match r with
      | .ok a => Q (.ok a) ls'
      | .error e => Q (.error e) ls) ls) : wp (nested m) Q ls := by
  unfold wp nested at *
  cases hm : m ls with
  | mk r ls' =>
    rw [hm] at h
    cases r <;> exact h

theorem wp_insert {valid : GPULease → Bool} {l : GPULease} {Q : Except AcquireError Unit → List GPULease → Prop}
    (h : Q (.ok ()) (ls ++ [l])) (he : ∀ e, Q (.error e) ls) : wp (insert valid l) Q ls := by
  unfold wp insert
  split <;> [exact he _; skip]
  split <;> [exact he _; exact h]

end Rules

variable {valid : GPULease → Bool}

/-- Rows that are inserted without an exception are all in the table. -/
theorem wp_insertAll (new ls : List GPULease) :
    wp (insertAll valid new) (fun r ls' => ∀ u, r = .ok u → ls' = ls ++ new) ls := by
  induction new generalizing ls with
  | nil => exact fun _ _ => (List.append_nil ls).symm
  | cons l new ih =>
    rw [insertAll, wp_bind]
    refine wp_insert (seq_ok.mpr (wp_mono (ih (ls ++ [l])) fun r ls' h u hr => ?_)) fun e => nofun
    rw [h u hr, List.append_assoc]
    rfl

/-- Rows of distinct free GPUs that the columns accept are inserted. -/
theorem insertAll_free {new ls : List GPULease} (hv : ∀ l ∈ new, valid l = true)
    (hn : (new.map (·.gpuIndex)).Nodup) (hfree : ∀ l' ∈ ls, l'.gpuIndex ∉ new.map (·.gpuIndex)) :
    insertAll valid new ls = (.ok (), ls ++ new) := by
  induction new generalizing ls with
  | nil => simp only [insertAll, List.append_nil]; rfl
  | cons l new ih =>
    have hins : insert valid l ls = (.ok (), ls ++ [l]) := by
      have : ¬ ∃ l' ∈ ls, l'.gpuIndex = l.gpuIndex := fun ⟨l', hl', e⟩ =>
        hfree l' hl' (List.mem_map.mpr ⟨l, List.mem_cons_self, e.symm⟩)
      simp only [insert, hv l List.mem_cons_self, not_true_eq_false, ↓reduceIte, this]
    show Effect.bind (insert valid l) (fun _ => insertAll valid new) ls = _
    unfold Effect.bind
    rw [hins, List.append_cons ls l new]
    rw [List.map_cons, List.nodup_cons] at hn
    refine ih (fun l' hl' => hv l' (List.mem_cons_of_mem _ hl')) hn.2 fun l' hl' hmem => ?_
    rcases List.mem_append.mp hl' with hl' | hl'
    · exact hfree l' hl' (List.mem_cons_of_mem _ hmem)
    · rw [List.mem_singleton.mp hl'] at hmem
      exact hn.1 hmem

end LeaseTx

/-- The three effects of an acquisition: nothing changes, the owner's group is renewed, or
a group is inserted. -/
inductive AcquireEffect (ttl : Time) (group : Uuid) (owner : LeaseOwner) (gpuIds : List Int) (now : Time)
    (ls : List GPULease) : Except AcquireError LeaseAcquisition → List GPULease → Prop
  | raised (e : AcquireError) : AcquireEffect ttl group owner gpuIds now ls (.error e) ls
  | refused {acq : LeaseAcquisition} (ha : acq.acquired = false) :
      AcquireEffect ttl group owner gpuIds now ls (.ok acq) ls
  | renewed {acq : LeaseAcquisition} (ha : acq.acquired = true) (hi : acq.idempotent = true)
      (howned : ownedBy owner.key ls ≠ []) (hgen : ∀ l ∈ ownedBy owner.key ls, l.generation = owner.generation) :
      AcquireEffect ttl group owner gpuIds now ls (.ok acq) (renew ttl now (·.key = owner.key) ls)
  | inserted {acq : LeaseAcquisition} {requested : List Nat} (ha : acq.acquired = true) (hi : acq.idempotent = false)
      (hn : normalizeGpuInts gpuIds = .ok requested) (howned : ownedBy owner.key ls = [])
      (hfree : ∀ l ∈ ls, l.gpuIndex ∉ requested) :
      AcquireEffect ttl group owner gpuIds now ls (.ok acq) (ls ++ newLeases ttl group owner requested now)

section Acquire

variable {valid : GPULease → Bool} {ttl now : Time} {group : Uuid} {owner : LeaseOwner} {gpuIds : List Int}
  {ls ls' : List GPULease}

theorem wp_insertGroup (requested : List Nat) :
    Effect.wp (insertGroup valid ttl group owner requested now)
      (fun r ls' => (ls' = ls ∧ ∀ acq, r = .ok acq → acq.acquired = false) ∨
        ls' = ls ++ newLeases ttl group owner requested now ∧ r = .ok ⟨true, requested, some group, none, false⟩) ls := by
  rw [insertGroup, Effect.wp_tryCatch, Effect.wp_bind]
  refine LeaseTx.wp_nested (Effect.wp_mono (LeaseTx.wp_insertAll _ ls) fun r ls' h => ?_)
  cases r with
  | ok u => exact .inr ⟨h u rfl, rfl⟩
  | error e =>
    cases e with
    | integrity => exact .inl ⟨rfl, fun acq e => by cases e; rfl⟩
    | lease e => exact .inl ⟨rfl, nofun⟩
    | data => exact .inl ⟨rfl, nofun⟩

/-- The effect of an acquisition on the table. -/
theorem wp_tryAcquire : Effect.wp (tryAcquire valid ttl group owner gpuIds now)
    (AcquireEffect ttl group owner gpuIds now ls) ls := by
  unfold tryAcquire
  split <;> [exact .raised _; skip]
  rename_i requested hn
  simp only [Effect.wp_bind, LeaseTx.wp_select, Effect.seq_ok]
  split
  · rename_i first rest ho
    have howned : ownedBy owner.key ls ≠ [] := fun e => by
      rw [orderByGpu_eq_nil.mpr e] at ho
      cases ho
    split
    · exact .raised _
    · rename_i hc
      simp only [not_or, not_exists, not_and, not_not] at hc
      refine .renewed rfl rfl howned fun l hl => hc.2.1 l ?_
      rw [← ho]
      exact (orderByGpu_perm _).mem_iff.mpr hl
  rename_i ho
  have howned : ownedBy owner.key ls = [] := orderByGpu_eq_nil.mp ho
  simp only [Effect.wp_bind, LeaseTx.wp_select, Effect.seq_ok]
  split
  · exact .refused rfl
  rename_i hc
  have hfree : ∀ l ∈ ls, l.gpuIndex ∉ requested := fun l hl hg =>
    List.filter_eq_nil_iff.mp (orderByGpu_eq_nil.mp hc) l hl (decide_eq_true hg)
  refine Effect.wp_mono (wp_insertGroup requested) fun r ls' h => ?_
  rcases h with ⟨rfl, hr⟩ | ⟨rfl, rfl⟩
  · cases r with
    | error e => exact .raised e
    | ok acq => exact .refused (hr acq rfl)
  · exact .inserted rfl rfl hn howned hfree

theorem newLeases_gpus (requested : List Nat) :
    (newLeases ttl group owner requested now).map (·.gpuIndex) = requested := by
  rw [newLeases, List.map_map]
  exact List.map_id _

/-- On GPU numbers that are naturals, and where the database accepts every column, this is
`tryAcquireLocked`. -/
theorem tryAcquire_eq (gpuIds : List Nat) :
    tryAcquire (fun _ => true) ttl group owner (gpuIds.map Int.ofNat) now ls =
      match tryAcquireLocked ttl group owner gpuIds now ls with
      | .ok (acq, ls') => (.ok acq, ls')
      | .error e => (.error (.lease e), ls) := by
  unfold tryAcquire tryAcquireLocked
  rw [normalizeGpuInts_ofNat]
  cases hn : normalizeGpuIds gpuIds with
  | error e => rfl
  | ok requested =>
  show Effect.bind (LeaseTx.select _) _ ls = _
  simp only [Effect.bind, LeaseTx.select, bind, Except.bind]
  cases ho : orderByGpu (ls.filter (·.key = owner.key)) with
  | cons first rest =>
    simp only
    split <;> rfl
  | nil =>
    show Effect.bind (LeaseTx.select _) _ ls = _
    simp only [Effect.bind, LeaseTx.select]
    cases hc : orderByGpu (ls.filter (·.gpuIndex ∈ requested)) with
    | cons conflict rest => rfl
    | nil =>
      have hreq : requested.Nodup := by
        rw [← normalizeGpuInts_ofNat] at hn
        exact (normalizeGpuInts_ok hn).2.1
      have hins := @LeaseTx.insertAll_free (fun _ => true) (newLeases ttl group owner requested now) ls
        (fun _ _ => rfl) (by rwa [newLeases_gpus]) fun l hl hg => by
          rw [newLeases_gpus] at hg
          exact List.filter_eq_nil_iff.mp (orderByGpu_eq_nil.mp hc) l hl (decide_eq_true hg)
      simp only [insertGroup]
      show Effect.tryCatch (Effect.bind (LeaseTx.nested _) _) _ ls = _
      simp only [Effect.tryCatch, Effect.bind, LeaseTx.nested, hins]
      rfl

/-- Whoever acquires the GPUs of its group again at the same generation renews the group. -/
theorem tryAcquire_again {g : Nat} {gpus : List Nat} (hne : ownedBy owner.key ls ≠ [])
    (hg : CompleteGroup (ownedBy owner.key ls) g gpus) (hn : gpus.Nodup) (hgen : owner.generation = g)
    (hp : (gpus.map Int.ofNat).Perm gpuIds) :
    ∃ acq, tryAcquire valid ttl group owner gpuIds now ls = (.ok acq, renew ttl now (·.key = owner.key) ls) ∧
      acq.acquired = true ∧ acq.idempotent = true := by
  have hreq : normalizeGpuInts gpuIds = .ok (gpus.insertionSort (· ≤ ·)) := by
    have hgpus : gpus ≠ [] := fun e => by
      rw [e] at hg
      exact hne (List.map_eq_nil_iff.mp (List.perm_nil.mp hg.gpus))
    rw [← normalizeGpuIds_ok hgpus hn, ← normalizeGpuInts_ofNat]
    unfold normalizeGpuInts
    rw [insertionSort_of_perm hp]
  have hsorted : (orderByGpu (ownedBy owner.key ls)).map (·.gpuIndex) = gpus.insertionSort (· ≤ ·) := by
    rw [← insertionSort_of_perm hg.gpus]
    exact List.map_insertionSort _ _ _ _ fun _ _ _ _ => Iff.rfl
  obtain ⟨group', hgroup⟩ := hg.group
  have hmem : ∀ l ∈ orderByGpu (ownedBy owner.key ls), l ∈ ownedBy owner.key ls := fun l hl =>
    (orderByGpu_perm _).mem_iff.mp hl
  unfold tryAcquire
  rw [hreq]
  show ∃ acq, Effect.bind (LeaseTx.select _) _ ls = _ ∧ _
  simp only [Effect.bind, LeaseTx.select]
  cases ho : orderByGpu (ls.filter (·.key = owner.key)) with
  | nil => exact absurd (orderByGpu_eq_nil.mp ho) hne
  | cons first rest =>
    rw [ho] at hsorted hmem
    have hwhole : ¬ ((first :: rest).map (·.gpuIndex) ≠ gpus.insertionSort (· ≤ ·) ∨
        (∃ l ∈ first :: rest, l.generation ≠ owner.generation) ∨
        ∃ l ∈ first :: rest, l.leaseGroupId ≠ first.leaseGroupId) := by
      simp only [not_or, not_not, not_exists, not_and]
      refine ⟨hsorted, fun l hl => (hg.generation l (hmem l hl)).trans hgen.symm, fun l hl => ?_⟩
      exact (hgroup l (hmem l hl)).trans (hgroup first (hmem first List.mem_cons_self)).symm
    simp only [hwhole, ↓reduceIte]
    exact ⟨_, rfl, rfl, rfl⟩

end Acquire

/-! ## Sequences of operations -/

/-- An acquisition that inserted leases. -/
structure Acquisition where
  owner : LeaseOwner
  gpuIds : List Int
  group : Uuid

/-- The table, and the acquisitions that inserted leases into it. -/
structure LeaseTable where
  leases : List GPULease
  acquisitions : List Acquisition

inductive LeaseOp
  | acquire (group : Uuid) (owner : LeaseOwner) (gpuIds : List Int) (now : Time)
  | heartbeat (owner : LeaseOwner) (now : Time)
  | release (owner : LeaseOwner)
  | reap (confirmed : OwnerKey × Nat → Bool) (now : Time)
  | releaseAll (k : OwnerKey)

section System

variable (valid : GPULease → Bool) (ttl : Time)

/-- One operation; `uuid4` does not return the id of another group. -/
def LeaseTable.step (s : LeaseTable) : LeaseOp → Option LeaseTable
  | .acquire group owner gpuIds now =>
    if group ∈ s.acquisitions.map (·.group) then none
    else match tryAcquire valid ttl group owner gpuIds now s.leases with
    | (.error _, ls) => some { s with leases := ls }
    | (.ok acq, ls) => some
        { leases := ls
          acquisitions :=
            if acq.acquired ∧ ¬ acq.idempotent then ⟨owner, gpuIds, group⟩ :: s.acquisitions else s.acquisitions }
  | .heartbeat owner now => some { s with leases := heartbeat ttl owner now s.leases }
  | .release owner => some { s with leases := release owner s.leases }
  | .reap confirmed now => some { s with leases := reapExpiredLocked confirmed now s.leases }
  | .releaseAll k => some { s with leases := releaseAll k s.leases }

/-- The lease manager on an empty table. -/
def leaseTable : System LeaseTable LeaseOp where
  init := ⟨[], []⟩
  step := LeaseTable.step valid ttl

end System

/-- The leases are a group that the acquisition `a` inserted, renewed as a whole. -/
structure GroupOf (a : Acquisition) (ls : List GPULease) : Prop where
  gpus : (ls.map fun l => Int.ofNat l.gpuIndex).Perm a.gpuIds
  generation : ∀ l ∈ ls, l.generation = a.owner.generation
  group : ∀ l ∈ ls, l.leaseGroupId = a.group
  expires : ∃ t, ∀ l ∈ ls, l.expiresAt = t

/-- Every GPU has at most one lease, and the leases of an owner are those that one
acquisition inserted. -/
structure LeaseIntegrity (s : LeaseTable) : Prop where
  gpus : (s.leases.map (·.gpuIndex)).Nodup
  groups : ∀ k, ownedBy k s.leases ≠ [] → ∃ a ∈ s.acquisitions, a.owner.key = k ∧ GroupOf a (ownedBy k s.leases)
  distinct : (s.acquisitions.map (·.group)).Nodup

/-- A lease without its heartbeat. -/
def GPULease.identity (l : GPULease) : GPULease := { l with heartbeatAt := 0, expiresAt := 0 }

/-- Neither a lease more nor one less. -/
def SameLeases (ls ls' : List GPULease) : Prop := ls'.map GPULease.identity = ls.map GPULease.identity

/-- What an operation may do to the table. -/
def RespectsGroups (valid : GPULease → Bool) (ttl : Time) (s : LeaseTable) (op : LeaseOp) (s' : LeaseTable) : Prop :=
  match op with
  | .acquire group owner gpuIds now =>
    let r := (tryAcquire valid ttl group owner gpuIds now s.leases).1
    (∀ e, r = .error e → s'.leases = s.leases) ∧
    (∀ acq, r = .ok acq → acq.acquired = false → s'.leases = s.leases) ∧
    (ownedBy owner.key s.leases ≠ [] → (∀ l ∈ ownedBy owner.key s.leases, l.generation = owner.generation) →
      ((ownedBy owner.key s.leases).map fun l => Int.ofNat l.gpuIndex).Perm gpuIds →
      (∃ acq, r = .ok acq ∧ acq.acquired = true) ∧ SameLeases s.leases s'.leases)
  | .heartbeat _ _ => SameLeases s.leases s'.leases
  | .release owner =>
    ∀ l ∈ s.leases, ¬ (l.key = owner.key ∧ l.generation = owner.generation) → l ∈ s'.leases
  | .reap confirmed now =>
    (∀ l ∈ s.leases, l ∉ s'.leases → l.expiresAt ≤ now ∧ confirmed (l.key, l.generation) = true) ∧
    ∀ l ∈ s.leases, ∀ l' ∈ s.leases, l.leaseGroupId = l'.leaseGroupId → l ∉ s'.leases → l' ∉ s'.leases
  | .releaseAll k => ∀ l ∈ s.leases, l.key ≠ k → l ∈ s'.leases

/-! ## What each operation keeps -/

section Keeps

variable {s : LeaseTable}

theorem mem_ownedBy {k : OwnerKey} {ls : List GPULease} {l : GPULease} : l ∈ ownedBy k ls ↔ l ∈ ls ∧ l.key = k := by
  rw [ownedBy, List.mem_filter, decide_eq_true_eq]

/-- The leases of one owner agree in everything that the operations select by. -/
theorem LeaseIntegrity.uniform (h : LeaseIntegrity s) {l l' : GPULease} (hl : l ∈ s.leases) (hl' : l' ∈ s.leases)
    (hk : l.key = l'.key) : l.generation = l'.generation ∧ l.expiresAt = l'.expiresAt := by
  have hm : l ∈ ownedBy l'.key s.leases := mem_ownedBy.mpr ⟨hl, hk⟩
  have hm' : l' ∈ ownedBy l'.key s.leases := mem_ownedBy.mpr ⟨hl', rfl⟩
  obtain ⟨a, -, -, hg⟩ := h.groups l'.key (List.ne_nil_of_mem hm)
  obtain ⟨t, ht⟩ := hg.expires
  exact ⟨(hg.generation l hm).trans (hg.generation l' hm').symm, (ht l hm).trans (ht l' hm').symm⟩

/-- Leases of one group are of one owner. -/
theorem LeaseIntegrity.key_of_group (h : LeaseIntegrity s) {l l' : GPULease} (hl : l ∈ s.leases) (hl' : l' ∈ s.leases)
    (hg : l.leaseGroupId = l'.leaseGroupId) : l.key = l'.key := by
  have hm : l ∈ ownedBy l.key s.leases := mem_ownedBy.mpr ⟨hl, rfl⟩
  have hm' : l' ∈ ownedBy l'.key s.leases := mem_ownedBy.mpr ⟨hl', rfl⟩
  obtain ⟨a, ha, hk, hga⟩ := h.groups l.key (List.ne_nil_of_mem hm)
  obtain ⟨a', ha', hk', hga'⟩ := h.groups l'.key (List.ne_nil_of_mem hm')
  have e : a.group = a'.group := (hga.group l hm).symm.trans (hg.trans (hga'.group l' hm'))
  rw [← hk, ← hk', List.inj_on_of_nodup_map h.distinct ha ha' e]

/-- Deleting leases by owner, generation and expiry deletes whole groups. -/
theorem LeaseIntegrity.filter (h : LeaseIntegrity s) {p : GPULease → Bool}
    (hp : ∀ l l' : GPULease, l.key = l'.key → l.generation = l'.generation → l.expiresAt = l'.expiresAt → p l = p l') :
    LeaseIntegrity { s with leases := s.leases.filter p } := by
  refine ⟨h.gpus.sublist (List.filter_sublist.map _), fun k hne => ?_, h.distinct⟩
  have hcomm : ownedBy k (s.leases.filter p) = (ownedBy k s.leases).filter p := by
    simp only [ownedBy, List.filter_filter, Bool.and_comm]
  have hne : ownedBy k (s.leases.filter p) ≠ [] := hne
  obtain ⟨l, hl⟩ := List.exists_mem_of_ne_nil _ hne
  rw [hcomm, List.mem_filter] at hl
  -- one lease of the owner is kept, so all of them are
  have hall : (ownedBy k s.leases).filter p = ownedBy k s.leases := by
    refine List.filter_eq_self.mpr fun l' hl' => ?_
    obtain ⟨hs, hk⟩ := mem_ownedBy.mp hl.1
    obtain ⟨hs', hk'⟩ := mem_ownedBy.mp hl'
    obtain ⟨hg, he⟩ := h.uniform hs' hs (hk'.trans hk.symm)
    rw [hp l' l (hk'.trans hk.symm) hg he]
    exact hl.2
  show ∃ a ∈ s.acquisitions, a.owner.key = k ∧ GroupOf a (ownedBy k (s.leases.filter p))
  rw [hcomm, hall]
  exact h.groups k (List.ne_nil_of_mem hl.1)

theorem renew_map {α : Type} (f : GPULease → α) (hf : ∀ l t e, f { l with heartbeatAt := t, expiresAt := e } = f l)
    (ttl now : Time) (p : GPULease → Bool) (ls : List GPULease) : (renew ttl now p ls).map f = ls.map f := by
  rw [renew, List.map_map]
  refine List.map_congr_left fun l _ => ?_
  rw [Function.comp_apply]
  split
  · exact hf _ _ _
  · rfl

theorem renew_sameLeases (ttl now : Time) (p : GPULease → Bool) (ls : List GPULease) :
    SameLeases ls (renew ttl now p ls) := renew_map GPULease.identity (fun _ _ _ => rfl) ttl now p ls

theorem GroupOf.renew {a : Acquisition} {ls : List GPULease} (h : GroupOf a ls) (ttl now : Time) {p : GPULease → Bool}
    (hp : (∀ l ∈ ls, p l = true) ∨ ∀ l ∈ ls, p l = false) : GroupOf a (renew ttl now p ls) := by
  rcases hp with hp | hp
  · have e : OpenLLMOps.renew ttl now p ls = ls.map fun l => { l with heartbeatAt := now, expiresAt := now + ttl } :=
      List.map_congr_left fun l hl => if_pos (hp l hl)
    refine ⟨by rw [renew_map _ fun _ _ _ => rfl]; exact h.gpus, ?_, ?_, ⟨now + ttl, ?_⟩⟩
    all_goals
      rw [e]
      intro l hl
      obtain ⟨l₀, hl₀, rfl⟩ := List.mem_map.mp hl
    · exact h.generation l₀ hl₀
    · exact h.group l₀ hl₀
    · rfl
  · have e : OpenLLMOps.renew ttl now p ls = ls :=
      (List.map_congr_left fun l hl => if_neg (by rw [hp l hl]; decide)).trans (List.map_id _)
    rwa [e]

/-- Renewing leases by owner and generation renews whole groups. -/
theorem LeaseIntegrity.renew (h : LeaseIntegrity s) (ttl now : Time) {p : GPULease → Bool}
    (hp : ∀ l l' : GPULease, l.key = l'.key → l.generation = l'.generation → p l = p l') :
    LeaseIntegrity { s with leases := renew ttl now p s.leases } := by
  refine ⟨?_, fun k hne => ?_, h.distinct⟩
  · show ((OpenLLMOps.renew ttl now p s.leases).map (·.gpuIndex)).Nodup
    rw [renew_map _ fun _ _ _ => rfl]
    exact h.gpus
  · have hne : ownedBy k (OpenLLMOps.renew ttl now p s.leases) ≠ [] := hne
    show ∃ a ∈ s.acquisitions, a.owner.key = k ∧ GroupOf a (ownedBy k (OpenLLMOps.renew ttl now p s.leases))
    rw [renew_keeps] at hne ⊢
    have hne₀ : ownedBy k s.leases ≠ [] := fun e => hne (by rw [e]; rfl)
    obtain ⟨a, ha, hk, hg⟩ := h.groups k hne₀
    refine ⟨a, ha, hk, hg.renew ttl now ?_⟩
    obtain ⟨l, hl⟩ := List.exists_mem_of_ne_nil _ hne₀
    have hsame : ∀ l' ∈ ownedBy k s.leases, p l' = p l := fun l' hl' =>
      hp l' l ((mem_ownedBy.mp hl').2.trans (mem_ownedBy.mp hl).2.symm)
        ((hg.generation l' hl').trans (hg.generation l hl).symm)
    cases hpl : p l with
    | true => exact .inl fun l' hl' => (hsame l' hl').trans hpl
    | false => exact .inr fun l' hl' => (hsame l' hl').trans hpl

/-- Inserting a group of free GPUs for an owner without leases. -/
theorem LeaseIntegrity.insert (h : LeaseIntegrity s) {ttl now : Time} {group : Uuid} {owner : LeaseOwner}
    {gpuIds : List Int} {requested : List Nat} (hn : normalizeGpuInts gpuIds = .ok requested)
    (howned : ownedBy owner.key s.leases = []) (hfree : ∀ l ∈ s.leases, l.gpuIndex ∉ requested)
    (hgroup : group ∉ s.acquisitions.map (·.group)) :
    LeaseIntegrity ⟨s.leases ++ newLeases ttl group owner requested now, ⟨owner, gpuIds, group⟩ :: s.acquisitions⟩ := by
  obtain ⟨hne, hnodup, hperm⟩ := normalizeGpuInts_ok hn
  have hnew : ∀ l ∈ newLeases ttl group owner requested now, l.key = owner.key ∧ l.generation = owner.generation ∧
      l.leaseGroupId = group ∧ l.expiresAt = now + ttl := by
    intro l hl
    obtain ⟨gpu, -, rfl⟩ := List.mem_map.mp hl
    exact ⟨rfl, rfl, rfl, rfl⟩
  refine ⟨?_, fun k hk₀ => ?_, List.nodup_cons.mpr ⟨hgroup, h.distinct⟩⟩
  · rw [List.map_append, newLeases_gpus, List.nodup_append]
    refine ⟨h.gpus, hnodup, fun g hg g' hg' e => ?_⟩
    obtain ⟨l, hl, rfl⟩ := List.mem_map.mp hg
    exact hfree l hl (e ▸ hg')
  · have hk₀ : ownedBy k (s.leases ++ newLeases ttl group owner requested now) ≠ [] := hk₀
    show ∃ a ∈ (⟨owner, gpuIds, group⟩ : Acquisition) :: s.acquisitions, a.owner.key = k ∧
      GroupOf a (ownedBy k (s.leases ++ newLeases ttl group owner requested now))
    rw [ownedBy, List.filter_append] at hk₀ ⊢
    by_cases hk : owner.key = k
    · subst hk
      have hself : (newLeases ttl group owner requested now).filter (·.key = owner.key) =
          newLeases ttl group owner requested now :=
        List.filter_eq_self.mpr fun l hl => decide_eq_true (hnew l hl).1
      have hnone : s.leases.filter (·.key = owner.key) = [] := howned
      rw [hnone, hself, List.nil_append]
      refine ⟨_, List.mem_cons_self, rfl, ?_, fun l hl => (hnew l hl).2.1, fun l hl => (hnew l hl).2.2.1,
        now + ttl, fun l hl => (hnew l hl).2.2.2⟩
      have e : (newLeases ttl group owner requested now).map (fun l => Int.ofNat l.gpuIndex) =
          requested.map Int.ofNat := by
        rw [newLeases, List.map_map]
        rfl
      rw [e]
      exact hperm
    · have hother : (newLeases ttl group owner requested now).filter (·.key = k) = [] :=
        List.filter_eq_nil_iff.mpr fun l hl => by
          rw [decide_eq_true_eq, (hnew l hl).1]
          exact hk
      rw [hother, List.append_nil] at hk₀ ⊢
      obtain ⟨a, ha, hak, hg⟩ := h.groups k hk₀
      exact ⟨a, List.mem_cons_of_mem _ ha, hak, hg⟩

/-- A group that its owner acquires again. -/
theorem LeaseIntegrity.again (h : LeaseIntegrity s) {valid : GPULease → Bool} {ttl now : Time} {group : Uuid}
    {owner : LeaseOwner} {gpuIds : List Int} (hne : ownedBy owner.key s.leases ≠ [])
    (hgen : ∀ l ∈ ownedBy owner.key s.leases, l.generation = owner.generation)
    (hp : ((ownedBy owner.key s.leases).map fun l => Int.ofNat l.gpuIndex).Perm gpuIds) :
    ∃ acq, tryAcquire valid ttl group owner gpuIds now s.leases =
      (.ok acq, OpenLLMOps.renew ttl now (·.key = owner.key) s.leases) ∧ acq.acquired = true ∧ acq.idempotent = true := by
  obtain ⟨a, -, -, hg⟩ := h.groups owner.key hne
  have hgroup : CompleteGroup (ownedBy owner.key s.leases) owner.generation
      ((ownedBy owner.key s.leases).map (·.gpuIndex)) := ⟨.refl _, hgen, a.group, hg.group⟩
  refine tryAcquire_again hne hgroup (h.gpus.sublist (List.filter_sublist.map _)) rfl ?_
  rw [List.map_map]
  exact hp

end Keeps

/-! ## Runs -/

section Runs

variable {valid : GPULease → Bool} {ttl : Time} {s s' : LeaseTable} {op : LeaseOp}

/-- The effect of an acquisition that is a step. -/
theorem acquire_step {group : Uuid} {owner : LeaseOwner} {gpuIds : List Int} {now : Time}
    (hs : LeaseTable.step valid ttl s (.acquire group owner gpuIds now) = some s') :
    group ∉ s.acquisitions.map (·.group) ∧
    AcquireEffect ttl group owner gpuIds now s.leases (tryAcquire valid ttl group owner gpuIds now s.leases).1 s'.leases ∧
    s'.acquisitions =
      match (tryAcquire valid ttl group owner gpuIds now s.leases).1 with
      | .error _ => s.acquisitions
      | .ok acq => if acq.acquired ∧ ¬ acq.idempotent then ⟨owner, gpuIds, group⟩ :: s.acquisitions else s.acquisitions := by
  have heff : AcquireEffect _ _ _ _ _ _ _ _ := @wp_tryAcquire valid ttl now group owner gpuIds s.leases
  simp only [LeaseTable.step] at hs
  split at hs <;> [cases hs; skip]
  rename_i hgroup
  split at hs
  all_goals
    rename_i he
    cases hs
    rw [he] at heff ⊢
    exact ⟨hgroup, heff, rfl⟩

/-- One operation keeps the integrity of the table. -/
theorem LeaseIntegrity.step (h : LeaseIntegrity s) (hs : LeaseTable.step valid ttl s op = some s') :
    LeaseIntegrity s' := by
  cases op with
  | acquire group owner gpuIds now =>
    obtain ⟨hgroup, heff, ha⟩ := acquire_step hs
    obtain ⟨ls, acquisitions⟩ := s'
    generalize (tryAcquire valid ttl group owner gpuIds now s.leases).1 = r at heff ha
    cases heff with
    | raised e => cases ha; exact h
    | @refused acq hacq =>
      simp only [hacq, Bool.false_eq_true, false_and, ↓reduceIte] at ha
      cases ha
      exact h
    | @renewed acq hacq hi howned hgen =>
      simp only [hacq, hi, not_true_eq_false, and_false, ↓reduceIte] at ha
      cases ha
      exact h.renew ttl now fun l l' hk _ => by rw [hk]
    | @inserted acq requested hacq hi hn howned hfree =>
      simp only [hacq, hi, Bool.false_eq_true, not_false_eq_true, and_self, ↓reduceIte] at ha
      cases ha
      exact h.insert hn howned hfree hgroup
  | heartbeat owner now =>
    cases hs
    exact h.renew ttl now fun l l' hk hg => by rw [hk, hg]
  | release owner =>
    cases hs
    exact h.filter fun l l' hk hg _ => by rw [hk, hg]
  | reap confirmed now =>
    cases hs
    exact h.filter fun l l' hk hg he => by rw [hk, hg, he]
  | releaseAll k =>
    cases hs
    exact h.filter fun l l' hk _ _ => by rw [hk]

/-- One operation respects the groups of a table with integrity. -/
theorem LeaseIntegrity.respects (h : LeaseIntegrity s) (hs : LeaseTable.step valid ttl s op = some s') :
    RespectsGroups valid ttl s op s' := by
  cases op with
  | acquire group owner gpuIds now =>
    obtain ⟨-, heff, -⟩ := acquire_step hs
    refine ⟨fun e he => ?_, fun acq hr ha => ?_, fun hne hgen hp => ?_⟩
    · rw [he] at heff
      generalize s'.leases = ls at heff
      cases heff
      rfl
    · rw [hr] at heff
      generalize s'.leases = ls at heff
      cases heff with
      | refused _ => rfl
      | renewed hacq => rw [ha] at hacq; cases hacq
      | inserted hacq => rw [ha] at hacq; cases hacq
    · obtain ⟨acq, hr, ha, hi⟩ := @LeaseIntegrity.again s h valid ttl now group owner gpuIds hne hgen hp
      rw [hr] at heff ⊢
      refine ⟨⟨acq, rfl, ha⟩, ?_⟩
      generalize s'.leases = ls at heff
      cases heff with
      | refused hacq => rw [ha] at hacq; cases hacq
      | renewed => exact renew_sameLeases _ _ _ _
      | inserted _ hacq => rw [hi] at hacq; cases hacq
  | heartbeat owner now =>
    cases hs
    exact renew_sameLeases _ _ _ _
  | release owner =>
    cases hs
    exact fun l hl hne => List.mem_filter.mpr ⟨hl, decide_eq_true hne⟩
  | reap confirmed now =>
    cases hs
    have hmem (l : GPULease) (hl : l ∈ s.leases) : l ∉ reapExpiredLocked confirmed now s.leases ↔
        l.expiresAt ≤ now ∧ confirmed (l.key, l.generation) = true := by
      rw [reapExpiredLocked, List.mem_filter, decide_eq_true_eq]
      exact ⟨fun hn => not_not.mp fun hc => hn ⟨hl, hc⟩, fun hc hm => hm.2 hc⟩
    refine ⟨fun l hl hn => (hmem l hl).mp hn, fun l hl l' hl' hgroup hn => ?_⟩
    have hk := h.key_of_group hl hl' hgroup
    obtain ⟨hgen, he⟩ := h.uniform hl hl' hk
    obtain ⟨hexp, hconf⟩ := (hmem l hl).mp hn
    refine (hmem l' hl').mpr ⟨he ▸ hexp, ?_⟩
    rw [← hk, ← hgen]
    exact hconf
  | releaseAll k =>
    cases hs
    exact fun l hl hne => List.mem_filter.mpr ⟨hl, decide_eq_true hne⟩

/-- Whatever operations run on an empty table, in any order: its groups are whole in every
state, and every operation respects them. -/
theorem lease_table_integrity (valid : GPULease → Bool) (ttl : Time) (ops : List LeaseOp) :
    (leaseTable valid ttl).Always LeaseIntegrity (leaseTable valid ttl).init ops ∧
    (leaseTable valid ttl).EachStep (RespectsGroups valid ttl) (leaseTable valid ttl).init ops := by
  have hstep {s op s'} (h : LeaseIntegrity s) (hs : (leaseTable valid ttl).step s op = some s') (_ : True) :
      LeaseIntegrity s' := h.step hs
  have h0 : LeaseIntegrity (leaseTable valid ttl).init := ⟨List.nodup_nil, fun _ hne => absurd rfl hne, List.nodup_nil⟩
  exact ⟨System.always_of_invariant hstep id h0 (.of_true _ ops),
    System.eachStep_of_invariant hstep (fun h hs _ => h.respects hs) h0 (.of_true _ ops)⟩

end Runs

end OpenLLMOps
