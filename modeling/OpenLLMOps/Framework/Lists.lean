import Mathlib.Algebra.GroupWithZero.Nat
import Mathlib.Data.List.Dedup
import Mathlib.Data.List.Sort
import Mathlib.Algebra.BigOperators.Group.List.Basic

/-!
# Sorting and grouping

A sorted list depends on the elements only. A list falls into groups by a key, and
what is summed over the groups is what is summed over the list (`sum_groups`).
-/

namespace Framework

variable {α κ : Type}

/-- Sorting forgets the order. -/
theorem insertionSort_of_perm [LinearOrder α] {l l' : List α} (h : l.Perm l') :
    l.insertionSort (· ≤ ·) = l'.insertionSort (· ≤ ·) := by
  refine List.Perm.eq_of_pairwise' (r := (· ≤ ·)) (List.pairwise_insertionSort _ _) (List.pairwise_insertionSort _ _) ?_
  exact ((List.perm_insertionSort _ _).trans h).trans (List.perm_insertionSort _ _).symm

theorem pairwise_insertionSort_key [LinearOrder κ] (key : α → κ) (l : List α) :
    (l.insertionSort fun a b => key a ≤ key b).Pairwise fun a b => key a ≤ key b := by
  have htotal : Std.Total fun a b => key a ≤ key b := ⟨fun a b => le_total (key a) (key b)⟩
  have htrans : IsTrans α fun a b => key a ≤ key b := ⟨fun _ _ _ => le_trans⟩
  exact List.pairwise_insertionSort _ _

/-- Sorting by keys that tell the elements apart forgets the order. -/
theorem insertionSort_key_of_perm [LinearOrder κ] {key : α → κ} {l l' : List α} (h : l.Perm l')
    (hkey : ∀ a ∈ l, ∀ b ∈ l, key a = key b → a = b) :
    (l.insertionSort fun a b => key a ≤ key b) = l'.insertionSort fun a b => key a ≤ key b := by
  have hsorted := List.perm_insertionSort (fun a b => key a ≤ key b) l
  have hsorted' := List.perm_insertionSort (fun a b => key a ≤ key b) l'
  refine List.Perm.eq_of_pairwise ?_ (pairwise_insertionSort_key key l) (pairwise_insertionSort_key key l')
    ((hsorted.trans h).trans hsorted'.symm)
  intro a b ha hb hle hge
  exact hkey a (hsorted.mem_iff.mp ha) b ((hsorted'.trans h.symm).mem_iff.mp hb) (le_antisymm hle hge)

theorem forall₂_orderedInsert [LinearOrder κ] {β : Type} {key : α → κ} {key' : β → κ} {R : α → β → Prop}
    (hkey : ∀ a b, R a b → key a = key' b) {a : α} {b : β} (hab : R a b) {l : List α} {l' : List β}
    (h : List.Forall₂ R l l') :
    List.Forall₂ R (l.orderedInsert (fun a b => key a ≤ key b) a) (l'.orderedInsert (fun a b => key' a ≤ key' b) b) := by
  induction h with
  | nil => exact .cons hab .nil
  | @cons c d l l' hcd h ih =>
    rw [List.orderedInsert_cons, List.orderedInsert_cons, hkey a b hab, hkey c d hcd]
    split
    · exact .cons hab (.cons hcd h)
    · exact .cons hcd ih

/-- Lists that correspond, sorted by keys that do. -/
theorem forall₂_insertionSort [LinearOrder κ] {β : Type} {key : α → κ} {key' : β → κ} {R : α → β → Prop}
    (hkey : ∀ a b, R a b → key a = key' b) {l : List α} {l' : List β} (h : List.Forall₂ R l l') :
    List.Forall₂ R (l.insertionSort fun a b => key a ≤ key b) (l'.insertionSort fun a b => key' a ≤ key' b) := by
  induction h with
  | nil => exact .nil
  | cons hab _ ih => exact forall₂_orderedInsert hkey hab ih

/-- The keys of a list, sorted. -/
def groupKeys [LinearOrder κ] (key : α → κ) (xs : List α) : List κ := (xs.map key).dedup.insertionSort (· ≤ ·)

/-- The elements with the key `k`. -/
def group [LinearOrder κ] (key : α → κ) (xs : List α) (k : κ) : List α := xs.filter fun x => key x = k

section

variable [LinearOrder κ] {key : α → κ} {xs : List α}

theorem mem_groupKeys {k : κ} : k ∈ groupKeys key xs ↔ ∃ x ∈ xs, key x = k := by
  rw [groupKeys, List.mem_insertionSort, List.mem_dedup, List.mem_map]

theorem nodup_groupKeys : (groupKeys key xs).Nodup :=
  (List.perm_insertionSort _ _).nodup_iff.mpr (List.nodup_dedup _)

theorem sorted_groupKeys : (groupKeys key xs).Pairwise (· ≤ ·) := List.pairwise_insertionSort _ _

theorem groupKeys_congr {β : Type} {key' : β → κ} {zs : List β} (h : ∀ k, k ∈ xs.map key ↔ k ∈ zs.map key') :
    groupKeys key xs = groupKeys key' zs := by
  refine insertionSort_of_perm ((List.perm_ext_iff_of_nodup (List.nodup_dedup _) (List.nodup_dedup _)).mpr fun k => ?_)
  rw [List.mem_dedup, List.mem_dedup, h]

theorem group_ne_nil {k : κ} (h : k ∈ groupKeys key xs) : group key xs k ≠ [] := by
  obtain ⟨x, hx, hk⟩ := mem_groupKeys.mp h
  exact List.ne_nil_of_mem (List.mem_filter.mpr ⟨hx, decide_eq_true hk⟩)

/-- The size of a group is told by the keys. -/
theorem length_group_of_perm {β : Type} {key' : β → κ} {zs : List β} (h : (xs.map key).Perm (zs.map key')) (k : κ) :
    (group key xs k).length = (group key' zs k).length := by
  have hcount := h.countP_eq (fun k' => decide (k' = k))
  rw [List.countP_map, List.countP_map, List.countP_eq_length_filter, List.countP_eq_length_filter] at hcount
  exact hcount

/-- One of distinct keys contributes. -/
theorem sum_single {ks : List κ} (hn : ks.Nodup) {k : κ} (h : k ∈ ks) (n : Nat) :
    (ks.map fun k' => if k = k' then n else 0).sum = n := by
  rw [List.sum_map_eq_nsmul_single k (fun k' => if k = k' then n else 0) fun k' hne _ => if_neg (Ne.symm hne),
    List.count_eq_one_of_mem hn h, one_nsmul, if_pos rfl]

theorem sum_filters {ks : List κ} (hn : ks.Nodup) (f : α → Nat) (h : ∀ x ∈ xs, key x ∈ ks) :
    (ks.map fun k => ((group key xs k).map f).sum).sum = (xs.map f).sum := by
  induction xs with
  | nil => simp [group]
  | cons x xs ih =>
    have hcons : ∀ k, ((group key (x :: xs) k).map f).sum = (if key x = k then f x else 0) + ((group key xs k).map f).sum := by
      intro k
      by_cases hk : key x = k <;> simp [group, hk]
    simp only [hcons]
    rw [List.sum_map_add, sum_single hn (h x List.mem_cons_self), ih fun y hy => h y (List.mem_cons_of_mem _ hy),
      List.map_cons, List.sum_cons]

/-- What is summed over the groups is what is summed over the list. -/
theorem sum_groups (f : α → Nat) :
    ((groupKeys key xs).map fun k => ((group key xs k).map f).sum).sum = (xs.map f).sum :=
  sum_filters nodup_groupKeys f fun x hx => mem_groupKeys.mpr ⟨x, hx, rfl⟩

end

/-! ## Cuts -/

section Cuts

variable {α : Type} {n : α} {a b x y : List α}

/-- A list is cut at its first `n` in only one way. -/
theorem cut_first_unique (h : a ++ n :: x = b ++ n :: y) (ha : n ∉ a) (hb : n ∉ b) : a = b ∧ x = y := by
  have hcut {c x y : List α} (h : n :: x = c ++ n :: y) (hc : n ∉ c) : c = [] ∧ x = y := by
    cases c with
    | nil => exact ⟨rfl, (List.cons.inj h).2⟩
    | cons m c => exact absurd ((List.cons.inj h).1 ▸ List.mem_cons_self) hc
  rcases List.append_eq_append_iff.mp h with ⟨c, rfl, he⟩ | ⟨c, rfl, he⟩
  · obtain ⟨rfl, rfl⟩ := hcut he fun hc => hb (List.mem_append_right _ hc)
    exact ⟨(List.append_nil _).symm, rfl⟩
  · obtain ⟨rfl, rfl⟩ := hcut he fun hc => ha (List.mem_append_right _ hc)
    exact ⟨List.append_nil _, rfl⟩

/-- A list is cut at its last `n` in only one way. -/
theorem cut_last_unique (h : a ++ n :: x = b ++ n :: y) (hx : n ∉ x) (hy : n ∉ y) : a = b ∧ x = y := by
  have hreverse : x.reverse ++ n :: a.reverse = y.reverse ++ n :: b.reverse := by
    simpa using congrArg List.reverse h
  obtain ⟨h₁, h₂⟩ := cut_first_unique hreverse (mt List.mem_reverse.mp hx) (mt List.mem_reverse.mp hy)
  exact ⟨List.reverse_injective h₂, List.reverse_injective h₁⟩

theorem exists_cut_last (h : n ∈ a) : ∃ b x, a = b ++ n :: x ∧ n ∉ x := by
  obtain ⟨x, b, he, hx⟩ := List.eq_append_cons_of_mem (List.mem_reverse.mpr h)
  refine ⟨b.reverse, x.reverse, ?_, mt List.mem_reverse.mp hx⟩
  rw [← List.reverse_reverse a, he, List.reverse_append, List.reverse_cons, List.append_assoc, List.singleton_append]

end Cuts

end Framework
