import Mathlib.Data.List.Nodup
import Mathlib.Data.List.Perm.Basic

/-!
# Python dictionaries

A `dict` is the list of its entries in insertion order: `get?` is `dict.get`,
`set` assigns a key (in place, or at the end when the key is new) and `update`
is `dict.update`. The keys of a dictionary are distinct (`keys`, `Nodup`); the
operations keep that.
-/

namespace Framework.Dict

variable {K K' V : Type}

/-- `d.keys()`. -/
abbrev keys (d : List (K × V)) : List K := d.map Prod.fst

/-- The entries under other keys, in the same order; two keys may become one. -/
def mapKeys (f : K → K') (d : List (K × V)) : List (K' × V) := d.map fun kv => (f kv.1, kv.2)

theorem keys_mapKeys {f : K → K'} (d : List (K × V)) : keys (mapKeys f d) = (keys d).map f := by
  rw [keys, mapKeys, keys, List.map_map, List.map_map]; rfl

theorem mem_mapKeys {f : K → K'} {d : List (K × V)} {k : K'} {v : V} :
    (k, v) ∈ mapKeys f d ↔ ∃ k₀, (k₀, v) ∈ d ∧ f k₀ = k := by
  simp only [mapKeys, List.mem_map, Prod.mk.injEq, Prod.exists]
  constructor
  · rintro ⟨k₀, v₀, hm, hk, rfl⟩; exact ⟨k₀, hm, hk⟩
  · rintro ⟨k₀, hm, hk⟩; exact ⟨k₀, v, hm, hk, rfl⟩

theorem nodup_filter_mapKeys {f : K → K'} {d : List (K × V)} (h : (keys (mapKeys f d)).Nodup) (q : K × V → Bool) :
    (keys (mapKeys f (d.filter q))).Nodup :=
  ((List.filter_sublist.map _).map _).nodup h

variable [DecidableEq K]

/-- `d.get(k)`. -/
def get? : List (K × V) → K → Option V
  | [], _ => none
  | (k', v) :: d, k => if k' = k then some v else get? d k

/-- `d[k] = v`. -/
def set : List (K × V) → K → V → List (K × V)
  | [], k, v => [(k, v)]
  | (k', v') :: d, k, v => if k' = k then (k', v) :: d else (k', v') :: set d k v

/-- `d.update(e)`. -/
def update (d e : List (K × V)) : List (K × V) := e.foldl (fun d kv => set d kv.1 kv.2) d

@[simp] theorem get?_nil (k : K) : get? ([] : List (K × V)) k = none := rfl

theorem get?_cons (k k' : K) (v : V) (d : List (K × V)) :
    get? ((k', v) :: d) k = if k' = k then some v else get? d k := rfl

theorem get?_set (d : List (K × V)) (k : K) (v : V) (k' : K) :
    get? (set d k v) k' = if k = k' then some v else get? d k' := by
  induction d with
  | nil => rfl
  | cons kv d ih =>
    obtain ⟨k₀, v₀⟩ := kv
    by_cases h : k₀ = k
    · subst h
      simp only [set, ↓reduceIte, get?_cons]
      split <;> rfl
    · simp only [set, h, ↓reduceIte, get?_cons, ih]
      by_cases hk : k₀ = k'
      · subst hk
        simp [Ne.symm h]
      · simp [hk]

/-- To assign what is there changes nothing. -/
theorem set_self {d : List (K × V)} {k : K} {v : V} (h : get? d k = some v) : set d k v = d := by
  induction d with
  | nil => cases h
  | cons kv d ih =>
    obtain ⟨k₀, v₀⟩ := kv
    rw [get?_cons] at h
    by_cases hk : k₀ = k
    · rw [if_pos hk] at h
      cases h
      simp only [set, hk, ↓reduceIte]
    · rw [if_neg hk] at h
      simp only [set, hk, ↓reduceIte, ih h]

theorem mem_keys_set {d : List (K × V)} {k k' : K} {v : V} :
    k' ∈ keys (set d k v) ↔ k' = k ∨ k' ∈ keys d := by
  induction d with
  | nil => simp [set, keys]
  | cons kv d ih =>
    obtain ⟨k₀, v₀⟩ := kv
    simp only [keys] at ih
    by_cases h : k₀ = k
    · subst h; simp [set, keys]
    · simp only [set, h, ↓reduceIte, keys, List.map_cons, List.mem_cons, ih]
      tauto

/-- The entries of a dictionary after an assignment: the old ones and the new one. -/
theorem mem_set {d : List (K × V)} {k : K} {v : V} {e : K × V} (h : e ∈ set d k v) : e ∈ d ∨ e = (k, v) := by
  induction d with
  | nil => exact .inr (List.mem_singleton.mp h)
  | cons kv d ih =>
    obtain ⟨k₀, v₀⟩ := kv
    unfold set at h
    split at h
    · rename_i e₀
      subst e₀
      rcases List.mem_cons.mp h with h | h
      · exact .inr h
      · exact .inl (List.mem_cons_of_mem _ h)
    · rcases List.mem_cons.mp h with h | h
      · exact .inl (h ▸ List.mem_cons_self)
      · exact (ih h).imp_left (List.mem_cons_of_mem _)

theorem nodup_set {d : List (K × V)} (h : (keys d).Nodup) (k : K) (v : V) : (keys (set d k v)).Nodup := by
  induction d with
  | nil => simp [set, keys]
  | cons kv d ih =>
    obtain ⟨k₀, v₀⟩ := kv
    simp only [keys, List.map_cons, List.nodup_cons] at h
    by_cases hk : k₀ = k
    · subst hk
      simp only [set, ↓reduceIte, keys, List.map_cons, List.nodup_cons]
      exact h
    · simp only [set, hk, ↓reduceIte, keys, List.map_cons, List.nodup_cons]
      refine ⟨fun hm => ?_, ih h.2⟩
      rcases mem_keys_set.mp hm with e | hm
      · exact hk e
      · exact h.1 hm

theorem get?_eq_none {d : List (K × V)} {k : K} : get? d k = none ↔ k ∉ keys d := by
  induction d with
  | nil => simp
  | cons kv d ih =>
    obtain ⟨k₀, v₀⟩ := kv
    by_cases h : k₀ = k
    · simp [get?_cons, h]
    · simp only [get?_cons, h, ↓reduceIte, ih, List.map_cons, List.mem_cons, not_or]
      exact ⟨fun hm => ⟨Ne.symm h, hm⟩, fun hm => hm.2⟩

theorem mem_of_get? {d : List (K × V)} {k : K} {v : V} (h : get? d k = some v) : (k, v) ∈ d := by
  induction d with
  | nil => cases h
  | cons kv d ih =>
    obtain ⟨k₀, v₀⟩ := kv
    rw [get?_cons] at h
    split at h
    · rename_i hk
      cases h; subst hk; exact List.mem_cons_self
    · exact List.mem_cons_of_mem _ (ih h)

theorem get?_of_mem {d : List (K × V)} (hn : (keys d).Nodup) {k : K} {v : V} (h : (k, v) ∈ d) :
    get? d k = some v := by
  induction d with
  | nil => cases h
  | cons kv d ih =>
    obtain ⟨k₀, v₀⟩ := kv
    simp only [keys, List.map_cons, List.nodup_cons] at hn
    rcases List.mem_cons.mp h with e | h
    · cases e; simp [get?_cons]
    · have hne : k₀ ≠ k := fun e => hn.1 (List.mem_map.mpr ⟨(k, v), h, e.symm⟩)
      rw [get?_cons, if_neg hne, ih hn.2 h]

/-- Entries may be reordered. -/
theorem get?_perm {d e : List (K × V)} (hn : (keys d).Nodup) (h : d.Perm e) (k : K) : get? e k = get? d k := by
  have hn' : (keys e).Nodup := (h.map Prod.fst).nodup_iff.mp hn
  cases hd : get? d k with
  | none => exact get?_eq_none.mpr fun hm => get?_eq_none.mp hd ((h.map Prod.fst).mem_iff.mpr hm)
  | some v => exact get?_of_mem hn' (h.mem_iff.mp (mem_of_get? hd))

theorem get?_append (d e : List (K × V)) (k : K) : get? (d ++ e) k = (get? d k).or (get? e k) := by
  induction d with
  | nil => simp
  | cons kv d ih =>
    obtain ⟨k₀, v₀⟩ := kv
    rw [List.cons_append, get?_cons, get?_cons, ih]
    split <;> simp

/-- Updating prefers the new entries. -/
theorem get?_update (d : List (K × V)) {e : List (K × V)} (hn : (keys e).Nodup) (k : K) :
    get? (update d e) k = (get? e k).or (get? d k) := by
  induction e generalizing d with
  | nil => simp [update]
  | cons kv e ih =>
    obtain ⟨k₀, v₀⟩ := kv
    simp only [keys, List.map_cons, List.nodup_cons] at hn
    have h : get? (update d ((k₀, v₀) :: e)) k = get? (update (set d k₀ v₀) e) k := rfl
    rw [h, ih _ hn.2, get?_set, get?_cons]
    by_cases hk : k₀ = k
    · subst hk
      simp [get?_eq_none.mpr hn.1]
    · simp [hk]

theorem nodup_update {d : List (K × V)} (h : (keys d).Nodup) (e : List (K × V)) : (keys (update d e)).Nodup := by
  induction e generalizing d with
  | nil => exact h
  | cons kv e ih => exact ih (nodup_set h _ _)

/-- The last entry of a key wins. -/
theorem get?_update_last (d e : List (K × V)) (k : K) :
    get? (update d e) k = (get? e.reverse k).or (get? d k) := by
  induction e generalizing d with
  | nil => simp [update]
  | cons kv e ih =>
    obtain ⟨k₀, v₀⟩ := kv
    have h : update d ((k₀, v₀) :: e) = update (set d k₀ v₀) e := rfl
    rw [h, ih, List.reverse_cons, get?_append, get?_set, get?_cons, Option.or_assoc]
    congr 1
    split <;> simp

theorem get?_reverse {d : List (K × V)} (hn : (keys d).Nodup) (k : K) : get? d.reverse k = get? d k :=
  get?_perm hn d.reverse_perm.symm k

/-- The entries of a dictionary are its `get?`. -/
theorem mem_iff_get? {d : List (K × V)} (hn : (keys d).Nodup) {k : K} {v : V} :
    (k, v) ∈ d ↔ get? d k = some v :=
  ⟨get?_of_mem hn, mem_of_get?⟩

theorem set_of_notMem {d : List (K × V)} {k : K} (h : k ∉ keys d) (v : V) : set d k v = d ++ [(k, v)] := by
  induction d with
  | nil => rfl
  | cons kv d ih =>
    simp only [keys, List.map_cons, List.mem_cons, not_or] at h
    rw [set, if_neg (Ne.symm h.1), ih h.2, List.cons_append]

theorem set_of_mem {d : List (K × V)} (hn : (keys d).Nodup) {k : K} (h : k ∈ keys d) (v : V) :
    set d k v = d.map fun kv => if kv.1 = k then (kv.1, v) else kv := by
  induction d with
  | nil => cases h
  | cons kv d ih =>
    obtain ⟨k₀, v₀⟩ := kv
    simp only [keys, List.map_cons, List.nodup_cons, List.mem_cons] at hn h
    rw [set, List.map_cons]
    by_cases hk : k₀ = k
    · subst hk
      have hd : d = d.map fun kv => if kv.1 = k₀ then (kv.1, v) else kv := by
        refine (List.map_id d).symm.trans (List.map_congr_left fun kv hkv => ?_)
        have : kv.1 ≠ k₀ := fun e => hn.1 (e ▸ List.mem_map_of_mem hkv)
        rw [if_neg this, id]
      rw [if_pos rfl, if_pos rfl, ← hd]
    · rw [if_neg hk, if_neg hk, ih hn.2 (h.resolve_left (Ne.symm hk))]

/-- The entries of `d` with the values that `e` gives their keys. -/
def replaced (d e : List (K × V)) : List (K × V) := d.map fun kv => (kv.1, (get? e kv.1).getD kv.2)

/-- The entries of `e` whose keys are new to `d`. -/
def added (d e : List (K × V)) : List (K × V) := e.filter fun kv => kv.1 ∉ keys d

theorem keys_replaced (d e : List (K × V)) : keys (replaced d e) = keys d := by
  rw [keys, replaced, List.map_map]; rfl

theorem mem_replaced {d e : List (K × V)} {k : K} {v : V} :
    (k, v) ∈ replaced d e ↔ ∃ w, (k, w) ∈ d ∧ v = (get? e k).getD w := by
  rw [replaced, List.mem_map]
  constructor
  · rintro ⟨⟨k₁, w⟩, hm, hkv⟩; cases hkv; exact ⟨w, hm, rfl⟩
  · rintro ⟨w, hm, rfl⟩; exact ⟨(k, w), hm, rfl⟩

theorem mem_added {d e : List (K × V)} {k : K} {v : V} : (k, v) ∈ added d e ↔ (k, v) ∈ e ∧ k ∉ keys d := by
  rw [added, List.mem_filter, decide_eq_true_eq]

/-- An update replaces the values of the old keys in place and adds the new keys
behind them. -/
theorem update_eq {d e : List (K × V)} (hd : (keys d).Nodup) (he : (keys e).Nodup) :
    update d e = replaced d e ++ added d e := by
  induction e generalizing d with
  | nil => simp [update, replaced, added]
  | cons kv e ih =>
    obtain ⟨k₀, v₀⟩ := kv
    have h : update d ((k₀, v₀) :: e) = update (set d k₀ v₀) e := rfl
    simp only [keys, List.map_cons, List.nodup_cons] at he
    rw [h, ih (nodup_set hd _ _) he.2]
    have hadded : added (set d k₀ v₀) e = added d e := by
      refine List.filter_congr fun kv hkv => decide_eq_decide.mpr ?_
      have : kv.1 ≠ k₀ := fun e' => he.1 (e' ▸ List.mem_map_of_mem hkv)
      rw [mem_keys_set]
      exact not_congr (or_iff_right this)
    rw [hadded]
    by_cases hk : k₀ ∈ keys d
    · have hcons : added d ((k₀, v₀) :: e) = added d e := List.filter_cons_of_neg (by simpa using hk)
      rw [hcons, set_of_mem hd hk, replaced, List.map_map]
      congr 1
      refine List.map_congr_left fun kv _ => ?_
      by_cases e' : kv.1 = k₀
      · simp only [Function.comp_apply, e', ↓reduceIte, get?_cons, get?_eq_none.mpr he.1]; rfl
      · simp only [Function.comp_apply, e', ↓reduceIte, get?_cons, Ne.symm e']
    · have hcons : added d ((k₀, v₀) :: e) = (k₀, v₀) :: added d e := List.filter_cons_of_pos (by simpa using hk)
      rw [hcons, set_of_notMem hk, replaced, List.map_append, List.append_assoc, List.map_singleton,
        get?_eq_none.mpr he.1]
      congr 1
      refine List.map_congr_left fun kv hkv => ?_
      have : k₀ ≠ kv.1 := fun e' => hk (e' ▸ List.mem_map_of_mem hkv)
      rw [get?_cons, if_neg this]

/-- Updating the empty dictionary copies the other. -/
theorem update_nil {e : List (K × V)} (he : (keys e).Nodup) : update [] e = e := by
  rw [update_eq (d := []) List.nodup_nil he]
  show [] ++ added [] e = e
  rw [List.nil_append, added, List.filter_eq_self]
  intro kv _
  simp

/-! ## Renamed keys -/

section MapKeys

variable [DecidableEq K'] {f : K → K'} {d e : List (K × V)} (hd : (keys (mapKeys f d)).Nodup)
  (he : (keys (mapKeys f e)).Nodup)

include hd he

/-- The replaced entries of an update come first, so the added ones win. -/
theorem get?_mapKeys_split (k : K') :
    get? (update [] (mapKeys f (update d e))) k =
      (get? (mapKeys f (added d e)) k).or (get? (mapKeys f (replaced d e)) k) := by
  have hd₀ : (keys d).Nodup := List.Nodup.of_map f (keys_mapKeys d ▸ hd)
  have he₀ : (keys e).Nodup := List.Nodup.of_map f (keys_mapKeys e ▸ he)
  have hr : (keys (mapKeys f (replaced d e))).Nodup := by
    rw [keys_mapKeys, keys_replaced, ← keys_mapKeys]; exact hd
  have ha : (keys (mapKeys f (added d e))).Nodup := nodup_filter_mapKeys he _
  rw [update_eq hd₀ he₀, get?_update_last, get?_nil, Option.or_none]
  have happ : mapKeys f (replaced d e ++ added d e) = mapKeys f (replaced d e) ++ mapKeys f (added d e) :=
    List.map_append
  rw [happ, List.reverse_append, get?_append, get?_reverse hr, get?_reverse ha]

/-- Renaming the keys of an update: the new value of a renamed key if there is one,
else the old value, unless its old key was updated. -/
theorem get?_update_mapKeys (k : K') :
    get? (update [] (mapKeys f (update d e))) k =
      (get? (mapKeys f e) k).or (get? (mapKeys f (d.filter (·.1 ∉ keys e))) k) := by
  have he₀ : (keys e).Nodup := List.Nodup.of_map f (keys_mapKeys e ▸ he)
  have hna : (keys (mapKeys f (added d e))).Nodup := nodup_filter_mapKeys he _
  have hnr : (keys (mapKeys f (replaced d e))).Nodup := by
    rw [keys_mapKeys, keys_replaced, ← keys_mapKeys]; exact hd
  -- an added entry comes from an entry of `e`
  have hadded {v : V} (h : get? (mapKeys f (added d e)) k = some v) : ∃ k₀, (k₀, v) ∈ e ∧ k₀ ∉ keys d ∧ f k₀ = k := by
    obtain ⟨k₀, hm, hk⟩ := mem_mapKeys.mp (mem_of_get? h)
    exact ⟨k₀, (mem_added.mp hm).1, (mem_added.mp hm).2, hk⟩
  rw [get?_mapKeys_split hd he]
  cases hv : get? (mapKeys f e) k with
  | some v =>
    obtain ⟨k₀, hm, hk⟩ := mem_mapKeys.mp (mem_of_get? hv)
    by_cases hkd : k₀ ∈ keys d
    · have hnone : get? (mapKeys f (added d e)) k = none := by
        refine Option.eq_none_iff_forall_ne_some.mpr fun v' hv' => ?_
        obtain ⟨k₁, hm₁, hk₁, e₁⟩ := hadded hv'
        have hinj := List.inj_on_of_nodup_map (keys_mapKeys e ▸ he)
        have : k₁ = k₀ := hinj (List.mem_map_of_mem hm₁) (List.mem_map_of_mem hm) (e₁.trans hk.symm)
        exact hk₁ (this ▸ hkd)
      obtain ⟨⟨k₁, w⟩, hw, rfl⟩ := List.mem_map.mp hkd
      rw [hnone, Option.none_or, Option.some_or]
      refine get?_of_mem hnr (mem_mapKeys.mpr ⟨k₁, mem_replaced.mpr ⟨w, hw, ?_⟩, hk⟩)
      rw [get?_of_mem he₀ hm, Option.getD_some]
    · rw [get?_of_mem hna (mem_mapKeys.mpr ⟨k₀, mem_added.mpr ⟨hm, hkd⟩, hk⟩), Option.some_or, Option.some_or]
  | none =>
    have hk : ∀ {k₀ : K}, f k₀ = k → k₀ ∉ keys e := by
      intro k₀ hk hm
      exact get?_eq_none.mp hv (keys_mapKeys e ▸ List.mem_map.mpr ⟨k₀, hm, hk⟩)
    have hnone : get? (mapKeys f (added d e)) k = none := by
      refine Option.eq_none_iff_forall_ne_some.mpr fun v' hv' => ?_
      obtain ⟨k₁, hm₁, -, e₁⟩ := hadded hv'
      exact hk e₁ (List.mem_map_of_mem hm₁)
    rw [hnone, Option.none_or, Option.none_or]
    refine Option.ext fun v => ?_
    rw [← mem_iff_get? hnr, ← mem_iff_get? (nodup_filter_mapKeys hd _), mem_mapKeys, mem_mapKeys]
    refine exists_congr fun k₀ => and_congr_left fun hk₀ => ?_
    rw [mem_replaced, List.mem_filter, get?_eq_none.mpr (hk hk₀)]
    simp [hk hk₀]

end MapKeys

end Framework.Dict
