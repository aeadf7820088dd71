import OpenLLMOps.ModelImport.Deployable

/-!
# The index of a sharded model

The checks of a model without `model.safetensors` are spread over three functions:
`_validate_shard_sequence` on the names that the index refers to, `_select_weight_files`
on these names and the files that are there, `_validate_index_tensor_mapping` on the tensors
of the shards. Together they accept a model if and only if the index is exact
(`ExactIndex`, `index_is_exact`).
-/

namespace OpenLLMOps.Importer

open Framework

/-! ## The sequence of shards -/

/-- The number of a shard in its name. -/
def ordinal? (name : PyStr) : Option Nat := (shardName? name).map fun groups => ofDecimal groups.1

/-- The number of shards that its name tells. -/
def total? (name : PyStr) : Option Nat := (shardName? name).map fun groups => ofDecimal groups.2

/-- The names are those of `n` shards, each ordinal from 1 to `n` once. -/
structure ShardSequence (names : List PyStr) (n : Nat) : Prop where
  totals : ∀ name ∈ names, total? name = some n
  ordinals : ∀ name ∈ names, ∃ i, ordinal? name = some i ∧ 1 ≤ i ∧ i ≤ n
  once : ∀ i, 1 ≤ i → i ≤ n → ∃! name, name ∈ names ∧ ordinal? name = some i

/-- `int` reads the numbers of the names. -/
def Readable (names : List PyStr) : Prop :=
  ∀ name ∈ names, ∀ groups ∈ shardName? name, groups.1.length ≤ 4300 ∧ groups.2.length ≤ 4300

theorem dedup_eq_singleton {α : Type} [DecidableEq α] {xs : List α} {a : α} :
    xs.dedup = [a] ↔ xs ≠ [] ∧ ∀ x ∈ xs, x = a := by
  constructor
  · intro h
    refine ⟨fun e => ?_, fun x hx => ?_⟩
    · rw [e] at h
      cases h
    · rw [← List.mem_dedup, h, List.mem_singleton] at hx
      exact hx
  · rintro ⟨hne, hall⟩
    have hmem {x : α} : x ∈ xs.dedup ↔ x = a := by
      rw [List.mem_dedup]
      refine ⟨hall x, ?_⟩
      rintro rfl
      obtain ⟨y, ys, rfl⟩ := List.exists_cons_of_ne_nil hne
      rw [← hall y List.mem_cons_self]
      exact List.mem_cons_self
    have hperm : xs.dedup.Perm [a] := by
      refine (List.perm_ext_iff_of_nodup (List.nodup_dedup _) (List.nodup_singleton _)).mpr fun x => ?_
      rw [hmem, List.mem_singleton]
    exact hperm.eq_singleton

theorem length_dedup_eq {α : Type} [DecidableEq α] {xs : List α} : xs.dedup.length = xs.length ↔ xs.Nodup := by
  constructor
  · intro h
    rw [← (List.dedup_sublist xs).eq_of_length h]
    exact List.nodup_dedup xs
  · intro h
    rw [h.dedup]

/-- Texts whose numbers are exactly those from 1 to `n`, each once. -/
theorem nodup_ordinals {names : List PyStr} (hn : names.Nodup) (f : PyStr → Nat) (n : Nat) :
    ((names.map f).Nodup ∧ (∀ i ∈ names.map f, 1 ≤ i ∧ i ≤ n) ∧ ∀ i < n, i + 1 ∈ names.map f) ↔
      (∀ name ∈ names, 1 ≤ f name ∧ f name ≤ n) ∧ ∀ i, 1 ≤ i → i ≤ n → ∃! name, name ∈ names ∧ f name = i := by
  constructor
  · rintro ⟨hnodup, hrange, hall⟩
    refine ⟨fun name hname => hrange _ (List.mem_map_of_mem hname), fun i h₁ h₂ => ?_⟩
    obtain ⟨name, hname, hi⟩ := List.mem_map.mp (hall (i - 1) (by omega))
    refine ⟨name, ⟨hname, by omega⟩, fun name' h => ?_⟩
    exact List.inj_on_of_nodup_map hnodup h.1 hname (by omega)
  · rintro ⟨hrange, honce⟩
    refine ⟨hn.map_on fun a ha b hb he => ?_, ?_, fun i hi => ?_⟩
    · obtain ⟨c, -, huniq⟩ := honce (f a) (hrange a ha).1 (hrange a ha).2
      exact (huniq a ⟨ha, rfl⟩).trans (huniq b ⟨hb, he.symm⟩).symm
    · intro i hi
      obtain ⟨name, hname, rfl⟩ := List.mem_map.mp hi
      exact hrange name hname
    · obtain ⟨name, ⟨hname, he⟩, -⟩ := honce (i + 1) (by omega) (by omega)
      exact List.mem_map.mpr ⟨name, hname, he⟩

/-- The guards of `_validate_shard_sequence`. -/
theorem validateShardSequence_guards {names : List PyStr} {groups : List (PyStr × PyStr)}
    (hgroups : names.mapM shardName? = some groups) :
    validateShardSequence names = .ok () ↔
      (∀ g ∈ groups, g.1.length ≤ 4300 ∧ g.2.length ≤ 4300) ∧
      ∃ n, (groups.map fun g => ofDecimal g.2).dedup = [n] ∧ n ≠ 0 ∧ groups.length = n ∧
        (groups.map fun g => ofDecimal g.1).Nodup ∧ (∀ i ∈ groups.map fun g => ofDecimal g.1, 1 ≤ i ∧ i ≤ n) ∧
        ∀ i < n, i + 1 ∈ groups.map fun g => ofDecimal g.1 := by
  have hdigits (f : PyStr × PyStr → PyStr) :
      ¬ (groups.any fun g => 4300 < (f g).length) = true ↔ ∀ g ∈ groups, (f g).length ≤ 4300 := by
    simp only [List.any_eq_true, decide_eq_true_eq, not_exists, not_and, Nat.not_lt]
  have hrange (n : Nat) (ordinals : List Nat) (hlen : ordinals.length = groups.length) :
      ¬ (groups.length ≠ n ∨ ordinals.dedup.length ≠ groups.length ∨
        ¬ ((∀ i ∈ ordinals.dedup, 1 ≤ i ∧ i ≤ n) ∧ ∀ i < n, i + 1 ∈ ordinals.dedup)) ↔
      groups.length = n ∧ ordinals.Nodup ∧ (∀ i ∈ ordinals, 1 ≤ i ∧ i ≤ n) ∧ ∀ i < n, i + 1 ∈ ordinals := by
    rw [← hlen]
    simp only [not_or, Decidable.not_not, length_dedup_eq, List.mem_dedup]
  unfold validateShardSequence
  rw [hgroups]
  dsimp only
  rw [ite_error_eq_ok, hdigits]
  constructor
  · rintro ⟨htotals, h⟩
    split at h <;> [rename_i n hn; cases h]
    simp only [refuse, ite_error_eq_ok] at h
    obtain ⟨hne, hordinals, hrest, -⟩ := h
    rw [hdigits] at hordinals
    exact ⟨fun g hg => ⟨hordinals g hg, htotals g hg⟩, n, hn, hne, (hrange n _ (List.length_map _)).mp hrest⟩
  · rintro ⟨hlen, n, hn, hne, hrest⟩
    refine ⟨fun g hg => (hlen g hg).2, ?_⟩
    rw [hn]
    simp only [refuse, ite_error_eq_ok]
    exact ⟨hne, (hdigits _).mpr fun g hg => (hlen g hg).1, (hrange n _ (List.length_map _)).mpr hrest, trivial⟩

/-- What the name of a shard is parsed to. -/
def groupsOf (name : PyStr) : PyStr × PyStr := (shardName? name).getD ([], [])

theorem shardName?_eq_groupsOf {name : PyStr} (h : (shardName? name).isSome = true) :
    shardName? name = some (groupsOf name) := by
  obtain ⟨groups, hgroups⟩ := Option.isSome_iff_exists.mp h
  rw [groupsOf, hgroups]
  rfl

theorem ordinal?_eq_some {name : PyStr} (h : (shardName? name).isSome = true) {i : Nat} :
    ordinal? name = some i ↔ ofDecimal (groupsOf name).1 = i := by
  rw [ordinal?, shardName?_eq_groupsOf h, Option.map_some, Option.some_inj]

theorem total?_eq_some {name : PyStr} (h : (shardName? name).isSome = true) {i : Nat} :
    total? name = some i ↔ ofDecimal (groupsOf name).2 = i := by
  rw [total?, shardName?_eq_groupsOf h, Option.map_some, Option.some_inj]

theorem ShardSequence.isSome {names : List PyStr} {n : Nat} (h : ShardSequence names n) {name : PyStr}
    (hname : name ∈ names) : (shardName? name).isSome = true := by
  have htotal := h.totals name hname
  rw [total?, Option.map_eq_some_iff] at htotal
  obtain ⟨groups, hgroups, -⟩ := htotal
  rw [hgroups]
  rfl

/-- `_validate_shard_sequence` accepts a set of names that are those of a sequence. -/
theorem validateShardSequence_eq_ok {names : List PyStr} (hn : names.Nodup) :
    validateShardSequence names = .ok () ↔ Readable names ∧ ∃ n, 1 ≤ n ∧ ShardSequence names n := by
  by_cases hall : ∀ name ∈ names, (shardName? name).isSome = true
  · have hgroups : names.mapM shardName? = some (names.map groupsOf) := by
      rw [mapM_eq_some, List.map_map]
      exact List.map_congr_left fun name hname => shardName?_eq_groupsOf (hall name hname)
    have hreadable : (∀ g ∈ names.map groupsOf, g.1.length ≤ 4300 ∧ g.2.length ≤ 4300) ↔ Readable names := by
      simp only [List.mem_map, forall_exists_index, and_imp, forall_apply_eq_imp_iff₂, Readable]
      refine forall₂_congr fun name hname => ?_
      rw [shardName?_eq_groupsOf (hall name hname)]
      simp only [Option.mem_def, Option.some.injEq, forall_eq']
    rw [validateShardSequence_guards hgroups, hreadable]
    refine and_congr_right fun _ => exists_congr fun n => ?_
    rw [List.map_map, List.map_map, List.length_map, dedup_eq_singleton]
    have hseq := nodup_ordinals hn (fun name => ofDecimal (groupsOf name).1) n
    constructor
    · rintro ⟨⟨-, htotals⟩, hpos, -, hrest⟩
      obtain ⟨hrange, honce⟩ := hseq.mp hrest
      refine ⟨Nat.pos_of_ne_zero hpos, fun name hname => ?_, fun name hname => ?_, fun i h₁ h₂ => ?_⟩
      · exact (total?_eq_some (hall name hname)).mpr (htotals _ (List.mem_map_of_mem hname))
      · exact ⟨_, (ordinal?_eq_some (hall name hname)).mpr rfl, hrange name hname⟩
      · obtain ⟨name, ⟨hname, hi⟩, huniq⟩ := honce i h₁ h₂
        refine ⟨name, ⟨hname, (ordinal?_eq_some (hall name hname)).mpr hi⟩, fun name' h => ?_⟩
        exact huniq name' ⟨h.1, (ordinal?_eq_some (hall name' h.1)).mp h.2⟩
    · rintro ⟨hpos, h⟩
      have hrest := hseq.mpr ⟨fun name hname => ?_, fun i h₁ h₂ => ?_⟩
      · refine ⟨⟨fun hnil => ?_, fun total htotal => ?_⟩, Nat.ne_of_gt hpos, ?_, hrest⟩
        · obtain ⟨name, hname, -⟩ := (h.once 1 (le_refl 1) hpos).exists
          rw [List.map_eq_nil_iff] at hnil
          rw [hnil] at hname
          cases hname
        · obtain ⟨name, hname, rfl⟩ := List.mem_map.mp htotal
          exact (total?_eq_some (hall name hname)).mp (h.totals name hname)
        · -- the ordinals are a permutation of the numbers from 1 to `n`
          have hperm : (names.map fun name => ofDecimal (groupsOf name).1).Perm (List.range' 1 n) := by
            refine (List.perm_ext_iff_of_nodup hrest.1 List.nodup_range').mpr fun i => ?_
            rw [List.mem_range'_1]
            refine ⟨fun hi => ?_, fun hi => ?_⟩
            · have := hrest.2.1 i hi
              omega
            · have := hrest.2.2 (i - 1) (by omega)
              rwa [Nat.sub_add_cancel hi.1] at this
          simpa only [List.length_map, List.length_range'] using hperm.length_eq
      · obtain ⟨i, hi, hrange⟩ := h.ordinals name hname
        rw [(ordinal?_eq_some (hall name hname)).mp hi]
        exact hrange
      · obtain ⟨name, ⟨hname, hi⟩, huniq⟩ := h.once i h₁ h₂
        refine ⟨name, ⟨hname, (ordinal?_eq_some (hall name hname)).mp hi⟩, fun name' h' => ?_⟩
        exact huniq name' ⟨h'.1, (ordinal?_eq_some (hall name' h'.1)).mpr h'.2⟩
  · refine iff_of_false (fun h => hall (TrainingControl.shards_of_validateShardSequence h)) ?_
    rintro ⟨-, n, -, h⟩
    exact hall fun name hname => h.isSome hname

/-! ## The weight files -/

/-- The safetensors files of the tree, whatever the letter case of the suffix. -/
def weightNames (files : ModelFiles) : List PyStr :=
  (files.map fun file => file.1.posix).filter fun path => (py ".safetensors").isSuffixOf (casefoldText path)

section Select

variable {float : PyStr → PyFloat} {topLevel : List (PyStr × Bytes)} {index : Bytes} {kvs entries : List (PyStr × Json)}
  {map : List (PyStr × PyStr)}

/-- `_select_weight_files` of a model with an index. -/
theorem selectWeightFiles_eq_ok (hsingle : Dict.get? topLevel (py "model.safetensors") = none)
    (hindex : Dict.get? topLevel (py "model.safetensors.index.json") = some index)
    (hload : loadJson float index (py "model.safetensors.index.json") = .ok kvs)
    (hmap : Dict.get? kvs (py "weight_map") = some (.obj entries)) (htexts : weightMap? entries = some map)
    (hne : map ≠ []) {safetensors : List PyStr} {selected : List PyStr × Option (List (PyStr × PyStr))} :
    selectWeightFiles float topLevel safetensors = .ok selected ↔
      (validateShardSequence (map.map Prod.snd).dedup = .ok () ∧
        ∀ name, name ∈ map.map Prod.snd ↔ name ∈ safetensors) ∧
      selected = (sortTexts (map.map Prod.snd).dedup, some map) := by
  obtain ⟨entry, entries', rfl⟩ : ∃ entry entries', entries = entry :: entries' := by
    cases entries with
    | nil =>
      cases htexts
      exact absurd rfl hne
    | cons entry entries' => exact ⟨entry, entries', rfl⟩
  -- the guards on the files that are there
  have hfiles (hshards : ∀ name ∈ (map.map Prod.snd).dedup, (shardName? name).isSome = true) :
      (¬ (safetensors.filter fun name => name ∉ safetensors.filter fun name => (shardName? name).isSome) ≠ [] ∧
        ¬ (sortTexts ((map.map Prod.snd).dedup.filter (· ∉ safetensors.filter fun name => (shardName? name).isSome)) ≠ [] ∨
          sortTexts ((safetensors.filter fun name => (shardName? name).isSome).filter (· ∉ (map.map Prod.snd).dedup)) ≠ [])) ↔
        ∀ name, name ∈ map.map Prod.snd ↔ name ∈ safetensors := by
    simp only [not_or, Decidable.not_not, TrainingControl.sortTexts_eq_nil, List.filter_eq_nil_iff, decide_eq_true_eq,
      List.mem_filter, List.mem_dedup] at hshards ⊢
    constructor
    · rintro ⟨hunexpected, hmissing, hextra⟩ name
      exact ⟨fun h => (hmissing name h).1, fun h => hextra name (hunexpected name h)⟩
    · intro hsame
      refine ⟨fun name h => ⟨h, hshards name ((hsame name).mpr h)⟩, fun name h => ?_, fun name h => (hsame name).mpr h.1⟩
      exact ⟨(hsame name).mp h, hshards name h⟩
  unfold selectWeightFiles
  rw [hsingle, hindex]
  dsimp only
  rw [bind_eq_ok]
  constructor
  · rintro ⟨kvs', hkvs, h⟩
    rw [hload] at hkvs
    cases hkvs
    rw [hmap] at h
    dsimp only at h
    rw [htexts] at h
    obtain ⟨⟨⟩, hsequence, h⟩ := bind_eq_ok.mp h
    simp only [ite_error_eq_ok] at h
    obtain ⟨hunexpected, hsame, h⟩ := h
    have hshards := TrainingControl.shards_of_validateShardSequence hsequence
    exact ⟨⟨hsequence, (hfiles hshards).mp ⟨hunexpected, hsame⟩⟩, (Except.ok.inj h).symm⟩
  · rintro ⟨⟨hsequence, hsame⟩, rfl⟩
    have hshards := TrainingControl.shards_of_validateShardSequence hsequence
    obtain ⟨hunexpected, hsame⟩ := (hfiles hshards).mpr hsame
    refine ⟨kvs, hload, ?_⟩
    rw [hmap]
    dsimp only
    rw [htexts]
    refine bind_eq_ok.mpr ⟨(), hsequence, ?_⟩
    simp only [ite_error_eq_ok]
    exact ⟨hunexpected, hsame, trivial⟩

end Select

/-! ## The owners of the tensors -/

/-- One tensor of a shard in the loop over the owners. -/
def addOwner (acc : List (PyStr × PyStr) × List PyStr) (entry : PyStr × PyStr) : List (PyStr × PyStr) × List PyStr :=
  match Dict.get? acc.1 entry.1 with
  | none => (acc.1 ++ [entry], acc.2)
  | some previous => if previous ≠ entry.2 then (acc.1, acc.2 ++ [entry.1]) else acc

/-- The tensors with their shards. -/
def ownerships (tensorsByShard : List (PyStr × List PyStr)) : List (PyStr × PyStr) :=
  tensorsByShard.flatMap fun shard => shard.2.map fun tensor => (tensor, shard.1)

theorem tensorOwners_eq (tensorsByShard : List (PyStr × List PyStr)) :
    tensorOwners tensorsByShard = (ownerships tensorsByShard).foldl addOwner ([], []) := rfl

/-- No tensor has two shards. -/
def OneOwner (owned : List (PyStr × PyStr)) : Prop :=
  ∀ tensor shard shard', (tensor, shard) ∈ owned → (tensor, shard') ∈ owned → shard = shard'

theorem oneOwner_append {owned : List (PyStr × PyStr)} {entry : PyStr × PyStr} :
    OneOwner (owned ++ [entry]) ↔ OneOwner owned ∧ ∀ shard, (entry.1, shard) ∈ owned → shard = entry.2 := by
  simp only [OneOwner, List.mem_append, List.mem_singleton]
  constructor
  · intro h
    exact ⟨fun t s s' hs hs' => h t s s' (.inl hs) (.inl hs'), fun s hs => h entry.1 s entry.2 (.inl hs) (.inr rfl)⟩
  · rintro ⟨hone, hentry⟩ t s s' (hs | rfl) (hs' | he)
    · exact hone t s s' hs hs'
    · cases he
      exact hentry s hs
    · exact (hentry s' hs').symm
    · exact (Prod.mk.inj he).2.symm

/-- What the loop has found: it notes a duplicate as soon as a tensor has a second shard, and
the first owners are all of them until then. -/
theorem foldl_addOwner (owned : List (PyStr × PyStr)) :
    ((owned.foldl addOwner ([], [])).2 = [] ↔ OneOwner owned) ∧
      (OneOwner owned → ∀ tensor shard,
        Dict.get? (owned.foldl addOwner ([], [])).1 tensor = some shard ↔ (tensor, shard) ∈ owned) := by
  induction owned using List.reverseRecOn with
  | nil =>
    refine ⟨⟨fun _ tensor shard shard' h => (List.not_mem_nil h).elim, fun _ => rfl⟩, fun _ tensor shard => ⟨fun h => ?_, fun h => ?_⟩⟩
    · cases h
    · cases h
  | append_singleton owned entry ih =>
    obtain ⟨hdup, hget⟩ := ih
    rw [List.foldl_append, List.foldl_cons, List.foldl_nil, oneOwner_append]
    generalize owned.foldl addOwner ([], []) = acc at hdup hget ⊢
    unfold addOwner
    split
    · rename_i hnone
      have hfresh (hone : OneOwner owned) (shard : PyStr) : (entry.1, shard) ∉ owned := fun h => by
        rw [(hget hone entry.1 shard).mpr h] at hnone
        cases hnone
      refine ⟨hdup.trans ⟨fun h => ⟨h, fun shard hmem => absurd hmem (hfresh h shard)⟩, fun h => h.1⟩, ?_⟩
      rintro ⟨hone, -⟩ tensor shard
      obtain ⟨tensor', shard'⟩ := entry
      rw [Dict.get?_append, List.mem_append, List.mem_singleton, ← hget hone, Dict.get?_cons, Prod.mk.injEq]
      by_cases htensor : tensor = tensor'
      · subst htensor
        rw [hnone]
        simp [eq_comm]
      · simp [htensor, Ne.symm htensor]
    · rename_i previous hprevious
      split
      · rename_i hne
        have hfalse : ¬ (OneOwner owned ∧ ∀ shard, (entry.1, shard) ∈ owned → shard = entry.2) := fun h =>
          hne (h.2 previous ((hget h.1 _ _).mp hprevious))
        exact ⟨iff_of_false (List.append_ne_nil_of_right_ne_nil _ (List.cons_ne_nil _ _)) hfalse, fun h => absurd h hfalse⟩
      · rename_i heq
        have heq := Decidable.not_not.mp heq
        have hmem (hone : OneOwner owned) : entry ∈ owned := by
          have h := (hget hone _ _).mp hprevious
          rw [heq] at h
          exact h
        refine ⟨hdup.trans ⟨fun h => ⟨h, fun shard hs => h _ _ _ hs (hmem h)⟩, fun h => h.1⟩, ?_⟩
        rintro ⟨hone, -⟩ tensor shard
        rw [hget hone, List.mem_append, List.mem_singleton]
        refine ⟨.inl, ?_⟩
        rintro (h | rfl)
        · exact h
        · exact hmem hone

/-- `_validate_index_tensor_mapping` accepts an index that maps each tensor to its only shard. -/
theorem validateIndexTensorMapping_eq_ok {map : List (PyStr × PyStr)} {tensorsByShard : List (PyStr × List PyStr)} :
    validateIndexTensorMapping map tensorsByShard = .ok () ↔
      OneOwner (ownerships tensorsByShard) ∧
        ∀ tensor shard, (tensor, shard) ∈ map ↔ (tensor, shard) ∈ ownerships tensorsByShard := by
  obtain ⟨hdup, hget⟩ := foldl_addOwner (ownerships tensorsByShard)
  unfold validateIndexTensorMapping
  rw [tensorOwners_eq]
  generalize (ownerships tensorsByShard).foldl addOwner ([], []) = owners at hdup hget
  obtain ⟨actualOwner, duplicates⟩ := owners
  simp only [ite_error_eq_ok, Decidable.not_not, List.map_eq_nil_iff, List.filter_eq_nil_iff, decide_eq_true_eq,
    and_true] at hdup hget ⊢
  rw [hdup]
  refine and_congr_right fun hone => ?_
  have hkey {tensor : PyStr} : tensor ∈ Dict.keys actualOwner ↔ ∃ shard, (tensor, shard) ∈ ownerships tensorsByShard := by
    rw [← not_iff_not, ← Dict.get?_eq_none]
    simp only [← hget hone, Option.eq_none_iff_forall_ne_some, not_exists, ne_eq]
  constructor
  · rintro ⟨-, hmissing, hwrong⟩ tensor shard
    refine ⟨fun h => (hget hone tensor shard).mp (hwrong _ h), fun h => ?_⟩
    obtain ⟨⟨tensor', shard'⟩, hmem, rfl⟩ := List.mem_map.mp (hmissing tensor (hkey.mpr ⟨shard, h⟩))
    have hshard := (hget hone _ _).mp (hwrong _ hmem)
    exact hone _ _ _ hshard h ▸ hmem
  · intro hexact
    refine ⟨fun tensor h => ?_, fun tensor h => ?_, fun entry h => (hget hone _ _).mpr ((hexact _ _).mp h)⟩
    · obtain ⟨⟨tensor, shard⟩, hmem, rfl⟩ := List.mem_map.mp h
      exact hkey.mpr ⟨shard, (hexact _ _).mp hmem⟩
    · obtain ⟨shard, hmem⟩ := hkey.mp h
      exact List.mem_map.mpr ⟨(tensor, shard), (hexact _ _).mpr hmem, rfl⟩

/-! ## The model -/

section Model

variable {float : PyStr → PyFloat}

/-- The three checks of a model whose safetensors files have the tensors `tensors`. -/
def shardChecks (float : PyStr → PyFloat) (files : ModelFiles) (tensors : PyStr → List PyStr) : FileCheck Unit := do
  let (weightFiles, weightMap) ← selectWeightFiles float (topLevelFiles files) (weightNames files)
  match weightMap with
  | some map => validateIndexTensorMapping map (weightFiles.map fun name => (name, tensors name))
  | none => .ok ()

/-- The index is exact. -/
structure ExactIndex (files : ModelFiles) (tensors : PyStr → List PyStr) (map : List (PyStr × PyStr)) : Prop where
  /-- All safetensors files are at the top level, -/
  flat : ∀ file ∈ files, file.1.posix ∈ weightNames files → file.1 = [file.1.posix]
  /-- and their names are those of a sequence of shards. -/
  sequence : ∃ n, 1 ≤ n ∧ ShardSequence (weightNames files) n
  /-- The index refers to the files that are there. -/
  referenced : ∀ name, name ∈ map.map Prod.snd ↔ name ∈ weightNames files
  /-- No tensor is in two shards. -/
  disjoint : ∀ name ∈ weightNames files, ∀ name' ∈ weightNames files,
    ∀ tensor ∈ tensors name, tensor ∈ tensors name' → name = name'
  /-- The index maps the tensors that are there, each to its shard. -/
  maps : ∀ tensor name, (tensor, name) ∈ map ↔ name ∈ weightNames files ∧ tensor ∈ tensors name

/-- A file name has at most 255 characters. -/
def NamesFit (files : ModelFiles) : Prop := ∀ file ∈ files, ∀ part ∈ file.1, part.length ≤ 255

theorem groups_length_le {name : PyStr} {groups : PyStr × PyStr} (h : shardName? name = some groups) :
    groups.1.length ≤ name.length ∧ groups.2.length ≤ name.length := by
  simp only [shardName?, Option.bind_eq_bind, Option.bind_eq_some_iff, Prod.exists] at h
  obtain ⟨s₁, h₁, ordinal, s₂, h₂, s₃, h₃, total, s₄, h₄, h₅⟩ := h
  split at h₅ <;> cases h₅
  have e₁ := congrArg List.length (dropPrefix?_spec h₁)
  have e₂ := congrArg List.length (TrainingControl.digits?_spec h₂).1
  have e₃ := congrArg List.length (dropPrefix?_spec h₃)
  have e₄ := congrArg List.length (TrainingControl.digits?_spec h₄).1
  simp only [List.length_append] at e₁ e₂ e₃ e₄
  dsimp only
  omega

/-- The name of a shard is at the top level. -/
theorem flat_of_shardName {p : RelativePath} (h : (shardName? p.posix).isSome = true) : p = [p.posix] := by
  obtain ⟨hslash, hend⟩ := TrainingControl.shardName?_spec h
  refine TrainingControl.posix_flat (fun hnil => ?_) hslash
  rw [hnil] at hend
  cases List.suffix_nil.mp hend

theorem readable_weightNames {files : ModelFiles} (hfit : NamesFit files)
    (hshards : ∀ name ∈ weightNames files, (shardName? name).isSome = true) : Readable (weightNames files) := by
  intro name hname groups hgroups
  obtain ⟨hmem, -⟩ := List.mem_filter.mp hname
  obtain ⟨⟨path, content⟩, hfile, rfl⟩ := List.mem_map.mp hmem
  have hflat : path = [path.posix] := flat_of_shardName (hshards _ hname)
  have hpart : path.posix.length ≤ 255 := by
    have hmem (p : RelativePath) (he : p = [path.posix]) : path.posix ∈ p := he ▸ List.mem_singleton_self _
    exact hfit _ hfile path.posix (hmem path hflat)
  have hlen : groups.1.length ≤ path.posix.length ∧ groups.2.length ≤ path.posix.length := groups_length_le hgroups
  omega

theorem ShardSequence.congr {names names' : List PyStr} {n : Nat} (h : ShardSequence names n)
    (hsame : ∀ name, name ∈ names ↔ name ∈ names') : ShardSequence names' n where
  totals name hname := h.totals name ((hsame name).mpr hname)
  ordinals name hname := h.ordinals name ((hsame name).mpr hname)
  once i h₁ h₂ := by simpa only [hsame] using h.once i h₁ h₂

/-- A model without `model.safetensors` whose index maps texts to texts passes the checks if and only
if the index is exact. -/
theorem index_is_exact {files : ModelFiles} {index : Bytes} {kvs entries : List (PyStr × Json)}
    {map : List (PyStr × PyStr)} (tensors : PyStr → List PyStr) (hfit : NamesFit files)
    (hsingle : Dict.get? (topLevelFiles files) (py "model.safetensors") = none)
    (hindex : Dict.get? (topLevelFiles files) (py "model.safetensors.index.json") = some index)
    (hload : loadJson float index (py "model.safetensors.index.json") = .ok kvs)
    (hmap : Dict.get? kvs (py "weight_map") = some (.obj entries)) (htexts : weightMap? entries = some map)
    (hne : map ≠ []) : shardChecks float files tensors = .ok () ↔ ExactIndex files tensors map := by
  have howned (tensor name : PyStr) (hsame : ∀ name, name ∈ map.map Prod.snd ↔ name ∈ weightNames files) :
      (tensor, name) ∈ ownerships ((sortTexts (map.map Prod.snd).dedup).map fun name => (name, tensors name)) ↔
        name ∈ weightNames files ∧ tensor ∈ tensors name := by
    have hsorted : name ∈ sortTexts (map.map Prod.snd).dedup ↔ name ∈ weightNames files := by
      rw [sortTexts, (List.perm_insertionSort _ _).mem_iff, List.mem_dedup]
      exact hsame name
    simp only [ownerships, List.mem_flatMap, List.mem_map, Prod.mk.injEq, exists_exists_and_eq_and]
    constructor
    · rintro ⟨shard, hshard, tensor', htensor, rfl, rfl⟩
      exact ⟨hsorted.mp hshard, htensor⟩
    · rintro ⟨hname, htensor⟩
      exact ⟨name, hsorted.mpr hname, tensor, htensor, rfl, rfl⟩
  unfold shardChecks
  rw [bind_eq_ok]
  simp only [selectWeightFiles_eq_ok hsingle hindex hload hmap htexts hne]
  constructor
  · rintro ⟨selected, ⟨⟨hsequence, hsame⟩, rfl⟩, hmapping⟩
    obtain ⟨hone, hexact⟩ := validateIndexTensorMapping_eq_ok.mp hmapping
    obtain ⟨-, n, hpos, hseq⟩ := (validateShardSequence_eq_ok (List.nodup_dedup _)).mp hsequence
    have hseq' : ShardSequence (weightNames files) n :=
      hseq.congr fun name => List.mem_dedup.trans (hsame name)
    refine ⟨fun file hfile hname => flat_of_shardName (hseq'.isSome hname), ⟨n, hpos, hseq'⟩, hsame, ?_, ?_⟩
    · intro name hname name' hname' tensor htensor htensor'
      exact hone tensor name name' ((howned _ _ hsame).mpr ⟨hname, htensor⟩) ((howned _ _ hsame).mpr ⟨hname', htensor'⟩)
    · exact fun tensor name => (hexact tensor name).trans (howned tensor name hsame)
  · rintro ⟨-, ⟨n, hpos, hseq⟩, hsame, hdisjoint, hmaps⟩
    have hreadable := readable_weightNames hfit fun name hname => hseq.isSome hname
    have hsequence := (validateShardSequence_eq_ok (List.nodup_dedup (map.map Prod.snd))).mpr
      ⟨fun name hname => hreadable name ((hsame name).mp (List.mem_dedup.mp hname)), n, hpos,
        hseq.congr fun name => ((List.mem_dedup).trans (hsame name)).symm⟩
    refine ⟨_, ⟨⟨hsequence, hsame⟩, rfl⟩, validateIndexTensorMapping_eq_ok.mpr ⟨?_, fun tensor name => ?_⟩⟩
    · intro tensor name name' h h'
      obtain ⟨hname, htensor⟩ := (howned _ _ hsame).mp h
      obtain ⟨hname', htensor'⟩ := (howned _ _ hsame).mp h'
      exact hdisjoint name hname name' hname' tensor htensor htensor'
    · exact (hmaps tensor name).trans (howned tensor name hsame).symm

theorem nodup_selected {topLevel : List (PyStr × Bytes)} {safetensors names : List PyStr}
    {map : Option (List (PyStr × PyStr))} (h : selectWeightFiles float topLevel safetensors = .ok (names, map)) :
    names.Nodup := by
  unfold selectWeightFiles at h
  dsimp only at h
  split at h
  · cases h
  · rw [ite_error_eq_ok] at h
    cases h.2
    exact List.nodup_singleton _
  · cases h
  · obtain ⟨index, -, h⟩ := bind_eq_ok.mp h
    split at h <;> [skip; cases h]
    split at h <;> [cases h; skip]
    obtain ⟨-, -, h⟩ := bind_eq_ok.mp h
    simp only [ite_error_eq_ok] at h
    cases h.2.2
    exact (List.perm_insertionSort _ _).nodup_iff.mpr (List.nodup_dedup _)

/-- The tensors of a weight file that is accepted. -/
def tensorsOf (float : PyStr → PyFloat) (topLevel : List (PyStr × Bytes)) (name : PyStr) : List PyStr :=
  match (Dict.get? topLevel name).map (validateSafetensors float name) with
  | some (.ok summary) => summary.tensorNames
  | _ => []

theorem validateWeights_tensorsByShard {topLevel : List (PyStr × Bytes)} {names : List PyStr} {acc weights : Weights}
    (h : validateWeights float topLevel acc names = .ok weights) (hn : names.Nodup)
    (hfresh : ∀ name ∈ names, name ∉ Dict.keys acc.tensorsByShard) :
    weights.tensorsByShard = acc.tensorsByShard ++ names.map fun name => (name, tensorsOf float topLevel name) := by
  induction names generalizing acc with
  | nil =>
    cases h
    exact (List.append_nil _).symm
  | cons name names ih =>
    obtain ⟨hname, hn⟩ := List.nodup_cons.mp hn
    unfold validateWeights at h
    split at h <;> [cases h; rename_i content hcontent]
    obtain ⟨summary, hsummary, h⟩ := bind_eq_ok.mp h
    dsimp only at h
    rw [refuse, ite_error_eq_ok] at h
    have htensors : tensorsOf float topLevel name = summary.tensorNames := by
      rw [tensorsOf, hcontent, Option.map_some, hsummary]
    rw [ih h.2 hn fun name' hname' => ?_]
    · dsimp only
      rw [Dict.set_of_notMem (hfresh name List.mem_cons_self), List.map_cons, htensors, List.append_assoc]
      rfl
    · dsimp only
      rw [Dict.mem_keys_set, not_or]
      exact ⟨fun e => hname (e ▸ hname'), hfresh name' (List.mem_cons_of_mem _ hname')⟩

/-- A model that the importer accepts passes the three checks with the tensors of its weight files. -/
theorem shardChecks_of_validateModelFiles {files : ModelFiles} {accepted : List (PyStr × Json) × Nat × List PyStr}
    (h : validateModelFiles float files = .ok accepted) :
    shardChecks float files (tensorsOf float (topLevelFiles files)) = .ok () := by
  unfold validateModelFiles at h
  simp only [refuse, ite_error_eq_ok] at h
  obtain ⟨-, -, -, h⟩ := h
  split at h <;> [skip; cases h]
  obtain ⟨config, -, h⟩ := bind_eq_ok.mp h
  obtain ⟨tokenizerConfig, -, h⟩ := bind_eq_ok.mp h
  rw [ite_error_eq_ok] at h
  obtain ⟨-, h⟩ := h
  obtain ⟨-, -, h⟩ := bind_eq_ok.mp h
  obtain ⟨-, -, h⟩ := bind_eq_ok.mp h
  simp only [ite_error_eq_ok] at h
  obtain ⟨-, -, -, h⟩ := h
  obtain ⟨⟨weightFiles, weightMap⟩, hselect, h⟩ := bind_eq_ok.mp h
  obtain ⟨weights, hweights, h⟩ := bind_eq_ok.mp h
  refine bind_eq_ok.mpr ⟨_, hselect, ?_⟩
  cases weightMap with
  | none => rfl
  | some map =>
    obtain ⟨⟨⟩, hmapping, -⟩ := bind_eq_ok.mp h
    have htensors := validateWeights_tensorsByShard hweights (nodup_selected hselect) fun name _ => List.not_mem_nil
    rw [List.nil_append] at htensors
    rw [htensors] at hmapping
    exact hmapping

end Model

/-! ## Two shards -/

namespace Sample

def sharded : ModelFiles :=
  [([py "model-1-of-2.safetensors"], []), ([py "model-02-of-02.safetensors"], []),
    ([py "model.safetensors.index.json"],
      text ("\x7b\"weight_map\":\x7b\"a\":\"model-1-of-2.safetensors\"," ++
        "\"b\":\"model-02-of-02.safetensors\"\x7d\x7d"))]

def shardTensors (name : PyStr) : List PyStr := if name = py "model-1-of-2.safetensors" then [py "a"] else [py "b"]

def weightMap : List (PyStr × PyStr) :=
  [(py "a", py "model-1-of-2.safetensors"), (py "b", py "model-02-of-02.safetensors")]

end Sample

theorem two_shards_are_exact : ExactIndex Sample.sharded Sample.shardTensors Sample.weightMap := by
  have hload : loadJson Sample.float ((Sample.sharded.map Prod.snd).getLastD []) (py "model.safetensors.index.json") =
      .ok [(py "weight_map", .obj (Sample.weightMap.map fun entry => (entry.1, .str entry.2)))] := by
    decide +kernel
  refine (@index_is_exact Sample.float Sample.sharded _ _ _ Sample.weightMap Sample.shardTensors ?_ ?_ ?_ hload rfl ?_
    ?_).mp ?_
  · unfold NamesFit
    decide +kernel
  all_goals decide +kernel

end OpenLLMOps.Importer
