import OpenLLMOps.Framework.Dict
import OpenLLMOps.Framework.Json.RoundTrip
import OpenLLMOps.Framework.Strict

/-!
# Sorted values

A text does not depend on the order of the entries that it sorts (`dumps_sorted`), nor does what is read from the
fields of a sorted object (`requiredField_sorted`, `defaultedField_sorted`). What a style that does not sort has written
is read back as it was (`loads_unsorted`).
-/

namespace Framework

section

variable {h : JsonDecoder} {style : JsonStyle} {depth : Nat}

theorem keys_dumpsEntries {kvs : List (PyStr × Json)} {entries : List (PyStr × PyStr)}
    (hd : dumpsEntries style depth kvs = some entries) : entries.map Prod.fst = kvs.map Prod.fst := by
  induction kvs generalizing entries with
  | nil =>
    obtain rfl := Option.some.inj hd
    rfl
  | cons kv kvs ih =>
    obtain ⟨text, -, hd⟩ := bind_eq_some.mp hd
    obtain ⟨rest, hrest, hd⟩ := bind_eq_some.mp hd
    obtain rfl := Option.some.inj hd
    rw [List.map_cons, List.map_cons, ih hrest]

/-- The entries in another order. -/
theorem dumpsEntries_perm {kvs kvs' : List (PyStr × Json)} (hp : kvs.Perm kvs') {entries : List (PyStr × PyStr)}
    (hd : dumpsEntries style depth kvs = some entries) :
    ∃ entries', dumpsEntries style depth kvs' = some entries' ∧ entries.Perm entries' := by
  induction hp generalizing entries with
  | nil => exact ⟨entries, hd, .refl _⟩
  | cons kv _ ih =>
    obtain ⟨text, htext, hd⟩ := bind_eq_some.mp hd
    obtain ⟨rest, hrest, hd⟩ := bind_eq_some.mp hd
    obtain rfl := Option.some.inj hd
    obtain ⟨rest', hrest', hp'⟩ := ih hrest
    refine ⟨(kv.1, text) :: rest', ?_, hp'.cons _⟩
    rw [dumpsEntries, htext, hrest']
    rfl
  | swap kv kv' kvs =>
    obtain ⟨text', htext', hd⟩ := bind_eq_some.mp hd
    obtain ⟨rest, hrest, hd⟩ := bind_eq_some.mp hd
    obtain rfl := Option.some.inj hd
    obtain ⟨text, htext, hrest⟩ := bind_eq_some.mp hrest
    obtain ⟨entries, hentries, hrest⟩ := bind_eq_some.mp hrest
    obtain rfl := Option.some.inj hrest
    refine ⟨(kv.1, text) :: (kv'.1, text') :: entries, ?_, .swap _ _ _⟩
    rw [dumpsEntries, htext, dumpsEntries, htext', hentries]
    rfl
  | trans _ _ ih ih' =>
    obtain ⟨entries', hentries', hp⟩ := ih hd
    obtain ⟨entries'', hentries'', hp'⟩ := ih' hentries'
    exact ⟨entries'', hentries'', hp.trans hp'⟩

/-- Sorting forgets the order of entries with distinct keys. -/
theorem sortEntries_perm (hsort : style.sortKeys = true) {entries entries' : List (PyStr × PyStr)}
    (hp : entries.Perm entries') (hn : (entries.map Prod.fst).Nodup) :
    sortEntries style entries = sortEntries style entries' := by
  rw [sortEntries, sortEntries, if_pos hsort, if_pos hsort]
  exact insertionSort_key_of_perm hp fun a ha b hb he => List.inj_on_of_nodup_map hn ha hb he

/-- The texts of entries in another order, sorted. -/
theorem sortEntries_dumpsEntries (hsort : style.sortKeys = true) {kvs kvs' : List (PyStr × Json)} (hp : kvs.Perm kvs')
    (hn : (kvs.map Prod.fst).Nodup) :
    (dumpsEntries style depth kvs).map (sortEntries style) =
      (dumpsEntries style depth kvs').map (sortEntries style) := by
  have hone {kvs kvs' : List (PyStr × Json)} (hp : kvs.Perm kvs') (hn : (kvs.map Prod.fst).Nodup)
      {sorted : List (PyStr × PyStr)} (hs : (dumpsEntries style depth kvs).map (sortEntries style) = some sorted) :
      (dumpsEntries style depth kvs').map (sortEntries style) = some sorted := by
    obtain ⟨entries, hentries, rfl⟩ := Option.map_eq_some_iff.mp hs
    obtain ⟨entries', hentries', hp'⟩ := dumpsEntries_perm hp hentries
    rw [hentries', Option.map_some, sortEntries_perm hsort hp' (keys_dumpsEntries hentries ▸ hn)]
  have hn' : (kvs'.map Prod.fst).Nodup := (hp.map Prod.fst).nodup_iff.mp hn
  exact Option.ext fun sorted => ⟨hone hp hn, hone hp.symm hn'⟩

mutual

/-- The text of the sorted value is the text of the value. -/
theorem dumps_sorted (depth : Nat) (v : Json) (hv : v.Readable h) :
    dumps style depth (v.sorted style) = dumps style depth v := by
  cases v with
  | arr xs =>
    show (dumpsItems style (depth + 1) (Json.sortedItems style xs)).map _ = _
    rw [dumpsItems_sorted (depth + 1) xs hv]
    rfl
  | obj kvs =>
    show (dumpsEntries style (depth + 1) (style.sortKvs (Json.sortedEntries style kvs))).map _ = _
    have hentries := dumpsEntries_sorted (depth + 1) kvs hv.2
    by_cases hsort : style.sortKeys = true
    · have hn : ((Json.sortedEntries style kvs).map Prod.fst).Nodup := Json.keys_sortedEntries kvs ▸ hv.1
      have hsame := @sortEntries_dumpsEntries style (depth + 1) hsort _ _ (style.sortKvs_perm _).symm hn
      rw [hentries] at hsame
      have := congrArg (Option.map fun entries => style.bracket depth 123 125 (entries.map (dumpsEntry style))) hsame
      rw [Option.map_map, Option.map_map] at this
      exact this.symm
    · rw [JsonStyle.sortKvs, if_neg hsort, hentries]
      rfl
  | _ => rfl

theorem dumpsItems_sorted (depth : Nat) (xs : List Json) (hxs : Json.readableItems h xs) :
    dumpsItems style depth (Json.sortedItems style xs) = dumpsItems style depth xs := by
  cases xs with
  | nil => rfl
  | cons x xs => rw [Json.sortedItems, dumpsItems, dumpsItems, dumps_sorted depth x hxs.1,
    dumpsItems_sorted depth xs hxs.2]

theorem dumpsEntries_sorted (depth : Nat) (kvs : List (PyStr × Json)) (hkvs : Json.readableEntries h kvs) :
    dumpsEntries style depth (Json.sortedEntries style kvs) = dumpsEntries style depth kvs := by
  cases kvs with
  | nil => rfl
  | cons kv kvs =>
    rw [Json.sortedEntries, dumpsEntries, dumpsEntries, dumps_sorted depth kv.2 hkvs.1,
      dumpsEntries_sorted depth kvs hkvs.2]

end

/-! ## Not sorted -/

mutual

theorem Json.sorted_of_unsorted (hsort : style.sortKeys = false) (v : Json) : v.sorted style = v := by
  cases v with
  | arr xs => rw [Json.sorted, Json.sortedItems_of_unsorted hsort xs]
  | obj kvs =>
    rw [Json.sorted, Json.sortedEntries_of_unsorted hsort kvs, JsonStyle.sortKvs, if_neg (Bool.eq_false_iff.mp hsort)]
  | _ => rfl

theorem Json.sortedItems_of_unsorted (hsort : style.sortKeys = false) (xs : List Json) :
    Json.sortedItems style xs = xs := by
  cases xs with
  | nil => rfl
  | cons x xs => rw [Json.sortedItems, Json.sorted_of_unsorted hsort x, Json.sortedItems_of_unsorted hsort xs]

theorem Json.sortedEntries_of_unsorted (hsort : style.sortKeys = false) (kvs : List (PyStr × Json)) :
    Json.sortedEntries style kvs = kvs := by
  cases kvs with
  | nil => rfl
  | cons kv kvs =>
    rw [Json.sortedEntries, Json.sorted_of_unsorted hsort kv.2, Json.sortedEntries_of_unsorted hsort kvs]

end

mutual

/-- A readable value has a text. -/
theorem dumps_readable (depth : Nat) (v : Json) (hv : v.Readable h) : ∃ text, dumps style depth v = some text := by
  cases v with
  | null => exact ⟨_, rfl⟩
  | bool b => cases b <;> exact ⟨_, rfl⟩
  | int n => exact ⟨_, rfl⟩
  | float x =>
    cases x with
    | finite neg m e => exact ⟨_, rfl⟩
    | inf neg => exact hv.1.elim
    | nan => exact hv.1.elim
  | str s => exact ⟨_, rfl⟩
  | arr xs =>
    obtain ⟨texts, htexts⟩ := dumpsItems_readable (depth + 1) xs hv
    exact ⟨_, congrArg (Option.map _) htexts⟩
  | obj kvs =>
    obtain ⟨entries, hentries⟩ := dumpsEntries_readable (depth + 1) kvs hv.2
    exact ⟨_, congrArg (Option.map _) hentries⟩

theorem dumpsItems_readable (depth : Nat) (xs : List Json) (hxs : Json.readableItems h xs) :
    ∃ texts, dumpsItems style depth xs = some texts := by
  cases xs with
  | nil => exact ⟨[], rfl⟩
  | cons x xs =>
    obtain ⟨text, htext⟩ := dumps_readable depth x hxs.1
    obtain ⟨texts, htexts⟩ := dumpsItems_readable depth xs hxs.2
    refine ⟨text :: texts, ?_⟩
    rw [dumpsItems, htext, htexts]
    rfl

theorem dumpsEntries_readable (depth : Nat) (kvs : List (PyStr × Json)) (hkvs : Json.readableEntries h kvs) :
    ∃ entries, dumpsEntries style depth kvs = some entries := by
  cases kvs with
  | nil => exact ⟨[], rfl⟩
  | cons kv kvs =>
    obtain ⟨text, htext⟩ := dumps_readable depth kv.2 hkvs.1
    obtain ⟨entries, hentries⟩ := dumpsEntries_readable depth kvs hkvs.2
    refine ⟨(kv.1, text) :: entries, ?_⟩
    rw [dumpsEntries, htext, hentries]
    rfl

end

/-- A value of encodable texts is read back from its file as it is, if keys are not sorted. -/
theorem loads_unsorted (hstyle : style.Spaced) (hsort : style.sortKeys = false) (hh : h.KeepsDistinct) {v : Json}
    (hv : v.Readable h) (hunicode : v.EachString IsUnicode) (hencodable : v.EachString fun s => s.encodable = true) :
    ∃ text raw, dumps style 0 v = some text ∧ text.encode = some raw ∧ loads h raw = .ok v := by
  obtain ⟨text, htext⟩ := @dumps_readable h style 0 v hv
  have hchars : Chars (fun c => PyStr.isSurrogate c = false) text := by
    have hlow {c : Nat} (hc : c < 0xD800) : PyStr.isSurrogate c = false := by
      simp only [PyStr.isSurrogate, Bool.and_eq_false_iff, decide_eq_false_iff_not]
      omega
    have hascii : HoldsOfAscii fun c => PyStr.isSurrogate c = false := fun c _ hc => hlow (by omega)
    refine dumps_chars hascii (hstyle.adds hascii fun c hc => ?_) 0 v (Json.eachString_mono ?_ v hencodable) htext
    · simp only [isJsonSpace, Bool.or_eq_true, decide_eq_true_eq] at hc
      exact hlow (by omega)
    · intro s hs c hc _
      simpa using List.all_eq_true.mp hs c hc
  have hencodable : text.encodable = true := List.all_eq_true.mpr fun c hc => by rw [hchars c hc]; rfl
  obtain ⟨raw, hraw⟩ := encode_of_encodable hencodable
  refine ⟨text, raw, htext, hraw, ?_⟩
  have hloads := loads_dumps hstyle hh hv hunicode htext (List.forall_mem_nil _) (by rw [List.append_nil]; exact hraw)
  rw [hloads, Json.sorted_of_unsorted hsort]

/-! ## Fields -/

theorem Json.readableEntries_of_forall {kvs : List (PyStr × Json)} (hkvs : ∀ kv ∈ kvs, kv.2.Readable h) :
    Json.readableEntries h kvs := by
  induction kvs with
  | nil => trivial
  | cons kv kvs ih =>
    obtain ⟨hkv, hkvs⟩ := List.forall_mem_cons.mp hkvs
    exact ⟨hkv, ih hkvs⟩

theorem Json.eachEntry_of_entries {P : PyStr → Prop} {kvs : List (PyStr × Json)}
    (hkvs : ∀ kv ∈ kvs, P kv.1 ∧ kv.2.EachString P) : Json.eachEntry P kvs := by
  induction kvs with
  | nil => trivial
  | cons kv kvs ih =>
    obtain ⟨hkv, hkvs⟩ := List.forall_mem_cons.mp hkvs
    exact ⟨hkv.1, hkv.2, ih hkvs⟩

theorem Json.get?_eq (kvs : List (PyStr × Json)) (k : PyStr) : Json.get? kvs k = Dict.get? kvs k := by
  induction kvs with
  | nil => rfl
  | cons kv kvs ih => rw [Json.get?, Dict.get?, ih]

theorem Json.get?_sortedEntries (kvs : List (PyStr × Json)) (k : PyStr) :
    Json.get? (Json.sortedEntries style kvs) k = (Json.get? kvs k).map (Json.sorted style) := by
  induction kvs with
  | nil => rfl
  | cons kv kvs ih =>
    rw [Json.sortedEntries, Json.get?, Json.get?, ih]
    split <;> rfl

/-- The entries of an object, sorted at every level. -/
def Json.sortedFields (style : JsonStyle) (kvs : List (PyStr × Json)) : List (PyStr × Json) :=
  style.sortKvs (Json.sortedEntries style kvs)

theorem Json.keys_sortedFields (kvs : List (PyStr × Json)) :
    ((Json.sortedFields style kvs).map Prod.fst).Perm (kvs.map Prod.fst) := by
  rw [← @Json.keys_sortedEntries style kvs]
  exact (style.sortKvs_perm _).map Prod.fst

/-- Entries that are sorted already. -/
theorem JsonStyle.sortKvs_sorted {kvs : List (PyStr × Json)} (hsorted : (kvs.map Prod.fst).Pairwise (· ≤ ·)) :
    style.sortKvs kvs = kvs := by
  unfold sortKvs
  split
  · exact List.Pairwise.insertionSort_eq (List.pairwise_map.mp hsorted)
  · rfl

theorem Json.get?_sortedFields {kvs : List (PyStr × Json)} (hn : (kvs.map Prod.fst).Nodup) (k : PyStr) :
    Json.get? (Json.sortedFields style kvs) k = (Json.get? kvs k).map (Json.sorted style) := by
  have hn' : ((Json.sortedEntries style kvs).map Prod.fst).Nodup := Json.keys_sortedEntries kvs ▸ hn
  rw [Json.get?_eq, Json.sortedFields, Dict.get?_perm hn' (style.sortKvs_perm _).symm,
    ← Json.get?_eq, Json.get?_sortedEntries]

variable {α : Type} {kvs : List (PyStr × Json)} {parse : Json → Option α} {name : String} {v : Json} {a : α}

theorem requiredField_sorted (hn : (kvs.map Prod.fst).Nodup) (hget : Json.get? kvs (py name) = some v)
    (hparse : parse (v.sorted style) = some a) : requiredField (Json.sortedFields style kvs) parse name = some a := by
  refine requiredField_of_get? ?_ hparse
  rw [Json.get?_sortedFields hn, hget]
  rfl

/-- A field with a default. -/
def defaultedField (kvs : List (PyStr × Json)) (default : α) (parse : Json → Option α) (name : String) : Option α :=
  (Json.get? kvs (py name)).elim (some default) parse

theorem defaultedField_sorted {default : α} (hn : (kvs.map Prod.fst).Nodup) (hget : Json.get? kvs (py name) = some v)
    (hparse : parse (v.sorted style) = some a) :
    defaultedField (Json.sortedFields style kvs) default parse name = some a := by
  rw [defaultedField, Json.get?_sortedFields hn, hget]
  exact hparse

theorem strictFields?_sorted {names : List String} (hkeys : kvs.map Prod.fst = names.map py) :
    strictFields? names (.obj (Json.sortedFields style kvs)) = some (Json.sortedFields style kvs) :=
  strictFields?_of_subset (hkeys ▸ (Json.keys_sortedFields kvs).subset)

/-- An object with another field is refused. -/
theorem strictFields?_none {names : List String} {k : PyStr} (hk : k ∈ kvs.map Prod.fst) (hno : k ∉ names.map py) :
    strictFields? names (.obj (Json.sortedFields style kvs)) = none := by
  obtain ⟨kv, hkv, rfl⟩ := List.mem_map.mp ((@Json.keys_sortedFields style kvs).mem_iff.mpr hk)
  exact if_neg fun hall => hno (of_decide_eq_true (List.all_eq_true.mp hall kv hkv))

end

end Framework
