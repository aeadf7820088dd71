import OpenLLMOps.Framework.Json.Sorted

/-!
# Objects of scalars

What the text of a configuration, an object whose values are scalars, is read back to: the same entries in the order of
the keys (`sortedFields_scalars`), which are the same dictionary (`eqv_of_perm`). How long the text is
(`length_dumps_object`). A file with the text is read back (`object_file`).
-/

namespace Framework

/-! ## Equality -/

/-- The number of a value; a `bool` is one. -/
def Json.number? : Json → Option PyFloat
  | .bool b => some (.finite false b.toNat 0)
  | .int n => some (.finite (n < 0) n.natAbs 0)
  | .float x => some x
  | _ => none

/-- `==` of values that are not both arrays or both objects. -/
def Json.scalarEqv (v w : Json) : Bool :=
  match v.number?, w.number? with
  | some x, some y => x.eqv y
  | _, _ => v = w

mutual

/-- `==`. A number is compared through the decimal of its `repr`, which is exact up to `2 ** 53`. -/
def Json.eqv : Json → Json → Bool
  | .arr xs, .arr ys => Json.eqvItems xs ys
  | .obj kvs, .obj others => kvs.length = others.length && Json.eqvEntries kvs others
  | v, w => v.scalarEqv w

def Json.eqvItems : List Json → List Json → Bool
  | [], [] => true
  | x :: xs, y :: ys => x.eqv y && Json.eqvItems xs ys
  | _, _ => false

/-- The entries are among the others. -/
def Json.eqvEntries : List (PyStr × Json) → List (PyStr × Json) → Bool
  | [], _ => true
  | (k, v) :: kvs, others =>
    (match Json.get? others k with
      | some w => v.eqv w
      | none => false) &&
      Json.eqvEntries kvs others

end

/-- Neither an array nor an object, nor a number that is not equal to itself. -/
def Json.isScalar : Json → Bool
  | .arr _ => false
  | .obj _ => false
  | .float x => x.isFinite
  | _ => true

section

variable {kvs kvs' : List (PyStr × Json)} {style : JsonStyle}

theorem Json.eqv_self {v : Json} (h : v.isScalar = true) : v.eqv v = true := by
  have hint (neg : Bool) (m : Nat) : (PyFloat.finite neg m 0).eqv (.finite neg m 0) = true := PyFloat.eqv_self rfl
  cases v with
  | arr xs => cases h
  | obj kvs => cases h
  | null => rfl
  | str s => exact decide_eq_true rfl
  | bool b => exact hint _ _
  | int n => exact hint _ _
  | float x => exact PyFloat.eqv_self h

theorem Json.eqvEntries_of_get? {others : List (PyStr × Json)} (hscalar : ∀ kv ∈ kvs, kv.2.isScalar = true)
    (hget : ∀ kv ∈ kvs, Json.get? others kv.1 = some kv.2) : Json.eqvEntries kvs others = true := by
  induction kvs with
  | nil => rfl
  | cons kv kvs ih =>
    obtain ⟨hkv, hscalar⟩ := List.forall_mem_cons.mp hscalar
    obtain ⟨hkvget, hget⟩ := List.forall_mem_cons.mp hget
    rw [Json.eqvEntries, hkvget, ih hscalar hget, Bool.and_true]
    exact Json.eqv_self hkv

/-- The order of the entries makes no difference. -/
theorem Json.eqv_of_perm (hp : kvs.Perm kvs') (hn : (kvs'.map Prod.fst).Nodup)
    (hscalar : ∀ kv ∈ kvs, kv.2.isScalar = true) :
    (Json.obj kvs).eqv (.obj kvs') = true := by
  have hentries : Json.eqvEntries kvs kvs' = true := by
    refine Json.eqvEntries_of_get? hscalar fun kv hkv => ?_
    rw [Json.get?_eq, Dict.get?_of_mem hn (hp.subset hkv)]
  rw [Json.eqv, hentries, Bool.and_true]
  exact decide_eq_true hp.length_eq

/-! ## Sorted entries -/

theorem Json.sorted_scalar {v : Json} (h : v.isScalar = true) : v.sorted style = v := by
  cases v with
  | arr xs => cases h
  | obj kvs => cases h
  | _ => rfl

theorem Json.sortedEntries_scalars (hscalar : ∀ kv ∈ kvs, kv.2.isScalar = true) :
    Json.sortedEntries style kvs = kvs := by
  induction kvs with
  | nil => rfl
  | cons kv kvs ih =>
    obtain ⟨hkv, hscalar⟩ := List.forall_mem_cons.mp hscalar
    rw [Json.sortedEntries, Json.sorted_scalar hkv, ih hscalar]

theorem Json.sortedFields_scalars (hscalar : ∀ kv ∈ kvs, kv.2.isScalar = true) :
    (Json.sortedFields style kvs).Perm kvs := by
  rw [Json.sortedFields, Json.sortedEntries_scalars hscalar]
  exact style.sortKvs_perm kvs

/-! ## The length of a text -/

theorem length_hexDigits (width n : Nat) : (hexDigits width n).length = width := by
  induction width generalizing n with
  | zero => rfl
  | succ width ih => rw [hexDigits, List.length_append, ih, List.length_singleton]

theorem length_escapeChar (c : Nat) : (escapeChar c).length ≤ 6 := by
  unfold escapeChar
  split_ifs <;> simp [py, length_hexDigits]

theorem length_dumpsStr (s : PyStr) : (dumpsStr s).length ≤ 6 * s.length + 2 := by
  have hchars : (s.flatMap escapeChar).length ≤ 6 * s.length := by
    induction s with
    | nil => exact Nat.le_refl _
    | cons c s ih =>
      have := length_escapeChar c
      rw [List.flatMap_cons, List.length_append, List.length_cons]
      omega
  rw [dumpsStr, List.length_append, List.length_cons, List.length_singleton]
  omega

theorem length_intercalate_le {separator : PyStr} {items : List PyStr} {bound : Nat}
    (h : ∀ item ∈ items, item.length + separator.length ≤ bound) :
    (separator.intercalate items).length ≤ items.length * bound := by
  induction items with
  | nil => exact Nat.zero_le _
  | cons item items ih =>
    obtain ⟨hitem, hitems⟩ := List.forall_mem_cons.mp h
    have hrest := ih hitems
    rw [List.length_cons, Nat.succ_mul]
    rcases items with _ | ⟨next, items⟩
    · rw [intercalate_singleton]
      omega
    · rw [intercalate_cons_cons, List.length_append, List.length_append]
      omega

theorem length_dumpsEntries {depth : Nat} {entries : List (PyStr × PyStr)} {keys values : Nat}
    (hd : dumpsEntries style depth kvs = some entries) (hkeys : ∀ kv ∈ kvs, kv.1.length ≤ keys)
    (hvalues : ∀ kv ∈ kvs, ∀ text, dumps style depth kv.2 = some text → text.length ≤ values) :
    ∀ entry ∈ entries, entry.1.length ≤ keys ∧ entry.2.length ≤ values := by
  induction kvs generalizing entries with
  | nil =>
    obtain rfl := Option.some.inj hd
    exact fun entry hentry => absurd hentry List.not_mem_nil
  | cons kv kvs ih =>
    obtain ⟨text, htext, hd⟩ := bind_eq_some.mp hd
    obtain ⟨rest, hrest, hd⟩ := bind_eq_some.mp hd
    obtain rfl := Option.some.inj hd
    obtain ⟨hkey, hkeys⟩ := List.forall_mem_cons.mp hkeys
    obtain ⟨hvalue, hvalues⟩ := List.forall_mem_cons.mp hvalues
    exact List.forall_mem_cons.mpr ⟨⟨hkey, hvalue text htext⟩, ih hrest hkeys hvalues⟩

/-- The text of an object with short keys and short values. -/
theorem length_dumps_object {keys values : Nat} {text : PyStr} (hd : dumps .canonical 0 (.obj kvs) = some text)
    (hkeys : ∀ kv ∈ kvs, kv.1.length ≤ keys)
    (hvalues : ∀ kv ∈ kvs, ∀ text, dumps .canonical 1 kv.2 = some text → text.length ≤ values) :
    text.length ≤ kvs.length * (6 * keys + values + 4) + 2 := by
  obtain ⟨entries, hentries, rfl⟩ := Option.map_eq_some_iff.mp hd
  have hshort := length_dumpsEntries hentries hkeys hvalues
  have hlength : entries.length = kvs.length := by
    have hlengths := congrArg List.length (keys_dumpsEntries hentries)
    simpa using hlengths
  have hitem : ∀ item ∈ (sortEntries .canonical entries).map (dumpsEntry .canonical),
      item.length + (py ",").length ≤ 6 * keys + values + 4 := by
    intro item hitem
    obtain ⟨entry, hentry, rfl⟩ := List.mem_map.mp hitem
    obtain ⟨hkey, hvalue⟩ := hshort entry (mem_sortEntries.mp hentry)
    have := length_dumpsStr entry.1
    have hone : (py ",").length = 1 ∧ (py ":").length = 1 := ⟨rfl, rfl⟩
    rw [dumpsEntry, List.length_append, List.length_append]
    show (dumpsStr entry.1).length + (py ":").length + entry.2.length + _ ≤ _
    omega
  have hall := length_intercalate_le hitem
  have hsorted : (sortEntries .canonical entries).length = entries.length :=
    (List.perm_insertionSort _ entries).length_eq
  rw [List.length_map, hsorted, hlength] at hall
  unfold JsonStyle.bracket
  split
  · exact Nat.le_add_left _ _
  · show ([123] ++ [] ++ (py "," ++ []).intercalate _ ++ [] ++ [125]).length ≤ _
    simp only [List.append_nil, List.length_append, List.length_singleton]
    omega

/-! ## The file -/

/-- A scalar of ASCII text that comes back. -/
structure Json.Plain (h : JsonDecoder) (v : Json) : Prop where
  scalar : v.isScalar = true
  readable : v.Readable h
  ascii : v.EachString fun s => ∀ c ∈ s, c < 0x80

/-- The file of an object with plain values is read back, as the object with its entries sorted. -/
theorem object_file {h : JsonDecoder} (hh : h.KeepsDistinct) (hn : (kvs.map Prod.fst).Nodup)
    (hkeys : ∀ kv ∈ kvs, ∀ c ∈ kv.1, c < 0x80) (hplain : ∀ kv ∈ kvs, kv.2.Plain h) :
    ∃ text body, dumps .canonical 0 (.obj kvs) = some text ∧ PyStr.encode text = some body ∧ body.length = text.length ∧
      loads h body = .ok (.obj (Json.sortedFields .canonical kvs)) := by
  have hreadable : (Json.obj kvs).Readable h := ⟨hn, Json.readableEntries_of_forall fun kv hkv =>
    (hplain kv hkv).readable⟩
  obtain ⟨text, htext⟩ := @dumps_readable h .canonical 0 _ hreadable
  have hascii : HoldsOfAscii (· < 0x80) := fun c _ hc => by omega
  have hstrings : Json.EachString (fun s => ∀ c ∈ s, 32 ≤ c → c < 0x80) (.obj kvs) :=
    Json.eachEntry_of_entries fun kv hkv =>
      ⟨fun c hc _ => hkeys kv hkv c hc, Json.eachString_mono (fun s hs c hc _ => hs c hc) _ (hplain kv hkv).ascii⟩
  have hchars : ∀ c ∈ text, c < 0x80 := dumps_chars hascii (JsonStyle.adds_canonical hascii) 0 _ hstrings htext
  have hencode := encode_ascii hchars
  have hunicode : Json.EachString IsUnicode (.obj kvs) :=
    Json.eachEntry_of_entries fun kv hkv =>
      ⟨fun c hc => Nat.lt_trans (hkeys kv hkv c hc) (by decide),
        Json.eachString_mono (fun s hs c hc => Nat.lt_trans (hs c hc) (by decide)) _ (hplain kv hkv).ascii⟩
  refine ⟨text, _, htext, hencode, List.length_map _, ?_⟩
  exact loads_dumps JsonStyle.spaced_canonical hh hreadable hunicode htext (fun c hc => absurd hc List.not_mem_nil)
    (by rw [List.append_nil]; exact hencode)

end

end Framework
