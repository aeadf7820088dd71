import OpenLLMOps.Framework.Except
import OpenLLMOps.Framework.Json.Sorted

/-!
# Models whose fields have defaults

A model of the strict mode is the list of its fields, and an instance the values that its fields keep as they are.
What a field makes of a value it makes the same of again, and it keeps its default, so an instance is what is read from
its own entries and from any others that have the same values, or leave out those of the defaults (`validate_of`).
-/

namespace Framework

/-- A field: what it is without an entry, and what it makes of one. -/
structure Field where
  name : String
  default : Json
  check : Json → Option Json
  default_kept : check default = some default
  check_kept : ∀ {v w}, check v = some w → check w = some w

/-! ## Kinds of fields -/

/-- `int` with `ge` and `le`. -/
def boundedInt? (low high : Int) (v : Json) : Option Json :=
    ((strictInt? v).filter fun n => low ≤ n ∧ n ≤ high).map .int

/-- `float` with bounds. -/
def boundedFloat? (accepts : PyFloat → Bool) (v : Json) : Option Json := ((strictFloat? v).filter accepts).map .float

/-- `str` with a pattern. -/
def matchedStr? (pattern : PyStr → Bool) (v : Json) : Option Json := ((strictStr? v).filter pattern).map .str

/-- `T | None`. -/
def orNone? (check : Json → Option Json) (v : Json) : Option Json := if v = .null then some .null else check v

theorem filter_map_eq_some {α β : Type} {o : Option α} {accepts : α → Bool} {build : α → β} {b : β} :
    (o.filter accepts).map build = some b ↔ ∃ a, o = some a ∧ accepts a = true ∧ build a = b := by
  rw [Option.map_eq_some_iff]
  refine exists_congr fun a => ?_
  rw [Option.filter_eq_some_iff, and_assoc]

theorem strictInt?_eq_some {v : Json} {n : Int} : strictInt? v = some n ↔ v = .int n := by
  cases v <;> simp [strictInt?]

theorem strictStr?_eq_some {v : Json} {s : PyStr} : strictStr? v = some s ↔ v = .str s := by
  cases v <;> simp [strictStr?]

theorem strictFloat?_kept {v : Json} {x : PyFloat} (h : strictFloat? v = some x) :
    strictFloat? (.float x) = some x := by
  cases v with
  | float y =>
    obtain ⟨hy, hxy⟩ := Option.ite_none_right_eq_some.mp h
    obtain rfl := Option.some.inj hxy
    exact if_pos hy
  | int n =>
    obtain rfl := Option.some.inj h
    rfl
  | _ => cases h

theorem boundedInt?_kept {low high : Int} {v w : Json} (h : boundedInt? low high v = some w) :
    boundedInt? low high w = some w := by
  obtain ⟨n, hn, -, rfl⟩ := filter_map_eq_some.mp h
  rw [← strictInt?_eq_some.mp hn]
  rwa [← strictInt?_eq_some.mp hn] at h

theorem boundedFloat?_kept {accepts : PyFloat → Bool} {v w : Json} (h : boundedFloat? accepts v = some w) :
    boundedFloat? accepts w = some w := by
  obtain ⟨x, hx, haccepts, rfl⟩ := filter_map_eq_some.mp h
  exact filter_map_eq_some.mpr ⟨x, strictFloat?_kept hx, haccepts, rfl⟩

theorem matchedStr?_kept {pattern : PyStr → Bool} {v w : Json} (h : matchedStr? pattern v = some w) :
    matchedStr? pattern w = some w := by
  obtain ⟨s, hs, -, rfl⟩ := filter_map_eq_some.mp h
  rw [← strictStr?_eq_some.mp hs]
  rwa [← strictStr?_eq_some.mp hs] at h

theorem orNone?_kept {check : Json → Option Json} (hcheck : ∀ {v w}, check v = some w → check w = some w) {v w : Json}
    (h : orNone? check v = some w) : orNone? check w = some w := by
  unfold orNone? at h ⊢
  split at h
  · obtain rfl := Option.some.inj h
    rfl
  · split
    · rename_i hnull
      rw [hnull]
    · exact hcheck h

namespace Field

/-- A field of `int`. -/
def int (name : String) (default low high : Int) (h : low ≤ default ∧ default ≤ high := by decide) : Field where
  name := name
  default := .int default
  check := boundedInt? low high
  default_kept := filter_map_eq_some.mpr ⟨default, rfl, decide_eq_true h, rfl⟩
  check_kept := boundedInt?_kept

/-- A field of `float`. -/
def float (name : String) (default : PyFloat) (accepts : PyFloat → Bool)
    (h : strictFloat? (.float default) = some default ∧ accepts default = true := by decide) : Field where
  name := name
  default := .float default
  check := boundedFloat? accepts
  default_kept := filter_map_eq_some.mpr ⟨default, h.1, h.2, rfl⟩
  check_kept := boundedFloat?_kept

/-- A field of `T | None`, which is `None` without an entry. -/
def optional (name : String) (check : Json → Option Json)
    (h : ∀ {v w}, check v = some w → check w = some w) : Field where
  name := name
  default := .null
  check := orNone? check
  default_kept := rfl
  check_kept := orNone?_kept h

end Field

/-! ## Models and their instances -/

/-- A model that forbids other fields. -/
structure BaseModel where
  fields : List Field
  distinct : (fields.map fun f => py f.name).Nodup

/-- A value that is kept under the name of its field. -/
def Field.Keeps (f : Field) (kv : PyStr × Json) : Prop := kv.1 = py f.name ∧ f.check kv.2 = some kv.2

/-- An instance, as `model_dump` gives it. -/
structure BaseModel.Instance (m : BaseModel) where
  entries : List (PyStr × Json)
  keeps : List.Forall₂ Field.Keeps m.fields entries

/-- The entry of a field. -/
def Field.read (kvs : List (PyStr × Json)) (f : Field) : Option (PyStr × Json) :=
  (defaultedField kvs f.default f.check f.name).map fun v => (py f.name, v)

theorem Field.keeps_read {f : Field} {kvs : List (PyStr × Json)} {kv : PyStr × Json}
    (h : f.read kvs = some kv) : f.Keeps kv := by
  obtain ⟨v, hv, rfl⟩ := Option.map_eq_some_iff.mp h
  refine ⟨rfl, ?_⟩
  unfold defaultedField at hv
  cases hget : Json.get? kvs (py f.name) with
  | none =>
    rw [hget] at hv
    obtain rfl := Option.some.inj hv
    exact f.default_kept
  | some w =>
    rw [hget] at hv
    exact f.check_kept hv

theorem keeps_of_mapM {fields : List Field} {kvs entries : List (PyStr × Json)}
    (h : fields.mapM (Field.read kvs) = some entries) : List.Forall₂ Field.Keeps fields entries := by
  induction fields generalizing entries with
  | nil =>
    obtain rfl := Option.some.inj h
    exact .nil
  | cons f fields ih =>
    rw [List.mapM_cons] at h
    obtain ⟨kv, hkv, h⟩ := bind_eq_some.mp h
    obtain ⟨rest, hrest, h⟩ := bind_eq_some.mp h
    obtain rfl := Option.some.inj h
    exact .cons (f.keeps_read hkv) (ih hrest)

namespace BaseModel

variable {m : BaseModel}

def names (m : BaseModel) : List String := m.fields.map Field.name

/-- The entries of the fields. -/
def entriesOf (m : BaseModel) (kvs : List (PyStr × Json)) : Option m.Instance :=
  (m.fields.mapM (Field.read kvs)).pmap Instance.mk fun _ h => keeps_of_mapM h

/-- `model_validate`. -/
def validate (m : BaseModel) (v : Json) : Option m.Instance := (strictFields? m.names v).bind m.entriesOf

/-- The value of an attribute. -/
def Instance.get (p : m.Instance) (name : String) : Json := (Json.get? p.entries (py name)).getD .null

/-- `model_dump(exclude_none=True)`. -/
def Instance.dumpPresent (p : m.Instance) : List (PyStr × Json) := p.entries.filter fun kv => kv.2 ≠ .null

/-- The entries with the name of a field. -/
def select (m : BaseModel) (kvs : List (PyStr × Json)) : List (PyStr × Json) :=
  m.fields.filterMap fun f => (Json.get? kvs (py f.name)).map fun v => (py f.name, v)

theorem entriesOf_eq_some {kvs : List (PyStr × Json)} {p : m.Instance} :
    m.entriesOf kvs = some p ↔ m.fields.mapM (Field.read kvs) = some p.entries := by
  rw [entriesOf, Option.pmap_eq_some_iff]
  constructor
  · rintro ⟨entries, hkeeps, hentries, rfl⟩
    exact hentries
  · exact fun h => ⟨p.entries, p.keeps, h, rfl⟩

theorem forall₂_keys {fields : List Field} {entries : List (PyStr × Json)}
    (h : List.Forall₂ Field.Keeps fields entries) :
    entries.map Prod.fst = fields.map fun f => py f.name := by
  induction h with
  | nil => rfl
  | cons hkv _ ih => rw [List.map_cons, List.map_cons, ih, hkv.1]

theorem Instance.keys (p : m.Instance) : p.entries.map Prod.fst = m.fields.map fun f => py f.name :=
  forall₂_keys p.keeps

theorem Instance.nodup (p : m.Instance) : (p.entries.map Prod.fst).Nodup := p.keys ▸ m.distinct

theorem Instance.get_of_mem {p : m.Instance} {name : String} {v : Json} (h : (py name, v) ∈ p.entries) :
    p.get name = v := by
  rw [get, Json.get?_eq, Dict.get?_of_mem p.nodup h]
  rfl

theorem Instance.entries_eq (p : m.Instance) : p.entries = m.fields.map fun f => (py f.name, p.get f.name) := by
  have hkeys : p.entries = (p.entries.map Prod.fst).map fun k => (k, (Json.get? p.entries k).getD .null) := by
    rw [List.map_map]
    refine ((List.map_id _).symm.trans (List.map_congr_left fun kv hkv => ?_))
    show kv = (kv.1, (Json.get? p.entries kv.1).getD .null)
    rw [Json.get?_eq, Dict.get?_of_mem p.nodup hkv]
    rfl
  rw [hkeys, p.keys, List.map_map]
  rfl

theorem Instance.mem_entries (p : m.Instance) {f : Field} (hf : f ∈ m.fields) :
    (py f.name, p.get f.name) ∈ p.entries := by
  rw [p.entries_eq]
  exact List.mem_map_of_mem hf

/-- The fields keep their values. -/
theorem Instance.check (p : m.Instance) {f : Field} (hf : f ∈ m.fields) :
    f.check (p.get f.name) = some (p.get f.name) := by
  have hkeeps := p.keeps
  rw [p.entries_eq, List.forall₂_map_right_iff, List.forall₂_same] at hkeeps
  exact (hkeeps f hf).2

/-- The instance of these values. -/
def Instance.of (value : Field → Json) (h : ∀ f ∈ m.fields, f.check (value f) = some (value f)) : m.Instance where
  entries := m.fields.map fun f => (py f.name, value f)
  keeps := List.forall₂_map_right_iff.mpr (List.forall₂_same.mpr fun f hf => ⟨rfl, h f hf⟩)

theorem Instance.get_of {value : Field → Json} {h : ∀ f ∈ m.fields, f.check (value f) = some (value f)} {f : Field}
    (hf : f ∈ m.fields) : (Instance.of value h).get f.name = value f :=
  get_of_mem (List.mem_map_of_mem (f := fun f => (py f.name, value f)) hf)

/-- The instance with the defaults of these fields. -/
def Instance.without (p : m.Instance) (names : List String) : m.Instance :=
  .of (fun f => if f.name ∈ names then f.default else p.get f.name) fun f hf => by
    split
    · exact f.default_kept
    · exact p.check hf

theorem Instance.get_without (p : m.Instance) (names : List String) {f : Field} (hf : f ∈ m.fields) :
    (p.without names).get f.name = if f.name ∈ names then f.default else p.get f.name :=
  get_of hf

/-! ## Reading an instance back -/

/-- The entries have the value of a field, or leave out its default. -/
def Instance.Given (p : m.Instance) (kvs : List (PyStr × Json)) (f : Field) : Prop :=
  Json.get? kvs (py f.name) = some (p.get f.name) ∨ Json.get? kvs (py f.name) = none ∧ p.get f.name = f.default

theorem entriesOf_of {p : m.Instance} {kvs : List (PyStr × Json)} (h : ∀ f ∈ m.fields, p.Given kvs f) :
    m.entriesOf kvs = some p := by
  rw [entriesOf_eq_some, mapM_eq_some, p.entries_eq, List.map_map]
  refine List.map_congr_left fun f hf => ?_
  show (defaultedField kvs f.default f.check f.name).map _ = some (py f.name, p.get f.name)
  rcases h f hf with hget | ⟨hget, hdefault⟩
  · rw [defaultedField, hget, Option.elim_some, p.check hf]
    rfl
  · rw [defaultedField, hget, Option.elim_none, hdefault]
    rfl

/-- Entries that give an instance are validated as it. -/
theorem validate_of {p : m.Instance} {kvs : List (PyStr × Json)} (hkeys : kvs.map Prod.fst ⊆ m.names.map py)
    (h : ∀ f ∈ m.fields, p.Given kvs f) : m.validate (.obj kvs) = some p := by
  rw [validate, strictFields?_of_subset hkeys]
  exact entriesOf_of h

theorem map_names : m.names.map py = m.fields.map fun f => py f.name := List.map_map

/-- `model_validate(model_dump())`. -/
theorem validate_entries (p : m.Instance) : m.validate (.obj p.entries) = some p := by
  refine validate_of (by rw [p.keys, map_names]; exact List.Subset.refl _) fun f hf => .inl ?_
  rw [Json.get?_eq, Dict.get?_of_mem p.nodup (p.mem_entries hf)]

/-- What is read of sorted entries without those that are `None`. -/
theorem validate_dumpPresent {p : m.Instance} {style : JsonStyle} (hscalar : ∀ kv ∈ p.entries, kv.2.sorted style = kv.2)
    (hnull : ∀ f ∈ m.fields, p.get f.name = .null → f.default = .null) :
    m.validate (.obj (Json.sortedFields style p.dumpPresent)) = some p := by
  have hsub : (p.dumpPresent.map Prod.fst).Sublist (p.entries.map Prod.fst) := List.filter_sublist.map Prod.fst
  have hn : (p.dumpPresent.map Prod.fst).Nodup := p.nodup.sublist hsub
  refine validate_of ?_ fun f hf => ?_
  · rw [map_names, ← p.keys]
    exact fun k hk => hsub.subset ((Json.keys_sortedFields p.dumpPresent).subset hk)
  rw [Instance.Given, Json.get?_sortedFields hn, Json.get?_eq]
  have hmem := p.mem_entries hf
  by_cases hvalue : p.get f.name = .null
  · refine .inr ⟨?_, hvalue.trans (hnull f hf hvalue).symm⟩
    rw [Dict.get?_eq_none.mpr ?_, Option.map_none]
    intro hkey
    obtain ⟨kv, hkv, hname⟩ := List.mem_map.mp hkey
    obtain ⟨hkv, hpresent⟩ := List.mem_filter.mp hkv
    refine of_decide_eq_true hpresent ?_
    rw [← hvalue]
    refine (Instance.get_of_mem ?_).symm
    rw [← hname]
    exact hkv
  · have hpresent : (py f.name, p.get f.name) ∈ p.dumpPresent := List.mem_filter.mpr ⟨hmem, decide_eq_true hvalue⟩
    rw [Dict.get?_of_mem hn hpresent, Option.map_some, hscalar _ hmem]
    exact .inl rfl

theorem mem_select {kvs : List (PyStr × Json)} {k : PyStr} {v : Json} :
    (k, v) ∈ m.select kvs ↔ k ∈ m.names.map py ∧ Json.get? kvs k = some v := by
  rw [map_names, List.mem_map]
  constructor
  · intro hmem
    obtain ⟨f, hf, hfkv⟩ := List.mem_filterMap.mp hmem
    obtain ⟨w, hget, hw⟩ := Option.map_eq_some_iff.mp hfkv
    obtain ⟨rfl, rfl⟩ := Prod.mk.inj hw
    exact ⟨⟨f, hf, rfl⟩, hget⟩
  · rintro ⟨⟨f, hf, rfl⟩, hget⟩
    exact List.mem_filterMap.mpr ⟨f, hf, by rw [hget]; rfl⟩

theorem keys_select (kvs : List (PyStr × Json)) : (m.select kvs).map Prod.fst ⊆ m.names.map py := by
  intro k hk
  obtain ⟨kv, hkv, rfl⟩ := List.mem_map.mp hk
  exact (mem_select.mp hkv).1

theorem nodup_select (kvs : List (PyStr × Json)) : ((m.select kvs).map Prod.fst).Nodup := by
  have hsub : ∀ fields : List Field, ((fields.filterMap fun f =>
      (Json.get? kvs (py f.name)).map fun v => (py f.name, v)).map Prod.fst).Sublist
        (fields.map fun f => py f.name) := by
    intro fields
    induction fields with
    | nil => exact List.Sublist.refl _
    | cons f fields ih =>
      rw [List.filterMap_cons]
      cases Json.get? kvs (py f.name) with
      | none => exact ih.cons _
      | some v => exact ih.cons_cons _
  exact m.distinct.sublist (hsub m.fields)

/-- The entries with the name of a field are those of the dictionary. -/
theorem get?_select (kvs : List (PyStr × Json)) {f : Field} (hf : f ∈ m.fields) :
    Json.get? (m.select kvs) (py f.name) = Json.get? kvs (py f.name) := by
  have hname : py f.name ∈ m.names.map py := List.mem_map_of_mem (List.mem_map_of_mem hf)
  refine Option.ext fun v => ?_
  rw [Json.get?_eq, ← Dict.mem_iff_get? (nodup_select kvs), mem_select, and_iff_right hname]

/-- What is read of the entries with the name of a field. -/
theorem validate_select {p : m.Instance} {kvs : List (PyStr × Json)} (h : ∀ f ∈ m.fields, p.Given kvs f) :
    m.validate (.obj (m.select kvs)) = some p :=
  validate_of (keys_select kvs) fun f hf => by
    rw [Instance.Given, get?_select kvs hf]
    exact h f hf

end BaseModel

end Framework
