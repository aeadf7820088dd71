import OpenLLMOps.Framework.Tiling
import OpenLLMOps.ModelImport.Deployable

/-!
# The tensors of a weight file

`_validate_safetensors` of the importer checks the tensors one by one, sorts their
ranges and sweeps over them. On headers whose entries have the right types
(`Header`) it accepts a file if and only if every range has the size that the
type and the shape give, the ranges tile the data, and there are at most `2^63 - 1`
elements (`validateSafetensors_eq_ok`), whatever the order of the entries.
-/

namespace OpenLLMOps.Importer

open Framework

/-- A tensor as its entry describes it; `bits` are those of its type. -/
structure Tensor where
  name : PyStr
  dtype : PyStr
  bits : Nat
  shape : List Nat
  start : Nat
  stop : Nat

namespace Tensor

def range (t : Tensor) : Nat × Nat := (t.start, t.stop)

/-- The number of elements. -/
def elements (t : Tensor) : Nat := t.shape.prod

/-- The range has the size of the elements, which is a whole number of bytes. -/
def Sized (t : Tensor) : Prop := t.elements * t.bits % 8 = 0 ∧ t.stop = t.start + t.elements * t.bits / 8

/-- The fields of an entry of the header describe the tensor. -/
structure Describes (fields : List (PyStr × Json)) (t : Tensor) : Prop where
  dtype : Dict.get? fields (py "dtype") = some (.str t.dtype)
  bits : Dict.get? safetensorsDtypeBits t.dtype = some t.bits
  shape : Dict.get? fields (py "shape") = some (.arr (t.shape.map fun n => .int (.ofNat n)))
  offsets : Dict.get? fields (py "data_offsets") = some (.arr [.int (.ofNat t.start), .int (.ofNat t.stop)])

end Tensor

/-- The entries of a header have the right types: they describe the tensors, in their order, and
what is under `__metadata__` is an object. -/
inductive Header : List (PyStr × Json) → List Tensor → Prop
  | nil : Header [] []
  | metadata {kvs : List (PyStr × Json)} {ts : List Tensor} (fields : List (PyStr × Json)) (h : Header kvs ts) :
      Header ((py "__metadata__", .obj fields) :: kvs) ts
  | tensor {kvs : List (PyStr × Json)} {ts : List Tensor} {fields : List (PyStr × Json)} {t : Tensor}
      (hname : t.name ≠ [] ∧ t.name ≠ py "__metadata__") (hfields : t.Describes fields) (h : Header kvs ts) :
      Header ((t.name, .obj fields) :: kvs) (t :: ts)

theorem Header.perm {kvs kvs' : List (PyStr × Json)} {ts : List Tensor} (h : Header kvs ts) (hp : kvs.Perm kvs') :
    ∃ ts', Header kvs' ts' ∧ ts.Perm ts' := by
  induction hp generalizing ts with
  | nil => exact ⟨ts, h, .refl _⟩
  | cons kv hp ih =>
    cases h with
    | metadata fields h =>
      obtain ⟨ts', h', hp'⟩ := ih h
      exact ⟨ts', .metadata fields h', hp'⟩
    | tensor hname hfields h =>
      obtain ⟨ts', h', hp'⟩ := ih h
      exact ⟨_, .tensor hname hfields h', hp'.cons _⟩
  | swap kv kv' kvs =>
    cases h with
    | metadata fields h =>
      cases h with
      | metadata fields' h => exact ⟨_, .metadata fields' (.metadata fields h), .refl _⟩
      | tensor hname hfields h => exact ⟨_, .tensor hname hfields (.metadata fields h), .refl _⟩
    | tensor hname hfields h =>
      cases h with
      | metadata fields' h => exact ⟨_, .metadata fields' (.tensor hname hfields h), .refl _⟩
      | tensor hname' hfields' h => exact ⟨_, .tensor hname' hfields' (.tensor hname hfields h), .swap _ _ _⟩
  | trans _ _ ih ih' =>
    obtain ⟨ts₁, h₁, hp₁⟩ := ih h
    obtain ⟨ts₂, h₂, hp₂⟩ := ih' h₁
    exact ⟨ts₂, h₂, hp₁.trans hp₂⟩

/-- A header without tensors has no other keys than `__metadata__`. -/
theorem Header.tensors_eq_nil {kvs : List (PyStr × Json)} {ts : List Tensor} (h : Header kvs ts) :
    (kvs.all fun kv => kv.1 = py "__metadata__") = true ↔ ts = [] := by
  induction h with
  | nil => exact ⟨fun _ => rfl, fun _ => rfl⟩
  | metadata fields h ih => simpa using ih
  | tensor hname hfields h ih => simp [hname.2]

section Loop

variable {file : PyStr} {dataSize : Nat}

/-- What the loop has gathered after a tensor. -/
def Tensors.add (acc : Tensors) (t : Tensor) : Tensors :=
  ⟨acc.ranges ++ [(t.start, t.stop, t.name)], acc.parameterCount + t.elements,
    if t.dtype ∈ acc.dtypes then acc.dtypes else acc.dtypes ++ [t.dtype]⟩

theorem shape?_described (shape : List Nat) : shape? (some (.arr (shape.map fun n => .int (.ofNat n)))) = some shape := by
  unfold shape?
  rw [mapM_eq_some, List.map_map]
  rfl

/-- One tensor of the loop. -/
theorem addTensor_eq_ok {acc acc' : Tensors} {fields : List (PyStr × Json)} {t : Tensor}
    (hname : t.name ≠ [] ∧ t.name ≠ py "__metadata__") (h : t.Describes fields) :
    addTensor file dataSize acc t.name (.obj fields) = .ok acc' ↔
      t.stop ≤ dataSize ∧ t.Sized ∧ acc.parameterCount + t.elements ≤ maxParameterCount ∧ acc' = acc.add t := by
  unfold addTensor
  rw [if_neg hname.2]
  dsimp only
  rw [if_neg hname.1, h.shape, shape?_described, h.offsets]
  simp only [offsets?]
  by_cases hle : t.start ≤ t.stop ∧ t.stop ≤ dataSize
  · simp only [if_pos hle, h.dtype, h.bits, refuse]
    rw [ite_error_eq_ok, ite_error_eq_ok]
    have hsize : ¬ ((t.shape.prod * t.bits) % 8 ≠ 0 ∨ t.stop - t.start ≠ t.shape.prod * t.bits / 8) ↔ t.Sized := by
      unfold Tensor.Sized Tensor.elements
      omega
    rw [hsize, Nat.not_lt]
    constructor
    · rintro ⟨hcount, hsized, he⟩
      exact ⟨hle.2, hsized, hcount, (Except.ok.inj he).symm⟩
    · rintro ⟨-, hsized, hcount, rfl⟩
      exact ⟨hcount, hsized, rfl⟩
  · simp only [if_neg hle, refuse, reduceCtorEq, false_iff]
    rintro ⟨hstop, hsized, -⟩
    exact hle ⟨hsized.2 ▸ Nat.le_add_right _ _, hstop⟩

/-- The loop over the tensors. -/
theorem addTensors_eq_ok {kvs : List (PyStr × Json)} {ts : List Tensor} (h : Header kvs ts) {acc acc' : Tensors}
    (hacc : acc.parameterCount ≤ maxParameterCount) :
    addTensors file dataSize acc kvs = .ok acc' ↔
      (∀ t ∈ ts, t.stop ≤ dataSize ∧ t.Sized) ∧
      acc.parameterCount + (ts.map (·.elements)).sum ≤ maxParameterCount ∧ acc' = ts.foldl Tensors.add acc := by
  induction h generalizing acc with
  | nil =>
    unfold addTensors
    simp only [List.not_mem_nil, false_implies, implies_true, List.map_nil, List.sum_nil, Nat.add_zero, hacc,
      List.foldl_nil, true_and, Except.ok.injEq, eq_comm]
  | metadata fields h ih =>
    have hskip : addTensor file dataSize acc (py "__metadata__") (.obj fields) = .ok acc := by
      unfold addTensor
      rw [if_pos rfl]
    rw [addTensors, hskip]
    exact ih hacc
  | @tensor kvs ts fields t hname hfields h ih =>
    unfold addTensors
    rw [bind_eq_ok]
    simp only [addTensor_eq_ok hname hfields, List.forall_mem_cons, List.map_cons, List.sum_cons, List.foldl_cons]
    constructor
    · rintro ⟨acc₁, ⟨hstop, hsized, hcount, rfl⟩, hrest⟩
      obtain ⟨hall, hsum, he⟩ := (ih hcount).mp hrest
      refine ⟨⟨⟨hstop, hsized⟩, hall⟩, ?_, he⟩
      simp only [Tensors.add] at hsum
      omega
    · rintro ⟨⟨⟨hstop, hsized⟩, hall⟩, hsum, he⟩
      have hcount : acc.parameterCount + t.elements ≤ maxParameterCount := by omega
      refine ⟨acc.add t, ⟨hstop, hsized, hcount, rfl⟩, (ih hcount).mpr ⟨hall, ?_, he⟩⟩
      simp only [Tensors.add]
      omega

theorem foldl_add (ts : List Tensor) (acc : Tensors) :
    (ts.foldl Tensors.add acc).ranges = acc.ranges ++ ts.map (fun t => (t.start, t.stop, t.name)) ∧
      (ts.foldl Tensors.add acc).parameterCount = acc.parameterCount + (ts.map (·.elements)).sum ∧
      ∀ d, d ∈ (ts.foldl Tensors.add acc).dtypes ↔ d ∈ acc.dtypes ∨ d ∈ ts.map (·.dtype) := by
  induction ts generalizing acc with
  | nil => simp
  | cons t ts ih =>
    obtain ⟨hr, hc, hd⟩ := ih (acc.add t)
    refine ⟨?_, ?_, fun d => ?_⟩
    · rw [List.foldl_cons, hr]
      simp [Tensors.add]
    · rw [List.foldl_cons, hc]
      simp only [Tensors.add, List.map_cons, List.sum_cons]
      omega
    · rw [List.foldl_cons, hd]
      simp only [Tensors.add, List.map_cons, List.mem_cons]
      split
      · rename_i hmem
        constructor
        · tauto
        · rintro (h | rfl | h) <;> tauto
      · rw [List.mem_append, List.mem_singleton]
        tauto

/-- The sweep over the sorted ranges. -/
theorem coverData_eq_ok {cursor : Nat} {ranges : List (Nat × Nat × PyStr)} :
    coverData file dataSize cursor ranges = .ok () ↔
      Sweep dataSize cursor (ranges.map fun range => (range.1, range.2.1)) := by
  induction ranges generalizing cursor with
  | nil =>
    simp only [coverData, refuse, ite_error_eq_ok, List.map_nil, Sweep, and_true, Decidable.not_not]
  | cons range ranges ih =>
    simp only [coverData, refuse, ite_error_eq_ok, List.map_cons, Sweep, ih, Decidable.not_not]

/-- The order of the ranges with their names. -/
theorem rangeLe_iff {a b : Nat × Nat × PyStr} : rangeLe a b = true ↔
    a.1 < b.1 ∨ a.1 = b.1 ∧ (a.2.1 < b.2.1 ∨ a.2.1 = b.2.1 ∧ a.2.2 ≤ b.2.2) := by
  simp only [rangeLe, Bool.or_eq_true, Bool.and_eq_true, decide_eq_true_eq]

theorem sorted_ranges (ranges : List (Nat × Nat × PyStr)) :
    ((ranges.insertionSort fun a b => rangeLe a b).map fun range => (range.1, range.2.1)).Pairwise RangeLe := by
  have htotal : Std.Total fun a b : Nat × Nat × PyStr => rangeLe a b = true := ⟨fun a b => by
    have hname := le_total a.2.2 b.2.2
    rw [rangeLe_iff, rangeLe_iff]
    grind⟩
  have htrans : IsTrans _ fun a b : Nat × Nat × PyStr => rangeLe a b = true := ⟨fun a b c hab hbc => by
    have hname : a.2.2 ≤ b.2.2 → b.2.2 ≤ c.2.2 → a.2.2 ≤ c.2.2 := le_trans
    rw [rangeLe_iff] at *
    grind⟩
  have hsorted := List.pairwise_insertionSort (fun a b => rangeLe a b = true) ranges
  refine List.pairwise_map.mpr (hsorted.imp fun {a b} h => ?_)
  rw [rangeLe_iff] at h
  show a.1 < b.1 ∨ a.1 = b.1 ∧ a.2.1 ≤ b.2.1
  omega

end Loop

section Safetensors

variable {float : PyStr → PyFloat} {file : PyStr} {content : Bytes} {kvs : List (PyStr × Json)} {dataSize : Nat}
  {ts : List Tensor}

/-- What the check returns for the tensors. -/
def summaryOf (ts : List Tensor) : SafetensorsSummary :=
  ⟨ts.map (·.name), (ts.map (·.elements)).sum, (ts.foldl Tensors.add ⟨[], 0, []⟩).dtypes⟩

theorem validateSafetensors_eq_ok (hheader : loadHeader float file content = .ok (.obj kvs, dataSize))
    (htyped : Header kvs ts) (hne : ts ≠ []) {summary : SafetensorsSummary} :
    validateSafetensors float file content = .ok summary ↔
      ((∀ t ∈ ts, t.Sized) ∧ Tiles 0 dataSize (ts.map (·.range)) ∧ (ts.map (·.elements)).sum ≤ maxParameterCount) ∧
      summary = summaryOf ts := by
  obtain ⟨hranges, hcount, -⟩ := foldl_add ts ⟨[], 0, []⟩
  rw [List.nil_append] at hranges
  rw [Nat.zero_add] at hcount
  -- the sweep over the sorted ranges decides whether they tile the data
  have hcover (hsized : ∀ t ∈ ts, t.Sized) :
      coverData file dataSize 0 ((ts.foldl Tensors.add ⟨[], 0, []⟩).ranges.insertionSort fun a b => rangeLe a b) = .ok () ↔
        Tiles 0 dataSize (ts.map (·.range)) := by
    have hperm : (((ts.foldl Tensors.add ⟨[], 0, []⟩).ranges.insertionSort fun a b => rangeLe a b).map
        fun range => (range.1, range.2.1)).Perm (ts.map (·.range)) := by
      refine ((List.perm_insertionSort _ _).map _).trans ?_
      rw [hranges, List.map_map]
      exact .refl _
    have hle : ∀ r ∈ ts.map (·.range), r.1 ≤ r.2 := by
      intro r hr
      obtain ⟨t, ht, rfl⟩ := List.mem_map.mp hr
      exact le_of_le_of_eq (Nat.le_add_right _ _) (hsized t ht).2.symm
    rw [coverData_eq_ok, sweep_iff_tiles (Nat.zero_le _) (sorted_ranges _) fun r hr => hle r (hperm.mem_iff.mp hr)]
    exact ⟨fun h => h.perm hperm, fun h => h.perm hperm.symm⟩
  have hindex : ¬ (kvs.all fun kv => kv.1 = py "__metadata__") = true := fun h => hne (htyped.tensors_eq_nil.mp h)
  unfold validateSafetensors
  rw [hheader]
  show (if _ then _ else _) = _ ↔ _
  rw [if_neg hindex, bind_eq_ok]
  constructor
  · rintro ⟨tensors, htensors, h⟩
    obtain ⟨hall, hsum, rfl⟩ := (addTensors_eq_ok htyped (Nat.zero_le _)).mp htensors
    obtain ⟨⟨⟩, hsweep, h⟩ := bind_eq_ok.mp h
    have hsized t ht := (hall t ht).2
    rw [Nat.zero_add] at hsum
    refine ⟨⟨hsized, (hcover hsized).mp hsweep, hsum⟩, (Except.ok.inj h).symm.trans ?_⟩
    rw [summaryOf, hranges, hcount, List.map_map]
    rfl
  · rintro ⟨⟨hsized, htiles, hsum⟩, rfl⟩
    refine ⟨ts.foldl Tensors.add ⟨[], 0, []⟩, (addTensors_eq_ok htyped (Nat.zero_le _)).mpr ⟨fun t ht => ?_, ?_, rfl⟩,
      bind_eq_ok.mpr ⟨(), (hcover hsized).mpr htiles, ?_⟩⟩
    · have hle : t.start ≤ t.stop := (hsized t ht).2 ▸ Nat.le_add_right _ _
      exact ⟨htiles.stop_le (Nat.zero_le _) (List.mem_map_of_mem ht) hle, hsized t ht⟩
    · rw [Nat.zero_add]
      exact hsum
    · rw [summaryOf, hranges, hcount, List.map_map]
      rfl

/-- Two summaries are the same: `tensor_names` and `dtypes` are sets. -/
structure SafetensorsSummary.Same (s s' : SafetensorsSummary) : Prop where
  names : s.tensorNames.Perm s'.tensorNames
  parameterCount : s.parameterCount = s'.parameterCount
  dtypes : ∀ d, d ∈ s.dtypes ↔ d ∈ s'.dtypes

/-- Both checks refuse the file, or both return the same summary. -/
def SameOutcome (x y : FileCheck SafetensorsSummary) : Prop :=
  (∀ s, x = .ok s → ∃ s', y = .ok s' ∧ s.Same s') ∧ ∀ s', y = .ok s' → ∃ s, x = .ok s ∧ s.Same s'

theorem summaryOf_same {ts' : List Tensor} (hp : ts.Perm ts') : (summaryOf ts).Same (summaryOf ts') := by
  refine ⟨hp.map _, (hp.map _).sum_nat, fun d => ?_⟩
  have hdtypes (us : List Tensor) : d ∈ (summaryOf us).dtypes ↔ d ∈ us.map (·.dtype) := by
    rw [summaryOf, (foldl_add us _).2.2]
    simp only [List.not_mem_nil, false_or]
  rw [hdtypes, hdtypes]
  exact (hp.map _).mem_iff

/-- A file whose header has entries of the right types, one of them a tensor, is accepted exactly if
the tensors tile the data, in whatever order; what the importer accepts the control plane does. -/
theorem safetensors_tile_the_data (hheader : loadHeader float file content = .ok (.obj kvs, dataSize))
    (htyped : Header kvs ts) (hne : ts ≠ []) :
    ((∃ summary, validateSafetensors float file content = .ok summary) ↔
      (∀ t ∈ ts, t.Sized) ∧ Tiles 0 dataSize (ts.map (·.range)) ∧ (ts.map (·.elements)).sum ≤ 2 ^ 63 - 1) ∧
    (∀ summary, validateSafetensors float file content = .ok summary →
      summary.parameterCount = (ts.map fun t => t.shape.prod).sum) ∧
    (∀ content' kvs', loadHeader float file content' = .ok (.obj kvs', dataSize) → kvs.Perm kvs' →
      SameOutcome (validateSafetensors float file content) (validateSafetensors float file content')) ∧
    ∀ file' content' summary, validateSafetensors float file' content' = .ok summary →
      TrainingControl.validateSafetensors float file' content' = .ok () := by
  refine ⟨⟨?_, ?_⟩, ?_, ?_, fun file' content' summary h => TrainingControl.validateSafetensors_of_importer h⟩
  · rintro ⟨summary, h⟩
    exact ((validateSafetensors_eq_ok hheader htyped hne).mp h).1
  · intro h
    exact ⟨_, (validateSafetensors_eq_ok hheader htyped hne).mpr ⟨h, rfl⟩⟩
  · intro summary h
    rw [((validateSafetensors_eq_ok hheader htyped hne).mp h).2]
    rfl
  · intro content' kvs' hheader' hp
    obtain ⟨ts', htyped', hts⟩ := htyped.perm hp
    have hne' : ts' ≠ [] := fun e => hne (e ▸ hts).eq_nil
    have hsame := summaryOf_same hts
    constructor
    · intro s h
      obtain ⟨⟨hsized, htiles, hcount⟩, rfl⟩ := (validateSafetensors_eq_ok hheader htyped hne).mp h
      refine ⟨_, (validateSafetensors_eq_ok hheader' htyped' hne').mpr ⟨⟨?_, ?_, ?_⟩, rfl⟩, hsame⟩
      · exact fun t ht => hsized t (hts.mem_iff.mpr ht)
      · exact htiles.perm (hts.map _)
      · exact (hts.map _).sum_nat ▸ hcount
    · intro s h
      obtain ⟨⟨hsized, htiles, hcount⟩, rfl⟩ := (validateSafetensors_eq_ok hheader' htyped' hne').mp h
      refine ⟨_, (validateSafetensors_eq_ok hheader htyped hne).mpr ⟨⟨?_, ?_, ?_⟩, rfl⟩, hsame⟩
      · exact fun t ht => hsized t (hts.mem_iff.mp ht)
      · exact htiles.perm (hts.map _).symm
      · exact (hts.map _).sum_nat ▸ hcount

end Safetensors

/-! ## Six elements of half a byte, a byte and none -/

namespace Sample

/-- The bytes of a file with this header and four bytes of data. -/
def fileOf (header : String) : Bytes :=
  UInt8.ofNat (text header).length :: List.replicate 7 0 ++ text header ++ [1, 2, 3, 4]

def tensors : List Tensor :=
  [⟨py "a", py "F4", 4, [2, 3], 1, 4⟩, ⟨py "b", py "U8", 8, [1], 0, 1⟩, ⟨py "c", py "F32", 32, [0], 1, 1⟩]

def entry (t : Tensor) : PyStr × Json :=
  (t.name, .obj [(py "dtype", .str t.dtype), (py "shape", .arr (t.shape.map fun n => .int (.ofNat n))),
    (py "data_offsets", .arr [.int (.ofNat t.start), .int (.ofNat t.stop)])])

def tensorFile : Bytes :=
  fileOf ("\x7b\"a\":\x7b\"dtype\":\"F4\",\"shape\":[2,3],\"data_offsets\":[1,4]\x7d," ++
    "\"b\":\x7b\"dtype\":\"U8\",\"shape\":[1],\"data_offsets\":[0,1]\x7d," ++
    "\"c\":\x7b\"dtype\":\"F32\",\"shape\":[0],\"data_offsets\":[1,1]\x7d\x7d")

theorem tensorFile_header : loadHeader float (py "w") tensorFile = .ok (.obj (tensors.map entry), 4) := by
  decide +kernel

theorem tensorFile_typed : Header (tensors.map entry) tensors :=
  .tensor (by decide) ⟨rfl, rfl, rfl, rfl⟩ (.tensor (by decide) ⟨rfl, rfl, rfl, rfl⟩
    (.tensor (by decide) ⟨rfl, rfl, rfl, rfl⟩ .nil))

end Sample

/-- The file is accepted, so its ranges tile the four bytes. -/
theorem ranges_tile_four_bytes : Tiles 0 4 [(1, 4), (0, 1), (1, 1)] := by
  have haccepted : ∃ summary, validateSafetensors Sample.float (py "w") Sample.tensorFile = .ok summary :=
    ⟨⟨[py "a", py "b", py "c"], 7, [py "F4", py "U8", py "F32"]⟩, by decide +kernel⟩
  exact ((safetensors_tile_the_data Sample.tensorFile_header Sample.tensorFile_typed (by decide)).1.mp haccepted).2.1

end OpenLLMOps.Importer
