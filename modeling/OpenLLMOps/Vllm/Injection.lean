import OpenLLMOps.Vllm.Command

/-!
# Flags of a vLLM command line

Which elements of the argument vector read as flags (`isFlag`). The system's
flags occur once, in front of the system's values, and the other flags are
allowed options (`NoInjectedFlags`), unless a value looks like a flag. The only
value that can is that of `quantization`, whose pattern takes hyphens
(`isFlag_argumentText`).
-/

namespace OpenLLMOps.Vllm

open Framework

/-- `a.startswith("--")`. -/
def isFlag (a : PyStr) : Bool := (py "--").isPrefixOf a

/-- The flags that the system sets, with their values. -/
def managedArguments (r : InferenceLaunchRequest) (gpuIds : List Nat) : List (PyStr × PyStr) :=
  [(py "--host", py "0.0.0.0"), (py "--port", strInt r.port), (py "--model", py "/workspace/model"),
    (py "--served-model-name", r.servedModelName),
    (py "--runner", match r.serviceType with | .embedding => py "pooling" | .generate => py "generate"),
    (py "--tensor-parallel-size", decimal gpuIds.length), (py "--load-format", py "safetensors")]

/-- The names of the system's flags. -/
def managedFlags : List PyStr :=
  [py "--host", py "--port", py "--model", py "--served-model-name", py "--runner", py "--tensor-parallel-size",
    py "--load-format"]

/-- The flag is `--convert` or an allowed option of the map. -/
def OptionFlag (casing : Casing) (args : List (PyStr × Json)) (a : PyStr) : Prop :=
  a = py "--convert" ∨ ∃ kv ∈ args, normalizeKey casing kv.1 ∈ argumentAllowlist ∧
    a = py "--" ++ normalizeKey casing kv.1

/-- No argument of the user becomes a flag of its own. -/
structure NoInjectedFlags (casing : Casing) (r : InferenceLaunchRequest) (gpuIds : List Nat)
    (argv : List PyStr) : Prop where
  managed : ∀ fv ∈ managedArguments r gpuIds, argv.count fv.1 = 1 ∧ [fv.1, fv.2] <:+: argv
  others : ∀ a ∈ argv, isFlag a = true → a ∉ managedFlags → OptionFlag casing r.vllmArgs a
  trustRemoteCode : py "--trust-remote-code" ∉ argv

instance (casing : Casing) (args : List (PyStr × Json)) (a : PyStr) : Decidable (OptionFlag casing args a) :=
  inferInstanceAs (Decidable (_ ∨ _))

/-- A `quantization` that looks like a flag names one that is there anyway. -/
def QuantizationHarmless (casing : Casing) (args : List (PyStr × Json)) : Prop :=
  ∀ kv ∈ args, normalizeKey casing kv.1 = py "quantization" →
    isFlag (argumentText kv.2) = true → OptionFlag casing args (argumentText kv.2)

instance (casing : Casing) (args : List (PyStr × Json)) : Decidable (QuantizationHarmless casing args) :=
  inferInstanceAs (Decidable (∀ kv ∈ args, _ → _ → _))

/-! ## Values -/

section Values

theorem isFlag_of_head {c : Nat} {s : PyStr} (h : c ≠ 45) : isFlag (c :: s) = false := by
  have : (45 == c) = false := beq_eq_false_iff_ne.mpr (Ne.symm h)
  simp [isFlag, py, List.isPrefixOf, this]

theorem isFlag_of_digit {c : Nat} {s : PyStr} (h : isDigit c = true) : isFlag (c :: s) = false := by
  refine isFlag_of_head ?_
  simp only [isDigit, Bool.and_eq_true, decide_eq_true_eq] at h
  omega

theorem isFlag_decimal (n : Nat) : isFlag (decimal n) = false := by
  obtain ⟨c, s, h, hc⟩ := head_decimal n
  rw [h]
  exact isFlag_of_digit hc

theorem isFlag_strInt {n : Int} (h : 0 ≤ n) : isFlag (strInt n) = false := by
  obtain ⟨k, rfl⟩ := Int.eq_ofNat_of_zero_le h
  exact isFlag_decimal k

theorem isFlag_repr {x : PyFloat} (h : x.isFinite = true) : isFlag x.repr = false := by
  cases x with
  | inf neg => cases h
  | nan => cases h
  | finite neg m e =>
    obtain ⟨c, s, hs, hc⟩ := PyFloat.head_reprDecimal m e
    rw [PyFloat.repr, hs]
    cases neg with
    | false => exact isFlag_of_digit hc
    | true =>
      have : (45 == c) = false := by
        simp only [isDigit, Bool.and_eq_true, decide_eq_true_eq] at hc
        exact beq_eq_false_iff_ne.mpr (by omega)
      simp [isFlag, py, List.isPrefixOf, this]

/-- Lower case keeps the hyphens of a flag. -/
theorem isFlag_lower {casing : Casing} {s : PyStr} (h : isFlag s = true) : isFlag (s.lower casing) = true := by
  obtain ⟨t, rfl⟩ := List.isPrefixOf_iff_prefix.mp h
  rfl

theorem isFlag_enum : ∀ kv ∈ enumArguments, ∀ s ∈ kv.2, isFlag s = false := by decide

theorem isFlag_servedModelName {s : PyStr} (h : servedModelNamePattern s = true) : isFlag s = false := by
  cases s with
  | nil => rfl
  | cons c s =>
    simp only [servedModelNamePattern, Bool.and_eq_true, Bool.or_eq_true, decide_eq_true_eq, isDigit] at h
    exact isFlag_of_head (by omega)

/-- A value that its option takes does not look like a flag, unless the option is
`quantization`. -/
theorem isFlag_argumentText {casing : Casing} {key : PyStr} {value : Json}
    (h : (optionClass key).Accepts casing value) (hq : optionClass key ≠ .quantization) :
    isFlag (argumentText value) = false := by
  cases hc : optionClass key with
  | quantization => exact absurd hc hq
  | «enum» allowed =>
    rw [hc] at h
    cases value with
    | str s =>
      cases hf : isFlag s with
      | false => exact hf
      | true =>
        have hl : isFlag (PyStr.lower casing s) = true := isFlag_lower hf
        rw [isFlag_enum _ (mem_enumArguments hc) _ h] at hl
        cases hl
    | _ => cases h
  | cpuOffload =>
    rw [hc] at h
    cases value with
    | int n => exact isFlag_strInt h.1
    | float x => exact isFlag_repr h.1
    | _ => cases h
  | gpuMemoryUtilization =>
    rw [hc] at h
    cases value with
    | float x => exact isFlag_repr h.1
    | _ => cases h
  | positiveInteger limit =>
    rw [hc] at h
    cases value with
    | int n => exact isFlag_strInt (Int.le_of_lt h.1)
    | _ => cases h
  | nonnegativeInteger limit =>
    rw [hc] at h
    cases value with
    | int n => exact isFlag_strInt h.1
    | _ => cases h
  | blockSize =>
    rw [hc] at h
    cases value with
    | int n => exact isFlag_strInt (by rcases h with rfl | rfl | rfl <;> decide)
    | _ => cases h
  | pipelineParallelSize =>
    rw [hc] at h
    cases value with
    | int n => exact isFlag_strInt (by rw [show n = 1 from h]; decide)
    | _ => cases h
  | boolean =>
    rw [hc] at h
    cases value with
    | bool b => rfl
    | _ => cases h
  | unknown =>
    rw [hc] at h
    cases h

end Values

/-! ## The argument vector -/

/-- The flags among the system's arguments. -/
theorem flags_systemArguments {r : InferenceLaunchRequest} (hr : r.accepted = true) (gpuIds : List Nat) :
    (systemArguments r.serviceType r.servedModelName r.port gpuIds).filter isFlag =
      match r.serviceType with
      | .embedding => [py "--host", py "--port", py "--model", py "--served-model-name", py "--runner",
          py "--convert", py "--tensor-parallel-size", py "--load-format"]
      | .generate => managedFlags := by
  simp only [InferenceLaunchRequest.accepted, Bool.and_eq_true, decide_eq_true_eq] at hr
  have hport : isFlag (strInt r.port) = false := isFlag_strInt (by omega)
  have hname : isFlag r.servedModelName = false := isFlag_servedModelName hr.1.1.1.2
  have hcount : isFlag (decimal gpuIds.length) = false := isFlag_decimal _
  have hfixed : ∀ s ∈ [py "0.0.0.0", py "/workspace/model", py "safetensors", py "pooling", py "embed",
      py "generate"], isFlag s = false := by decide
  have hflags : ∀ s ∈ py "--convert" :: managedFlags, isFlag s = true := by decide
  simp only [List.forall_mem_cons, List.not_mem_nil, false_implies, implies_true, and_true, managedFlags] at hfixed hflags
  obtain ⟨h₁, h₂, h₃, h₄, h₅, h₆⟩ := hfixed
  obtain ⟨f₀, f₁, f₂, f₃, f₄, f₅, f₆, f₇⟩ := hflags
  unfold systemArguments taskArguments managedFlags
  cases r.serviceType <;> simp [List.filter, *]

section Options

variable {casing : Casing} {r : InferenceLaunchRequest} {gpuIds : List Nat} {argv : List PyStr}
  (hr : r.accepted = true) (hv : validateVllmArguments casing r.vllmArgs = .ok ())
  (hc : vllmCommand casing r gpuIds = .ok argv)

include hr hv hc

/-- The argument vector is the system's, then what each entry of the map adds. -/
theorem argv_eq : ∃ options : List (PyStr × Json),
    argv = systemArguments r.serviceType r.servedModelName r.port gpuIds ++ options.flatMap renderOption ∧
    (∀ key value, (key, value) ∈ options ↔ ∃ k, (k, value) ∈ r.vllmArgs ∧ normalizeKey casing k = key) ∧
    ∀ kv ∈ options, kv.1 ∈ argumentAllowlist ∧ (optionClass kv.1).Accepts casing kv.2 := by
  have hscalar : ∀ kv ∈ r.vllmArgs, isJsonScalar kv.2 = true := by
    simp only [InferenceLaunchRequest.accepted, Bool.and_eq_true, List.all_eq_true] at hr
    exact fun kv hkv => (hr.2 kv hkv).2
  have hnodup : (Dict.keys (normalizeKeys casing r.vllmArgs)).Nodup := by
    unfold validateVllmArguments at hv
    split at hv
    · cases hv
    · rw [normalizeKeys, Dict.keys_mapKeys, Dict.keys, List.map_map]
      exact (validateEntries_ok.mp hv).1
  unfold vllmCommand at hc
  cases hn : normalizeArguments casing [] r.vllmArgs with
  | error e => rw [hn] at hc; cases hc
  | ok normalized =>
    obtain ⟨hall, rfl⟩ := normalizeArguments_ok.mp hn
    rw [Dict.update_nil hnodup] at hn
    rw [hn] at hc
    have hmem : ∀ key value, (key, value) ∈ sortedOptions (normalizeKeys casing r.vllmArgs) ↔
        ∃ k, (k, value) ∈ r.vllmArgs ∧ normalizeKey casing k = key := fun key value => by
      rw [sortedOptions, (List.perm_insertionSort _ _).mem_iff, normalizeKeys, Dict.mem_mapKeys]
    refine ⟨_, (Except.ok.inj hc).symm, hmem, fun kv hkv => ?_⟩
    obtain ⟨k, hk, hkey⟩ := (hmem kv.1 kv.2).mp hkv
    obtain ⟨ha, -, hok⟩ := hall _ hk
    rw [← hkey]
    exact ⟨ha, (validateVllmArgument_ok (hscalar _ hk)).mp hok⟩

end Options

/-- What an option adds is its flag and its value. -/
theorem mem_renderOption {kv : PyStr × Json} {a : PyStr} (h : a ∈ renderOption kv) :
    a = py "--" ++ kv.1 ∨ a = argumentText kv.2 := by
  unfold renderOption at h
  split at h
  · split at h
    · exact .inl (List.mem_singleton.mp h)
    · cases h
  · simpa using h

/-- A flag behind the system's arguments is an allowed option of the map or a value of
`quantization`. -/
theorem flag_of_option {casing : Casing} {options : List (PyStr × Json)} 
    (hacc : ∀ kv ∈ options, kv.1 ∈ argumentAllowlist ∧ (optionClass kv.1).Accepts casing kv.2) {a : PyStr}
    (ha : a ∈ options.flatMap renderOption) (hf : isFlag a = true) :
    ∃ kv ∈ options, a = py "--" ++ kv.1 ∨ kv.1 = py "quantization" ∧ a = argumentText kv.2 := by
  obtain ⟨kv, hkv, hm⟩ := List.mem_flatMap.mp ha
  refine ⟨kv, hkv, (mem_renderOption hm).imp_right fun e => ⟨?_, e⟩⟩
  by_contra hq
  have := isFlag_argumentText (hacc kv hkv).2 fun h => hq (eq_quantization h)
  rw [e] at hf
  exact absurd hf (by rw [this]; decide)

/-- The flags of the system are not allowed options. -/
theorem OptionFlag.not_managed {casing : Casing} {args : List (PyStr × Json)} {a : PyStr}
    (h : OptionFlag casing args a) : a ∉ managedFlags ∧ a ≠ py "--trust-remote-code" := by
  have hkeys : ∀ key ∈ argumentAllowlist, py "--" ++ key ∉ managedFlags ∧
      py "--" ++ key ≠ py "--trust-remote-code" := by decide
  rcases h with rfl | ⟨kv, -, ha, rfl⟩
  · decide
  · exact hkeys _ ha

theorem infix_of_drop {α : Type} {l : List α} {a b : α} (n : Nat) (h : l.drop n = a :: b :: l.drop (n + 2)) :
    [a, b] <:+: l := by
  refine ⟨l.take n, l.drop (n + 2), ?_⟩
  rw [List.append_assoc]
  show l.take n ++ a :: b :: l.drop (n + 2) = l
  rw [← h, List.take_append_drop]

/-- A flag and its value are neighbours among the system's arguments. -/
theorem infix_systemArguments (r : InferenceLaunchRequest) (gpuIds : List Nat) :
    ∀ fv ∈ managedArguments r gpuIds,
      [fv.1, fv.2] <:+: systemArguments r.serviceType r.servedModelName r.port gpuIds := by
  obtain ⟨_, name, serviceType, port, _⟩ := r
  intro fv h
  simp only [managedArguments, List.mem_cons, List.not_mem_nil, or_false] at h
  cases serviceType with
  | embedding =>
    rcases h with rfl | rfl | rfl | rfl | rfl | rfl | rfl
    · exact infix_of_drop 0 rfl
    · exact infix_of_drop 2 rfl
    · exact infix_of_drop 4 rfl
    · exact infix_of_drop 6 rfl
    · exact infix_of_drop 8 rfl
    · exact infix_of_drop 12 rfl
    · exact infix_of_drop 14 rfl
  | generate =>
    rcases h with rfl | rfl | rfl | rfl | rfl | rfl | rfl
    · exact infix_of_drop 0 rfl
    · exact infix_of_drop 2 rfl
    · exact infix_of_drop 4 rfl
    · exact infix_of_drop 6 rfl
    · exact infix_of_drop 8 rfl
    · exact infix_of_drop 10 rfl
    · exact infix_of_drop 12 rfl

theorem managedArguments_flags (r : InferenceLaunchRequest) (gpuIds : List Nat) :
    (managedArguments r gpuIds).map Prod.fst = managedFlags := rfl

section System

variable {r : InferenceLaunchRequest} (hr : r.accepted = true) (gpuIds : List Nat)

include hr

/-- The system sets each of its flags once. -/
theorem count_systemArguments {a : PyStr} (ha : a ∈ managedFlags) :
    (systemArguments r.serviceType r.servedModelName r.port gpuIds).count a = 1 := by
  have hflag : ∀ a ∈ managedFlags, isFlag a = true := by decide
  rw [← List.count_filter (hflag a ha), flags_systemArguments hr]
  revert a ha
  cases r.serviceType <;> decide

/-- The other flag among the system's arguments is `--convert`. -/
theorem flag_of_systemArguments {a : PyStr} (ha : a ∈ systemArguments r.serviceType r.servedModelName r.port gpuIds)
    (hf : isFlag a = true) : a ∈ managedFlags ∨ a = py "--convert" := by
  have h := List.mem_filter.mpr ⟨ha, hf⟩
  rw [flags_systemArguments hr] at h
  revert h
  cases r.serviceType with
  | generate => exact .inl
  | embedding =>
    intro h
    have : ∀ a ∈ [py "--host", py "--port", py "--model", py "--served-model-name", py "--runner",
        py "--convert", py "--tensor-parallel-size", py "--load-format"], a ∈ managedFlags ∨ a = py "--convert" := by
      decide
    exact this a h

end System

/-- The argument vector is free of injected flags exactly if the value of `quantization`
does not look like a flag that is not there. -/
theorem noInjectedFlags_iff {casing : Casing} {r : InferenceLaunchRequest} {gpuIds : List Nat} {argv : List PyStr}
    (hr : r.accepted = true) (hv : validateVllmArguments casing r.vllmArgs = .ok ())
    (hc : vllmCommand casing r gpuIds = .ok argv) :
    NoInjectedFlags casing r gpuIds argv ↔ QuantizationHarmless casing r.vllmArgs := by
  obtain ⟨options, rfl, hmem, hacc⟩ := argv_eq hr hv hc
  constructor
  · rintro ⟨hmanaged, hothers, -⟩ ⟨k, v⟩ hkv hk hf
    have hopt : (py "quantization", v) ∈ options := (hmem _ _).mpr ⟨k, hkv, hk⟩
    have hin : argumentText v ∈ options.flatMap renderOption := by
      refine List.mem_flatMap.mpr ⟨_, hopt, ?_⟩
      have hstr : (optionClass (py "quantization")).Accepts casing v := (hacc _ hopt).2
      rw [show optionClass (py "quantization") = .quantization by decide] at hstr
      cases v with
      | str s => exact List.mem_cons_of_mem _ (List.mem_singleton.mpr rfl)
      | _ => cases hstr
    refine hothers _ (List.mem_append_right _ hin) hf fun hm => ?_
    rw [← managedArguments_flags r gpuIds] at hm
    obtain ⟨fv, hfv, he⟩ := List.mem_map.mp hm
    have h₁ := (hmanaged fv hfv).1
    have h₂ := count_systemArguments hr gpuIds (managedArguments_flags r gpuIds ▸ List.mem_map_of_mem hfv)
    have h₃ : 0 < (options.flatMap renderOption).count fv.1 :=
      List.count_pos_iff.mpr (by rw [he]; exact hin)
    rw [List.count_append, h₂] at h₁
    omega
  · intro hq
    have hopt : ∀ a ∈ options.flatMap renderOption, isFlag a = true → OptionFlag casing r.vllmArgs a := by
      intro a ha hf
      obtain ⟨⟨key, v⟩, hkv, hcase⟩ := flag_of_option hacc ha hf
      obtain ⟨k, hk, rfl⟩ := (hmem _ _).mp hkv
      rcases hcase with rfl | ⟨hk', rfl⟩
      · exact .inr ⟨_, hk, (hacc _ hkv).1, rfl⟩
      · exact hq (k, v) hk hk' hf
    have hflag : ∀ a ∈ managedFlags, isFlag a = true := by decide
    refine ⟨fun fv hfv => ⟨?_, ?_⟩, fun a ha hf hm => ?_, fun ht => ?_⟩
    · have hm : fv.1 ∈ managedFlags := managedArguments_flags r gpuIds ▸ List.mem_map_of_mem hfv
      have h₀ : (options.flatMap renderOption).count fv.1 = 0 :=
        List.count_eq_zero.mpr fun h => (hopt _ h (hflag _ hm)).not_managed.1 hm
      rw [List.count_append, count_systemArguments hr gpuIds hm, h₀]
    · exact (infix_systemArguments r gpuIds fv hfv).trans (List.infix_append' [] _ _)
    · rcases List.mem_append.mp ha with ha | ha
      · exact .inl ((flag_of_systemArguments hr gpuIds ha hf).resolve_left hm)
      · exact hopt a ha hf
    · rcases List.mem_append.mp ht with ht | ht
      · have h := flag_of_systemArguments hr gpuIds ht (by decide)
        revert h
        decide
      · exact (hopt _ ht (by decide)).not_managed.2 rfl

/-- A map with a value of every kind. -/
theorem noInjectedFlags_mixed :
    let casing : Casing := fun _ c _ => [c]
    let r : InferenceLaunchRequest := ⟨[0], py "qwen", .embedding, 8000,
      [(py "Seed", .int 7), (py "quantization", .str (py "fp8")), (py "enforce_eager", .bool true)]⟩
    NoInjectedFlags casing r [0]
      (systemArguments .embedding (py "qwen") 8000 [0] ++
        [py "--enforce-eager", py "--quantization", py "fp8", py "--seed", py "7"]) := by
  intro casing r
  exact (noInjectedFlags_iff (by decide) (by decide) (by decide)).mpr (by decide)

/-- A `quantization` that the pattern takes and that injects a flag. -/
theorem quantization_injects :
    let casing : Casing := fun _ c _ => [c]
    let r : InferenceLaunchRequest := ⟨[0], py "qwen", .generate, 8000,
      [(py "quantization", .str (py "--trust-remote-code"))]⟩
    let argv := systemArguments .generate (py "qwen") 8000 [0] ++ [py "--quantization", py "--trust-remote-code"]
    r.accepted = true ∧ validateVllmArguments casing r.vllmArgs = .ok () ∧
    vllmCommand casing r [0] = .ok argv ∧ ¬ NoInjectedFlags casing r [0] argv := by
  intro casing r argv
  exact ⟨by decide, by decide, by decide, fun h => h.trustRemoteCode (by decide)⟩

end OpenLLMOps.Vllm
