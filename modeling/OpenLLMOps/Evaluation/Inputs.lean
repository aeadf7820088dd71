import OpenLLMOps.Framework.Except
import OpenLLMOps.Framework.Json.Loads

/-!
# Checked evaluation inputs

The helpers of `evaluation_runtime`: JSON is decoded with two hooks that raise an
`EvaluationInputError` (`loadsJson`), and short texts, digests and counts are taken from it. Whatever
is wrong with an input should be an `EvaluationInputError`: `OnlyInput` says that a check raises
nothing else, and is kept by every way to put checks together.
-/

namespace OpenLLMOps.Evaluation

open Framework

/-- What a check raises. -/
inductive EvaluationError
  /-- `EvaluationInputError`. -/
  | input (text : PyStr)
  /-- The `ValueError` of `int` for a numeral that is too long. -/
  | value
  /-- The `TypeError` of `in` for a value that has no hash. -/
  | type
  deriving DecidableEq

abbrev Checked (α : Type) : Type := Except EvaluationError α

def inputError {α : Type} (text : PyStr) : Checked α := .error (.input text)

/-- `_loads_json`, where `decode` is `json.loads` with the hooks; a `RecursionError` is a `.decode`. -/
def loadsJson (decode : Bytes → Except JsonError Json) (raw : Bytes) : Checked Json :=
  match decode raw with
  | .ok value => .ok value
  | .error (.constant text) => inputError (py "JSON 不允许非有限数值：" ++ text)
  | .error (.duplicate key) => inputError (py "JSON 对象包含重复字段：" ++ key)
  | .error .unicode | .error .decode => inputError (py "评测 JSON 不是有效的 UTF-8 对象")
  | .error .digits => .error .value

/-- `dict.get(name)`. -/
def field (kvs : List (PyStr × Json)) (name : String) : Json := (Json.get? kvs (py name)).getD .null

/-- The bounds of `_safe_short_text`. -/
def isSafeText (text : PyStr) (maxLength : Nat) : Bool :=
  text ≠ [] && text.length ≤ maxLength && text.all (32 ≤ ·)

/-- `_safe_short_text` without a default. -/
def safeShortText (v : Json) (name : PyStr) (maxLength : Nat) : Checked PyStr :=
  match v with
  | .str s =>
    if isSafeText s.strip maxLength then .ok s.strip
    else inputError (py "评测数据字段 " ++ name ++ py " 为空、过长或包含控制字符")
  | _ => inputError (py "评测数据字段 " ++ name ++ py " 必须是字符串")

/-- `SHA256_PATTERN.fullmatch`. -/
def isSha256 (s : PyStr) : Bool := s.length = 64 && s.all fun c => isDigit c || (97 ≤ c && c ≤ 102)

/-- Only an `EvaluationInputError` is raised. -/
def OnlyInput {α : Type} (r : Checked α) : Prop := ∀ e, r = .error e → ∃ text, e = .input text

section

variable {α β : Type}

theorem OnlyInput.ok (a : α) : OnlyInput (.ok a) := fun _ h => by cases h

theorem OnlyInput.inputError (text : PyStr) : OnlyInput (inputError text : Checked α) := by
  intro e h
  cases h
  exact ⟨text, rfl⟩

theorem OnlyInput.bind {x : Checked α} {f : α → Checked β} (hx : OnlyInput x) (hf : ∀ a, x = .ok a → OnlyInput (f a)) :
    OnlyInput (x >>= f) := by
  intro e h
  cases hr : x with
  | error e' =>
    rw [hr] at h
    cases h
    exact hx e hr
  | ok a =>
    rw [hr] at h
    exact hf a hr e h

theorem OnlyInput.ite {p : Prop} [Decidable p] {x y : Checked α} (hx : p → OnlyInput x) (hy : ¬p → OnlyInput y) :
    OnlyInput (if p then x else y) := by
  split
  · rename_i h
    exact hx h
  · rename_i h
    exact hy h

/-- Of a chain, what its first part raises is raised. -/
theorem OnlyInput.of_bind {x : Checked α} {f : α → Checked β} (h : OnlyInput (x >>= f)) : OnlyInput x := by
  intro e hx
  refine h e ?_
  rw [hx]
  rfl

theorem OnlyInput.bind_iff {x : Checked α} {f : α → Checked β} :
    OnlyInput (x >>= f) ↔ OnlyInput x ∧ ∀ a, x = .ok a → OnlyInput (f a) := by
  constructor
  · intro h
    refine ⟨h.of_bind, fun a ha => ?_⟩
    rw [ha] at h
    exact h
  · rintro ⟨hx, hf⟩
    exact hx.bind hf

theorem loadsJson_onlyInput {decode : Bytes → Except JsonError Json} {raw : Bytes} :
    OnlyInput (loadsJson decode raw) ↔ decode raw ≠ .error .digits := by
  constructor
  · intro h hdigits
    obtain ⟨text, htext⟩ := h .value (by rw [loadsJson, hdigits])
    cases htext
  · intro h
    unfold loadsJson
    split
    · exact .ok _
    · exact .inputError _
    · exact .inputError _
    · exact .inputError _
    · exact .inputError _
    · rename_i hdigits
      exact absurd hdigits h

theorem safeShortText_onlyInput (v : Json) (name : PyStr) (maxLength : Nat) :
    OnlyInput (safeShortText v name maxLength) := by
  cases v with
  | str s => exact .ite (fun _ => .ok _) fun _ => .inputError _
  | _ => exact .inputError _

theorem safeShortText_ok {v : Json} {name text : PyStr} {maxLength : Nat} (h : safeShortText v name maxLength = .ok text) :
    ∃ s : PyStr, v = .str s ∧ text = s.strip ∧ isSafeText text maxLength = true := by
  cases v with
  | str s =>
    simp only [safeShortText] at h
    split at h
    · rename_i hsafe
      cases h
      exact ⟨s, rfl, rfl, hsafe⟩
    · cases h
  | _ => cases h

end

end OpenLLMOps.Evaluation
