import Mathlib.Data.List.Basic

/-!
# Labelled transition systems

A system is an initial state and a step function: `step s l` is the state after
the step `l` from `s`, or `none` when `l` is not enabled. Everything a step does
not decide itself (an answer, a clock, a fault) is in its label, so a run is a
list of labels.

* `run` replays a list of labels;
* `Always P s ls`: every state reached along `ls` from `s` satisfies `P`;
* `EachStep Q s ls`: every step taken along `ls` from `s` satisfies `Q`;
* `Sometime P s ls`: some state reached along `ls` from `s` satisfies `P`.

The rules below reduce both to an invariant and one lemma about a step:
`always_of_invariant` and `eachStep_of_invariant` when the steps meet a
condition, `always_iff_eachStep` when the condition is also necessary. `of_sometime` is
about what holds before and after something that happens in a run.
-/

namespace Framework

/-- A transition system with labels `L`. -/
structure System (S L : Type) where
  init : S
  step : S → L → Option S

namespace System

variable {S L : Type} (M : System S L)

/-- The state after the steps `ls` from `s`; `none` if one of them is not enabled. -/
def run : S → List L → Option S
  | s, [] => some s
  | s, l :: ls => (M.step s l).bind fun s' => run s' ls

/-- Every state reached along `ls` from `s` satisfies `P`. -/
def Always (P : S → Prop) : S → List L → Prop
  | s, [] => P s
  | s, l :: ls => P s ∧ ∀ s', M.step s l = some s' → Always P s' ls

/-- Some state reached along `ls` from `s` satisfies `P`. -/
def Sometime (P : S → Prop) : S → List L → Prop
  | s, [] => P s
  | s, l :: ls => P s ∨ ∃ s' ∈ M.step s l, Sometime P s' ls

/-- Every step taken along `ls` from `s` satisfies `Q`. -/
def EachStep (Q : S → L → S → Prop) : S → List L → Prop
  | _, [] => True
  | s, l :: ls => ∀ s', M.step s l = some s' → Q s l s' ∧ EachStep Q s' ls

variable {M}

theorem Always.head {P : S → Prop} {s : S} {ls : List L} (h : M.Always P s ls) : P s := by
  cases ls with
  | nil => exact h
  | cons l ls => exact h.1

theorem Always.of_run {P : S → Prop} {s s' : S} {ls : List L} (h : M.Always P s ls) (hr : M.run s ls = some s') :
    P s' := by
  induction ls generalizing s with
  | nil => cases hr; exact h
  | cons l ls ih =>
    obtain ⟨s₁, h₁, h₂⟩ := Option.bind_eq_some_iff.mp hr
    exact ih (h.2 s₁ h₁) h₂

theorem Always.mono {P Q : S → Prop} (hPQ : ∀ s, P s → Q s) {s : S} {ls : List L} (h : M.Always P s ls) :
    M.Always Q s ls := by
  induction ls generalizing s with
  | nil => exact hPQ s h
  | cons l ls ih => exact ⟨hPQ s h.1, fun s' hs => ih (h.2 s' hs)⟩

theorem run_append {s s' : S} {xs ys : List L} (h : M.run s xs = some s') :
    M.run s (xs ++ ys) = M.run s' ys := by
  induction xs generalizing s with
  | nil => cases h; rfl
  | cons l xs ih =>
    obtain ⟨s₁, h₁, h₂⟩ := Option.bind_eq_some_iff.mp h
    simp only [List.cons_append, run, h₁, Option.bind_some]
    exact ih h₂

theorem Sometime.of_run {P : S → Prop} {s s' : S} {xs ys : List L} (h : M.run s xs = some s') (hP : P s') :
    M.Sometime P s (xs ++ ys) := by
  induction xs generalizing s with
  | nil =>
    cases h
    cases ys with
    | nil => exact hP
    | cons l ys => exact .inl hP
  | cons l xs ih =>
    obtain ⟨s₁, h₁, h₂⟩ := Option.bind_eq_some_iff.mp h
    exact .inr ⟨s₁, h₁, ih h₂⟩

theorem EachStep.of_append {Q : S → L → S → Prop} {s s' : S} {xs ys : List L}
    (h : M.EachStep Q s (xs ++ ys)) (hr : M.run s xs = some s') : M.EachStep Q s' ys := by
  induction xs generalizing s with
  | nil => cases hr; exact h
  | cons l xs ih =>
    obtain ⟨s₁, h₁, h₂⟩ := Option.bind_eq_some_iff.mp hr
    exact ih (h s₁ h₁).2 h₂

theorem EachStep.of_append_left {Q : S → L → S → Prop} {s : S} {xs ys : List L}
    (h : M.EachStep Q s (xs ++ ys)) : M.EachStep Q s xs := by
  induction xs generalizing s with
  | nil => trivial
  | cons l xs ih => exact fun s' hs => ⟨(h s' hs).1, ih (h s' hs).2⟩

theorem EachStep.of_true (s : S) (ls : List L) : M.EachStep (fun _ _ _ => True) s ls := by
  induction ls generalizing s with
  | nil => trivial
  | cons l ls ih => exact fun s' _ => ⟨trivial, ih s'⟩

/-- What holds of every step holds of the steps of every run. -/
theorem EachStep.of_step {Q : S → L → S → Prop} (h : ∀ {s l s'}, M.step s l = some s' → Q s l s') (s : S)
    (ls : List L) : M.EachStep Q s ls := by
  induction ls generalizing s with
  | nil => trivial
  | cons l ls ih => exact fun s' hs => ⟨h hs, ih s'⟩

/-- Along a run each step is the one that `step` computes, so a decidable condition can be
evaluated on it. -/
instance EachStep.decidable {Q : S → L → S → Prop} [∀ s l s', Decidable (Q s l s')] :
    ∀ s ls, Decidable (M.EachStep Q s ls)
  | _, [] => isTrue trivial
  | s, l :: ls =>
    match h : M.step s l with
    | none => isTrue fun s' hs => by rw [h] at hs; cases hs
    | some s₁ =>
      have : Decidable (M.EachStep Q s₁ ls) := EachStep.decidable s₁ ls
      decidable_of_iff (Q s l s₁ ∧ M.EachStep Q s₁ ls)
        ⟨fun hq s' hs => by rw [h] at hs; cases hs; exact hq, fun hq => hq s₁ h⟩

/-! ## Invariants -/

section Invariant

variable {C : S → L → S → Prop} {Inv : S → Prop}
  (hstep : ∀ {s l s'}, Inv s → M.step s l = some s' → C s l s' → Inv s')

include hstep

/-- An invariant of the steps that meet `C` holds in every state of a run of
such steps. -/
theorem always_of_invariant {P : S → Prop} (hP : ∀ {s}, Inv s → P s) {s : S} {ls : List L} (h0 : Inv s)
    (hC : M.EachStep C s ls) : M.Always P s ls := by
  induction ls generalizing s with
  | nil => exact hP h0
  | cons l ls ih => exact ⟨hP h0, fun s' hs => ih (hstep h0 hs (hC s' hs).1) (hC s' hs).2⟩

/-- What an invariant gives for one step holds of every step of a run whose
steps meet `C`. -/
theorem eachStep_of_invariant {Q : S → L → S → Prop}
    (hQ : ∀ {s l s'}, Inv s → M.step s l = some s' → C s l s' → Q s l s') {s : S} {ls : List L} (h0 : Inv s)
    (hC : M.EachStep C s ls) : M.EachStep Q s ls := by
  induction ls generalizing s with
  | nil => trivial
  | cons l ls ih =>
    exact fun s' hs => ⟨hQ h0 hs (hC s' hs).1, ih (hstep h0 hs (hC s' hs).1) (hC s' hs).2⟩

/-- An invariant of the steps that meet `C` holds at the end of a run of such
steps. -/
theorem inv_of_run {s s' : S} {ls : List L} (h0 : Inv s) (hC : M.EachStep C s ls)
    (hr : M.run s ls = some s') : Inv s' := by
  induction ls generalizing s with
  | nil => cases hr; exact h0
  | cons l ls ih =>
    obtain ⟨s₁, h₁, h₂⟩ := Option.bind_eq_some_iff.mp hr
    exact ih (hstep h0 h₁ (hC s₁ h₁).1) (hC s₁ h₁).2 h₂

/-- When moreover a step that breaks `C` ends outside `P`, the runs whose states
all satisfy `P` are the runs whose steps all meet `C`. -/
theorem always_iff_eachStep {P : S → Prop} (hP : ∀ {s}, Inv s → P s)
    (hC : ∀ {s l s'}, Inv s → M.step s l = some s' → P s' → C s l s') {s : S} {ls : List L} (h0 : Inv s) :
    M.Always P s ls ↔ M.EachStep C s ls := by
  refine ⟨fun h => ?_, always_of_invariant hstep hP h0⟩
  induction ls generalizing s with
  | nil => trivial
  | cons l ls ih =>
    intro s' hs
    have hc : C s l s' := hC h0 hs (h.2 s' hs).head
    exact ⟨hc, ih (hstep h0 hs hc) (h.2 s' hs)⟩

/-- When a step of the system satisfies `Q` exactly if it meets `C`, so do its runs. -/
theorem eachStep_iff_eachStep {Q : S → L → S → Prop}
    (hQ : ∀ {s l s'}, Inv s → M.step s l = some s' → (Q s l s' ↔ C s l s')) {s : S} {ls : List L} (h0 : Inv s) :
    M.EachStep Q s ls ↔ M.EachStep C s ls := by
  refine ⟨fun h => ?_, eachStep_of_invariant hstep (fun hi hs hc => (hQ hi hs).mpr hc) h0⟩
  induction ls generalizing s with
  | nil => trivial
  | cons l ls ih =>
    intro s' hs
    have hc : C s l s' := (hQ h0 hs).mp (h s' hs).1
    exact ⟨hc, ih (hstep h0 hs hc) (h s' hs).2⟩

/-- What can no longer happen does not happen. -/
theorem not_sometime_of_invariant {P : S → Prop} (hP : ∀ {s}, Inv s → ¬ P s) {s : S} {ls : List L} (h0 : Inv s)
    (hC : M.EachStep C s ls) : ¬ M.Sometime P s ls := by
  induction ls generalizing s with
  | nil => exact hP h0
  | cons l ls ih =>
    rintro (h | ⟨s', hs, h⟩)
    · exact hP h0 h
    · exact ih (hstep h0 hs (hC s' hs).1) (hC s' hs).2 h

/-- `P` holds sometime in a run. Once it has, `Past` holds, and as long as it still may, `Never` does
not. So what `Past` gives of the states and the steps, and what holds of them unless `Never`, holds
of the whole run. -/
theorem of_sometime {P Past Never R : S → Prop} {Q : S → L → S → Prop}
    (hpast : ∀ {s}, Inv s → P s → Past s)
    (hkeep : ∀ {s l s'}, Inv s → Past s → M.step s l = some s' → C s l s' → Past s' ∧ Q s l s')
    (hR : ∀ {s}, Inv s → Past s → R s)
    (hnever : ∀ {s l s'}, Inv s → Never s → M.step s l = some s' → C s l s' → Never s')
    (hP : ∀ {s}, Inv s → Never s → ¬ P s) (hstate : ∀ {s}, Inv s → R s ∨ Never s)
    (hQ : ∀ {s l s'}, Inv s → M.step s l = some s' → C s l s' → Q s l s' ∨ Never s')
    {s : S} {ls : List L} (h0 : Inv s) (hC : M.EachStep C s ls) (h : M.Sometime P s ls) :
    M.Always R s ls ∧ M.EachStep Q s ls := by
  have hlater {s l s'} (h : Inv s ∧ Past s) (hs : M.step s l = some s') (hc : C s l s') : Inv s' ∧ Past s' :=
    ⟨hstep h.1 hs hc, (hkeep h.1 h.2 hs hc).1⟩
  have hafter {s : S} {ls : List L} (h0 : Inv s) (hC : M.EachStep C s ls) (h : Past s) :
      M.Always R s ls ∧ M.EachStep Q s ls :=
    ⟨always_of_invariant hlater (fun h => hR h.1 h.2) ⟨h0, h⟩ hC,
      eachStep_of_invariant hlater (fun h hs hc => (hkeep h.1 h.2 hs hc).2) ⟨h0, h⟩ hC⟩
  have hnot {s : S} {ls : List L} (h0 : Inv s) (hC : M.EachStep C s ls) (h : Never s) : ¬ M.Sometime P s ls := by
    have hstays {s l s'} (h : Inv s ∧ Never s) (hs : M.step s l = some s') (hc : C s l s') : Inv s' ∧ Never s' :=
      ⟨hstep h.1 hs hc, hnever h.1 h.2 hs hc⟩
    exact not_sometime_of_invariant hstays (fun h => hP h.1 h.2) ⟨h0, h⟩ hC
  induction ls generalizing s with
  | nil => exact hafter h0 hC (hpast h0 h)
  | cons l ls ih =>
    rcases h with h | ⟨s', hs, h⟩
    · exact hafter h0 hC (hpast h0 h)
    · have h0' := hstep h0 hs (hC s' hs).1
      have hC' := (hC s' hs).2
      obtain ⟨hall, heach⟩ := ih h0' hC' h
      refine ⟨⟨(hstate h0).resolve_right fun hn => ?_, fun s₁ hs₁ => ?_⟩, fun s₁ hs₁ => ?_⟩
      · exact hnot h0 hC hn (.inr ⟨s', hs, h⟩)
      · cases Option.some.inj (hs.symm.trans hs₁)
        exact hall
      · cases Option.some.inj (hs.symm.trans hs₁)
        exact ⟨(hQ h0 hs (hC s' hs).1).resolve_right fun hn => hnot h0' hC' hn h, heach⟩

end Invariant

end System

end Framework
