import Mathlib.Data.List.Nodup
import OpenLLMOps.Framework.System

/-!
# Refinement, and a channel to refine

A system refines another one under an abstraction of its states if each of its steps is a run of the other one
(`always_of_simulation`).

`atMostOnce` is a channel from a sender of commands to the one that performs them: a command is performed only
after it is sent, and once; an answer is received only if it was given to that command. What holds of every state
that it reaches is `Channel.Genuine`.
-/

namespace Framework

namespace System

variable {S L T K : Type} {M : System S L} {A : System T K}

/-- A run of the other system leads there. -/
def Reaches (A : System T K) (t t' : T) : Prop := ∃ ks, A.run t ks = some t'

theorem Reaches.refl (t : T) : A.Reaches t t := ⟨[], rfl⟩

theorem Reaches.trans {t₁ t₂ t₃ : T} (h : A.Reaches t₁ t₂) (h' : A.Reaches t₂ t₃) : A.Reaches t₁ t₃ := by
  obtain ⟨ks, hks⟩ := h
  obtain ⟨ks', hks'⟩ := h'
  exact ⟨ks ++ ks', (run_append hks).trans hks'⟩

theorem Reaches.step {t t' : T} {k : K} (h : A.step t k = some t') : A.Reaches t t' := by
  refine ⟨[k], ?_⟩
  rw [run, h]
  rfl

/-- Forward simulation: whatever the steps that meet `C` reach, the other system reaches. -/
theorem always_of_simulation {C : S → L → S → Prop} {Inv : S → Prop} (abs : S → T)
    (hstep : ∀ {s l s'}, Inv s → M.step s l = some s' → C s l s' → Inv s')
    (hsim : ∀ {s l s'}, Inv s → M.step s l = some s' → C s l s' → A.Reaches (abs s) (abs s')) {s : S} {ls : List L}
    (h0 : Inv s) (hC : M.EachStep C s ls) : M.Always (fun s' => A.Reaches (abs s) (abs s')) s ls := by
  have hboth {s₁ l s₂} (h : Inv s₁ ∧ A.Reaches (abs s) (abs s₁)) (hs : M.step s₁ l = some s₂) (hc : C s₁ l s₂) :
      Inv s₂ ∧ A.Reaches (abs s) (abs s₂) :=
    ⟨hstep h.1 hs hc, h.2.trans (hsim h.1 hs hc)⟩
  exact always_of_invariant hboth And.right ⟨h0, Reaches.refl (abs s)⟩ hC

end System

/-! ## The channel -/

/-- What was sent, what was performed with the answer if there was one, and the answers received; newest first. -/
structure Channel (C R : Type) where
  sent : List C
  performed : List (C × Option R)
  received : List (C × R)

inductive ChannelLabel (C R : Type)
  | send (command : C)
  | perform (command : C) (answer : Option R)
  | receive (command : C) (answer : R)

section

variable {C R I : Type} [DecidableEq C] [DecidableEq R] [DecidableEq I] (id : C → I)

/-- The channel, for commands that `id` tells apart. -/
def atMostOnce : System (Channel C R) (ChannelLabel C R) where
  init := ⟨[], [], []⟩
  step s
    | .send command => if id command ∈ s.sent.map id then none else some { s with sent := command :: s.sent }
    | .perform command answer =>
      if command ∈ s.sent ∧ command ∉ s.performed.map Prod.fst then
        some { s with performed := (command, answer) :: s.performed }
      else none
    | .receive command answer =>
      if (command, some answer) ∈ s.performed then some { s with received := (command, answer) :: s.received } else none

/-- What was performed was sent, and performed once; what was received is the answer to that command. -/
structure Channel.Genuine (s : Channel C R) : Prop where
  distinct : (s.sent.map id).Nodup
  sent : ∀ e ∈ s.performed, e.1 ∈ s.sent
  once : (s.performed.map Prod.fst).Nodup
  answered : ∀ e ∈ s.received, (e.1, some e.2) ∈ s.performed

variable {id}

theorem Channel.Genuine.step {s s' : Channel C R} {l : ChannelLabel C R} (h : s.Genuine id)
    (hs : (atMostOnce id).step s l = some s') : s'.Genuine id := by
  cases l with
  | send command =>
    obtain ⟨hnew, hs⟩ := Option.ite_none_left_eq_some.mp hs
    obtain rfl := Option.some.inj hs
    exact ⟨List.nodup_cons.mpr ⟨hnew, h.distinct⟩, fun e he => List.mem_cons_of_mem _ (h.sent e he), h.once, h.answered⟩
  | perform command answer =>
    obtain ⟨⟨hsent, hnew⟩, hs⟩ := Option.ite_none_right_eq_some.mp hs
    obtain rfl := Option.some.inj hs
    exact ⟨h.distinct, List.forall_mem_cons.mpr ⟨hsent, h.sent⟩, List.nodup_cons.mpr ⟨hnew, h.once⟩,
      fun e he => List.mem_cons_of_mem _ (h.answered e he)⟩
  | receive command answer =>
    obtain ⟨hanswer, hs⟩ := Option.ite_none_right_eq_some.mp hs
    obtain rfl := Option.some.inj hs
    exact ⟨h.distinct, h.sent, h.once, List.forall_mem_cons.mpr ⟨hanswer, h.answered⟩⟩

/-- Whatever the channel reaches is genuine. -/
theorem Channel.genuine {s : Channel C R} (h : (atMostOnce id).Reaches (atMostOnce id).init s) : s.Genuine id := by
  obtain ⟨ls, hls⟩ := h
  refine System.inv_of_run (C := fun _ _ _ => True) (fun h hs _ => h.step hs) ?_ (System.EachStep.of_true _ _) hls
  exact ⟨List.nodup_nil, nofun, List.nodup_nil, nofun⟩

end

end Framework
