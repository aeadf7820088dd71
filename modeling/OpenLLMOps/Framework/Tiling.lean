import Mathlib.Data.List.Perm.Basic
import Mathlib.Order.Lattice

/-!
# Ranges that tile an interval

Half-open ranges `[r.1, r.2)` of a linear order tile `[a, b)` if those that are not
empty have no point in common, every point of the interval is in one of them and
no other point is, and every empty range is where one of the others ends or starts
(`Tiles`). That does not depend on the order of the ranges. A sweep, which expects
each range to start where the one before it stops, decides it for ranges that are
sorted by their starts, and then by their stops (`sweep_iff_tiles`).
-/

namespace Framework

variable {α : Type} [LinearOrder α]

/-- The point is in the range. -/
def Inside (p : α) (r : α × α) : Prop := r.1 ≤ p ∧ p < r.2

/-- Two ranges without a common point. -/
def Apart (r r' : α × α) : Prop := ∀ p, ¬ (Inside p r ∧ Inside p r')

theorem Apart.symm {r r' : α × α} (h : Apart r r') : Apart r' r := fun p hp => h p ⟨hp.2, hp.1⟩

/-- The ranges tile `[a, b)`. -/
structure Tiles (a b : α) (rs : List (α × α)) : Prop where
  apart : rs.Pairwise Apart
  covers : ∀ p, (∃ r ∈ rs, Inside p r) ↔ a ≤ p ∧ p < b
  boundary : ∀ r ∈ rs, r.1 = r.2 → r.1 = a ∨ ∃ r' ∈ rs, r'.1 < r'.2 ∧ (r.1 = r'.1 ∨ r.1 = r'.2)

/-- Each range starts where the one before it stops. -/
def Sweep (b : α) : α → List (α × α) → Prop
  | a, [] => a = b
  | a, r :: rs => r.1 = a ∧ Sweep b r.2 rs

/-- The order of the ranges. -/
def RangeLe (r r' : α × α) : Prop := r.1 < r'.1 ∨ r.1 = r'.1 ∧ r.2 ≤ r'.2

theorem Tiles.perm {a b : α} {rs rs' : List (α × α)} (h : Tiles a b rs) (hp : rs.Perm rs') : Tiles a b rs' where
  apart := (hp.pairwise_iff Apart.symm).mp h.apart
  covers p := by simpa only [hp.mem_iff] using h.covers p
  boundary r hr he := by simpa only [hp.mem_iff] using h.boundary r (hp.mem_iff.mpr hr) he

theorem tiles_nil {a b : α} : Tiles a b [] ↔ ¬ a < b := by
  constructor
  · intro h hab
    obtain ⟨r, hr, -⟩ := (h.covers a).mpr ⟨le_refl a, hab⟩
    cases hr
  · intro h
    refine ⟨.nil, fun p => ⟨fun ⟨r, hr, _⟩ => (List.not_mem_nil hr).elim, fun ⟨h₁, h₂⟩ => ?_⟩, nofun⟩
    exact absurd (h₁.trans_lt h₂) h

/-- No range reaches behind the interval. -/
theorem Tiles.stop_le {a b : α} (hab : a ≤ b) {rs : List (α × α)} (h : Tiles a b rs) {r : α × α} (hr : r ∈ rs)
    (hle : r.1 ≤ r.2) : r.2 ≤ b := by
  have hstop {q : α × α} (hq : q ∈ rs) (hne : q.1 < q.2) : q.1 < b ∧ q.2 ≤ b := by
    have hin := (h.covers q.1).mp ⟨q, hq, le_refl _, hne⟩
    refine ⟨hin.2, not_lt.mp fun hlt => ?_⟩
    exact absurd ((h.covers b).mp ⟨q, hq, hin.2.le, hlt⟩).2 (lt_irrefl b)
  rcases hle.lt_or_eq with hlt | heq
  · exact (hstop hr hlt).2
  · rcases h.boundary r hr heq with h₀ | ⟨q, hq, hne, hs | hs⟩
    · exact heq ▸ h₀ ▸ hab
    · exact heq ▸ hs ▸ (hstop hq hne).1.le
    · exact heq ▸ hs ▸ (hstop hq hne).2

theorem Sweep.le {a b : α} {rs : List (α × α)} (h : Sweep b a rs) (hle : ∀ r ∈ rs, r.1 ≤ r.2) : a ≤ b := by
  induction rs generalizing a with
  | nil => exact le_of_eq h
  | cons r rs ih =>
    obtain ⟨rfl, hrest⟩ := h
    have hr := hle r List.mem_cons_self
    exact hr.trans (ih hrest fun r' hr' => hle r' (List.mem_cons_of_mem _ hr'))

theorem Sweep.tiles {a b : α} {rs : List (α × α)} (h : Sweep b a rs) (hle : ∀ r ∈ rs, r.1 ≤ r.2) : Tiles a b rs := by
  induction rs generalizing a with
  | nil => exact tiles_nil.mpr (not_lt.mpr (le_of_eq h.symm))
  | cons r rs ih =>
    obtain ⟨rfl, hrest⟩ := h
    have hr := hle r List.mem_cons_self
    have hle' : ∀ r' ∈ rs, r'.1 ≤ r'.2 := fun r' hr' => hle r' (List.mem_cons_of_mem _ hr')
    have htail := ih hrest hle'
    have hrb : r.2 ≤ b := hrest.le hle'
    refine ⟨List.pairwise_cons.mpr ⟨fun r' hr' p hp => ?_, htail.apart⟩, fun p => ?_, ?_⟩
    · have hge := ((htail.covers p).mp ⟨r', hr', hp.2⟩).1
      exact absurd hp.1.2 (not_lt.mpr hge)
    · constructor
      · rintro ⟨r', hr', hin⟩
        rcases List.mem_cons.mp hr' with rfl | hr'
        · exact ⟨hin.1, hin.2.trans_le hrb⟩
        · obtain ⟨h₁, h₂⟩ := (htail.covers p).mp ⟨r', hr', hin⟩
          exact ⟨hr.trans h₁, h₂⟩
      · rintro ⟨h₁, h₂⟩
        rcases lt_or_ge p r.2 with hp | hp
        · exact ⟨r, List.mem_cons_self, h₁, hp⟩
        · obtain ⟨r', hr', hin⟩ := (htail.covers p).mpr ⟨hp, h₂⟩
          exact ⟨r', List.mem_cons_of_mem _ hr', hin⟩
    · intro s hs he
      rcases List.mem_cons.mp hs with rfl | hs
      · exact .inl rfl
      rcases htail.boundary s hs he with h₀ | ⟨r', hr', hne, hend⟩
      · rcases hr.lt_or_eq with hlt | heq
        · exact .inr ⟨r, List.mem_cons_self, hlt, .inr h₀⟩
        · exact .inl (h₀.trans heq.symm)
      · exact .inr ⟨r', List.mem_cons_of_mem _ hr', hne, hend⟩

/-- The first of the ranges starts where the interval does. -/
theorem Tiles.head {a b : α} {r : α × α} {rs : List (α × α)} (h : Tiles a b (r :: rs)) (hle : r.1 ≤ r.2)
    (hfirst : ∀ r' ∈ rs, RangeLe r r') : r.1 = a := by
  have hmin : ∀ r' ∈ r :: rs, r.1 ≤ r'.1 := by
    intro r' hr'
    rcases List.mem_cons.mp hr' with rfl | hr'
    · exact le_refl _
    · rcases hfirst r' hr' with hlt | heq
      · exact hlt.le
      · exact heq.1.le
  -- a point of the interval is not before the first start
  have hfrom {q : α × α} (hq : q ∈ r :: rs) (hne : q.1 < q.2) (hs : r.1 = q.1) : r.1 = a := by
    have hin := (h.covers q.1).mp ⟨q, hq, le_refl _, hne⟩
    by_contra hna
    have hlt : a < r.1 := lt_of_le_of_ne (hs ▸ hin.1) (Ne.symm hna)
    obtain ⟨q', hq', hin'⟩ := (h.covers a).mpr ⟨le_refl a, hlt.trans (hs ▸ hin.2)⟩
    exact absurd (hmin q' hq') (not_le.mpr (hin'.1.trans_lt hlt))
  rcases hle.lt_or_eq with hlt | heq
  · exact hfrom List.mem_cons_self hlt rfl
  · rcases h.boundary r List.mem_cons_self heq with h₀ | ⟨q, hq, hne, hs | hs⟩
    · exact h₀
    · exact hfrom hq hne hs
    · exact absurd (hmin q hq) (not_le.mpr (hs ▸ hne))

/-- What the other ranges tile. -/
theorem Tiles.tail {b : α} {r : α × α} {rs : List (α × α)} (h : Tiles r.1 b (r :: rs)) (hle : r.1 ≤ r.2)
    (hfirst : ∀ r' ∈ rs, RangeLe r r') : Tiles r.2 b rs := by
  obtain ⟨hapart, hpair⟩ := List.pairwise_cons.mp h.apart
  refine ⟨hpair, fun p => ⟨?_, fun hp => ?_⟩, fun s hs he => ?_⟩
  · rintro ⟨q, hq, hin⟩
    have hp := (h.covers p).mp ⟨q, List.mem_cons_of_mem _ hq, hin⟩
    refine ⟨?_, hp.2⟩
    by_contra hlt
    exact hapart q hq p ⟨⟨hp.1, not_le.mp hlt⟩, hin⟩
  · obtain ⟨q, hq, hin⟩ := (h.covers p).mpr ⟨hle.trans hp.1, hp.2⟩
    rcases List.mem_cons.mp hq with rfl | hq
    · exact absurd hp.1 (not_le.mpr hin.2)
    · exact ⟨q, hq, hin⟩
  · -- an empty range behind `r` does not start with it, unless `r` is empty as well
    have hstart (h₀ : s.1 = r.1) : s.1 = r.2 := by
      rcases hfirst s hs with hlt | ⟨-, hle'⟩
      · exact absurd hlt (h₀ ▸ lt_irrefl _)
      · exact le_antisymm (h₀.trans_le hle) (he ▸ hle')
    rcases h.boundary s (List.mem_cons_of_mem _ hs) he with h₀ | ⟨q, hq, hne, hend⟩
    · exact .inl (hstart h₀)
    · rcases List.mem_cons.mp hq with rfl | hq
      · exact .inl (hend.elim hstart id)
      · exact .inr ⟨q, hq, hne, hend⟩

/-- The sweep decides whether sorted ranges tile an interval. -/
theorem sweep_iff_tiles {a b : α} (hab : a ≤ b) {rs : List (α × α)} (hsorted : rs.Pairwise RangeLe)
    (hle : ∀ r ∈ rs, r.1 ≤ r.2) : Sweep b a rs ↔ Tiles a b rs := by
  refine ⟨fun h => h.tiles hle, fun h => ?_⟩
  induction rs generalizing a with
  | nil => exact le_antisymm hab (not_lt.mp (tiles_nil.mp h))
  | cons r rs ih =>
    obtain ⟨hfirst, hsorted⟩ := List.pairwise_cons.mp hsorted
    have hr := hle r List.mem_cons_self
    have hstart := h.head hr hfirst
    subst hstart
    have hstop : r.2 ≤ b := h.stop_le hab List.mem_cons_self hr
    exact ⟨rfl, ih hstop hsorted (fun r' hr' => hle r' (List.mem_cons_of_mem _ hr')) (h.tail hr hfirst)⟩

end Framework
