import OpenLLMOps.Framework.Except
import OpenLLMOps.Framework.PyStr

/-!
# Physical lines

The lines of a byte string, each with its newline (`lines`), and `readline(limit)`, which
stops at the limit. A line that is longer is read in pieces; whatever their sizes, the next
line starts behind its newline (`firstLine_drop`). A loop that reads with a bound and stops at
the first line beyond it treats the lines one after the other (`readLines_eq`).
-/

namespace Framework

/-- Up to the first newline. -/
def firstLine : Bytes → Bytes
  | [] => []
  | c :: rest => if c = 10 then [c] else c :: firstLine rest

/-- Behind the first newline. -/
def afterLine : Bytes → Bytes
  | [] => []
  | c :: rest => if c = 10 then rest else afterLine rest

/-- The lines, as iterating over a file gives them. -/
def lines : Bytes → List Bytes
  | [] => []
  | c :: rest =>
    if c = 10 then [c] :: lines rest
    else
      match lines rest with
      | [] => [[c]]
      | line :: more => (c :: line) :: more

/-- `readline(limit)`: the line, and what is left. -/
def readline (limit : Nat) (b : Bytes) : Bytes × Bytes :=
  let line := (firstLine b).take limit
  (line, b.drop line.length)

/-- `endswith(b"\n")`. -/
def endsLine (b : Bytes) : Bool := b.getLast? = some 10

/-- ASCII white space. -/
def isByteSpace (c : UInt8) : Bool := c = 32 || (9 ≤ c && c ≤ 13)

/-- `not raw_line.strip()`. -/
def isBlank (raw : Bytes) : Bool := raw.all isByteSpace

theorem firstLine_append_afterLine (b : Bytes) : firstLine b ++ afterLine b = b := by
  induction b with
  | nil => rfl
  | cons c rest ih =>
    simp only [firstLine, afterLine]
    split
    · rfl
    · rw [List.cons_append, ih]

theorem firstLine_ne_nil {b : Bytes} (h : b ≠ []) : firstLine b ≠ [] := by
  cases b with
  | nil => exact absurd rfl h
  | cons c rest =>
    simp only [firstLine]
    split <;> exact List.cons_ne_nil _ _

theorem lines_eq {b : Bytes} (h : b ≠ []) : lines b = firstLine b :: lines (afterLine b) := by
  induction b with
  | nil => exact absurd rfl h
  | cons c rest ih =>
    simp only [lines, firstLine, afterLine]
    split
    · rfl
    · cases rest with
      | nil => rfl
      | cons d rest => rw [ih (List.cons_ne_nil _ _)]

theorem length_afterLine_lt {b : Bytes} (h : b ≠ []) : (afterLine b).length < b.length := by
  have hsplit := congrArg List.length (firstLine_append_afterLine b)
  have hpos := List.length_pos_of_ne_nil (firstLine_ne_nil h)
  rw [List.length_append] at hsplit
  omega

/-- Induction on the lines of a byte string. -/
theorem lines_induction {P : Bytes → Prop} (nil : P []) (line : ∀ b, b ≠ [] → P (afterLine b) → P b) (b : Bytes) : P b := by
  by_cases h : b = []
  · rw [h]
    exact nil
  · exact line b h (lines_induction nil line (afterLine b))
termination_by b.length
decreasing_by exact length_afterLine_lt h

theorem lines_flatten (b : Bytes) : (lines b).flatten = b := by
  induction b using lines_induction with
  | nil => rfl
  | line b h ih => rw [lines_eq h, List.flatten_cons, ih, firstLine_append_afterLine]

theorem lines_ne_nil {b line : Bytes} (h : line ∈ lines b) : line ≠ [] := by
  induction b using lines_induction with
  | nil => cases h
  | line b hb ih =>
    rw [lines_eq hb, List.mem_cons] at h
    rcases h with rfl | h
    · exact firstLine_ne_nil hb
    · exact ih h

/-- A newline ends a line. -/
theorem firstLine_take_endsLine {b : Bytes} {n : Nat} (h : n < (firstLine b).length) : endsLine ((firstLine b).take n) = false := by
  induction b generalizing n with
  | nil => exact absurd h (Nat.not_lt_zero n)
  | cons c rest ih =>
    simp only [firstLine] at h ⊢
    by_cases hc : c = 10
    · rw [if_pos hc] at h ⊢
      have : n = 0 := by simpa using h
      rw [this]
      rfl
    · rw [if_neg hc] at h ⊢
      cases n with
      | zero => rfl
      | succ n =>
        have hn : n < (firstLine rest).length := by simpa using h
        have hrest := ih hn
        rw [List.take_succ_cons]
        cases htake : (firstLine rest).take n with
        | nil => simp [endsLine, hc]
        | cons d ds =>
          rw [htake] at hrest
          simpa [endsLine] using hrest

/-- A line without a newline is the last. -/
theorem afterLine_of_not_endsLine {b : Bytes} (h : endsLine (firstLine b) = false) : afterLine b = [] := by
  induction b with
  | nil => rfl
  | cons c rest ih =>
    simp only [firstLine, afterLine] at h ⊢
    by_cases hc : c = 10
    · rw [if_pos hc, hc] at h
      cases h
    · rw [if_neg hc] at h ⊢
      refine ih ?_
      cases hrest : firstLine rest with
      | nil => rfl
      | cons d ds =>
        rw [hrest] at h
        simpa [endsLine] using h

/-- Behind a piece of a line is the rest of that line. -/
theorem firstLine_drop {b : Bytes} {n : Nat} (h : n < (firstLine b).length) :
    firstLine (b.drop n) = (firstLine b).drop n ∧ afterLine (b.drop n) = afterLine b := by
  induction b generalizing n with
  | nil => exact absurd h (Nat.not_lt_zero n)
  | cons c rest ih =>
    cases n with
    | zero => exact ⟨rfl, rfl⟩
    | succ n =>
      simp only [firstLine, afterLine] at h ⊢
      by_cases hc : c = 10
      · rw [if_pos hc] at h
        exact absurd h (by simp)
      · rw [if_neg hc] at h ⊢
        rw [if_neg hc]
        exact ih (by simpa using h)

@[simp] theorem readline_nil (limit : Nat) : readline limit [] = ([], []) := by simp [readline, firstLine]

theorem readline_of_le {limit : Nat} {b : Bytes} (h : (firstLine b).length ≤ limit) :
    readline limit b = (firstLine b, afterLine b) := by
  have hdrop : b.drop (firstLine b).length = afterLine b :=
    calc b.drop (firstLine b).length = (firstLine b ++ afterLine b).drop (firstLine b).length := by
          rw [firstLine_append_afterLine]
      _ = afterLine b := List.drop_left
  rw [readline, List.take_of_length_le h, hdrop]

theorem readline_of_lt {limit : Nat} {b : Bytes} (h : limit < (firstLine b).length) :
    readline limit b = ((firstLine b).take limit, b.drop limit) := by
  rw [readline, List.length_take, Nat.min_eq_left (Nat.le_of_lt h)]

/-! ## Lines that are not blank -/

/-- The lines that are not blank, with their numbers. -/
def recordLines (n : Nat) (lines : List Bytes) : List (Bytes × Nat) :=
  (lines.zipIdx n).filter fun line => !isBlank line.1

theorem recordLines_cons (n : Nat) (raw : Bytes) (rest : List Bytes) :
    recordLines n (raw :: rest) = if isBlank raw then recordLines (n + 1) rest else (raw, n) :: recordLines (n + 1) rest := by
  cases hblank : isBlank raw <;> simp [recordLines, List.zipIdx_cons, hblank]

theorem length_recordLines (n : Nat) (lines : List Bytes) :
    (recordLines n lines).length = lines.countP fun line => !isBlank line := by
  induction lines generalizing n with
  | nil => rfl
  | cons raw rest ih => cases hblank : isBlank raw <;> simp [recordLines_cons, hblank, ih]

/-! ## Bounded reading -/

section

variable {σ ε : Type} (limit : Nat) (step : σ → Bytes → Except ε σ)

/-- `while True: raw = readline(limit + 1); if not raw: break; …`; no run takes more rounds than
there are bytes. -/
def readLines : Nat → σ → Bytes → Except ε σ
  | 0, s, _ => .ok s
  | fuel + 1, s, b =>
    if (readline (limit + 1) b).1 = [] then .ok s
    else do
      let s ← step s (readline (limit + 1) b).1
      readLines fuel s (readline (limit + 1) b).2

variable {limit step}

/-- If the loop stops at a line that is too long, whatever has been read of it, it goes line by line. -/
theorem readLines_eq (hlong : ∀ s, ∃ e, ∀ raw : Bytes, limit < raw.length → step s raw = .error e) (fuel : Nat) {s : σ}
    {b : Bytes} (hfuel : b.length < fuel) : readLines limit step fuel s b = (lines b).foldlM step s := by
  induction fuel generalizing s b with
  | zero => exact absurd hfuel (Nat.not_lt_zero _)
  | succ fuel ih =>
    by_cases hnil : b = []
    · subst hnil
      rw [readLines, readline_nil, if_pos rfl]
      rfl
    have hfirst := firstLine_ne_nil hnil
    have hshorter := length_afterLine_lt hnil
    rw [lines_eq hnil, List.foldlM_cons]
    by_cases hle : (firstLine b).length ≤ limit + 1
    · rw [readLines, readline_of_le hle, if_neg hfirst]
      congr
      funext s'
      exact ih (by dsimp only; omega)
    · have hlt : limit + 1 < (firstLine b).length := Nat.lt_of_not_le hle
      have hlength : ((firstLine b).take (limit + 1)).length = limit + 1 := by
        rw [List.length_take]
        omega
      have hsome : (firstLine b).take (limit + 1) ≠ [] := by
        rw [← List.length_pos_iff_ne_nil, hlength]
        omega
      obtain ⟨e, he⟩ := hlong s
      rw [readLines, readline_of_lt hlt, if_neg hsome, he _ (by dsimp only; omega), he _ (by omega)]
      rfl

end

end Framework
