import OpenLLMOps.Datasets.Upload

/-!
# The upload line by line

`validate_and_store_jsonl` against the physical lines of the upload (`scanLines`): the streaming loop, with
its bounded reads and its draining of long lines, does to the files and to its variables what reading line
by line would do (`wp_storeLines`, `wp_validateAndStoreJsonl`).
-/

namespace OpenLLMOps.Datasets

open Framework Effect

section

variable (library : DatasetLibrary) (datasetType : DatasetType)

/-- One physical line. -/
def scanLine (p : Progress) (line : Bytes) : Except UploadError Progress :=
  let total := p.totalBytes + line.length
  if byteLimit datasetType < total then .error (.tooLarge (byteLimit datasetType))
  else if lineLimit datasetType < line.length then .ok (p.tooLong datasetType total)
  else if recordLimit datasetType < (p.checked library datasetType total line).context.recordCount then
    .error (.tooManyRecords (recordLimit datasetType))
  else .ok (p.checked library datasetType total line)

/-- The physical lines, one after the other. -/
def scanLines : Progress → List Bytes → Except UploadError Progress
  | p, [] => .ok p
  | p, line :: rest => do
    let p ← scanLine library datasetType p line
    scanLines p rest

end

section

variable {library : DatasetLibrary} {around : Surroundings} {datasetType : DatasetType} {s : UploadState}

theorem wp_operation {op : FileOperation} {Q : Except UploadError Unit → UploadState → Prop}
    (hraise : Q (.error .operation) s) (hok : around op = false → Q (.ok ()) s) : wp (operation around op) Q s := by
  unfold operation
  split
  · exact hraise
  · rename_i h
    exact hok (Bool.eq_false_of_not_eq_true h)

theorem wp_readUpload {limit : Nat} {Q : Except UploadError Bytes → UploadState → Prop}
    (hraise : ∀ n, Q (.error .operation) { s with operations := n })
    (hok : around (.read s.operations) = false → Q (.ok (readline limit s.source).1)
      { s with source := (readline limit s.source).2, operations := s.operations + 1 }) :
    wp (readUpload around limit) Q s :=
  wp_bind.mpr (wp_bind.mpr (wp_operation (hraise _) hok))

theorem wp_writeTemporary {raw : Bytes} {Q : Except UploadError Unit → UploadState → Prop}
    (hraise : ∀ n, Q (.error .operation) { s with operations := n })
    (hok : around (.write s.operations) = false → Q (.ok ())
      { s with temporary := s.temporary.map (· ++ raw), operations := s.operations + 1 }) :
    wp (writeTemporary around raw) Q s :=
  wp_bind.mpr (wp_bind.mpr (wp_operation (hraise _) hok))

theorem wp_sourceLength {Q : Except UploadError Nat → UploadState → Prop} :
    wp sourceLength Q s ↔ Q (.ok s.source.length) s := Iff.rfl

theorem wp_setTemporary {content : Option Bytes} {Q : Except UploadError Unit → UploadState → Prop} :
    wp (setTemporary content) Q s ↔ Q (.ok ()) { s with temporary := content } := Iff.rfl

theorem wp_countBytes {total : Nat} {raw : Bytes} {Q : Except UploadError Nat → UploadState → Prop}
    (hlarge : byteLimit datasetType < total + raw.length → Q (.error (.tooLarge (byteLimit datasetType))) s)
    (hok : total + raw.length ≤ byteLimit datasetType → Q (.ok (total + raw.length)) s) :
    wp (countBytes datasetType total raw) Q s := by
  unfold countBytes
  split
  · rename_i h
    exact hlarge h
  · rename_i h
    exact hok (Nat.le_of_not_lt h)

/-- The upload is read, and the files are left. -/
structure Reads (s s' : UploadState) : Prop where
  temporary : s'.temporary = s.temporary
  final : s'.final = s.final

/-- What draining comes to, when `rest` of the line is left to read. -/
def Drained (datasetType : DatasetType) (rest : Bytes) (total : Nat) (s : UploadState) :
    Except UploadError Nat → UploadState → Prop
  | .ok total', s' => Reads s s' ∧ s'.source = afterLine s.source ∧ total' = total + rest.length ∧
      (total ≤ byteLimit datasetType → total' ≤ byteLimit datasetType)
  | .error e, s' => Reads s s' ∧ (e = .operation ∨
      e = .tooLarge (byteLimit datasetType) ∧ byteLimit datasetType < total + rest.length)

theorem drainLine_ended {fuel : Nat} {raw : Bytes} {total : Nat} (h : endsLine raw = true) :
    drainLine around datasetType fuel raw total = Pure.pure total := by
  cases fuel with
  | zero => rfl
  | succ fuel => exact if_pos h

/-- A block of a line that is not yet behind its newline. -/
theorem drainLine_goes_on {fuel : Nat} {raw : Bytes} {total : Nat} (h : endsLine raw = false) :
    drainLine around datasetType (fuel + 1) raw total = (do
      let drained ← readUpload around (min (1024 * 1024) (lineLimit datasetType + 1))
      if drained = [] then Pure.pure total
      else do
        let total ← countBytes datasetType total drained
        drainLine around datasetType fuel drained total) :=
  if_neg (by rw [h]; exact Bool.false_ne_true)

/-- Draining takes the rest of the line from the upload, unless it stops at the limit. -/
theorem wp_drainLine (fuel : Nat) {raw : Bytes} {total : Nat} {s : UploadState} (hfuel : s.source.length < fuel)
    (hraw : endsLine raw = false) :
    wp (drainLine around datasetType fuel raw total) (Drained datasetType (firstLine s.source) total s) s := by
  induction fuel generalizing raw total s with
  | zero => exact absurd hfuel (Nat.not_lt_zero _)
  | succ fuel ih =>
    rw [drainLine_goes_on hraw, wp_bind]
    generalize hm : min (1024 * 1024) (lineLimit datasetType + 1) = m
    have hpos : 0 < m := by omega
    refine wp_readUpload (fun n => ⟨⟨rfl, rfl⟩, .inl rfl⟩) fun _ => ?_
    rw [seq_ok, wp_ite]
    by_cases hnil : s.source = []
    · have hread : readline m s.source = ([], []) := by rw [hnil, readline_nil]
      rw [hread, if_pos rfl, hnil]
      exact ⟨⟨rfl, rfl⟩, by rw [hnil]; rfl, rfl, id⟩
    have hsplit := congrArg List.length (firstLine_append_afterLine s.source)
    rw [List.length_append] at hsplit
    have hfirstPos := List.length_pos_of_ne_nil (firstLine_ne_nil hnil)
    by_cases hle : (firstLine s.source).length ≤ m
    · rw [readline_of_le hle, if_neg (firstLine_ne_nil hnil), wp_bind]
      refine wp_countBytes (fun hlarge => ⟨⟨rfl, rfl⟩, .inr ⟨rfl, hlarge⟩⟩) fun hcount => ?_
      rw [seq_ok]
      dsimp only at hcount ⊢
      cases hend : endsLine (firstLine s.source) with
      | true =>
        rw [drainLine_ended hend]
        exact ⟨⟨rfl, rfl⟩, rfl, rfl, fun _ => hcount⟩
      | false =>
        have hlast := afterLine_of_not_endsLine hend
        refine wp_mono (ih (by dsimp only; omega) hend) fun r s' h => ?_
        rw [hlast] at h
        cases r with
        | error e =>
          obtain ⟨hreads, he⟩ := h
          exact ⟨⟨hreads.temporary, hreads.final⟩, he.imp_right fun hlarge => ⟨hlarge.1, by simpa [firstLine] using hlarge.2⟩⟩
        | ok total' =>
          obtain ⟨hreads, hsource, htotal, hlimit⟩ := h
          exact ⟨⟨hreads.temporary, hreads.final⟩, hsource.trans hlast.symm, by simpa [firstLine] using htotal,
            fun _ => hlimit hcount⟩
    · have hlt : m < (firstLine s.source).length := Nat.lt_of_not_le hle
      obtain ⟨hfirst, hafter⟩ := firstLine_drop hlt
      have hlength : ((firstLine s.source).take m).length = m := by
        rw [List.length_take]
        omega
      have hchunk : (firstLine s.source).take m ≠ [] := by
        rw [← List.length_pos_iff_ne_nil, hlength]
        exact hpos
      have hrest : (firstLine (s.source.drop m)).length = (firstLine s.source).length - m := by
        rw [hfirst, List.length_drop]
      rw [readline_of_lt hlt, if_neg hchunk, wp_bind]
      refine wp_countBytes (fun hlarge => ⟨⟨rfl, rfl⟩, .inr ⟨rfl, by dsimp only at hlarge; omega⟩⟩) fun hcount => ?_
      rw [seq_ok]
      dsimp only at hcount ⊢
      refine wp_mono (ih (by simp only [List.length_drop]; omega) (firstLine_take_endsLine hlt)) fun r s' h => ?_
      cases r with
      | error e =>
        obtain ⟨hreads, he⟩ := h
        refine ⟨⟨hreads.temporary, hreads.final⟩, he.imp_right fun hlarge => ⟨hlarge.1, ?_⟩⟩
        have := hlarge.2
        dsimp only at this
        omega
      | ok total' =>
        obtain ⟨hreads, hsource, htotal, hlimit⟩ := h
        refine ⟨⟨hreads.temporary, hreads.final⟩, hsource.trans hafter, ?_, fun _ => hlimit hcount⟩
        dsimp only at htotal
        omega

/-! ## The errors -/

theorem recordError_ne_nil (errors : List LineError) (line : Nat) (message : PyStr) :
    recordError errors line message ≠ [] := by
  unfold recordError
  split
  · simp
  · rename_i h
    intro hnil
    rw [hnil] at h
    exact h (by decide)

theorem recordErrors_eq_nil {errors : List LineError} {line : Nat} {messages : List PyStr}
    (h : recordErrors errors line messages = []) : errors = [] ∧ messages = [] := by
  induction messages generalizing errors with
  | nil => exact ⟨h, rfl⟩
  | cons message messages ih => exact absurd (ih h).1 (recordError_ne_nil _ _ _)

/-- A line keeps the errors. -/
theorem errors_of_scanLine {p q : Progress} {line : Bytes} (h : scanLine library datasetType p line = .ok q)
    (hq : q.errors = []) : p.errors = [] := by
  simp only [scanLine] at h
  split at h
  · cases h
  · split at h
    · cases h
      exact absurd hq (recordError_ne_nil _ _ _)
    · split at h
      · cases h
      · cases h
        exact (recordErrors_eq_nil hq).1

theorem errors_of_scanLines {lines : List Bytes} {p q : Progress}
    (h : scanLines library datasetType p lines = .ok q) (hq : q.errors = []) : p.errors = [] := by
  induction lines generalizing p with
  | nil =>
    cases h
    exact hq
  | cons line rest ih =>
    obtain ⟨p', hp', hrest⟩ := bind_eq_ok.mp h
    exact errors_of_scanLine hp' (ih hrest)

/-- The errors of the lines are raised behind the loop. -/
theorem scanLines_ne_invalid {lines : List Bytes} {p : Progress} (errors : List LineError) :
    scanLines library datasetType p lines ≠ .error (.invalid errors) := by
  induction lines generalizing p with
  | nil => exact nofun
  | cons line rest ih =>
    rw [scanLines]
    simp only [scanLine]
    split
    · exact nofun
    · split
      · exact ih
      · split
        · exact nofun
        · exact ih

/-! ## The loop -/

/-- The operations of the loop, from the one of the number `n` on, when no line is too long. -/
def lineOperations : Nat → List Bytes → List FileOperation
  | n, [] => [.read n]
  | n, _ :: rest => .read n :: .write (n + 1) :: lineOperations (n + 2) rest

/-- What storing a line comes to, `b` being the upload from that line on. -/
def LineStored (library : DatasetLibrary) (around : Surroundings) (datasetType : DatasetType) (p : Progress)
    (b : Bytes) (s : UploadState) : Except UploadError Progress → UploadState → Prop
  | .ok q, s' => scanLine library datasetType p (firstLine b) = .ok q ∧ s'.source = afterLine b ∧
      s'.final = s.final ∧ (s.temporary = some p.digested → s'.temporary = some q.digested) ∧
      (q.errors = [] → s'.operations = s.operations + 1 ∧ around (.write s.operations) = false)
  | .error e, s' => s'.final = s.final ∧
      (e = .operation ∨ scanLine library datasetType p (firstLine b) = .error e)

/-- A line of which all has been read. -/
theorem wp_storeLine_short {p : Progress} {b : Bytes} {s : UploadState}
    (hle : (firstLine b).length ≤ lineLimit datasetType) (hsource : s.source = afterLine b) :
    wp (storeLine library around datasetType p (firstLine b)) (LineStored library around datasetType p b s) s := by
  unfold storeLine
  rw [wp_bind]
  refine wp_countBytes (fun hlarge => ⟨rfl, .inr (if_pos hlarge)⟩) fun hcount => ?_
  have hline : scanLine library datasetType p (firstLine b) =
      if recordLimit datasetType <
          (p.checked library datasetType (p.totalBytes + (firstLine b).length) (firstLine b)).context.recordCount then
        .error (.tooManyRecords (recordLimit datasetType))
      else .ok (p.checked library datasetType (p.totalBytes + (firstLine b).length) (firstLine b)) := by
    simp only [scanLine]
    rw [if_neg (Nat.not_lt.mpr hcount), if_neg (Nat.not_lt.mpr hle)]
  rw [seq_ok, if_neg (Nat.not_lt.mpr hle), wp_bind]
  refine wp_writeTemporary (fun _ => ⟨rfl, .inl rfl⟩) fun hwrite => ?_
  rw [seq_ok, countRecords, wp_ite]
  by_cases hmany : recordLimit datasetType <
      (p.checked library datasetType (p.totalBytes + (firstLine b).length) (firstLine b)).context.recordCount
  · rw [if_pos hmany]
    exact ⟨rfl, .inr (hline.trans (if_pos hmany))⟩
  · rw [if_neg hmany]
    refine ⟨hline.trans (if_neg hmany), hsource, rfl, fun h => ?_, fun _ => ⟨rfl, hwrite⟩⟩
    show s.temporary.map (· ++ firstLine b) = some (p.digested ++ firstLine b)
    rw [h, Option.map_some]

/-- A line that is too long, of which the beginning has been read. -/
theorem wp_storeLine_long {p : Progress} {b : Bytes} {s : UploadState}
    (hlt : lineLimit datasetType < (firstLine b).length)
    (hread : (((firstLine b).take (lineLimit datasetType + 1)), s.source) = readline (lineLimit datasetType + 1) b) :
    wp (storeLine library around datasetType p ((firstLine b).take (lineLimit datasetType + 1)))
      (LineStored library around datasetType p b s) s := by
  have hlength : ((firstLine b).take (lineLimit datasetType + 1)).length = lineLimit datasetType + 1 := by
    rw [List.length_take]
    omega
  have hlarge : ∀ total, total ≤ p.totalBytes + (firstLine b).length → byteLimit datasetType < total →
      scanLine library datasetType p (firstLine b) = .error (.tooLarge (byteLimit datasetType)) := by
    intro total htotal hlarge
    simp only [scanLine]
    rw [if_pos (by omega)]
  have hlong : ∀ total, total = p.totalBytes + (firstLine b).length → total ≤ byteLimit datasetType →
      scanLine library datasetType p (firstLine b) = .ok (p.tooLong datasetType total) := by
    intro total htotal hcount
    simp only [scanLine]
    rw [if_neg (by omega), if_pos hlt, htotal]
  have herrors : ∀ total, (p.tooLong datasetType total).errors ≠ [] := fun total => recordError_ne_nil _ _ _
  unfold storeLine
  rw [wp_bind]
  refine wp_countBytes (fun h => ⟨rfl, .inr (hlarge _ (by omega) h)⟩) fun hcount => ?_
  rw [seq_ok, hlength, if_pos (Nat.lt_succ_self _), wp_bind, wp_sourceLength, seq_ok, wp_bind]
  rw [hlength] at hcount
  by_cases hend : (firstLine b).length ≤ lineLimit datasetType + 1
  · -- one byte more than the limit has been read, and that is all of the line
    rw [readline_of_le hend] at hread
    obtain ⟨htake, hsource⟩ := Prod.mk.injEq _ _ _ _ ▸ hread
    have hall : (firstLine b).length = lineLimit datasetType + 1 := by omega
    rw [htake]
    cases hnewline : endsLine (firstLine b) with
    | true =>
      rw [drainLine_ended hnewline]
      exact ⟨hlong _ (by omega) hcount, hsource, rfl, id, fun h => absurd h (herrors _)⟩
    | false =>
      have hlast := afterLine_of_not_endsLine hnewline
      refine wp_mono (wp_drainLine _ (Nat.lt_succ_self _) hnewline) fun r s' h => ?_
      rw [hsource, hlast] at h
      cases r with
      | error e =>
        obtain ⟨hreads, he⟩ := h
        refine ⟨hreads.final, he.imp_right fun hl => ?_⟩
        rw [hl.1]
        refine hlarge _ ?_ hl.2
        simp only [firstLine, List.length_nil]
        omega
      | ok total =>
        obtain ⟨hreads, hleft, htotal, hlimit⟩ := h
        have hsum : total = p.totalBytes + (firstLine b).length := by
          rw [htotal, hall]
          simp only [firstLine, List.length_nil]
          omega
        refine ⟨hlong _ hsum (hlimit hcount), ?_, hreads.final, fun h => hreads.temporary.trans h,
          fun h => absurd h (herrors _)⟩
        refine hleft.trans ?_
        rw [hsource, hlast]
        rfl
  · have hgt : lineLimit datasetType + 1 < (firstLine b).length := Nat.lt_of_not_le hend
    rw [readline_of_lt hgt] at hread
    have hsource : s.source = b.drop (lineLimit datasetType + 1) := congrArg Prod.snd hread
    obtain ⟨hfirst, hafter⟩ := firstLine_drop hgt
    have hrest : (firstLine s.source).length = (firstLine b).length - (lineLimit datasetType + 1) := by
      rw [hsource, hfirst, List.length_drop]
    refine wp_mono (wp_drainLine _ (Nat.lt_succ_self _) (firstLine_take_endsLine hgt)) fun r s' h => ?_
    cases r with
    | error e =>
      obtain ⟨hreads, he⟩ := h
      refine ⟨hreads.final, he.imp_right fun hl => ?_⟩
      rw [hl.1]
      exact hlarge _ (by omega) hl.2
    | ok total =>
      obtain ⟨hreads, hleft, htotal, hlimit⟩ := h
      exact ⟨hlong _ (by omega) (hlimit hcount), hleft.trans (hsource ▸ hafter), hreads.final,
        fun h => hreads.temporary.trans h, fun h => absurd h (herrors _)⟩

/-- What the loop comes to. -/
def LinesStored (library : DatasetLibrary) (around : Surroundings) (datasetType : DatasetType) (p : Progress)
    (s : UploadState) : Except UploadError Progress → UploadState → Prop
  | .ok q, s' => scanLines library datasetType p (lines s.source) = .ok q ∧ s'.final = s.final ∧
      (s.temporary = some p.digested → s'.temporary = some q.digested) ∧
      (q.errors = [] → ∀ op ∈ lineOperations s.operations (lines s.source), around op = false)
  | .error e, s' => s'.final = s.final ∧
      (e = .operation ∨ scanLines library datasetType p (lines s.source) = .error e)

/-- One line, and the lines behind it. -/
theorem LineStored.append {p p' : Progress} {s s₁ s₂ s' : UploadState} {r : Except UploadError Progress}
    (hb : s.source ≠ []) (hread : around (.read s.operations) = false)
    (hs₁ : s₁.final = s.final ∧ s₁.temporary = s.temporary ∧ s₁.operations = s.operations + 1)
    (hline : LineStored library around datasetType p s.source s₁ (.ok p') s₂)
    (hrest : LinesStored library around datasetType p' s₂ r s') : LinesStored library around datasetType p s r s' := by
  obtain ⟨hscan, hsource, hfinal, htemporary, hwrite⟩ := hline
  obtain ⟨hfinal₁, htemporary₁, hoperations₁⟩ := hs₁
  have hlines : scanLines library datasetType p (lines s.source) = scanLines library datasetType p' (lines s₂.source) := by
    rw [lines_eq hb, hsource, scanLines, hscan]
    rfl
  cases r with
  | error e => exact ⟨hrest.1.trans (hfinal.trans hfinal₁), hrest.2.imp_right hlines.trans⟩
  | ok q =>
    obtain ⟨hscan', hfinal', htemporary', hops⟩ := hrest
    refine ⟨hlines.trans hscan', hfinal'.trans (hfinal.trans hfinal₁),
      fun h => htemporary' (htemporary (htemporary₁.trans h)), fun hq op hop => ?_⟩
    obtain ⟨hcount, hwritten⟩ := hwrite (errors_of_scanLines hscan' hq)
    rw [hoperations₁] at hcount hwritten
    rw [lines_eq hb, lineOperations, List.mem_cons, List.mem_cons] at hop
    rcases hop with rfl | rfl | hop
    · exact hread
    · exact hwritten
    · refine hops hq op ?_
      rw [hcount, hsource]
      exact hop

/-- The loop reads the upload line by line. -/
theorem wp_storeLines (fuel : Nat) {p : Progress} {s : UploadState} (hfuel : s.source.length < fuel) :
    wp (storeLines library around datasetType fuel p) (LinesStored library around datasetType p s) s := by
  induction fuel generalizing p s with
  | zero => exact absurd hfuel (Nat.not_lt_zero _)
  | succ fuel ih =>
    unfold storeLines
    rw [wp_bind]
    refine wp_readUpload (fun _ => ⟨rfl, .inl rfl⟩) fun hread => ?_
    rw [seq_ok, wp_ite]
    by_cases hnil : s.source = []
    · have hline : readline (lineLimit datasetType + 1) s.source = ([], []) := by rw [hnil, readline_nil]
      rw [hline, if_pos rfl]
      refine ⟨by rw [hnil]; rfl, rfl, id, fun _ op hop => ?_⟩
      rw [hnil] at hop
      rw [List.mem_singleton.mp hop]
      exact hread
    have hfirst := firstLine_ne_nil hnil
    have hshorter := length_afterLine_lt hnil
    have hgo : ∀ s₁ : UploadState, s₁.final = s.final ∧ s₁.temporary = s.temporary ∧ s₁.operations = s.operations + 1 →
        ∀ raw, wp (storeLine library around datasetType p raw) (LineStored library around datasetType p s.source s₁) s₁ →
        wp (do
          let p ← storeLine library around datasetType p raw
          storeLines library around datasetType fuel p) (LinesStored library around datasetType p s) s₁ := by
      intro s₁ hs₁ raw hraw
      rw [wp_bind]
      refine wp_mono hraw fun r s₂ h => ?_
      cases r with
      | error e =>
        refine ⟨h.1.trans hs₁.1, h.2.imp_right fun he => ?_⟩
        rw [lines_eq hnil, scanLines, he]
        rfl
      | ok p' =>
        rw [seq_ok]
        refine wp_mono (ih ?_) fun r s' hrest => h.append hnil hread hs₁ hrest
        rw [h.2.1]
        omega
    by_cases hle : (firstLine s.source).length ≤ lineLimit datasetType
    · rw [readline_of_le (Nat.le_succ_of_le hle), if_neg hfirst]
      refine hgo _ ?_ _ ?_
      · exact ⟨rfl, rfl, rfl⟩
      · exact wp_storeLine_short hle rfl
    · have hlt : lineLimit datasetType < (firstLine s.source).length := Nat.lt_of_not_le hle
      have htake : (readline (lineLimit datasetType + 1) s.source).1 =
          (firstLine s.source).take (lineLimit datasetType + 1) := rfl
      have hsome : (firstLine s.source).take (lineLimit datasetType + 1) ≠ [] := by
        rw [← List.length_pos_iff_ne_nil, List.length_take]
        omega
      rw [htake, if_neg hsome]
      refine hgo _ ?_ _ ?_
      · exact ⟨rfl, rfl, rfl⟩
      · exact wp_storeLine_long hlt rfl

/-! ## The whole call -/

/-- The operations of an upload that is stored. -/
def uploadOperations (s : UploadState) : List FileOperation :=
  .makeParent :: .openTemporary :: (lineOperations s.operations (lines s.source) ++ [.closeTemporary, .replace])

/-- What writing the temporary file comes to. -/
def TemporaryWritten (library : DatasetLibrary) (around : Surroundings) (datasetType : DatasetType) (s : UploadState) :
    Except UploadError Progress → UploadState → Prop
  | .ok p, s' => scanLines library datasetType .start (lines s.source) = .ok p ∧ s'.final = s.final ∧
      s'.temporary = some p.digested ∧
      (p.errors = [] →
        ∀ op ∈ .openTemporary :: (lineOperations s.operations (lines s.source) ++ [.closeTemporary]), around op = false)
  | .error e, s' => s'.final = s.final ∧
      (e = .operation ∨ scanLines library datasetType .start (lines s.source) = .error e)

theorem wp_writeTemporaryFile :
    wp (writeTemporaryFile library around datasetType) (TemporaryWritten library around datasetType s) s := by
  unfold writeTemporaryFile
  rw [wp_bind]
  refine wp_operation ⟨rfl, .inl rfl⟩ fun hopen => ?_
  rw [seq_ok, wp_bind, wp_setTemporary, seq_ok, wp_bind, wp_tryCatch, wp_bind, wp_sourceLength, seq_ok]
  refine wp_mono (wp_storeLines _ (Nat.lt_succ_self _)) fun r s' h => ?_
  cases r with
  | error e =>
    dsimp only
    rw [wp_bind]
    refine wp_operation ⟨h.1, .inl rfl⟩ fun _ => ?_
    exact h
  | ok p =>
    obtain ⟨hscan, hfinal, htemporary, hops⟩ := h
    dsimp only
    rw [seq_ok, wp_bind]
    refine wp_operation ⟨hfinal, .inl rfl⟩ fun hclose => ?_
    refine ⟨hscan, hfinal, htemporary rfl, fun hp op hop => ?_⟩
    rw [List.mem_cons, List.mem_append, List.mem_singleton] at hop
    rcases hop with rfl | hop | rfl
    · exact hopen
    · exact hops hp op hop
    · exact hclose

theorem errors_of_finalErrors {p : Progress} (h : p.finalErrors = []) : p.errors = [] ∧ p.context.recordCount ≠ 0 := by
  unfold Progress.finalErrors at h
  split at h
  · exact absurd h (recordError_ne_nil _ _ _)
  · exact ⟨h, ‹_›⟩

/-- What raises, with what is left of the upload's lines. -/
def Refused (library : DatasetLibrary) (datasetType : DatasetType) (s : UploadState) (e : UploadError) : Prop :=
  e = .operation ∨ scanLines library datasetType .start (lines s.source) = .error e ∨
    ∃ p, scanLines library datasetType .start (lines s.source) = .ok p ∧ p.finalErrors ≠ [] ∧ e = .invalid p.finalErrors

/-- What the body of the `try` comes to. -/
def UploadStored (library : DatasetLibrary) (around : Surroundings) (datasetType : DatasetType) (s : UploadState) :
    Except UploadError StoredDataset → UploadState → Prop
  | .ok r, s' => ∃ p, scanLines library datasetType .start (lines s.source) = .ok p ∧ p.finalErrors = [] ∧
      r = p.stored library ∧ s'.temporary = none ∧ s'.final = some p.digested ∧
      ∀ op ∈ .openTemporary :: (lineOperations s.operations (lines s.source) ++ [.closeTemporary, .replace]),
        around op = false
  | .error e, s' => s'.final = s.final ∧ Refused library datasetType s e

theorem wp_storeUpload :
    wp (storeUpload library around datasetType) (UploadStored library around datasetType s) s := by
  unfold storeUpload
  rw [wp_bind]
  refine wp_mono wp_writeTemporaryFile fun r s' h => ?_
  cases r with
  | error e => exact ⟨h.1, h.2.imp_right .inl⟩
  | ok p =>
    obtain ⟨hscan, hfinal, htemporary, hops⟩ := h
    rw [seq_ok, wp_ite]
    by_cases herrors : p.finalErrors = []
    · rw [if_neg (not_not_intro herrors), wp_bind]
      refine wp_operation ⟨hfinal, .inl rfl⟩ fun hreplace => ?_
      refine ⟨p, hscan, herrors, rfl, rfl, htemporary, fun op hop => ?_⟩
      have hop' : op ∈ .openTemporary :: (lineOperations s.operations (lines s.source) ++ [.closeTemporary]) ∨
          op = .replace := by
        simp only [List.mem_cons, List.mem_append, List.not_mem_nil, or_false] at hop ⊢
        tauto
      rcases hop' with hop' | rfl
      · exact hops (errors_of_finalErrors herrors).1 op hop'
      · exact hreplace
    · rw [if_pos herrors]
      exact ⟨hfinal, .inr (.inr ⟨p, hscan, herrors, rfl⟩)⟩

/-- What `validate_and_store_jsonl` comes to. -/
def Outcome (library : DatasetLibrary) (around : Surroundings) (datasetType : DatasetType) (s : UploadState) :
    Except UploadError StoredDataset → UploadState → Prop
  | .ok r, s' => ∃ p, scanLines library datasetType .start (lines s.source) = .ok p ∧ p.finalErrors = [] ∧
      r = p.stored library ∧ s'.temporary = none ∧ s'.final = some p.digested ∧
      ∀ op ∈ uploadOperations s, around op = false
  | .error e, s' => s'.final = s.final ∧ Refused library datasetType s e ∧
      (s.temporary = none → around .removeTemporary = false → s'.temporary = none)

theorem wp_validateAndStoreJsonl :
    wp (validateAndStoreJsonl library around datasetType) (Outcome library around datasetType s) s := by
  unfold validateAndStoreJsonl
  rw [wp_bind]
  refine wp_operation ⟨rfl, .inl rfl, fun h _ => h⟩ fun hparent => ?_
  rw [seq_ok, wp_tryCatch]
  refine wp_mono wp_storeUpload fun r s' h => ?_
  cases r with
  | error e =>
    obtain ⟨hfinal, hrefused⟩ := h
    show wp (removeTemporary around >>= _) _ _
    unfold removeTemporary
    rw [wp_bind, wp_bind]
    unfold operation
    rw [wp_ite]
    split
    · rename_i hremove
      exact ⟨hfinal, .inl rfl, fun _ h => absurd (hremove.symm.trans h) (by decide)⟩
    · exact ⟨hfinal, hrefused, fun _ _ => rfl⟩
  | ok r =>
    obtain ⟨p, hscan, herrors, hr, htemporary, hfinal, hops⟩ := h
    refine ⟨p, hscan, herrors, hr, htemporary, hfinal, fun op hop => ?_⟩
    rcases List.mem_cons.mp hop with rfl | hop
    · exact hparent
    · exact hops op hop

/-! ## What an operation raises -/

/-- An exception of an operation is one of an operation that raises. -/
def UploadError.Explained (around : Surroundings) (e : UploadError) : Prop :=
  e = .operation → ∃ op, around op = true

theorem raises_operation (op : FileOperation) : Raises (UploadError.Explained around) (operation around op) :=
  .ite (fun h => .throw fun _ => ⟨op, h⟩) fun _ => .pure _

theorem raises_numberOperation : Raises (UploadError.Explained around) numberOperation := .of_ok fun _ => ⟨_, rfl⟩

theorem raises_readUpload (limit : Nat) : Raises (UploadError.Explained around) (readUpload around limit) :=
  .bind raises_numberOperation fun _ => .bind (raises_operation _) fun _ => .of_ok fun _ => ⟨_, rfl⟩

theorem raises_writeTemporary (raw : Bytes) : Raises (UploadError.Explained around) (writeTemporary around raw) :=
  .bind raises_numberOperation fun _ => .bind (raises_operation _) fun _ => .of_ok fun _ => ⟨_, rfl⟩

theorem raises_countBytes (total : Nat) (raw : Bytes) :
    Raises (UploadError.Explained around) (countBytes datasetType total raw) :=
  .ite (fun _ => .throw nofun) fun _ => .pure _

theorem raises_drainLine (fuel : Nat) (raw : Bytes) (total : Nat) :
    Raises (UploadError.Explained around) (drainLine around datasetType fuel raw total) := by
  induction fuel generalizing raw total with
  | zero => exact .pure _
  | succ fuel ih =>
    refine .ite (fun _ => .pure _) fun _ => .bind (raises_readUpload _) fun drained => ?_
    exact .ite (fun _ => .pure _) fun _ => .bind (raises_countBytes _ _) fun total => ih drained total

theorem raises_sourceLength : Raises (UploadError.Explained around) sourceLength := .of_ok fun _ => ⟨_, rfl⟩

theorem raises_setTemporary (content : Option Bytes) : Raises (UploadError.Explained around) (setTemporary content) :=
  .of_ok fun _ => ⟨_, rfl⟩

theorem raises_storeLine (p : Progress) (raw : Bytes) :
    Raises (UploadError.Explained around) (storeLine library around datasetType p raw) := by
  refine .bind (raises_countBytes _ _) fun total => .ite (fun _ => ?_) fun _ => ?_
  · exact .bind raises_sourceLength fun _ => .bind (raises_drainLine _ _ _) fun _ => .pure _
  · exact .bind (raises_writeTemporary _) fun _ => .ite (fun _ => .throw nofun) fun _ => .pure _

theorem raises_storeLines (fuel : Nat) (p : Progress) :
    Raises (UploadError.Explained around) (storeLines library around datasetType fuel p) := by
  induction fuel generalizing p with
  | zero => exact .pure _
  | succ fuel ih =>
    refine .bind (raises_readUpload _) fun raw => .ite (fun _ => .pure _) fun _ => ?_
    exact .bind (raises_storeLine _ _) fun p => ih p

theorem raises_writeTemporaryFile :
    Raises (UploadError.Explained around) (writeTemporaryFile library around datasetType) := by
  refine .bind (raises_operation _) fun _ => .bind (raises_setTemporary _) fun _ => ?_
  refine .bind (.tryCatch ?_ fun e he => ?_) fun _ => .bind (raises_operation _) fun _ => .pure _
  · exact .bind raises_sourceLength fun _ => raises_storeLines _ _
  · exact .bind (raises_operation _) fun _ => .throw he

theorem raises_storeUpload : Raises (UploadError.Explained around) (storeUpload library around datasetType) := by
  refine .bind raises_writeTemporaryFile fun p => .ite (fun _ => .throw nofun) fun _ => ?_
  exact .bind (raises_operation _) fun _ => .bind (.of_ok fun _ => ⟨_, rfl⟩) fun _ => .pure _

/-- The upload fails with the exception of an operation only if an operation raises. -/
theorem raises_validateAndStoreJsonl :
    Raises (UploadError.Explained around) (validateAndStoreJsonl library around datasetType) := by
  refine .bind (raises_operation _) fun _ => .tryCatch raises_storeUpload fun e he => ?_
  exact .bind (.bind (raises_operation _) fun _ => raises_setTemporary _) fun _ => .throw he

end

end OpenLLMOps.Datasets
