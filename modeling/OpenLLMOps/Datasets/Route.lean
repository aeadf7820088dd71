import OpenLLMOps.Datasets.Exact

/-!
# The upload route

`upload_dataset`: the upload is stored by `validate_and_store_jsonl` in a worker thread, closed, and registered
as a row; if anything is raised before the row is known to be registered, the final file is removed, unless the
row turns out to be there or the lookup fails.

Every call may raise, an `Exception` or a `BaseException` such as a cancellation (`RouteSurroundings`). A commit
that raises may or may not have been settled in the database. The worker thread is not abandoned by a
cancellation: it raises before the thread starts, or at the next call.

In the state afterwards, a row has its file, and where there is no row and the recovery works, there is no file
(`uploadDataset_consistent`).
-/

namespace OpenLLMOps.Datasets

open Framework

/-- What a call raises. -/
inductive Failure
  | valueError
  | osError
  /-- Another `Exception`. -/
  | exception
  /-- No `Exception`: a cancellation, for example. -/
  | base
  deriving DecidableEq

/-- What becomes of `session.commit()`. -/
inductive CommitOutcome
  | committed
  /-- An `IntegrityError`; the rollback may raise. -/
  | conflict (rollback : Option Failure)
  /-- It raises, and the transaction has been committed or not. -/
  | raised (failure : Failure) (settled : Bool)

/-- What the calls of the route raise. -/
structure RouteSurroundings where
  files : Surroundings
  /-- Before the worker thread runs. -/
  startThread : Option Failure
  close : Option Failure
  commit : CommitOutcome
  refresh : Option Failure
  /-- `final_path.exists()`. -/
  finalExists : Option Failure
  rollback : Option Failure
  lookup : Option Failure
  /-- `ensure_path_within`. -/
  resolve : Option Failure
  unlink : Option Failure
  closeAgain : Option Failure

/-- The form. -/
structure UploadForm where
  name : PyStr
  datasetType : DatasetType
  version : PyStr
  description : Option PyStr

/-- A row of `datasets`; its id and its path are the fresh ones of the upload. -/
structure DatasetRow where
  form : UploadForm
  fileName : PyStr
  stored : StoredDataset

/-- The detail of a refused upload. -/
inductive Detail
  | text (text : PyStr)
  | errors (errors : List LineError)

inductive RouteError
  /-- An `HTTPException` with the status 422. -/
  | unprocessable (detail : Detail)
  /-- An `HTTPException` with the status 409. -/
  | conflict (text : PyStr)
  | raised (failure : Failure)
  /-- What an operation on the files raised. -/
  | operation

/-- The files, the committed row, and the two flags. -/
structure RouteState where
  files : UploadState
  row : Option DatasetRow
  registered : Bool
  fileClosed : Bool

/-- Before the upload: neither files nor a row. -/
def RouteState.start (stream : Bytes) : RouteState := ⟨⟨stream, none, none, 0⟩, none, false, false⟩

abbrev Route (α : Type) : Type := Effect RouteState RouteError α

/-- `_validate_upload_filename`. -/
def validateUploadFilename (filename : Option PyStr) : Route PyStr :=
  match filename with
  | none => throw (.unprocessable (.text (py "仅支持 .jsonl 数据集")))
  | some name =>
    if ¬ (py ".jsonl").isSuffixOf (name.map asciiLower) then throw (.unprocessable (.text (py "仅支持 .jsonl 数据集")))
    else if 255 < name.length ∨ 47 ∈ name ∨ 92 ∈ name ∨ name.any fun c => c < 32 || c = 127 then
      throw (.unprocessable (.text (py "文件名必须是不超过 255 字符的安全普通文件名")))
    else pure name
where
  asciiLower (c : Nat) : Nat := if 65 ≤ c ∧ c ≤ 90 then c + 32 else c

/-- The answer to what `validate_and_store_jsonl` raises. The exception of a file operation is taken for none that is a
`ValueError`. -/
def refusal (datasetType : DatasetType) : UploadError → RouteError
  | .tooLarge limit => .unprocessable (.text (py "数据集超过 " ++ decimal limit ++ py " 字节限制"))
  | .tooManyRecords limit =>
    .unprocessable (.text ((if datasetType = .evaluation then py "评测数据集有效记录数超过 " else py "训练数据集有效记录数超过 ") ++
      decimal limit))
  | .invalid errors => .unprocessable (.errors errors)
  | .operation => .operation

section

variable (library : DatasetLibrary) (around : RouteSurroundings)

/-- A call that may raise. -/
def call (failure : Option Failure) : Route Unit :=
  match failure with
  | none => pure ()
  | some failure => throw (.raised failure)

def readRoute : Route RouteState := fun s => (.ok s, s)

/-- `run_sync(validate_and_store_jsonl, …)`. -/
def runValidate (datasetType : DatasetType) : Route StoredDataset := fun s =>
  (((validateAndStoreJsonl library around.files datasetType s.files).1).mapError (refusal datasetType),
    { s with files := (validateAndStoreJsonl library around.files datasetType s.files).2 })

def markClosed : Route Unit := fun s => (.ok (), { s with fileClosed := true })

def commitRow (row : DatasetRow) : Route Unit := fun s => (.ok (), { s with row := some row })

def markRegistered : Route Unit := fun s => (.ok (), { s with registered := true })

def unlinkFinal : Route Unit := fun s => (.ok (), { s with files := { s.files with final := none } })

/-- What the database made of a commit. -/
def settle (row : DatasetRow) (settled : Bool) : Route Unit := if settled then commitRow row else pure ()

/-- `commit_or_conflict`. -/
def commitOrConflict (row : DatasetRow) : Route Unit :=
  match around.commit with
  | .committed => commitRow row
  | .conflict rollback => do
    call rollback
    throw (.conflict (py "数据集登记失败"))
  | .raised failure settled => do
    settle row settled
    throw (.raised failure)

/-- The body of the `try`. -/
def registerUpload (form : UploadForm) (fileName : PyStr) : Route DatasetRow := do
  call around.startThread
  let stored ← runValidate library around form.datasetType
  call around.close
  markClosed
  commitOrConflict around ⟨form, fileName, stored⟩
  markRegistered
  call around.refresh
  pure ⟨form, fileName, stored⟩

/-- `except Exception` of the lookup. -/
def lookupFailed : RouteError → Route Bool
  | .raised .base => throw (.raised .base)
  | _ => pure false

/-- `should_remove`: an `Exception` means that it is not known. -/
def shouldRemove : Route Bool :=
  tryCatch (do
    call around.rollback
    call around.lookup
    return (← readRoute).row.isNone) lookupFailed

/-- `except (ValueError, OSError)` of the removal. -/
def removalFailed : RouteError → Route Unit
  | .raised .valueError | .raised .osError => pure ()
  | e => throw e

/-- The final file is removed. -/
def removeFinal : Route Unit :=
  tryCatch (do
    call around.resolve
    call around.unlink
    unlinkFinal) removalFailed

/-- The recovery, when the final file exists. -/
def removeOrphan : Route Unit := do
  if (← shouldRemove around) then removeFinal around else pure ()

/-- `except BaseException`, up to the `raise`. -/
def recover : Route Unit := do
  let s ← readRoute
  if s.registered then pure ()
  else do
    call around.finalExists
    if s.files.final.isSome then removeOrphan around else pure ()

/-- `finally`: the upload is closed if it has not been, and what that raises is suppressed. -/
def closeQuietly : Route Unit := do
  if (← readRoute).fileClosed then pure ()
  else tryCatch (call around.closeAgain) fun _ => pure ()

/-- `upload_dataset`. -/
def uploadDataset (form : UploadForm) (filename : Option PyStr) : Route DatasetRow := do
  let fileName ← validateUploadFilename filename
  let row ← tryCatch (tryCatch (registerUpload library around form fileName) fun e => do
      recover around
      throw e) fun e => do
    closeQuietly around
    throw e
  closeQuietly around
  pure row

end

/-! ## Files and rows -/

open Effect

/-- The calls of the recovery do not raise. -/
structure RecoveryWorks (around : RouteSurroundings) : Prop where
  finalExists : around.finalExists = none
  rollback : around.rollback = none
  lookup : around.lookup = none
  resolve : around.resolve = none
  unlink : around.unlink = none

/-- A row has its file, which is the upload, and tells of it. -/
def HasFile (library : DatasetLibrary) (datasetType : DatasetType) (stream : Bytes) (s : RouteState) : Prop :=
  ∀ row, s.row = some row → s.files.final = some stream ∧ Accepted library datasetType stream row.stored

/-- A row has its file; and without a row, there is no file if the recovery works. -/
structure Consistent (library : DatasetLibrary) (around : RouteSurroundings) (datasetType : DatasetType)
    (stream : Bytes) (s : RouteState) : Prop where
  hasFile : HasFile library datasetType stream s
  removed : s.row = none → RecoveryWorks around → s.files.final = none

variable {library : DatasetLibrary} {around : RouteSurroundings} {s : RouteState} {α : Type}

theorem wp_call {failure : Option Failure} {Q : Except RouteError Unit → RouteState → Prop}
    (hraise : ∀ f, failure = some f → Q (.error (.raised f)) s) (hok : failure = none → Q (.ok ()) s) :
    wp (call failure) Q s := by
  cases failure with
  | none => exact hok rfl
  | some f => exact hraise f rfl

theorem wp_markClosed {Q : Except RouteError Unit → RouteState → Prop} :
    wp markClosed Q s ↔ Q (.ok ()) { s with fileClosed := true } := Iff.rfl

theorem wp_markRegistered {Q : Except RouteError Unit → RouteState → Prop} :
    wp markRegistered Q s ↔ Q (.ok ()) { s with registered := true } := Iff.rfl

theorem wp_readRoute {Q : Except RouteError RouteState → RouteState → Prop} : wp readRoute Q s ↔ Q (.ok s) s := Iff.rfl

/-- Whether the file is removed: if so, there is no row; and without a row it is, if the calls work. -/
theorem wp_shouldRemove :
    wp (shouldRemove around) (fun r s' => s' = s ∧ (r = .ok true → s.row = none) ∧
      (s.row = none → around.rollback = none → around.lookup = none → r = .ok true)) s := by
  have hkept : ∀ f : Failure, around.rollback = some f ∨ around.lookup = some f →
      wp (lookupFailed (.raised f)) (fun r s' => s' = s ∧ (r = .ok true → s.row = none) ∧
        (s.row = none → around.rollback = none → around.lookup = none → r = .ok true)) s := by
    intro f hf
    have habsurd : ∀ p : Prop, around.rollback = none → around.lookup = none → p := by
      intro p hrollback hlookup
      rcases hf with hf | hf
      · rw [hrollback] at hf
        cases hf
      · rw [hlookup] at hf
        cases hf
    cases f <;> exact ⟨rfl, nofun, fun _ h h' => habsurd _ h h'⟩
  unfold shouldRemove
  rw [wp_tryCatch, wp_bind]
  refine wp_call (fun f hf => hkept f (.inl hf)) fun _ => ?_
  rw [seq_ok, wp_bind]
  refine wp_call (fun f hf => hkept f (.inr hf)) fun _ => ?_
  rw [seq_ok, wp_bind, wp_readRoute, seq_ok]
  cases hrow : s.row with
  | none => exact ⟨rfl, fun _ => rfl, fun _ _ _ => rfl⟩
  | some row => exact ⟨rfl, nofun, nofun⟩

/-- Only the final file changes, and it goes if the calls work. -/
theorem wp_removeFinal :
    wp (removeFinal around) (fun _ s' => s'.row = s.row ∧
      (around.resolve = none → around.unlink = none → s'.files.final = none)) s := by
  have hkept : ∀ f : Failure, around.resolve = some f ∨ around.unlink = some f →
      wp (removalFailed (.raised f)) (fun _ s' => s'.row = s.row ∧
        (around.resolve = none → around.unlink = none → s'.files.final = none)) s := by
    intro f hf
    have habsurd : ∀ p : Prop, around.resolve = none → around.unlink = none → p := by
      intro p hresolve hunlink
      rcases hf with hf | hf
      · rw [hresolve] at hf
        cases hf
      · rw [hunlink] at hf
        cases hf
    cases f <;> exact ⟨rfl, fun h h' => habsurd _ h h'⟩
  unfold removeFinal
  rw [wp_tryCatch, wp_bind]
  refine wp_call (fun f hf => hkept f (.inl hf)) fun _ => ?_
  rw [seq_ok, wp_bind]
  refine wp_call (fun f hf => hkept f (.inr hf)) fun _ => ?_
  exact ⟨rfl, fun _ _ => rfl⟩

/-- The recovery keeps the row and the file that it references; without a row, it removes the file. -/
def Recovered (around : RouteSurroundings) (s s' : RouteState) : Prop :=
  s'.row = s.row ∧ (s.row ≠ none → s'.files.final = s.files.final) ∧
    (s.row = none → s.registered = false → RecoveryWorks around → s'.files.final = none)

theorem wp_removeOrphan : wp (removeOrphan around) (fun _ s' => Recovered around s s') s := by
  unfold removeOrphan
  rw [wp_bind]
  refine wp_mono wp_shouldRemove fun r s' h => ?_
  obtain ⟨rfl, habsent, hworks⟩ := h
  cases r with
  | error e => exact ⟨rfl, fun _ => rfl, fun hrow _ hw => nomatch hworks hrow hw.rollback hw.lookup⟩
  | ok remove =>
    rw [seq_ok, wp_ite]
    cases remove with
    | false =>
      rw [if_neg Bool.false_ne_true]
      exact ⟨rfl, fun _ => rfl, fun hrow _ hw => nomatch hworks hrow hw.rollback hw.lookup⟩
    | true =>
      rw [if_pos rfl]
      have hrow := habsent rfl
      refine wp_mono wp_removeFinal fun _ s'' h => ⟨h.1, fun hsome => absurd hrow hsome, fun _ _ hw => ?_⟩
      exact h.2 hw.resolve hw.unlink

theorem wp_recover : wp (recover around) (fun _ s' => Recovered around s s') s := by
  unfold recover
  rw [wp_bind, wp_readRoute, seq_ok, wp_ite]
  by_cases hregistered : s.registered = true
  · rw [if_pos hregistered]
    exact ⟨rfl, fun _ => rfl, fun _ h => absurd (hregistered.symm.trans h) (by decide)⟩
  rw [if_neg hregistered, wp_bind]
  refine wp_call (fun f hf => ⟨rfl, fun _ => rfl, fun _ _ hw => nomatch hf.symm.trans hw.finalExists⟩) fun _ => ?_
  rw [seq_ok, wp_ite]
  by_cases hfinal : s.files.final.isSome = true
  · rw [if_pos hfinal]
    exact wp_removeOrphan
  · rw [if_neg hfinal]
    have hnone : s.files.final = none := by simpa using hfinal
    exact ⟨rfl, fun _ => rfl, fun _ _ _ => hnone⟩

/-- The `finally` keeps the files and the row. -/
theorem wp_closeQuietly :
    wp (closeQuietly around) (fun _ s' => s'.row = s.row ∧ s'.files = s.files) s := by
  unfold closeQuietly
  rw [wp_bind, wp_readRoute, seq_ok, wp_ite]
  split
  · exact ⟨rfl, rfl⟩
  · rw [wp_tryCatch]
    exact wp_call (fun _ _ => ⟨rfl, rfl⟩) fun _ => ⟨rfl, rfl⟩

/-! ## The whole route -/

/-- At every point of the body: a row has its file, and what is registered is a row. -/
def Registering (library : DatasetLibrary) (datasetType : DatasetType) (stream : Bytes) (s : RouteState) : Prop :=
  HasFile library datasetType stream s ∧ (s.registered = true → s.row ≠ none)

theorem registering_of_no_row {datasetType : DatasetType} {stream : Bytes} (hrow : s.row = none)
    (hregistered : s.registered = false) : Registering library datasetType stream s :=
  ⟨fun row h => (nomatch hrow.symm.trans h), fun h => absurd (hregistered.symm.trans h) (by decide)⟩

theorem wp_commitOrConflict {datasetType : DatasetType} {stream : Bytes} {row : DatasetRow} (hrow : s.row = none)
    (hregistered : s.registered = false) (hfinal : s.files.final = some stream)
    (haccepted : Accepted library datasetType stream row.stored) :
    wp (commitOrConflict around row) (fun r s' => Registering library datasetType stream s' ∧
      (r = .ok () → s' = { s with row := some row })) s := by
  have habsent : Registering library datasetType stream s := registering_of_no_row hrow hregistered
  have hcommitted : Registering library datasetType stream { s with row := some row } := by
    refine ⟨fun row' h => ?_, fun _ => nofun⟩
    obtain rfl := Option.some.inj h
    exact ⟨hfinal, haccepted⟩
  unfold commitOrConflict
  split
  · exact ⟨hcommitted, fun _ => rfl⟩
  · rw [wp_bind]
    exact wp_call (fun _ _ => ⟨habsent, nofun⟩) fun _ => ⟨habsent, nofun⟩
  · rename_i failure settled hcommit
    rw [wp_bind]
    cases settled with
    | true => exact ⟨hcommitted, nofun⟩
    | false => exact ⟨habsent, nofun⟩

theorem wp_runValidate {datasetType : DatasetType} :
    wp (runValidate library around datasetType) (fun r s' => s'.row = s.row ∧ s'.registered = s.registered ∧
      ∀ stored, r = .ok stored →
        s'.files.final = some s.files.source ∧ Accepted library datasetType s.files.source stored) s := by
  have houtcome : wp (validateAndStoreJsonl library around.files datasetType)
      (Outcome library around.files datasetType s.files) s.files := wp_validateAndStoreJsonl
  unfold wp at houtcome ⊢
  refine ⟨rfl, rfl, fun stored hstored => ?_⟩
  simp only [runValidate] at hstored ⊢
  cases hresult : (validateAndStoreJsonl library around.files datasetType s.files).1 with
  | error e =>
    rw [hresult] at hstored
    cases hstored
  | ok r =>
    rw [hresult] at hstored houtcome
    obtain rfl : r = stored := Except.ok.inj hstored
    obtain ⟨p, hscan, herrors, rfl, -, hfinal, -⟩ := houtcome
    obtain ⟨hdigested, haccepted⟩ := accepted_of_scan hscan herrors
    exact ⟨by rw [hfinal, hdigested], haccepted⟩

/-- What the body comes to; what it returns is the row. -/
def UploadRegistered (library : DatasetLibrary) (datasetType : DatasetType) (stream : Bytes)
    (r : Except RouteError DatasetRow) (s : RouteState) : Prop :=
  Registering library datasetType stream s ∧ ∀ row, r = .ok row → s.row = some row

theorem wp_registerUpload {form : UploadForm} {fileName : PyStr} {stream : Bytes} :
    wp (registerUpload library around form fileName) (UploadRegistered library form.datasetType stream)
      (.start stream) := by
  have hstart : Registering library form.datasetType stream (.start stream) := registering_of_no_row rfl rfl
  unfold registerUpload
  rw [wp_bind]
  refine wp_call (fun _ _ => ⟨hstart, nofun⟩) fun _ => ?_
  rw [seq_ok, wp_bind]
  refine wp_mono wp_runValidate fun r s h => ?_
  obtain ⟨hrow, hregistered, hstored⟩ := h
  have hnone : Registering library form.datasetType stream s := registering_of_no_row hrow hregistered
  cases r with
  | error e => exact ⟨hnone, nofun⟩
  | ok stored =>
    obtain ⟨hfinal, haccepted⟩ := hstored stored rfl
    rw [seq_ok, wp_bind]
    refine wp_call (fun _ _ => ⟨hnone, nofun⟩) fun _ => ?_
    rw [seq_ok, wp_bind, wp_markClosed, seq_ok, wp_bind]
    refine wp_mono (wp_commitOrConflict hrow hregistered hfinal haccepted) fun r s' h => ?_
    obtain ⟨hregistering, hcommitted⟩ := h
    cases r with
    | error e => exact ⟨hregistering, nofun⟩
    | ok _ =>
      obtain rfl := hcommitted rfl
      rw [seq_ok, wp_bind, wp_markRegistered, seq_ok, wp_bind]
      have hdone := hregistering.1
      refine wp_call (fun _ _ => ⟨⟨hdone, fun _ => nofun⟩, nofun⟩) fun _ => ⟨⟨hdone, fun _ => nofun⟩, fun row h => ?_⟩
      exact congrArg some (Except.ok.inj h)

theorem wp_validateUploadFilename {filename : Option PyStr} :
    wp (validateUploadFilename filename) (fun _ s' => s' = s) s := by
  unfold validateUploadFilename
  split
  · rfl
  · rw [wp_ite]
    split
    · rfl
    · rw [wp_ite]
      split <;> rfl

/-- At every point where `upload_dataset` can fail, a row has its file; the recovery never removes the file of a
row; and without a row it removes the file, if its calls work. -/
theorem uploadDataset_consistent (library : DatasetLibrary) (around : RouteSurroundings) (form : UploadForm)
    (filename : Option PyStr) (stream : Bytes) :
    wp (uploadDataset library around form filename)
      (fun _ s' => Consistent library around form.datasetType stream s') (.start stream) ∧
    ∀ s : RouteState, s.row ≠ none →
      wp (recover around) (fun _ s' => s'.row = s.row ∧ s'.files.final = s.files.final) s := by
  refine ⟨?_, fun s hrow => wp_mono wp_recover fun _ s' h => ⟨h.1, h.2.1 hrow⟩⟩
  unfold uploadDataset
  rw [wp_bind]
  refine wp_mono wp_validateUploadFilename fun r s h => ?_
  subst h
  have hstart : Consistent library around form.datasetType stream (.start stream) := ⟨nofun, fun _ _ => rfl⟩
  cases r with
  | error e => exact hstart
  | ok fileName =>
    have hclose : ∀ s : RouteState, Consistent library around form.datasetType stream s →
        wp (closeQuietly around) (fun _ s' => Consistent library around form.datasetType stream s') s := by
      intro s hs
      refine wp_mono wp_closeQuietly fun _ s' h => ?_
      obtain ⟨hrow, hfiles⟩ := h
      exact ⟨fun row hr => hfiles ▸ hs.hasFile row (hrow ▸ hr), fun hr hw => hfiles ▸ hs.removed (hrow ▸ hr) hw⟩
    have hrest : ∀ (s : RouteState) (e : RouteError) (f : DatasetRow → Route DatasetRow),
        Consistent library around form.datasetType stream s →
        wp (closeQuietly around >>= fun _ => MonadExcept.throw e)
          (Seq f fun _ s' => Consistent library around form.datasetType stream s') s := by
      intro s e f hs
      rw [wp_bind]
      refine wp_mono (hclose s hs) fun r s' h => ?_
      cases r <;> exact h
    rw [seq_ok, wp_bind, wp_tryCatch, wp_tryCatch]
    refine wp_mono wp_registerUpload fun r s h => ?_
    obtain ⟨⟨hfile, hregistered⟩, hreturned⟩ := h
    cases r with
    | error e =>
      dsimp only
      rw [wp_bind]
      refine wp_mono wp_recover fun r s' h => ?_
      obtain ⟨hrow, hkept, hremoved⟩ := h
      have hconsistent : Consistent library around form.datasetType stream s' := by
        refine ⟨fun row hr => ?_, fun hr hw => ?_⟩
        · rw [hrow] at hr
          rw [hkept (by rw [hr]; exact nofun)]
          exact hfile row hr
        · rw [hrow] at hr
          exact hremoved hr (Bool.eq_false_of_not_eq_true fun h => hregistered h hr) hw
      cases r with
      | error e' => exact hrest s' e' _ hconsistent
      | ok _ => exact hrest s' e _ hconsistent
    | ok row =>
      have hconsistent : Consistent library around form.datasetType stream s :=
        ⟨hfile, fun h => nomatch h.symm.trans (hreturned row rfl)⟩
      dsimp only
      rw [seq_ok, wp_bind]
      refine wp_mono (hclose s hconsistent) fun r s' h => ?_
      cases r <;> exact h

end OpenLLMOps.Datasets
