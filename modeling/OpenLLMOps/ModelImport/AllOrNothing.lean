import OpenLLMOps.ModelImport.Importer

/-!
# When an import is all or nothing

An import that raises should leave neither the staging nor the final directory, and one that
returns exactly the model in the store.

* `wp_stage`: up to the rename an exception finds the staging directory and no final one;
* `wp_publish`: after it the store directory is flushed and the last progress report is made, and
  both can raise although the model is in the store;
* `wp_handle`: the handlers remove the staging directory only;
* `run_allOrNothing`: when the import is all or nothing.
-/

namespace OpenLLMOps.Importer

open Framework ModelImport Import

/-- A directory holds exactly the validated files and the manifest. -/
structure Holds (library : Library) (d : FileTree) (manifest : ModelManifest) : Prop where
  only : ∀ p entry, d.lookup p = some entry →
    entry = .directory ∨ (p = manifestPath ∧ ∃ text ∈ library.dumpsManifest manifest, entry = .file text) ∨
      ∃ content, entry = .file content ∧ digestOf library (p, content) ∈ manifest.files
  files : ∀ digest ∈ manifest.files, ∃ p content, p ≠ manifestPath ∧ d.lookup p = some (.file content) ∧
    digest = digestOf library (p, content)
  manifest : ∃ text ∈ library.dumpsManifest manifest, d.lookup manifestPath = some (.file text)

/-- An import that raises leaves nothing; one that returns leaves exactly the model in the store. -/
def AllOrNothing (library : Library) : Except ImportException ModelManifest → ImportState → Prop
  | .error _, s => s.staging = none ∧ s.final = none
  | .ok manifest, s => s.staging = none ∧ ∃ d, s.final = some d ∧ Holds library d manifest

/-- The state in which the `try` block begins. -/
def ImportState.entered : ImportState := ⟨some ∅, none, 0⟩

/-- `os.walk` reaches all files of a directory. -/
def Walked (around : Surroundings) (d : FileTree) : Prop :=
  ∀ p entry, d.lookup p = some entry → entry = .directory ∨ FileTree.reached around.unreadable p = true

/-- In the staging directory, `os.walk` can list the directories of all files of the model. -/
def Listable (around : Surroundings) (request : ImportRequest) : Prop :=
  match request.source with
  | .controlledDirectory => ∀ files, around.source = .ok files →
    ∀ file ∈ files, FileTree.reached around.unreadable file.1 = true
  | .huggingface | .modelscope => Walked around around.download.2

/-- The `try` block is reached. -/
def Entered (around : Surroundings) : Prop :=
  around.raises .stagingExists = none ∧ around.raises .finalExists = none ∧ around.raises .makeStaging = none

/-- A failure is an `Exception`, and its handler can remove the staging directory. -/
def Handled (around : Surroundings) (e : ImportException) : Prop :=
  e ≠ .exit ∧ around.raises .cleanupExists = none ∧ around.raises .removeStaging = none

/-- Nothing raises after the rename. -/
def Published (around : Surroundings) : Prop :=
  around.raises .openStore = none ∧ around.raises .syncStore = none ∧ around.raises .closeStore = none ∧
    (around.progress = true → around.raises .ready = none)

/-- A failure before the rename is handled; where there is none, there is none after it either,
and the validation has seen all files. -/
structure Orderly (library : Library) (around : Surroundings) (request : ImportRequest) : Prop where
  handled : ∀ e, (stage library around request .entered).1 = .error e → Handled around e
  published : ∀ manifest, (stage library around request .entered).1 = .ok manifest → Published around
  listable : ∀ manifest, (stage library around request .entered).1 = .ok manifest → Listable around request

/-- What changes neither directory. -/
def KeepsDirectories (s' s : ImportState) : Prop := s'.staging = s.staging ∧ s'.final = s.final

/-- What leaves a staging directory and does not touch the store. -/
def KeepsStaging (s' s : ImportState) : Prop := (s.staging.isSome = true → s'.staging.isSome = true) ∧ s'.final = s.final

section Frames

theorem KeepsDirectories.refl (s : ImportState) : KeepsDirectories s s := ⟨rfl, rfl⟩

theorem KeepsDirectories.trans {a b c : ImportState} (h : KeepsDirectories a b) (h' : KeepsDirectories b c) :
    KeepsDirectories a c := ⟨h.1.trans h'.1, h.2.trans h'.2⟩

theorem KeepsStaging.trans {a b c : ImportState} (h : KeepsStaging a b) (h' : KeepsStaging b c) : KeepsStaging a c :=
  ⟨fun hs => h.1 (h'.1 hs), h.2.trans h'.2⟩

theorem KeepsDirectories.staging {s' s : ImportState} (h : KeepsDirectories s' s) : KeepsStaging s' s :=
  ⟨fun hs => by rwa [h.1], h.2⟩

/-- The computation changes neither directory. -/
abbrev Keeps {α : Type} (m : Import α) : Prop := Effect.Decreases KeepsDirectories m

/-- The computation works in the staging directory. -/
abbrev Stages {α : Type} (m : Import α) : Prop := Effect.Decreases KeepsStaging m

theorem Keeps.pure {α : Type} (a : α) : Keeps (Pure.pure a : Import α) := Effect.Decreases.pure KeepsDirectories.refl a

theorem Keeps.throw {α : Type} (e : ImportException) : Keeps (MonadExcept.throw e : Import α) :=
  Effect.Decreases.throw KeepsDirectories.refl e

theorem Keeps.bind {α β : Type} {m : Import β} {f : β → Import α} (hm : Keeps m) (hf : ∀ b, Keeps (f b)) : Keeps (m >>= f) :=
  Effect.Decreases.bind (r := KeepsDirectories) KeepsDirectories.trans hm hf

theorem Stages.bind {α β : Type} {m : Import β} {f : β → Import α} (hm : Stages m) (hf : ∀ b, Stages (f b)) :
    Stages (m >>= f) :=
  Effect.Decreases.bind (r := KeepsStaging) KeepsStaging.trans hm hf

theorem Keeps.stages {α : Type} {m : Import α} (h : Keeps m) : Stages m := fun s => (h s).staging

theorem getStaging_keeps : Keeps getStaging := fun s => .refl s

theorem number_keeps : Keeps number := fun _ => ⟨rfl, rfl⟩

theorem setStaging_stages (d : FileTree) : Stages (setStaging d) := fun _ => ⟨fun _ => rfl, rfl⟩

variable (around : Surroundings)

theorem outside_keeps (call : Call) : Keeps (outside around call) := by
  unfold outside
  split
  · exact Keeps.throw _
  · exact Keeps.pure _

theorem notify_keeps (stage : PyStr) (done : Nat) (total : Option Nat) : Keeps (notify around stage done total) :=
  .ite (Keeps.bind number_keeps fun _ => outside_keeps around _) (Keeps.pure _)

theorem checkCancelled_keeps (e : ImportException) : Keeps (checkCancelled around e) := by
  unfold checkCancelled
  split
  · exact Keeps.pure _
  · exact Keeps.bind number_keeps fun n => Keeps.bind (outside_keeps around _) fun _ => .ite (Keeps.throw _) (Keeps.pure _)

theorem flush_keeps (open_ sync close : Call) : Keeps (flush around open_ sync close) := by
  have hsync : Keeps (tryCatch (outside around sync) fun e => do outside around close; throw e) :=
    Effect.Decreases.tryCatch (r := KeepsDirectories) KeepsDirectories.trans (outside_keeps around sync) fun e =>
      Keeps.bind (outside_keeps around close) fun _ => Keeps.throw e
  exact Keeps.bind (outside_keeps around open_) fun _ => Keeps.bind hsync fun _ => outside_keeps around close

/-- What comes after a call that keeps the directories. -/
theorem Keeps.wp_bind {α β : Type} {m : Import β} {f : β → Import α} {Q : Except ImportException α → ImportState → Prop}
    {s : ImportState} (hm : Keeps m) (he : ∀ e s', KeepsDirectories s' s → Q (.error e) s')
    (hf : ∀ b s', KeepsDirectories s' s → Effect.wp (f b) Q s') : Effect.wp (m >>= f) Q s := by
  rw [Effect.wp_bind]
  refine Effect.wp_mono (hm.to_wp s) fun r s' h => ?_
  cases r with
  | error e => exact he e s' h
  | ok b => exact hf b s' h

theorem Keeps.wp_bind_of {α β : Type} {m : Import β} {f : β → Import α} {P : β → Prop}
    {Q : Except ImportException α → ImportState → Prop} {s : ImportState} (hm : Keeps m) (hP : Effect.Returns P m)
    (he : ∀ e s', KeepsDirectories s' s → Q (.error e) s')
    (hf : ∀ b s', P b → KeepsDirectories s' s → Effect.wp (f b) Q s') : Effect.wp (m >>= f) Q s := by
  rw [Effect.wp_bind]
  refine Effect.wp_mono (Effect.wp_and (hm.to_wp s) (hP s)) fun r s' h => ?_
  cases r with
  | error e => exact he e s' h.1
  | ok b => exact hf b s' (h.2 b rfl) h.1

theorem wp_getStaging_bind {α : Type} {f : FileTree → Import α}
    {Q : Except ImportException α → ImportState → Prop} {s : ImportState} :
    Effect.wp (getStaging >>= f) Q s ↔ Effect.wp (f (s.staging.getD ∅)) Q s := Iff.rfl

theorem wp_setStaging_bind {α : Type} {d : FileTree} {m : Import α}
    {Q : Except ImportException α → ImportState → Prop} {s : ImportState} :
    Effect.wp (do setStaging d; m) Q s ↔ Effect.wp m Q { s with staging := some d } := Iff.rfl

theorem wp_getState_bind {α : Type} {f : ImportState → Import α}
    {Q : Except ImportException α → ImportState → Prop} {s : ImportState} :
    Effect.wp (getState >>= f) Q s ↔ Effect.wp (f s) Q s := Iff.rfl

/-- What follows a numbered call. -/
theorem numbered_decreases {α : Type} {r : ImportState → ImportState → Prop}
    (htrans : ∀ {a b c}, r a b → r b c → r a c) (hkeeps : ∀ {s' s}, KeepsDirectories s' s → r s' s) (call : Nat → Call)
    {m : Import α} (hm : Effect.Decreases r m) : Effect.Decreases r (do outside around (call (← number)); m) := by
  refine Effect.Decreases.bind (r := r) htrans (fun s => hkeeps (number_keeps s)) fun n => ?_
  exact Effect.Decreases.bind (r := r) htrans (fun s => hkeeps (outside_keeps around (call n) s)) fun _ => hm

theorem numbered_stages {α : Type} (call : Nat → Call) {m : Import α} (hm : Stages m) :
    Stages (do outside around (call (← number)); m) :=
  numbered_decreases around (r := KeepsStaging) KeepsStaging.trans KeepsDirectories.staging call hm

theorem numbered_keeps {α : Type} (call : Nat → Call) {m : Import α} (hm : Keeps m) :
    Keeps (do outside around (call (← number)); m) :=
  numbered_decreases around (r := KeepsDirectories) KeepsDirectories.trans id call hm

theorem copyChunks_stages (p : FilePath) (total : Nat) (chunks : List Bytes) (done : Nat) :
    Stages (copyChunks around p total chunks done) := by
  induction chunks generalizing done with
  | nil => exact numbered_stages around .readSource (Keeps.pure done).stages
  | cons chunk chunks ih =>
    refine numbered_stages around .readSource (Stages.bind (checkCancelled_keeps around _).stages fun _ => ?_)
    refine numbered_stages around .writeTarget (Stages.bind getStaging_keeps.stages fun d => ?_)
    exact Stages.bind (setStaging_stages _) fun _ => Stages.bind (notify_keeps around _ _ _).stages fun _ => ih _

theorem copyFiles_stages (total : Nat) (files : List (FilePath × Bytes)) (done : Nat) :
    Stages (copyFiles around total files done) := by
  induction files generalizing done with
  | nil => exact (Keeps.pure ()).stages
  | cons file files ih =>
    refine Stages.bind (checkCancelled_keeps around _).stages fun _ => numbered_stages around .createTarget ?_
    refine Stages.bind getStaging_keeps.stages fun d => .ite (Keeps.throw _).stages ?_
    refine Stages.bind getStaging_keeps.stages fun d => Stages.bind (setStaging_stages _) fun _ => ?_
    exact Stages.bind (copyChunks_stages around _ _ _ _) fun done => ih done

theorem copyControlledDirectory_stages : Stages (copyControlledDirectory around) := by
  refine Stages.bind (outside_keeps around _).stages fun _ => ?_
  split
  · exact (Keeps.throw _).stages
  · exact Stages.bind (outside_keeps around _).stages fun _ => .ite (Keeps.throw _).stages (copyFiles_stages around _ _ _)

theorem download_stages : Stages (download around) := by
  refine Stages.bind (setStaging_stages _) fun _ => ?_
  split
  · exact (Keeps.throw _).stages
  · exact (Keeps.pure _).stages

theorem transfer_stages (request : ImportRequest) : Stages (transfer around request) := by
  refine Stages.bind (checkCancelled_keeps around _).stages fun _ => ?_
  split
  · split
    · exact (Keeps.throw _).stages
    · exact Stages.bind (copyControlledDirectory_stages around) fun _ => (Keeps.pure _).stages
  · exact .ite (Keeps.throw _).stages (.map _ (download_stages around))
  · exact .ite (Keeps.throw _).stages (.map _ (download_stages around))

theorem digestChunks_keeps (total : Nat) (chunks : List Bytes) (completed : Nat) :
    Keeps (digestChunks around total chunks completed) := by
  induction chunks generalizing completed with
  | nil =>
    exact numbered_keeps around .readStaged (Keeps.bind (checkCancelled_keeps around _) fun _ => Keeps.pure _)
  | cons chunk chunks ih =>
    refine numbered_keeps around .readStaged (Keeps.bind (checkCancelled_keeps around _) fun _ => ?_)
    refine Keeps.bind (notify_keeps around _ _ _) fun _ => Keeps.bind (checkCancelled_keeps around _) fun _ => ih _

end Frames

/-! ## What is validated -/

section Validated

variable {library : Library} {around : Surroundings} {request : ImportRequest} {d : FileTree}

/-- The directory is validated, and the manifest is about it. -/
structure Validated (library : Library) (around : Surroundings) (d : FileTree) (manifest : ModelManifest) : Prop where
  regular : ∀ e ∈ d.walk around.unreadable, e.2 ≠ .symlink ∧ e.2 ≠ .special
  digests : ∀ digest, digest ∈ manifest.files ↔ ∃ file ∈ d.walkFiles around.unreadable, digest = digestOf library file
  nonempty : d.walkFiles around.unreadable ≠ []
  fresh : ∀ file ∈ d.walkFiles around.unreadable, file.1 ≠ manifestPath

theorem fresh_of_validateModelFiles {float : PyStr → PyFloat} {files : ModelFiles}
    {result : List (PyStr × Json) × Nat × List PyStr} (h : validateModelFiles float files = .ok result) :
    files ≠ [] ∧ ∀ file ∈ files, file.1.posix ≠ generatedManifestName := by
  unfold validateModelFiles at h
  split at h <;> [cases h; rename_i hne]
  split at h <;> [cases h; skip]
  simp only at h
  split at h <;> [cases h; rename_i hfresh]
  exact ⟨hne, fun file hmem he => hfresh (List.mem_map.mpr ⟨file, hmem, he⟩)⟩

/-- Some file has been reached, so the directory itself can be listed. -/
theorem Validated.reached_manifest {manifest : ModelManifest} (h : Validated library around d manifest) :
    FileTree.reached around.unreadable manifestPath = true := by
  obtain ⟨⟨p, content⟩, hfile⟩ := List.exists_mem_of_ne_nil _ h.nonempty
  have hreached := (FileTree.mem_walkFiles.mp hfile).2
  have hpos : 0 < p.parts.length := List.length_pos_of_ne_nil p.parts_ne
  have hroot := List.all_eq_true.mp hreached 0 (List.mem_range.mpr hpos)
  refine List.all_eq_true.mpr fun i hi => ?_
  have hlength : manifestPath.parts.length = 1 := rfl
  have hzero : i = 0 := by
    rw [hlength, List.mem_range] at hi
    omega
  rw [hzero]
  exact hroot

/-- The manifest is reached as well. -/
theorem Validated.walked_insert {manifest : ModelManifest} (h : Validated library around d manifest) {text : Bytes} :
    Walked around (d.insert manifestPath (.file text)) ↔ Walked around d := by
  constructor
  · intro hwalked p entry hlookup
    by_cases hp : p = manifestPath
    · rw [hp]
      exact .inr h.reached_manifest
    · exact hwalked p entry (by rwa [AList.lookup_insert_ne hp])
  · intro hwalked p entry hlookup
    by_cases hp : p = manifestPath
    · rw [hp]
      exact .inr h.reached_manifest
    · exact hwalked p entry (by rwa [AList.lookup_insert_ne hp] at hlookup)

/-- The manifest has the digests of exactly the files that were walked. So nothing else is in the
final directory if and only if all files were. -/
theorem Validated.holds_iff {manifest : ModelManifest} (h : Validated library around d manifest) {text : Bytes}
    (htext : library.dumpsManifest manifest = some text) :
    Holds library (d.insert manifestPath (.file text)) manifest ↔ Walked around d := by
  rw [← h.walked_insert]
  constructor
  · intro hholds p entry hlookup
    rcases hholds.only p entry hlookup with hdir | ⟨rfl, -⟩ | ⟨content, rfl, hdigest⟩
    · exact .inl hdir
    · exact .inr h.reached_manifest
    · obtain ⟨⟨q, content'⟩, hfile, he⟩ := (h.digests _).mp hdigest
      have hpath : p = q := FilePath.posix_injective (congrArg FileDigest.path he)
      rw [hpath]
      exact .inr (FileTree.mem_walkFiles.mp hfile).2
  · intro hwalked
    refine ⟨fun p entry hlookup => ?_, fun digest hdigest => ?_, ⟨text, htext, AList.lookup_insert d⟩⟩
    · by_cases hp : p = manifestPath
      · rw [hp, AList.lookup_insert, Option.some.injEq] at hlookup
        exact .inr (.inl ⟨hp, text, htext, hlookup.symm⟩)
      · rcases hwalked p entry hlookup with hdir | hreached
        · exact .inl hdir
        rw [AList.lookup_insert_ne hp] at hlookup
        obtain ⟨hsymlink, hspecial⟩ := h.regular _ (FileTree.mem_walk.mpr ⟨hlookup, hreached⟩)
        match entry with
        | .directory => exact .inl rfl
        | .symlink => exact absurd rfl hsymlink
        | .special => exact absurd rfl hspecial
        | .file content =>
          exact .inr (.inr ⟨content, rfl, (h.digests _).mpr ⟨_, FileTree.mem_walkFiles.mpr ⟨hlookup, hreached⟩, rfl⟩⟩)
    · obtain ⟨⟨p, content⟩, hfile, rfl⟩ := (h.digests _).mp hdigest
      have hp := h.fresh _ hfile
      refine ⟨p, content, hp, ?_, rfl⟩
      rw [AList.lookup_insert_ne hp]
      exact (FileTree.mem_walkFiles.mp hfile).1

theorem digestFiles_keeps (total : Nat) (files : List (FilePath × Bytes)) (completed : Nat) :
    Keeps (digestFiles library around total files completed) := by
  induction files generalizing completed with
  | nil => exact Keeps.pure _
  | cons file files ih =>
    refine numbered_keeps around .readStaged (Keeps.bind (digestChunks_keeps around _ _ _) fun completed => ?_)
    exact Keeps.bind (ih completed) fun _ => Keeps.pure _

theorem digestFiles_returns (total : Nat) (files : List (FilePath × Bytes)) (completed : Nat) :
    Effect.Returns (fun digests => digests = files.map (digestOf library))
      (digestFiles library around total files completed) := by
  induction files generalizing completed with
  | nil => exact .pure rfl
  | cons file files ih =>
    refine .bind fun n => .bind fun _ => .bind fun completed => .bind_of (ih completed) fun digests h => .pure ?_
    rw [h, List.map_cons]

/-- `validate_model_directory` changes nothing, and returns the manifest of the directory. -/
theorem wp_validateModelDirectory {resolvedRevision : Option PyStr} {s : ImportState} (hs : s.staging = some d) :
    Effect.wp (validateModelDirectory library around request resolvedRevision) (fun r s' => KeepsDirectories s' s ∧
      ∀ manifest, r = .ok manifest → Validated library around d manifest) s := by
  have herror : ∀ (e : ImportException) (s' : ImportState), KeepsDirectories s' s → KeepsDirectories s' s ∧
      ∀ manifest, (Except.error e : Except ImportException ModelManifest) = .ok manifest →
        Validated library around d manifest := fun e s' h => ⟨h, fun _ h => by cases h⟩
  unfold validateModelDirectory
  refine (outside_keeps around .listStaging).wp_bind herror fun _ s₁ h₁ => ?_
  have hstaging : s₁.staging.getD ∅ = d := by rw [h₁.1, hs, Option.getD_some]
  rw [wp_getStaging_bind, hstaging, Effect.wp_ite]
  split
  · exact herror _ _ h₁
  rename_i hregular
  simp only
  refine (notify_keeps around _ _ _).wp_bind (fun e s' h => herror e s' (h.trans h₁)) fun _ s₂ h₂ => ?_
  replace h₂ := h₂.trans h₁
  refine (checkCancelled_keeps around _).wp_bind (fun e s' h => herror e s' (h.trans h₂)) fun _ s₃ h₃ => ?_
  replace h₃ := h₃.trans h₂
  refine (outside_keeps around .validateFiles).wp_bind (fun e s' h => herror e s' (h.trans h₃)) fun _ s₄ h₄ => ?_
  replace h₄ := h₄.trans h₃
  split
  · exact herror _ _ h₄
  rename_i hvalid
  refine (digestFiles_keeps _ _ _).wp_bind_of (digestFiles_returns _ _ _) (fun e s' h => herror e s' (h.trans h₄))
    fun digests s₅ hdigests h₅ => ?_
  replace h₅ := h₅.trans h₄
  split
  · exact herror _ _ h₅
  rw [Effect.wp_pure]
  refine ⟨h₅, fun manifest hmanifest => ?_⟩
  cases hmanifest
  obtain ⟨hne, hfresh⟩ := fresh_of_validateModelFiles hvalid
  refine ⟨fun e he => ?_, fun digest => ?_, fun h => hne ?_, fun file hfile h => ?_⟩
  · have hnot : ¬(e.2 = .symlink ∨ e.2 = .special) := fun h =>
      hregular (List.any_eq_true.mpr ⟨e, he, decide_eq_true h⟩)
    exact ⟨fun h => hnot (.inl h), fun h => hnot (.inr h)⟩
  · simp only [hdigests, List.mem_map, List.mem_insertionSort, eq_comm]
  · rw [h, List.map_nil]
  · exact hfresh _ (List.mem_map_of_mem hfile) (by rw [h]; rfl)

/-- `write_text` leaves the manifest in the staging directory. -/
theorem wp_writeManifest {manifest : ModelManifest} {s : ImportState} (hs : s.staging = some d) :
    Effect.wp (writeManifest library around manifest) (fun r s' => KeepsStaging s' s ∧
      ∀ u, r = .ok u → ∃ text, library.dumpsManifest manifest = some text ∧
        s'.staging = some (d.insert manifestPath (.file text))) s := by
  have herror : ∀ (e : ImportException) (s' : ImportState), KeepsStaging s' s → KeepsStaging s' s ∧
      ∀ u, (Except.error e : Except ImportException Unit) = .ok u → ∃ text, library.dumpsManifest manifest = some text ∧
        s'.staging = some (d.insert manifestPath (.file text)) := fun e s' h => ⟨h, fun _ h => by cases h⟩
  unfold writeManifest
  rw [wp_getStaging_bind, hs, Option.getD_some, Effect.wp_ite]
  split
  · exact herror _ _ (KeepsDirectories.refl s).staging
  split
  · exact herror _ _ (KeepsDirectories.refl s).staging
  rename_i text htext
  rw [wp_setStaging_bind]
  have hset : ∀ d', KeepsStaging { s with staging := some d' } s := fun d' => setStaging_stages d' s
  refine (outside_keeps around .writeManifest).wp_bind (fun e s' h => herror e s' (h.staging.trans (hset _)))
    fun _ s₁ h₁ => ?_
  exact ⟨(setStaging_stages _ s₁).trans (h₁.staging.trans (hset _)), fun _ _ => ⟨text, htext, rfl⟩⟩

/-- `os.replace` renames the staging directory, or raises and changes nothing. -/
theorem wp_replaceFinal {s : ImportState} (hfinal : s.final = none) :
    Effect.wp (replaceFinal around) (fun r s' => match r with
      | .ok _ => s'.staging = none ∧ s'.final = s.staging
      | .error _ => KeepsDirectories s' s) s := by
  unfold replaceFinal
  refine (outside_keeps around .replace).wp_bind (fun e s' h => h) fun _ s₁ h₁ => ?_
  rw [wp_getState_bind, h₁.2, hfinal]
  exact ⟨rfl, h₁.1⟩

end Validated

/-! ## What is transferred -/

section Transferred

variable {around : Surroundings}

theorem walked_iff {d : FileTree} :
    Walked around d ↔ ∀ p, FileTree.Occupied d p → FileTree.reached around.unreadable p = true := by
  constructor
  · rintro h p ⟨entry, hlookup, hne⟩
    exact (h p entry hlookup).resolve_left hne
  · intro h p entry hlookup
    by_cases hne : entry = .directory
    · exact .inl hne
    · exact .inr (h p ⟨entry, hlookup, hne⟩)

/-- What does not change which files the staging directory has. -/
def KeepsFiles (s' s : ImportState) : Prop :=
  ∀ p, FileTree.Occupied (s'.staging.getD ∅) p ↔ FileTree.Occupied (s.staging.getD ∅) p

theorem KeepsFiles.trans {a b c : ImportState} (h : KeepsFiles a b) (h' : KeepsFiles b c) : KeepsFiles a c :=
  fun p => (h p).trans (h' p)

theorem KeepsDirectories.files {s' s : ImportState} (h : KeepsDirectories s' s) : KeepsFiles s' s :=
  fun p => by rw [h.1]

theorem Keeps.files {α : Type} {m : Import α} (h : Keeps m) : Effect.Decreases KeepsFiles m := fun s => (h s).files

theorem KeepsFiles.bind {α β : Type} {m : Import β} {f : β → Import α} (hm : Effect.Decreases KeepsFiles m)
    (hf : ∀ b, Effect.Decreases KeepsFiles (f b)) : Effect.Decreases KeepsFiles (m >>= f) :=
  Effect.Decreases.bind (r := KeepsFiles) KeepsFiles.trans hm hf

theorem numbered_keepsFiles {α : Type} (call : Nat → Call) {m : Import α} (hm : Effect.Decreases KeepsFiles m) :
    Effect.Decreases KeepsFiles (do outside around (call (← number)); m) :=
  numbered_decreases around (r := KeepsFiles) KeepsFiles.trans KeepsDirectories.files call hm

theorem copyChunks_keepsFiles (p : FilePath) (total : Nat) (chunks : List Bytes) (done : Nat) :
    Effect.Decreases KeepsFiles (copyChunks around p total chunks done) := by
  induction chunks generalizing done with
  | nil => exact numbered_keepsFiles .readSource (Keeps.pure done).files
  | cons chunk chunks ih =>
    refine numbered_keepsFiles .readSource (KeepsFiles.bind (checkCancelled_keeps around _).files fun _ => ?_)
    refine numbered_keepsFiles .writeTarget fun s => ?_
    have happend : KeepsFiles { s with staging := some ((s.staging.getD ∅).append p chunk) } s := fun _ => FileTree.occupied_append
    have hrest : Effect.Decreases KeepsFiles (do
        notify around (py "transferring") (done + chunk.length) (some total)
        copyChunks around p total chunks (done + chunk.length)) :=
      KeepsFiles.bind (notify_keeps around _ _ _).files fun _ => ih _
    exact (hrest _).trans happend

/-- The loop over the files adds exactly them. -/
theorem wp_copyFiles (total : Nat) (files : List (FilePath × Bytes)) (done : Nat) (s : ImportState) :
    Effect.wp (copyFiles around total files done) (fun r s' => ∀ u, r = .ok u →
      ∀ p, FileTree.Occupied (s'.staging.getD ∅) p ↔ FileTree.Occupied (s.staging.getD ∅) p ∨ p ∈ files.map (·.1)) s := by
  induction files generalizing done s with
  | nil =>
    intro _ _ p
    rw [List.map_nil, List.mem_nil_iff, or_false]
    exact Iff.rfl
  | cons file files ih =>
    unfold copyFiles
    refine (checkCancelled_keeps around _).wp_bind (fun e s' _ _ h => by cases h) fun _ s₁ h₁ => ?_
    refine number_keeps.wp_bind (fun e s' _ _ h => by cases h) fun n s₂ h₂ => ?_
    refine (outside_keeps around _).wp_bind (fun e s' _ _ h => by cases h) fun _ s₃ h₃ => ?_
    have hfiles₃ : KeepsFiles s₃ s := ((h₃.trans h₂).trans h₁).files
    rw [wp_getStaging_bind, Effect.wp_ite]
    split
    · exact fun _ h => by cases h
    rw [wp_getStaging_bind, wp_setStaging_bind, Effect.wp_bind]
    refine Effect.wp_mono ((copyChunks_keepsFiles file.1 total _ done).to_wp _) fun r s₄ h₄ => ?_
    cases r with
    | error e => exact fun _ h => by cases h
    | ok done' =>
    rw [Effect.seq_ok]
    refine Effect.wp_mono (ih done' s₄) ?_
    intro r s₅ h₅ u hu p
    rw [h₅ u hu p, h₄ p, List.map_cons, List.mem_cons, ← hfiles₃ p]
    show (FileTree.Occupied ((s₃.staging.getD ∅).create file.1) p ∨ _) ↔ _
    rw [FileTree.occupied_create, or_assoc]

/-- The files of the source are copied. -/
theorem wp_copyControlledDirectory {s : ImportState} (hs : s.staging.getD ∅ = ∅) :
    Effect.wp (copyControlledDirectory around) (fun r s' => ∀ u, r = .ok u →
      ∃ files, around.source = .ok files ∧ ∀ p, FileTree.Occupied (s'.staging.getD ∅) p ↔ p ∈ files.map (·.1)) s := by
  unfold copyControlledDirectory
  refine (outside_keeps around .listSource).wp_bind (fun e s' _ _ h => by cases h) fun _ s₁ h₁ => ?_
  split
  · exact fun _ h => by cases h
  rename_i files hfiles
  simp only
  refine (outside_keeps around .diskUsage).wp_bind (fun e s' _ _ h => by cases h) fun _ s₂ h₂ => ?_
  rw [Effect.wp_ite]
  split
  · exact fun _ h => by cases h
  refine Effect.wp_mono (wp_copyFiles _ files 0 s₂) ?_
  intro r s₃ h₃ u hu
  refine ⟨files, hfiles, fun p => ?_⟩
  have hempty : ¬FileTree.Occupied (s₂.staging.getD ∅) p := by
    rw [(h₂.trans h₁).1, hs]
    rintro ⟨entry, hlookup, -⟩
    rw [AList.lookup_empty] at hlookup
    cases hlookup
  rw [h₃ u hu p, or_iff_right hempty]

/-- The download leaves its directory. -/
theorem wp_download {s : ImportState} :
    Effect.wp (some <$> download around) (fun r s' => ∀ result, r = .ok result → s'.staging.getD ∅ = around.download.2)
      s := by
  rw [Effect.wp_map]
  unfold download
  rw [wp_setStaging_bind]
  split
  · exact fun _ h => by cases h
  · exact fun _ _ => rfl

/-- What is transferred into an empty directory can be listed if the files of the model can. -/
theorem wp_transfer {request : ImportRequest} {s : ImportState} (hs : s.staging.getD ∅ = ∅) :
    Effect.wp (transfer around request) (fun r s' => ∀ result, r = .ok result →
      (Walked around (s'.staging.getD ∅) ↔ Listable around request)) s := by
  unfold transfer Listable
  refine (checkCancelled_keeps around _).wp_bind (fun e s' _ _ h => by cases h) fun _ s₁ h₁ => ?_
  have hs₁ : s₁.staging.getD ∅ = ∅ := by rw [h₁.1, hs]
  cases request.source with
  | controlledDirectory =>
    simp only
    split
    · exact fun _ h => by cases h
    rw [Effect.wp_bind]
    refine Effect.wp_mono (wp_copyControlledDirectory hs₁) ?_
    intro r s₂ h₂
    cases r with
    | error e => exact fun _ h => by cases h
    | ok u =>
    obtain ⟨files, hfiles, hoccupied⟩ := h₂ u rfl
    rw [Effect.seq_ok, Effect.wp_pure]
    intro _ _
    simp only [walked_iff, hoccupied, hfiles, List.mem_map, Except.ok.injEq]
    constructor
    · rintro h files rfl file hfile
      exact h file.1 ⟨file, hfile, rfl⟩
    · rintro h p ⟨file, hfile, rfl⟩
      exact h files rfl file hfile
  | huggingface | modelscope =>
    simp only
    rw [Effect.wp_ite]
    split
    · exact fun _ h => by cases h
    refine Effect.wp_mono wp_download ?_
    intro r s₂ h₂ result hresult
    rw [h₂ result hresult]

end Transferred

/-! ## Up to the rename -/

section Stage

variable {library : Library} {around : Surroundings} {request : ImportRequest}

/-- The staging directory exists, the final one does not. -/
def Working (s : ImportState) : Prop := s.staging.isSome = true ∧ s.final = none

theorem Working.keep {s' s : ImportState} (h : Working s) (hs : KeepsStaging s' s) : Working s' :=
  ⟨hs.1 h.1, hs.2.trans h.2⟩

/-- How `stage` ends. -/
def Staged (library : Library) (around : Surroundings) (request : ImportRequest) :
    Except ImportException ModelManifest → ImportState → Prop
  | .error _, s => Working s
  | .ok manifest, s => s.staging = none ∧ ∃ d, s.final = some d ∧ (Holds library d manifest ↔ Listable around request)

/-- Before the rename an exception finds the staging directory and no final one; after it, the final
directory holds exactly the model if and only if the validation has seen all of its files. -/
theorem wp_stage : Effect.wp (stage library around request) (Staged library around request) .entered := by
  have hentered : Working .entered := ⟨rfl, rfl⟩
  unfold stage
  rw [Effect.wp_bind]
  refine Effect.wp_mono (Effect.wp_and ((transfer_stages around request).to_wp .entered) (wp_transfer rfl)) ?_
  rintro r s₁ ⟨hkeeps₁, hlistable⟩
  have h₁ : Working s₁ := hentered.keep hkeeps₁
  cases r with
  | error e => exact h₁
  | ok result =>
  rw [Effect.seq_ok]
  refine (checkCancelled_keeps around _).wp_bind (fun e s' h => h₁.keep h.staging) fun _ s₂ h₂ => ?_
  have hworking₂ : Working s₂ := h₁.keep h₂.staging
  obtain ⟨d, hd⟩ := Option.isSome_iff_exists.mp hworking₂.1
  have hlistable : Walked around d ↔ Listable around request := by
    rw [← hlistable result rfl, ← h₂.1, hd, Option.getD_some]
  rw [Effect.wp_bind]
  refine Effect.wp_mono (wp_validateModelDirectory hd) fun r s₃ h₃ => ?_
  obtain ⟨hkeeps₃, hvalidated⟩ := h₃
  have hworking₃ : Working s₃ := hworking₂.keep hkeeps₃.staging
  cases r with
  | error e => exact hworking₃
  | ok manifest =>
  have hvalid : Validated library around d manifest := hvalidated manifest rfl
  rw [Effect.seq_ok]
  refine (checkCancelled_keeps around _).wp_bind (fun e s' h => hworking₃.keep h.staging) fun _ s₄ h₄ => ?_
  have hworking₄ : Working s₄ := hworking₃.keep h₄.staging
  have hd₄ : s₄.staging = some d := (h₄.trans hkeeps₃).1.trans hd
  rw [Effect.wp_bind]
  refine Effect.wp_mono (wp_writeManifest hd₄) fun r s₅ h₅ => ?_
  obtain ⟨hkeeps₅, hwritten⟩ := h₅
  have hworking₅ : Working s₅ := hworking₄.keep hkeeps₅
  cases r with
  | error e => exact hworking₅
  | ok u =>
  obtain ⟨text, htext, hd₅⟩ := hwritten u rfl
  rw [Effect.seq_ok]
  refine (flush_keeps around _ _ _).wp_bind (fun e s' h => hworking₅.keep h.staging) fun _ s₆ h₆ => ?_
  have hworking₆ : Working s₆ := hworking₅.keep h₆.staging
  refine (checkCancelled_keeps around _).wp_bind (fun e s' h => hworking₆.keep h.staging) fun _ s₇ h₇ => ?_
  have hworking₇ : Working s₇ := hworking₆.keep h₇.staging
  have hd₇ : s₇.staging = some (d.insert manifestPath (.file text)) := (h₇.trans h₆).1.trans hd₅
  rw [Effect.wp_bind]
  refine Effect.wp_mono (wp_replaceFinal hworking₇.2) fun r s₈ h₈ => ?_
  cases r with
  | error e => exact hworking₇.keep (KeepsDirectories.staging h₈)
  | ok u =>
  rw [Effect.seq_ok, Effect.wp_pure]
  exact ⟨h₈.1, _, h₈.2.trans hd₇, (hvalid.holds_iff htext).trans hlistable⟩

end Stage

/-! ## The whole import -/

section Run

variable {library : Library} {around : Surroundings} {request : ImportRequest}

theorem outside_of_none {call : Call} (h : around.raises call = none) : outside around call = pure () := by
  rw [outside, h]

theorem outside_of_some {call : Call} {e : ImportException} (h : around.raises call = some e) :
    outside around call = throw e := by
  rw [outside, h]

theorem publish_keeps : Keeps (publish around) :=
  Keeps.bind (flush_keeps around _ _ _) fun _ => .ite (outside_keeps around _) (Keeps.pure _)

theorem wp_publish {s : ImportState} :
    Effect.wp (publish around) (fun r _ => r = .ok () ↔ Published around) s := by
  unfold publish flush Published
  rw [Effect.wp_bind, Effect.wp_bind]
  cases hopen : around.raises .openStore with
  | some e => simp [outside_of_some hopen]
  | none =>
  rw [outside_of_none hopen, Effect.wp_pure, Effect.seq_ok, Effect.wp_bind, Effect.wp_tryCatch]
  cases hsync : around.raises .syncStore with
  | some e =>
    rw [outside_of_some hsync, Effect.wp_throw]
    simp only
    rw [Effect.wp_bind]
    cases hclose : around.raises .closeStore with
    | some e' => simp [outside_of_some hclose]
    | none => simp [outside_of_none hclose]
  | none =>
  rw [outside_of_none hsync, Effect.wp_pure]
  simp only
  rw [Effect.seq_ok]
  cases hclose : around.raises .closeStore with
  | some e => simp [outside_of_some hclose]
  | none =>
  rw [outside_of_none hclose, Effect.wp_pure, Effect.seq_ok, Effect.wp_ite]
  split
  · rename_i hprogress
    cases hready : around.raises .ready with
    | some e => simp [outside_of_some hready, hprogress]
    | none => simp [outside_of_none hready]
  · rename_i hprogress
    simp [hprogress]

theorem wp_cleanup {s : ImportState} :
    Effect.wp (cleanup around) (fun _ s' => s'.final = s.final ∧ (s.staging.isSome = true →
      (s'.staging = none ↔ around.raises .cleanupExists = none ∧ around.raises .removeStaging = none))) s := by
  unfold cleanup
  rw [Effect.wp_bind]
  cases hexists : around.raises .cleanupExists with
  | some e =>
    rw [outside_of_some hexists, Effect.wp_throw, Effect.seq_error]
    refine ⟨rfl, fun hs => ?_⟩
    have hne : s.staging ≠ none := Option.isSome_iff_ne_none.mp hs
    simp [hne]
  | none =>
  rw [outside_of_none hexists, Effect.wp_pure, Effect.seq_ok, wp_getState_bind, Effect.wp_ite]
  split
  · cases hremove : around.raises .removeStaging with
    | some e => exact ⟨rfl, fun _ => iff_of_false (Option.some_ne_none _) fun h => by cases h.2⟩
    | none => exact ⟨rfl, fun _ => iff_of_true rfl ⟨rfl, rfl⟩⟩
  · rename_i hs
    exact ⟨rfl, fun h => absurd h hs⟩

/-- The handlers raise and leave the final directory; they remove the staging directory of an
`Exception`, if they can. -/
theorem wp_handle {e : ImportException} {s : ImportState} :
    Effect.wp (handle around e) (fun r s' => (∃ e', r = .error e') ∧ s'.final = s.final ∧
      (s.staging.isSome = true → (s'.staging = none ↔ Handled around e))) s := by
  have hcleanup : ∀ e' : ImportException, e ≠ .exit →
      Effect.wp (do cleanup around; throw e' : Import ModelManifest) (fun r s' => (∃ e', r = .error e') ∧
        s'.final = s.final ∧ (s.staging.isSome = true → (s'.staging = none ↔ Handled around e))) s := by
    intro e' he
    rw [Effect.wp_bind]
    refine Effect.wp_mono wp_cleanup fun r s' h => ?_
    rw [Handled, and_iff_right he]
    cases r with
    | error e'' => exact ⟨⟨e'', rfl⟩, h⟩
    | ok u => exact ⟨⟨e', rfl⟩, h⟩
  cases e with
  | exit =>
    refine ⟨⟨.exit, rfl⟩, rfl, fun hs => ?_⟩
    have hne : s.staging ≠ none := Option.isSome_iff_ne_none.mp hs
    exact iff_of_false hne fun h => h.1 rfl
  | downloadCancelled message => exact hcleanup _ (by simp)
  | validationCancelled message => exact hcleanup _ (by simp)
  | importCancelled message => exact hcleanup _ (by simp)
  | fileExists => exact hcleanup _ (by simp)
  | modelValidation error => exact hcleanup _ (by simp)
  | other message => exact hcleanup _ (by simp)

theorem orderly_of_error {e : ImportException} (he : (stage library around request .entered).1 = .error e) :
    Orderly library around request ↔ Handled around e := by
  refine ⟨fun h => h.handled e he, fun h => ⟨fun e' he' => ?_, fun m hm => ?_, fun m hm => ?_⟩⟩
  · rw [he] at he'
    cases he'
    exact h
  · rw [he] at hm
    cases hm
  · rw [he] at hm
    cases hm

theorem orderly_of_ok {manifest : ModelManifest} (h : (stage library around request .entered).1 = .ok manifest) :
    Orderly library around request ↔ Published around ∧ Listable around request := by
  refine ⟨fun h' => ⟨h'.published manifest h, h'.listable manifest h⟩, fun h' => ⟨fun e he => ?_, fun _ _ => h'.1, fun _ _ => h'.2⟩⟩
  rw [h] at he
  cases he

/-- The `try` block and its handlers. -/
theorem wp_attempt :
    Effect.wp (tryCatch (do let manifest ← stage library around request; publish around; pure manifest)
      (handle around)) (fun r s => AllOrNothing library r s ↔ Orderly library around request) .entered := by
  have hrun : Effect.wp (stage library around request)
      (fun r _ => (stage library around request .entered).1 = r) .entered := rfl
  rw [Effect.wp_tryCatch, Effect.wp_bind]
  refine Effect.wp_mono (Effect.wp_and wp_stage hrun) ?_
  rintro r s ⟨hstaged, hr⟩
  cases r with
  | error e =>
    obtain ⟨hstaging, hfinal⟩ := hstaged
    rw [Effect.seq_error]
    refine Effect.wp_mono wp_handle ?_
    rintro r s' ⟨⟨e', rfl⟩, hfinal', hstaging'⟩
    rw [orderly_of_error hr, ← hstaging' hstaging]
    exact and_iff_left (hfinal'.trans hfinal)
  | ok manifest =>
    obtain ⟨hstaging, d, hd, hholds⟩ := hstaged
    rw [Effect.seq_ok, Effect.wp_bind]
    refine Effect.wp_mono (Effect.wp_and (publish_keeps.to_wp s) wp_publish) ?_
    rintro r s' ⟨hkeeps, hpublished⟩
    rw [orderly_of_ok hr, ← hpublished]
    cases r with
    | ok u =>
      rw [Effect.seq_ok, Effect.wp_pure, and_iff_right rfl, ← hholds]
      constructor
      · rintro ⟨-, d', hd', hholds'⟩
        rw [hkeeps.2, hd, Option.some.injEq] at hd'
        rwa [hd']
      · exact fun h => ⟨hkeeps.1.trans hstaging, d, hkeeps.2.trans hd, h⟩
    | error e =>
      rw [Effect.seq_error]
      refine Effect.wp_mono wp_handle ?_
      rintro r s'' ⟨⟨e', rfl⟩, hfinal, -⟩
      refine iff_of_false (fun h => ?_) fun h => by cases h.1
      rw [h.2, hkeeps.2, hd] at hfinal
      cases hfinal

/-- When an import is all or nothing, whatever it finds outside. -/
theorem run_allOrNothing (library : Library) (around : Surroundings) (request : ImportRequest) :
    AllOrNothing library (run library around request .fresh).1 (run library around request .fresh).2 ↔
      (Entered around → Orderly library around request) := by
  show Effect.wp (run library around request)
    (fun r s => AllOrNothing library r s ↔ (Entered around → Orderly library around request)) .fresh
  have hnothing : ∀ (e : ImportException), ¬Entered around → (AllOrNothing library (.error e) .fresh ↔
      (Entered around → Orderly library around request)) := fun e h =>
    iff_of_true ⟨rfl, rfl⟩ fun h' => absurd h' h
  unfold run
  rw [Effect.wp_bind]
  cases hstaging : around.raises .stagingExists with
  | some e =>
    rw [outside_of_some hstaging]
    exact hnothing e fun h => by simp [h.1] at hstaging
  | none =>
  rw [outside_of_none hstaging, Effect.wp_pure, Effect.seq_ok, wp_getState_bind, Effect.wp_ite, if_neg (by decide), Effect.wp_bind]
  cases hfinal : around.raises .finalExists with
  | some e =>
    rw [outside_of_some hfinal]
    exact hnothing e fun h => by simp [h.2.1] at hfinal
  | none =>
  rw [outside_of_none hfinal, Effect.wp_pure, Effect.seq_ok, wp_getState_bind, Effect.wp_ite, if_neg (by decide), Effect.wp_bind]
  cases hmake : around.raises .makeStaging with
  | some e =>
    rw [outside_of_some hmake]
    exact hnothing e fun h => by simp [h.2.2] at hmake
  | none =>
  have hentered : Entered around := ⟨hstaging, hfinal, hmake⟩
  rw [outside_of_none hmake, Effect.wp_pure, Effect.seq_ok, wp_setStaging_bind]
  refine Effect.wp_mono wp_attempt fun r s h => ?_
  rw [h, forall_prop_of_true hentered]

end Run

/-! ## A failed flush of the store -/

namespace Sample

def quote (s : PyStr) : PyStr := py "\"" ++ s ++ py "\""

/-- An object of `json.dumps` with `indent=2`. -/
def object (indent : PyStr) (fields : List (PyStr × PyStr)) : PyStr :=
  let lines := fields.map fun field => indent ++ py "  " ++ quote field.1 ++ py ": " ++ field.2
  py "\x7b\n" ++ (py ",\n").intercalate lines ++ py "\n" ++ indent ++ py "\x7d"

/-- The library on a manifest without architecture and requested revision, whose texts need no escapes. -/
def library : Library where
  float := float
  str := fun value => match value with
    | .str s => s
    | _ => []
  sha256 := fun content =>
    if content = text "\x7b\x7d" then py "44136fa355b3678a1146ad16f7e8649e94fb4fc21fe77e8310c060f61caaff8a"
    else if content = text "\x7b\"model_type\":\"llama\"\x7d" then
      py "fd11fd11fceeb9df51a63f347cec3af4051d086fccb030e78777a83a4d3289e8"
    else if content = weights then py "2e9dcdeec2a87d9187091b3e5ace96b491e42d7e673eef90040ab4c7a0bea2b0"
    else py "beafad6f697135fe030b259c8d0c10427c1bf33e302aeeddfdbcb5dcc2c9b4db"
  dumpsDigests := fun digests =>
    let objects := digests.map fun digest => py "\x7b\"path\":" ++ quote digest.path ++ py ",\"sha256\":" ++
      quote digest.sha256 ++ py ",\"size_bytes\":" ++ decimal digest.size ++ py "\x7d"
    some ((py "[" ++ (py ",").intercalate objects ++ py "]").map UInt8.ofNat)
  dumpsManifest := fun manifest =>
    let files := manifest.files.map fun digest => py "    " ++ object (py "    ") [(py "path", quote digest.path),
      (py "size_bytes", decimal digest.size), (py "sha256", quote digest.sha256)]
    some ((object [] [(py "model_type", quote manifest.modelType), (py "architecture", py "null"),
      (py "total_size_bytes", decimal manifest.totalSizeBytes), (py "file_count", decimal manifest.fileCount),
      (py "files", py "[\n" ++ (py ",\n").intercalate files ++ py "\n  ]"),
      (py "parameter_count", decimal (manifest.parameterCount.getD 0)),
      (py "weight_dtypes", py "[\n    " ++ (py ",\n    ").intercalate (manifest.weightDtypes.map quote) ++ py "\n  ]"),
      (py "checksum", quote (manifest.checksum.getD [])), (py "requested_revision", py "null"),
      (py "resolved_revision", quote (manifest.resolvedRevision.getD []))]).map UInt8.ofNat)

/-- What the download leaves. -/
def entries : List (Sigma fun _ : FilePath => DirectoryEntry) :=
  [⟨.top (py "config.json") (by decide), .file (text "\x7b\"model_type\":\"llama\"\x7d")⟩,
    ⟨.top (py "tokenizer_config.json") (by decide), .file (text "\x7b\x7d")⟩,
    ⟨.top (py "tokenizer.json") (by decide), .file (text "\x7b\x7d")⟩,
    ⟨.top (py "model.safetensors") (by decide), .file weights⟩]

theorem entries_nodup : entries.NodupKeys := by
  unfold List.NodupKeys
  decide +kernel

/-- `os.fsync` of the store directory fails. -/
def around : Surroundings where
  raises := fun call => match call with
    | .syncStore => some (.other (py "[Errno 5] Input/output error"))
    | _ => none
  cancelled := none
  progress := false
  source := .error (.other [])
  free := 2 ^ 40
  download := (.ok ⟨py "8afb486c1db24fe5011ec46dfbe5b5dccdb575c2", some 87⟩, ⟨entries, entries_nodup⟩)
  unreadable := fun _ => false
  leftover := ∅

def request : ImportRequest := ⟨.huggingface, some (py "org/model"), none, none⟩

end Sample

/-- A final directory remains. -/
theorem not_allOrNothing {library : Library} {r : Except ImportException ModelManifest} {s : ImportState}
    {e : ImportException} (hr : r = .error e) (hs : s.final.isSome = true) : ¬AllOrNothing library r s := by
  subst hr
  rintro ⟨-, hfinal⟩
  rw [hfinal] at hs
  cases hs

/-- The import raises, and the model stays in the store. -/
theorem final_remains :
    (run Sample.library Sample.around Sample.request .fresh).1 = .error (.other (py "[Errno 5] Input/output error")) ∧
      (run Sample.library Sample.around Sample.request .fresh).2.final.isSome = true ∧
      ¬AllOrNothing Sample.library (run Sample.library Sample.around Sample.request .fresh).1
        (run Sample.library Sample.around Sample.request .fresh).2 := by
  have hraised : (run Sample.library Sample.around Sample.request .fresh).1 =
      .error (.other (py "[Errno 5] Input/output error")) := by decide +kernel
  have hfinal : (run Sample.library Sample.around Sample.request .fresh).2.final.isSome = true := by decide +kernel
  exact ⟨hraised, hfinal, not_allOrNothing hraised hfinal⟩

end OpenLLMOps.Importer
