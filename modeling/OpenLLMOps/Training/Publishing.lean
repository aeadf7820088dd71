import OpenLLMOps.Training.Publication

/-!
# A publication is atomic, but not repeatable

Whatever raises, the published model is as before or complete, and the staging directory
is gone. A second call finds what the first one has published. It returns the path that
the model root resolves to, where the first one has returned the path as it is
configured; and it may find another artifact to publish than the first one, which passes
over an artifact that it fails to read. Where neither makes a difference, the calls
return the same (`publishesSafely_iff`).
-/

namespace OpenLLMOps.TrainingControl

open Framework Publish

section Publication

variable {D : Type} [DecidableEq D] (settings : PublicationSettings D) (around : Surroundings) (job : PublicationJob)

/-! ## What can be published -/

/-- The artifact of a kind, when nothing fails. -/
def candidate (kind : ArtifactKind) : FileCheck (Option ArtifactTree) := do
  match ← job.artifact kind with
  | none => .ok none
  | some d => do
    let tree ← scanTree settings.limits kind d.entries
    rejectUnsafeExportFiles tree
    validateDeployableModel settings.float (filesOf tree.nodes)
    .ok (some tree)

/-- The artifact can be published. -/
def Publishable (kind : ArtifactKind) (tree : ArtifactTree) : Prop :=
  (kind = .merged ∨ kind = .full) ∧ candidate settings job kind = .ok (some tree)

/-- There is no merged model, or it is refused with a `TrainingControlError`. -/
def MergedPassedOver : Prop :=
  candidate settings job .merged = .ok none ∨
    ∃ text names, candidate settings job .merged = .error (.refused text names)

/-- Nothing raises. -/
def Surroundings.Calm : Prop := ∀ step, around.raises step = none

/-- Nothing raises but, possibly, the inspection of an artifact. -/
def Surroundings.Quiet : Prop := ∀ step, step.inspects = false → around.raises step = none

variable {settings around job}

omit [DecidableEq D] in
theorem Publishable.spec {kind : ArtifactKind} {tree : ArtifactTree} (h : Publishable settings job kind tree) :
    ∃ d : Directory, scanTree settings.limits kind d.entries = .ok tree ∧
      validateDeployableModel settings.float (filesOf tree.nodes) = .ok () := by
  have h := h.2
  unfold candidate at h
  obtain ⟨artifact, -, h⟩ := bind_eq_ok.mp h
  cases artifact with
  | none => cases h
  | some d =>
    obtain ⟨scanned, hscan, h⟩ := bind_eq_ok.mp h
    obtain ⟨⟨⟩, -, h⟩ := bind_eq_ok.mp h
    obtain ⟨⟨⟩, hdeployable, h⟩ := bind_eq_ok.mp h
    cases h
    exact ⟨d, hscan, hdeployable⟩

omit [DecidableEq D] in
/-- A tree that can be published has a fingerprint. -/
theorem Publishable.fingerprint {kind : ArtifactKind} {tree : ArtifactTree} (h : Publishable settings job kind tree) :
    ∃ checksum, treeContentFingerprint settings.hash tree = some checksum := by
  obtain ⟨d, hscan, -⟩ := h.spec
  obtain ⟨input, hinput⟩ := Scanned.input ⟨settings.limits, kind, d, hscan⟩
  exact ⟨settings.hash input, by rw [treeContentFingerprint, hinput]; rfl⟩

/-! ## Calls -/

theorem pure_bind {α β : Type} (a : α) (f : α → Publish β) : (pure a >>= f) = f a := rfl

theorem outside_of_none {step : Step} (h : around.raises step = none) : outside around step = pure () := by
  unfold outside
  rw [h]

theorem outside_of_some {step : Step} {fault : Fault} (h : around.raises step = some fault) :
    outside around step = throw (.ofFault fault) := by
  unfold outside
  rw [h]

theorem outsideAs_of_none {step : Step} (h : around.raises step = none) (text : PyStr) :
    outsideAs around step text = pure () := by
  unfold outsideAs
  rw [outside_of_none h]
  rfl

section Steps

variable {α : Type} {Q : Except PublicationError α → Store → Prop} {s : Store} {step : Step} {m : Publish α}

/-- A step raises and changes nothing, or the rest follows. -/
theorem wp_step (hstep : step.inspects = false) (herror : ¬ around.Quiet → ∀ e, Q (.error e) s)
    (hm : Effect.wp m Q s) : Effect.wp (do outside around step; m) Q s := by
  cases h : around.raises step with
  | none =>
    rw [outside_of_none h]
    exact hm
  | some fault =>
    rw [outside_of_some h]
    refine herror (fun hquiet => ?_) _
    rw [hquiet step hstep] at h
    cases h

theorem wp_stepAs (hstep : step.inspects = false) (text : PyStr) (herror : ¬ around.Quiet → ∀ e, Q (.error e) s)
    (hm : Effect.wp m Q s) : Effect.wp (do outsideAs around step text; m) Q s := by
  cases h : around.raises step with
  | none =>
    rw [outsideAs_of_none h]
    exact hm
  | some fault =>
    unfold outsideAs
    rw [outside_of_some h]
    refine herror (fun hquiet => ?_) _
    rw [hquiet step hstep] at h
    cases h

theorem wp_getState_bind {f : Store → Publish α} : Effect.wp (getState >>= f) Q s ↔ Effect.wp (f s) Q s := Iff.rfl

theorem wp_cleanly : Effect.wp (cleanly m) Q s ↔ Effect.wp m (fun r s' => Q r { s' with staging := none }) s := Iff.rfl

end Steps

/-! ## The copy -/

/-- The loop leaves the target, and the copy `f` unless it raises. -/
structure Copied (around : Surroundings) (s : Store) (f : Forest) (r : Except PublicationError Unit) (s' : Store) : Prop where
  target : s'.target = s.target
  staging : ∀ u, r = .ok u → s'.staging = some f
  quiet : around.Quiet → r = .ok ()

theorem Copied.error {s s' : Store} {f : Forest} {e : PublicationError} (h : ¬ around.Quiet) (ht : s'.target = s.target) :
    Copied around s f (.error e) s' where
  target := ht
  staging := fun _ h => by cases h
  quiet := fun hquiet => absurd hquiet h

theorem wp_makeNode {node : TreeNode} {f f' : Forest} (hplace : f.placeNode node = some f') {s : Store}
    (hs : s.staging = some f) : Effect.wp (makeNode node) (Copied around s f') s := by
  show Effect.wp (setPlaced (Forest.placeNode (s.staging.getD .nil) node)) _ s
  rw [hs, Option.getD_some, hplace]
  exact ⟨rfl, fun _ _ => rfl, fun _ => rfl⟩

/-- Whatever is made, the target stays. -/
theorem makeNode_target (node : TreeNode) (s : Store) : (makeNode node s).2.target = s.target := by
  show (setPlaced (Forest.placeNode (s.staging.getD .nil) node) s).2.target = _
  cases Forest.placeNode (s.staging.getD .nil) node <;> rfl

theorem wp_copyNode (around : Surroundings) {node : TreeNode} {f f' : Forest} (hplace : f.placeNode node = some f') {s : Store}
    (hs : s.staging = some f) : Effect.wp (copyNode around node) (Copied around s f') s := by
  unfold copyNode
  refine wp_stepAs rfl _ (fun hq e => .error hq rfl) ?_
  cases hcontent : node.content with
  | none => exact wp_step rfl (fun hq e => .error hq rfl) (wp_makeNode hplace hs)
  | some content =>
    refine wp_step rfl (fun hq e => .error hq rfl) ?_
    cases hraises : around.raises (.copyFile node.path) with
    | none => exact wp_makeNode hplace hs
    | some fault =>
      have hq : ¬ around.Quiet := fun hquiet => by
        rw [hquiet _ rfl] at hraises
        cases hraises
      rw [Effect.wp_bind]
      show Effect.Seq _ _ (makeNode _ s).1 (makeNode _ s).2
      have htarget := makeNode_target ⟨node.path, some (content.take (around.written node.path))⟩ s
      cases (makeNode ⟨node.path, some (content.take (around.written node.path))⟩ s).1 with
      | error e => exact .error hq htarget
      | ok u => exact .error hq htarget

theorem wp_copyNodes (around : Surroundings) {nodes : List TreeNode} {f f' : Forest} (hplace : nodes.foldlM Forest.placeNode f = some f') {s : Store}
    (hs : s.staging = some f) : Effect.wp (copyNodes around nodes) (Copied around s f') s := by
  induction nodes generalizing f s with
  | nil =>
    cases hplace
    exact ⟨rfl, fun _ _ => hs, fun _ => rfl⟩
  | cons node nodes ih =>
    rw [List.foldlM_cons] at hplace
    obtain ⟨f₁, hnode, hnodes⟩ := Option.bind_eq_some_iff.mp hplace
    show Effect.wp (do copyNode around node; copyNodes around nodes) _ s
    rw [Effect.wp_bind]
    refine Effect.wp_mono (wp_copyNode around hnode hs) fun r s₁ h => ?_
    cases r with
    | error e =>
      refine .error (fun hquiet => ?_) h.target
      cases h.quiet hquiet
    | ok u =>
      refine Effect.wp_mono (ih hnodes (h.staging u rfl)) fun r s₂ h' => ?_
      exact ⟨h'.target.trans h.target, h'.staging, h'.quiet⟩

theorem wp_outside {Q : Except PublicationError Unit → Store → Prop} {s : Store} {step : Step}
    (hstep : step.inspects = false) (herror : ¬ around.Quiet → ∀ e, Q (.error e) s) (hok : Q (.ok ()) s) :
    Effect.wp (outside around step) Q s := by
  cases h : around.raises step with
  | none =>
    rw [outside_of_none h]
    exact hok
  | some fault =>
    rw [outside_of_some h]
    refine herror (fun hquiet => ?_) _
    rw [hquiet step hstep] at h
    cases h

/-- A scanned tree is copied. -/
theorem wp_copyTree (around : Surroundings) {limits : TreeLimits} {source : ArtifactTree} {d : Directory}
    {kind : ArtifactKind} (hscan : scanTree limits kind d.entries = .ok source) {s : Store} :
    Effect.wp (copyTree around source) (Copied around s d.entries) s := by
  obtain ⟨⟨hplain, -, -⟩, rfl⟩ := scanTree_eq_ok.mp hscan
  unfold copyTree
  refine wp_step rfl (fun hq e => .error hq rfl) ?_
  show Effect.wp (do copyNodes around (d.entries.nodes []); outside around .verifyRoot) _ { s with staging := some .nil }
  rw [Effect.wp_bind]
  refine Effect.wp_mono (wp_copyNodes around (Forest.copied d.ordered hplain) rfl) fun r s₁ h => ?_
  cases r with
  | error e =>
    refine .error (fun hquiet => ?_) h.target
    cases h.quiet hquiet
  | ok u => exact wp_outside rfl (fun hq e => .error hq h.target) ⟨h.target, fun _ _ => h.staging u rfl, fun _ => rfl⟩

/-! ## A new publication -/

/-- Before the rename the target stays; the staging directory is the source, unless something has been raised. -/
structure Staged (around : Surroundings) (s : Store) (source : ArtifactTree) (entries : Forest)
    (r : Except PublicationError ArtifactTree) (s' : Store) : Prop where
  target : s'.target = s.target
  staging : ∀ staged, r = .ok staged → s'.staging = some entries ∧ staged.sizeBytes = source.sizeBytes
  quiet : around.Quiet → ∃ staged, r = .ok staged

theorem Staged.error {s s' : Store} {source : ArtifactTree} {f : Forest} {e : PublicationError} (h : ¬ around.Quiet)
    (ht : s'.target = s.target) : Staged around s source f (.error e) s' where
  target := ht
  staging := fun _ h => by cases h
  quiet := fun hquiet => absurd hquiet h

/-- A tree is the same as a full model. -/
theorem scanTree_full {limits : TreeLimits} {kind : ArtifactKind} {t : Forest} {tree : ArtifactTree}
    (h : scanTree limits kind t = .ok tree) : scanTree limits .full t = .ok { tree with kind := .full } := by
  obtain ⟨hok, rfl⟩ := scanTree_eq_ok.mp h
  exact scanTree_eq_ok.mpr ⟨hok, rfl⟩

theorem wp_stage (around : Surroundings) {source : ArtifactTree} {d : Directory} {kind : ArtifactKind} {checksum : D}
    (hscan : scanTree settings.limits kind d.entries = .ok source)
    (hdeployable : validateDeployableModel settings.float (filesOf source.nodes) = .ok ())
    (hchecksum : treeContentFingerprint settings.hash source = some checksum) {s : Store} :
    Effect.wp (stage settings around source checksum) (Staged around s source d.entries) s := by
  unfold stage
  refine wp_step rfl (fun hq e => .error hq rfl) ?_
  show Effect.wp (do
    copyTree around source
    outside around .scanStaged
    _) _ { s with staging := none }
  rw [Effect.wp_bind]
  refine Effect.wp_mono (wp_copyTree around hscan) fun r s₁ h => ?_
  cases r with
  | error e =>
    refine .error (fun hquiet => ?_) h.target
    cases h.quiet hquiet
  | ok u =>
    have herror (hq : ¬ around.Quiet) (e : PublicationError) : Staged around s source d.entries (.error e) s₁ :=
      .error hq h.target
    refine wp_step rfl herror ?_
    show Effect.wp (do
      let staged ← checked (scanTree settings.limits .full (s₁.staging.getD .nil))
      _) _ s₁
    rw [h.staging u rfl, Option.getD_some, scanTree_full hscan]
    refine wp_step rfl herror ?_
    rw [hdeployable]
    refine wp_step rfl herror ?_
    have hfingerprint : fingerprint settings { source with kind := .full } = pure checksum := by
      unfold fingerprint
      rw [show treeContentFingerprint settings.hash { source with kind := .full } = some checksum from hchecksum]
    rw [hfingerprint]
    show Effect.wp (if checksum ≠ checksum then _ else _) _ s₁
    rw [if_neg (not_not.mpr rfl)]
    refine ⟨h.target, fun staged hstaged => ?_, fun _ => ⟨_, rfl⟩⟩
    cases hstaged
    exact ⟨h.staging u rfl, rfl⟩

theorem wp_syncRoot (around : Surroundings) {s : Store} :
    Effect.wp (syncRoot around) (fun r s' => s' = s ∧ (around.Quiet → r = .ok ())) s := by
  have herror (hq : ¬ around.Quiet) (e : PublicationError) :
      s = s ∧ (around.Quiet → (.error e : Except PublicationError Unit) = .ok ()) := ⟨rfl, fun hquiet => absurd hquiet hq⟩
  unfold syncRoot
  refine wp_step rfl herror ?_
  rw [Effect.wp_bind, Effect.wp_tryCatch]
  refine wp_outside rfl (fun hq e => wp_step rfl (fun _ => herror hq) (herror hq e)) ?_
  dsimp only
  rw [Effect.seq_ok]
  exact wp_outside rfl herror ⟨rfl, fun _ => rfl⟩

/-- The staging directory is renamed, or nothing changes. -/
theorem wp_renameStaging (around : Surroundings) {s : Store} {entries : Forest} (htarget : s.target = none) (hstaging : s.staging = some entries) :
    Effect.wp (renameStaging around) (fun r s' =>
      r = .ok () ∧ s' = ⟨some (.directory entries), none⟩ ∨ ((∃ e, r = .error e) ∧ ¬ around.Quiet) ∧ s' = s) s := by
  unfold renameStaging
  refine wp_step rfl (fun hq e => .inr ⟨⟨⟨e, rfl⟩, hq⟩, rfl⟩) ?_
  rw [wp_getState_bind, htarget]
  refine wp_stepAs rfl _ (fun hq e => .inr ⟨⟨⟨e, rfl⟩, hq⟩, rfl⟩) ?_
  rw [hstaging]
  exact .inl ⟨rfl, rfl⟩

/-- How a new publication ends. -/
structure Published (settings : PublicationSettings D) (around : Surroundings) (job : PublicationJob) (kind : ArtifactKind)
    (source : ArtifactTree) (checksum : D) (entries : Forest) (r : Except PublicationError (PublishedModelFiles D))
    (s' : Store) : Prop where
  staging : s'.staging = none
  target : s'.target = none ∧ (∃ e, r = .error e) ∨
    s'.target = some (.directory entries) ∧
      ∀ p, r = .ok p → p = ⟨settings.root ++ [publishedName job], source.sizeBytes, checksum, true, kind⟩
  quiet : around.Quiet → ∃ p, r = .ok p

theorem wp_publishNew (around : Surroundings) (job : PublicationJob) {source : ArtifactTree} {d : Directory} {kind : ArtifactKind} {checksum : D}
    (hscan : scanTree settings.limits kind d.entries = .ok source)
    (hdeployable : validateDeployableModel settings.float (filesOf source.nodes) = .ok ())
    (hchecksum : treeContentFingerprint settings.hash source = some checksum) {s : Store} (htarget : s.target = none)
    (hstaging : s.staging = none) :
    Effect.wp (publishNew settings around job kind source checksum)
      (Published settings around job kind source checksum d.entries) s := by
  have herror (hq : ¬ around.Quiet) (e : PublicationError) (s' : Store) (hs : s'.staging = none) (ht : s'.target = none) :
      Published settings around job kind source checksum d.entries (.error e) s' :=
    ⟨hs, .inl ⟨ht, e, rfl⟩, fun hquiet => absurd hquiet hq⟩
  unfold publishNew
  refine wp_step rfl (fun hq e => herror hq e s hstaging htarget) ?_
  show Effect.wp (cleanly do
    let staged ← stage settings around source checksum
    _) _ { s with staging := some .nil }
  rw [wp_cleanly, Effect.wp_bind]
  refine Effect.wp_mono (wp_stage around hscan hdeployable hchecksum) fun r s₁ h => ?_
  cases r with
  | error e =>
    refine herror (fun hquiet => ?_) e _ rfl (h.target.trans htarget)
    obtain ⟨staged, hstaged⟩ := h.quiet hquiet
    cases hstaged
  | ok staged =>
    obtain ⟨hcopy, hsize⟩ := h.staging staged rfl
    have ht : s₁.target = none := h.target.trans htarget
    rw [Effect.seq_ok, Effect.wp_bind]
    refine Effect.wp_mono (wp_renameStaging around ht hcopy) fun r s₂ h₂ => ?_
    rcases h₂ with ⟨rfl, rfl⟩ | ⟨⟨⟨e, rfl⟩, hq⟩, rfl⟩
    · rw [Effect.seq_ok, Effect.wp_bind]
      refine Effect.wp_mono (wp_syncRoot around) fun r s₃ h₃ => ?_
      obtain ⟨rfl, hquiet⟩ := h₃
      cases r with
      | error e => exact ⟨rfl, .inr ⟨rfl, fun p hp => by cases hp⟩, fun hq => absurd (hquiet hq) nofun⟩
      | ok u =>
        refine ⟨rfl, .inr ⟨rfl, fun p hp => ?_⟩, fun _ => ⟨_, rfl⟩⟩
        cases hp
        rw [hsize]
    · exact herror hq e _ rfl ht

/-! ## A model that is there -/

/-- What is at the target is a model that passes the checks and has the fingerprint. -/
structure Found (settings : PublicationSettings D) (target : Option Target) (checksum : D) (existing : ArtifactTree) : Prop where
  directory : ∃ entries, target = some (.directory entries) ∧ scanTree settings.limits .full entries = .ok existing
  deployable : validateDeployableModel settings.float (filesOf existing.nodes) = .ok ()
  fingerprint : treeContentFingerprint settings.hash existing = some checksum

omit [DecidableEq D] in
theorem Found.unique {target : Option Target} {checksum checksum' : D} {existing existing' : ArtifactTree}
    (h : Found settings target checksum existing) (h' : Found settings target checksum' existing') :
    existing' = existing ∧ checksum' = checksum := by
  obtain ⟨entries, rfl, hscan⟩ := h.directory
  obtain ⟨entries', he, hscan'⟩ := h'.directory
  cases he
  obtain rfl := Except.ok.inj (hscan.symm.trans hscan')
  exact ⟨rfl, Option.some.inj (h'.fingerprint.symm.trans h.fingerprint)⟩

omit [DecidableEq D] in
/-- A published model is found, with the size and the fingerprint of the source. -/
theorem Publishable.found {kind : ArtifactKind} {tree : ArtifactTree} (h : Publishable settings job kind tree) {checksum : D}
    (hchecksum : treeContentFingerprint settings.hash tree = some checksum) {entries : Forest}
    (hscan : scanTree settings.limits kind entries = .ok tree) :
    Found settings (some (.directory entries)) checksum { tree with kind := .full } where
  directory := ⟨entries, rfl, scanTree_full hscan⟩
  deployable := h.spec.choose_spec.2
  fingerprint := hchecksum

/-- How a call ends that has found something. -/
structure Recognized (settings : PublicationSettings D) (around : Surroundings) (job : PublicationJob) (target : Target)
    (kind : ArtifactKind) (checksum : D) (s : Store) (r : Except PublicationError (PublishedModelFiles D))
    (s' : Store) : Prop where
  unchanged : s' = s
  returned : ∀ p, r = .ok p → ∃ existing, Found settings (some target) checksum existing ∧
    p = ⟨settings.resolvedRoot ++ [publishedName job], existing.sizeBytes, checksum, false, kind⟩
  quiet : around.Quiet → ∀ existing, Found settings (some target) checksum existing → ∃ p, r = .ok p

omit [DecidableEq D] in
theorem Recognized.error {target : Target} {kind : ArtifactKind} {checksum : D} {s : Store} {e : PublicationError}
    (h : around.Quiet → ∀ existing, ¬ Found settings (some target) checksum existing) :
    Recognized settings around job target kind checksum s (.error e) s where
  unchanged := rfl
  returned := fun _ hp => by cases hp
  quiet := fun hquiet existing hfound => absurd hfound (h hquiet existing)

theorem wp_publishExisting (around : Surroundings) {target : Target} {kind : ArtifactKind} {checksum : D} {s : Store} :
    Effect.wp (publishExisting settings around job target kind checksum)
      (Recognized settings around job target kind checksum s) s := by
  have herror (hq : ¬ around.Quiet) (e : PublicationError) :
      Recognized settings around job target kind checksum s (.error e) s := .error fun hquiet => absurd hquiet hq
  have hnone {target' : Target} (h : ∀ entries, target' ≠ .directory entries) :
      around.Quiet → ∀ existing, ¬ Found settings (some target') checksum existing := fun _ existing hfound => by
    obtain ⟨entries, he, -⟩ := hfound.directory
    exact h entries (Option.some.inj he)
  unfold publishExisting
  refine wp_step rfl herror ?_
  cases target with
  | symlink => exact .error (hnone fun entries h => by cases h)
  | other => exact .error (hnone fun entries h => by cases h)
  | directory entries =>
    refine wp_step rfl herror ?_
    cases hscan : scanTree settings.limits .full entries with
    | error e =>
      refine .error fun _ existing h => ?_
      obtain ⟨entries', he, hscan'⟩ := h.directory
      cases he
      rw [hscan] at hscan'
      cases hscan'
    | ok tree =>
      have htree {existing : ArtifactTree} (h : Found settings (some (.directory entries)) checksum existing) :
          existing = tree := by
        obtain ⟨entries', he, hscan'⟩ := h.directory
        cases he
        exact Except.ok.inj (hscan'.symm.trans hscan)
      refine wp_step rfl herror ?_
      cases hdeployable : validateDeployableModel settings.float (filesOf tree.nodes) with
      | error e =>
        refine .error fun _ existing h => ?_
        rw [← htree h, h.deployable] at hdeployable
        cases hdeployable
      | ok u =>
        refine wp_step rfl herror ?_
        unfold fingerprint
        cases hfingerprint : treeContentFingerprint settings.hash tree with
        | none =>
          refine .error fun _ existing h => ?_
          rw [← htree h, h.fingerprint] at hfingerprint
          cases hfingerprint
        | some checksum' =>
          show Effect.wp (pure checksum' >>= fun c => _) _ s
          rw [pure_bind, Effect.wp_ite]
          split
          · rename_i hne
            refine .error fun _ existing h => ?_
            rw [← htree h, h.fingerprint] at hfingerprint
            exact absurd (Option.some.inj hfingerprint).symm hne
          · rename_i heq
            refine ⟨rfl, fun p hp => ?_, fun _ _ _ => ⟨_, rfl⟩⟩
            cases hp
            exact ⟨tree, ⟨⟨entries, rfl, hscan⟩, hdeployable, (not_not.mp heq) ▸ hfingerprint⟩, rfl⟩

/-! ## A call with its source -/

/-- How a call ends that publishes `source`. -/
inductive Ending (settings : PublicationSettings D) (job : PublicationJob) (kind : ArtifactKind) (source : ArtifactTree)
    (checksum : D) (s : Store) : Except PublicationError (PublishedModelFiles D) → Store → Prop
  /-- It raises and changes nothing. -/
  | failed (e : PublicationError) : Ending settings job kind source checksum s (.error e) s
  /-- The rename has been made. -/
  | created {entries : Forest} {r : Except PublicationError (PublishedModelFiles D)} (habsent : s.target = none)
      (hscan : scanTree settings.limits kind entries = .ok source)
      (hr : ∀ p, r = .ok p → p = ⟨settings.root ++ [publishedName job], source.sizeBytes, checksum, true, kind⟩) :
      Ending settings job kind source checksum s r ⟨some (.directory entries), none⟩
  /-- The model is there. -/
  | found {existing : ArtifactTree} (h : Found settings s.target checksum existing) :
      Ending settings job kind source checksum s
        (.ok ⟨settings.resolvedRoot ++ [publishedName job], existing.sizeBytes, checksum, false, kind⟩) s

/-- Without a fault the source is published, or the model is found. -/
def Settled (settings : PublicationSettings D) (around : Surroundings) (checksum : D) (s : Store)
    (r : Except PublicationError (PublishedModelFiles D)) : Prop :=
  around.Quiet → (s.target = none ∨ ∃ existing, Found settings s.target checksum existing) → ∃ p, r = .ok p

theorem wp_publishArtifact (around : Surroundings) {kind : ArtifactKind} {source : ArtifactTree} (h : Publishable settings job kind source)
    {checksum : D} (hchecksum : treeContentFingerprint settings.hash source = some checksum) {s : Store}
    (hs : s.staging = none) :
    Effect.wp (publishArtifact settings around job kind source) (fun r s' =>
      Ending settings job kind source checksum s r s' ∧ Settled settings around checksum s r) s := by
  have herror (hq : ¬ around.Quiet) (e : PublicationError) :
      Ending settings job kind source checksum s (.error e) s ∧ Settled settings around checksum s (.error e) :=
    ⟨.failed e, fun hquiet => absurd hquiet hq⟩
  obtain ⟨d, hscan, hdeployable⟩ := h.spec
  unfold publishArtifact
  refine wp_step rfl herror ?_
  have hfingerprint : fingerprint settings source = pure checksum := by
    unfold fingerprint
    rw [hchecksum]
  rw [hfingerprint, pure_bind]
  refine wp_step rfl herror (wp_stepAs rfl _ herror ?_)
  rw [wp_getState_bind, Effect.wp_ite]
  split
  · rename_i hsymlink
    refine ⟨.failed _, fun _ htarget => ?_⟩
    rw [hsymlink] at htarget
    rcases htarget with htarget | ⟨existing, hfound⟩
    · cases htarget
    · obtain ⟨entries, he, -⟩ := hfound.directory
      cases he
  · rw [Effect.wp_tryCatch]
    refine wp_step rfl (fun hq e => herror hq _) (wp_stepAs rfl _ (fun hq e => herror hq _) ?_)
    cases htarget : s.target with
    | none =>
      refine Effect.wp_mono (wp_publishNew around job hscan hdeployable hchecksum htarget hs)
        fun r s' hpublished => ?_
      obtain ⟨target', staging'⟩ := s'
      obtain rfl : staging' = none := hpublished.staging
      cases r with
      | error e =>
        have hnot : ¬ around.Quiet := fun hquiet => by
          obtain ⟨p, hp⟩ := hpublished.quiet hquiet
          cases hp
        rcases hpublished.target with ⟨rfl, -⟩ | ⟨rfl, -⟩
        · have hsame : s = ⟨none, none⟩ := by
            cases s
            cases htarget
            cases hs
            rfl
          exact hsame ▸ herror hnot _
        · exact ⟨.created htarget hscan fun p hp => (by cases hp), fun hquiet => absurd hquiet hnot⟩
      | ok p =>
        rcases hpublished.target with ⟨-, e, he⟩ | ⟨rfl, hp⟩
        · cases he
        · exact ⟨.created htarget hscan hp, fun _ _ => ⟨p, rfl⟩⟩
    | some target =>
      refine Effect.wp_mono (wp_publishExisting around) fun r s' hrecognized => ?_
      obtain rfl := hrecognized.unchanged
      cases r with
      | error e =>
        refine ⟨.failed _, fun hquiet hfound => ?_⟩
        rw [htarget] at hfound
        rcases hfound with hnone | ⟨existing, hfound⟩
        · cases hnone
        · obtain ⟨p, hp⟩ := hrecognized.quiet hquiet existing hfound
          cases hp
      | ok p =>
        obtain ⟨existing, hfound, rfl⟩ := hrecognized.returned p rfl
        exact ⟨.found (htarget ▸ hfound), fun _ _ => ⟨_, rfl⟩⟩

/-! ## The source -/

/-- How the inspection of a kind ends. -/
structure Inspected (settings : PublicationSettings D) (around : Surroundings) (job : PublicationJob) (kind : ArtifactKind)
    (s : Store) (r : Except PublicationError (Option ArtifactTree)) (s' : Store) : Prop where
  unchanged : s' = s
  returned : ∀ artifact, r = .ok artifact → candidate settings job kind = .ok artifact
  unfaulted : around.raises (.inspect kind) = none → around.raises (.check kind) = none →
    r = (candidate settings job kind).mapError .ofCheck

omit [DecidableEq D] in
theorem Inspected.fault {kind : ArtifactKind} {s : Store} {e : PublicationError}
    (h : around.raises (.inspect kind) = none → ¬ around.raises (.check kind) = none) :
    Inspected settings around job kind s (.error e) s where
  unchanged := rfl
  returned := fun _ h => by cases h
  unfaulted := fun hi hc => absurd hc (h hi)

omit [DecidableEq D] in
theorem Inspected.refused {kind : ArtifactKind} {s : Store} {e : ModelFileError}
    (h : candidate settings job kind = .error e) : Inspected settings around job kind s (.error (.ofCheck e)) s where
  unchanged := rfl
  returned := fun _ h => by cases h
  unfaulted := fun _ _ => by rw [h]; rfl

omit [DecidableEq D] in
theorem Inspected.accepted {kind : ArtifactKind} {s : Store} {artifact : Option ArtifactTree}
    (h : candidate settings job kind = .ok artifact) : Inspected settings around job kind s (.ok artifact) s where
  unchanged := rfl
  returned := fun _ he => by cases he; exact h
  unfaulted := fun _ _ => by rw [h]; rfl

omit [DecidableEq D] in
theorem wp_deployableArtifact {kind : ArtifactKind} {s : Store} :
    Effect.wp (deployableArtifact settings around job kind) (Inspected settings around job kind s) s := by
  unfold deployableArtifact inspectTrainingArtifact
  cases hinspect : around.raises (.inspect kind) with
  | some fault =>
    rw [outside_of_some hinspect]
    refine .fault fun h => ?_
    rw [hinspect] at h
    cases h
  | none =>
    rw [outside_of_none hinspect]
    cases hartifact : job.artifact kind with
    | error e => exact .refused (by unfold candidate; rw [hartifact]; rfl)
    | ok artifact =>
      cases artifact with
      | none => exact .accepted (by unfold candidate; rw [hartifact]; rfl)
      | some d =>
        have hcandidate : candidate settings job kind = (do
            let tree ← scanTree settings.limits kind d.entries
            rejectUnsafeExportFiles tree
            validateDeployableModel settings.float (filesOf tree.nodes)
            .ok (some tree)) := by
          unfold candidate
          rw [hartifact]
          rfl
        show Effect.wp ((checked (scanTree settings.limits kind d.entries) >>= fun tree => _) >>= _) _ s
        cases hscan : scanTree settings.limits kind d.entries with
        | error e => exact .refused (by rw [hcandidate, hscan]; rfl)
        | ok tree =>
          rw [hscan] at hcandidate
          show Effect.wp ((checked (rejectUnsafeExportFiles tree) >>= fun _ => _) >>= _) _ s
          cases hreject : rejectUnsafeExportFiles tree with
          | error e => exact .refused (by rw [hcandidate]; show (rejectUnsafeExportFiles tree >>= _) = _; rw [hreject]; rfl)
          | ok u =>
            have hcandidate : candidate settings job kind =
                (validateDeployableModel settings.float (filesOf tree.nodes) >>= fun _ => .ok (some tree)) := by
              rw [hcandidate]
              show (rejectUnsafeExportFiles tree >>= _) = _
              rw [hreject]
              rfl
            show Effect.wp (do outside around (.check kind); _) _ s
            cases hcheck : around.raises (.check kind) with
            | some fault =>
              rw [outside_of_some hcheck]
              refine .fault fun _ h => ?_
              rw [hcheck] at h
              cases h
            | none =>
              rw [outside_of_none hcheck]
              show Effect.wp (checked (validateDeployableModel settings.float (filesOf tree.nodes)) >>= fun _ => _) _ s
              cases hdeployable : validateDeployableModel settings.float (filesOf tree.nodes) with
              | error e => exact .refused (by rw [hcandidate, hdeployable]; rfl)
              | ok u => exact .accepted (by rw [hcandidate, hdeployable]; rfl)

section Source

variable {kind : ArtifactKind} {kinds : List ArtifactKind} {causes : List (ArtifactKind × PyStr × List PyStr)} {s : Store}

omit [DecidableEq D] in
/-- The loop ends with an artifact that can be published. -/
theorem publicationSourceOf_some {tree : ArtifactTree}
    (h : deployableArtifact settings around job kind s = (.ok (some tree), s)) :
    publicationSourceOf settings around job (kind :: kinds) causes s = (.ok (kind, tree), s) :=
  Effect.bind_of_ok (Effect.tryCatch_of_ok (Effect.map_of_ok h))

omit [DecidableEq D] in
/-- It passes over an artifact that is not there, or for which a `TrainingControlError` is raised. -/
theorem publicationSourceOf_none (h : deployableArtifact settings around job kind s = (.ok none, s)) :
    publicationSourceOf settings around job (kind :: kinds) causes s =
      publicationSourceOf settings around job kinds causes s :=
  Effect.bind_of_ok (Effect.tryCatch_of_ok (Effect.map_of_ok h))

omit [DecidableEq D] in
theorem publicationSourceOf_control {text : PyStr} {names : List PyStr}
    (h : deployableArtifact settings around job kind s = (.error (.control text names), s)) :
    publicationSourceOf settings around job (kind :: kinds) causes s =
      publicationSourceOf settings around job kinds (causes ++ [(kind, text, names)]) s := by
  have hcaught : (tryCatch (Sum.inl <$> deployableArtifact settings around job kind) asCause :
      Publish (Option ArtifactTree ⊕ PyStr × List PyStr)) s = (.ok (.inr (text, names)), s) :=
    Effect.tryCatch_of_error (Effect.map_of_error h)
  exact Effect.bind_of_ok hcaught

omit [DecidableEq D] in
/-- It passes on another exception. -/
theorem publicationSourceOf_error {e : PublicationError} (he : ∀ text names, e ≠ .control text names)
    (h : deployableArtifact settings around job kind s = (.error e, s)) :
    publicationSourceOf settings around job (kind :: kinds) causes s = (.error e, s) := by
  refine Effect.bind_of_error ((Effect.tryCatch_of_error (Effect.map_of_error h)).trans ?_)
  cases e with
  | control text names => exact absurd rfl (he text names)
  | noModel causes => rfl
  | os => rfl
  | other => rfl

omit [DecidableEq D] in
/-- What the loop returns can be published. -/
theorem wp_publicationSourceOf :
    Effect.wp (publicationSourceOf settings around job kinds causes)
      (fun r s' => s' = s ∧ ∀ p, r = .ok p → p.1 ∈ kinds ∧ candidate settings job p.1 = .ok (some p.2)) s := by
  induction kinds generalizing causes with
  | nil => exact ⟨rfl, fun _ h => by cases h⟩
  | cons kind kinds ih =>
    have hrest {causes' : List (ArtifactKind × PyStr × List PyStr)} :
        Effect.wp (publicationSourceOf settings around job kinds causes') (fun r s' => s' = s ∧
          ∀ p, r = .ok p → p.1 ∈ kind :: kinds ∧ candidate settings job p.1 = .ok (some p.2)) s := by
      refine Effect.wp_mono ih fun r s' h => ⟨h.1, fun p hp => ?_⟩
      obtain ⟨hmem, hcandidate⟩ := h.2 p hp
      exact ⟨List.mem_cons_of_mem _ hmem, hcandidate⟩
    have hinspected : Inspected settings around job kind s (deployableArtifact settings around job kind s).1
        (deployableArtifact settings around job kind s).2 := wp_deployableArtifact
    obtain ⟨r, s', hrun⟩ : ∃ r s', deployableArtifact settings around job kind s = (r, s') := ⟨_, _, rfl⟩
    rw [hrun] at hinspected
    obtain rfl := hinspected.unchanged
    unfold Effect.wp
    cases r with
    | ok artifact =>
      cases artifact with
      | none =>
        rw [publicationSourceOf_none hrun]
        exact hrest
      | some tree =>
        rw [publicationSourceOf_some hrun]
        refine ⟨rfl, fun p hp => ?_⟩
        cases hp
        exact ⟨List.mem_cons_self, hinspected.returned _ rfl⟩
    | error e =>
      by_cases he : ∃ text names, e = .control text names
      · obtain ⟨text, names, rfl⟩ := he
        rw [publicationSourceOf_control hrun]
        exact hrest
      · rw [publicationSourceOf_error (fun text names h => he ⟨text, names, h⟩) hrun]
        exact ⟨rfl, fun _ h => by cases h⟩

omit [DecidableEq D] in
/-- Where nothing is raised while an artifact is inspected, its inspection ends as it should. -/
theorem deployableArtifact_eq (hinspect : around.raises (.inspect kind) = none) (hcheck : around.raises (.check kind) = none) :
    deployableArtifact settings around job kind s = ((candidate settings job kind).mapError .ofCheck, s) := by
  have h : Inspected settings around job kind s (deployableArtifact settings around job kind s).1
      (deployableArtifact settings around job kind s).2 := wp_deployableArtifact
  exact Prod.ext (h.unfaulted hinspect hcheck) h.unchanged

omit [DecidableEq D] in
/-- The merged model is taken where it can be. -/
theorem publicationSource_merged (hcalm : around.Calm) {tree : ArtifactTree} (h : Publishable settings job .merged tree) :
    publicationSource settings around job s = (.ok (.merged, tree), s) := by
  have hrun := @deployableArtifact_eq D settings around job .merged s (hcalm _) (hcalm _)
  rw [h.2] at hrun
  exact publicationSourceOf_some hrun

omit [DecidableEq D] in
/-- The output directory is taken after it. -/
theorem publicationSource_full (hinspect : around.raises (.inspect .full) = none) (hcheck : around.raises (.check .full) = none)
    {tree : ArtifactTree} (h : Publishable settings job .full tree)
    (hmerged : deployableArtifact settings around job .merged s = (.ok none, s) ∨
      ∃ text names, deployableArtifact settings around job .merged s = (.error (.control text names), s)) :
    publicationSource settings around job s = (.ok (.full, tree), s) := by
  have hrun := @deployableArtifact_eq D settings around job .full s hinspect hcheck
  rw [h.2] at hrun
  rcases hmerged with hnone | ⟨text, names, hcontrol⟩
  · exact (publicationSourceOf_none hnone).trans (publicationSourceOf_some hrun)
  · exact (publicationSourceOf_control hcontrol).trans (publicationSourceOf_some hrun)

omit [DecidableEq D] in
theorem MergedPassedOver.run (hcalm : around.Calm) (h : MergedPassedOver settings job) :
    deployableArtifact settings around job .merged s = (.ok none, s) ∨
      ∃ text names, deployableArtifact settings around job .merged s = (.error (.control text names), s) := by
  rw [deployableArtifact_eq (hcalm _) (hcalm _)]
  rcases h with h | ⟨text, names, h⟩
  · exact .inl (by rw [h]; rfl)
  · exact .inr ⟨text, names, by rw [h]; rfl⟩

omit [DecidableEq D] in
/-- What is taken when nothing is raised. -/
theorem publicationSource_calm (hcalm : around.Calm) {kind : ArtifactKind} {tree : ArtifactTree}
    (h : publicationSource settings around job s = (.ok (kind, tree), s)) :
    Publishable settings job kind tree ∧ (kind = .full → MergedPassedOver settings job) := by
  have hspec := @wp_publicationSourceOf D settings around job [.merged, .full] [] s
  unfold Effect.wp at hspec
  rw [show publicationSourceOf settings around job [.merged, .full] [] s = _ from h] at hspec
  obtain ⟨hkind, hcandidate⟩ := hspec.2 _ rfl
  refine ⟨⟨by simpa using hkind, hcandidate⟩, ?_⟩
  rintro rfl
  by_contra hnot
  have hrun := @deployableArtifact_eq D settings around job .merged s (hcalm _) (hcalm _)
  cases hmerged : candidate settings job .merged with
  | ok artifact =>
    rw [hmerged] at hrun
    cases artifact with
    | none => exact hnot (.inl hmerged)
    | some tree' => cases (publicationSourceOf_some hrun).symm.trans h
  | error e =>
    rw [hmerged] at hrun
    have he : ∀ text names, PublicationError.ofCheck e ≠ .control text names := fun text names he => by
      cases e with
      | refused text' names' => exact hnot (.inr ⟨text', names', hmerged⟩)
      | valueError => cases he
      | typeError => cases he
    cases (publicationSourceOf_error he hrun).symm.trans h

end Source

/-! ## Two calls -/

variable {s s' : Store}

/-- How a call ends that has a source. -/
structure Called (settings : PublicationSettings D) (around : Surroundings) (job : PublicationJob) (s : Store)
    (kind : ArtifactKind) (tree : ArtifactTree) (checksum : D) : Prop where
  source : publicationSource settings around job s = (.ok (kind, tree), s)
  publishable : Publishable settings job kind tree
  fingerprint : treeContentFingerprint settings.hash tree = some checksum
  ending : Ending settings job kind tree checksum s (publishTrainingModelFiles settings around job s).1
    (publishTrainingModelFiles settings around job s).2
  settled : Settled settings around checksum s (publishTrainingModelFiles settings around job s).1

theorem called_of_source (hstate : job.actualState = .succeeded) (hs : s.staging = none) {kind : ArtifactKind}
    {tree : ArtifactTree} (h : publicationSource settings around job s = (.ok (kind, tree), s)) :
    ∃ checksum, Called settings around job s kind tree checksum := by
  have hspec := @wp_publicationSourceOf D settings around job [.merged, .full] [] s
  unfold Effect.wp at hspec
  rw [show publicationSourceOf settings around job [.merged, .full] [] s = _ from h] at hspec
  obtain ⟨hkind, hcandidate⟩ := hspec.2 _ rfl
  have hpublishable : Publishable settings job kind tree := ⟨by simpa using hkind, hcandidate⟩
  obtain ⟨checksum, hchecksum⟩ := hpublishable.fingerprint
  have hrun : publishTrainingModelFiles settings around job s = publishArtifact settings around job kind tree s := by
    unfold publishTrainingModelFiles
    rw [if_neg (not_not.mpr hstate)]
    exact Effect.bind_of_ok h
  have hending := wp_publishArtifact around hpublishable hchecksum hs
  unfold Effect.wp at hending
  rw [← hrun] at hending
  exact ⟨checksum, h, hpublishable, hchecksum, hending.1, hending.2⟩

/-- A call raises and changes nothing, or it has a source. -/
theorem call_cases (settings : PublicationSettings D) (around : Surroundings) (hstate : job.actualState = .succeeded) (hs : s.staging = none) :
    (∃ e, publishTrainingModelFiles settings around job s = (.error e, s)) ∨
      ∃ kind tree checksum, Called settings around job s kind tree checksum := by
  have hspec := @wp_publicationSourceOf D settings around job [.merged, .full] [] s
  obtain ⟨r, s', hrun⟩ : ∃ r s', publicationSource settings around job s = (r, s') := ⟨_, _, rfl⟩
  unfold Effect.wp at hspec
  rw [show publicationSourceOf settings around job [.merged, .full] [] s = _ from hrun] at hspec
  obtain rfl := hspec.1
  cases r with
  | error e =>
    refine .inl ⟨e, ?_⟩
    unfold publishTrainingModelFiles
    rw [if_neg (not_not.mpr hstate)]
    exact Effect.bind_of_error hrun
  | ok source => exact .inr ⟨source.1, source.2, called_of_source hstate hs hrun⟩

/-- The published model is as before or, where there was none, a complete copy of an artifact; the staging
directory is gone. -/
structure Atomic (settings : PublicationSettings D) (job : PublicationJob) (s s' : Store) : Prop where
  target : s'.target = s.target ∨ s.target = none ∧ ∃ kind tree entries, Publishable settings job kind tree ∧
    s'.target = some (.directory entries) ∧ entries.nodes [] = tree.nodes
  staging : s'.staging = none

/-- Another call returns `p`, but for what it says about itself: every call that returns does, and every call in which
nothing is raised returns. -/
structure Again (settings : PublicationSettings D) (job : PublicationJob) (s : Store) (p : PublishedModelFiles D) : Prop where
  same : ∀ around p', (publishTrainingModelFiles settings around job s).1 = .ok p' →
    p'.path = p.path ∧ p'.sizeBytes = p.sizeBytes ∧ p'.checksum = p.checksum
  returns : ∀ around : Surroundings, around.Calm → ∃ p', (publishTrainingModelFiles settings around job s).1 = .ok p'

/-- Publishing is atomic and repeatable. -/
structure PublishesSafely (settings : PublicationSettings D) (job : PublicationJob) : Prop where
  atomic : ∀ around s, s.staging = none → Atomic settings job s (publishTrainingModelFiles settings around job s).2
  /-- After a success the next call returns the same. -/
  again : ∀ around s p, s.staging = none → (publishTrainingModelFiles settings around job s).1 = .ok p →
    Again settings job (publishTrainingModelFiles settings around job s).2 p
  /-- After a failure that follows the rename it returns what has been published. -/
  afterRename : ∀ around s e, s.staging = none → (publishTrainingModelFiles settings around job s).1 = .error e →
    (publishTrainingModelFiles settings around job s).2.target ≠ s.target →
    ∃ kind tree entries checksum created, Publishable settings job kind tree ∧
      (publishTrainingModelFiles settings around job s).2.target = some (.directory entries) ∧
      entries.nodes [] = tree.nodes ∧ treeContentFingerprint settings.hash tree = some checksum ∧
      Again settings job (publishTrainingModelFiles settings around job s).2
        ⟨settings.root ++ [publishedName job], tree.sizeBytes, checksum, created, kind⟩

/-- The model is found again. -/
theorem again_of_found (hstate : job.actualState = .succeeded) (hroot : settings.resolvedRoot = settings.root) {checksum : D}
    (hsource : ∀ around : Surroundings, around.Calm → ∀ s, ∃ kind tree,
      publicationSource settings around job s = (.ok (kind, tree), s) ∧
      treeContentFingerprint settings.hash tree = some checksum)
    {existing : ArtifactTree} (hfound : Found settings s.target checksum existing) (hs : s.staging = none) (created : Bool)
    (kind : ArtifactKind) :
    Again settings job s ⟨settings.root ++ [publishedName job], existing.sizeBytes, checksum, created, kind⟩ where
  same := by
    intro around p' hp'
    rcases call_cases settings around hstate hs with ⟨e, he⟩ | ⟨kind', tree', checksum', hcalled⟩
    · rw [he] at hp'
      cases hp'
    · have hending := hcalled.ending
      rw [hp'] at hending
      generalize (publishTrainingModelFiles settings around job s).2 = s' at hending
      cases hending with
      | created habsent =>
        obtain ⟨entries, he, -⟩ := hfound.directory
        cases habsent.symm.trans he
      | found h =>
        obtain ⟨rfl, rfl⟩ := hfound.unique h
        exact ⟨by rw [hroot], rfl, rfl⟩
  returns := by
    intro around hcalm
    obtain ⟨kind', tree', hrun, hchecksum⟩ := hsource around hcalm s
    obtain ⟨checksum', hcalled⟩ := called_of_source hstate hs hrun
    obtain rfl := Option.some.inj (hcalled.fingerprint.symm.trans hchecksum)
    exact hcalled.settled (fun step _ => hcalm step) (.inr ⟨existing, hfound⟩)

/-- Nothing raises. -/
def calm : Surroundings := ⟨fun _ => none, fun _ => 0⟩

/-- The inspection of the merged model raises. -/
def mergedFault : Step → Option Fault
  | .inspect .merged => some (.control (py "无法检查训练产物节点"))
  | _ => none

/-- A first call that publishes the artifact. -/
theorem Publishable.first_call (hstate : job.actualState = .succeeded) {kind : ArtifactKind} {tree : ArtifactTree}
    (h : Publishable settings job kind tree) :
    ∃ around p entries, (publishTrainingModelFiles settings around job ⟨none, none⟩).1 = .ok p ∧
      (publishTrainingModelFiles settings around job ⟨none, none⟩).2 = ⟨some (.directory entries), none⟩ ∧
      p.path = settings.root ++ [publishedName job] ∧ treeContentFingerprint settings.hash tree = some p.checksum := by
  -- A fault of the inspection of the merged model makes the call take the output directory.
  have hrun : ∃ around : Surroundings, around.Quiet ∧
      publicationSource settings around job ⟨none, none⟩ = (.ok (kind, tree), ⟨none, none⟩) := by
    rcases h.1 with rfl | rfl
    · exact ⟨⟨fun _ => none, fun _ => 0⟩, fun _ _ => rfl, publicationSource_merged (fun _ => rfl) h⟩
    · refine ⟨⟨mergedFault, fun _ => 0⟩, fun step hstep => ?_, publicationSource_full rfl rfl h (.inr ⟨_, _, rfl⟩)⟩
      cases step <;> first | rfl | cases hstep
  obtain ⟨around, hquiet, hsource⟩ := hrun
  obtain ⟨checksum, hcalled⟩ := called_of_source hstate rfl hsource
  obtain ⟨p, hp⟩ := hcalled.settled hquiet (.inl rfl)
  have hending := hcalled.ending
  rw [hp] at hending
  generalize hs' : (publishTrainingModelFiles settings around job ⟨none, none⟩).2 = s' at hending
  cases hending with
  | @created entries _ habsent hscan hr =>
    obtain rfl := hr p rfl
    exact ⟨around, _, entries, hp, hs', rfl, hcalled.fingerprint⟩
  | found hfound =>
    obtain ⟨entries, he, -⟩ := hfound.directory
    cases he

/-- Publishing is atomic and repeatable if and only if, where a model can be published, the model root resolves to itself,
and, where the output directory can be, it is taken in any case or does not differ from the merged model. -/
theorem publishesSafely_iff (hstate : job.actualState = .succeeded) :
    PublishesSafely settings job ↔
      (∀ kind tree, Publishable settings job kind tree → settings.resolvedRoot = settings.root) ∧
      (∀ tree, Publishable settings job .full tree → MergedPassedOver settings job ∨
        ∃ tree', Publishable settings job .merged tree' ∧
          treeContentFingerprint settings.hash tree' = treeContentFingerprint settings.hash tree) := by
  constructor
  · intro hsafe
    have hsecond {kind : ArtifactKind} {tree : ArtifactTree} (h : Publishable settings job kind tree) :
        settings.resolvedRoot = settings.root ∧ ∃ kind' tree', Publishable settings job kind' tree' ∧
          (kind' = .full → MergedPassedOver settings job) ∧
          treeContentFingerprint settings.hash tree' = treeContentFingerprint settings.hash tree := by
      obtain ⟨around, p, entries, hp, hs', hpath, hchecksum⟩ := h.first_call hstate
      have hagain := hsafe.again around ⟨none, none⟩ p rfl hp
      rw [hs'] at hagain
      obtain ⟨p', hp'⟩ := hagain.returns calm fun _ => rfl
      obtain ⟨hpath', -, hchecksum'⟩ := hagain.same _ p' hp'
      rcases call_cases settings calm hstate (s := ⟨some (.directory entries), none⟩) rfl with
        ⟨e, he⟩ | ⟨kind', tree', checksum', hcalled⟩
      · rw [he] at hp'
        cases hp'
      · obtain ⟨hpublishable, hfull⟩ := publicationSource_calm (fun _ => rfl) hcalled.source
        have hending := hcalled.ending
        rw [hp'] at hending
        generalize (publishTrainingModelFiles settings calm job ⟨some (.directory entries), none⟩).2 = s' at hending
        cases hending with
        | created habsent => cases habsent
        | found hfound =>
          refine ⟨?_, kind', tree', hpublishable, hfull, ?_⟩
          · exact List.append_cancel_right (hpath'.trans hpath)
          · rw [hcalled.fingerprint, hchecksum]
            exact congrArg some hchecksum'
    refine ⟨fun kind tree h => (hsecond h).1, fun tree h => ?_⟩
    obtain ⟨-, kind', tree', hpublishable, hfull, heq⟩ := hsecond h
    rcases hpublishable.1 with rfl | rfl
    · exact .inr ⟨tree', hpublishable, heq⟩
    · exact .inl (hfull rfl)
  · rintro ⟨hroot, hfull⟩
    have hsource {kind : ArtifactKind} {tree : ArtifactTree} (h : Publishable settings job kind tree) {checksum : D}
        (hchecksum : treeContentFingerprint settings.hash tree = some checksum) (around : Surroundings)
        (hcalm : around.Calm) (s : Store) : ∃ kind' tree', publicationSource settings around job s = (.ok (kind', tree'), s) ∧
          treeContentFingerprint settings.hash tree' = some checksum := by
      rcases h.1 with rfl | rfl
      · exact ⟨_, tree, publicationSource_merged hcalm h, hchecksum⟩
      · rcases hfull tree h with hpassed | ⟨tree', hmerged, heq⟩
        · exact ⟨_, tree, publicationSource_full (hcalm _) (hcalm _) h (hpassed.run hcalm), hchecksum⟩
        · exact ⟨_, tree', publicationSource_merged hcalm hmerged, heq.trans hchecksum⟩
    have hagain {kind : ArtifactKind} {tree : ArtifactTree} (h : Publishable settings job kind tree) {checksum : D}
        (hchecksum : treeContentFingerprint settings.hash tree = some checksum) {target : Option Target}
        {existing : ArtifactTree} (hfound : Found settings target checksum existing) (created : Bool) :
        Again settings job ⟨target, none⟩
          ⟨settings.root ++ [publishedName job], existing.sizeBytes, checksum, created, kind⟩ :=
      again_of_found hstate (hroot kind tree h) (hsource h hchecksum) hfound rfl created kind
    have hnodes {kind : ArtifactKind} {tree : ArtifactTree} {entries : Forest}
        (hscan : scanTree settings.limits kind entries = .ok tree) : entries.nodes [] = tree.nodes := by
      obtain ⟨-, rfl⟩ := scanTree_eq_ok.mp hscan
      rfl
    refine ⟨fun around s hs => ?_, fun around s p hs hp => ?_, fun around s e hs he hne => ?_⟩
    · rcases call_cases settings around hstate hs with ⟨e, he⟩ | ⟨kind, tree, checksum, hcalled⟩
      · rw [he]
        exact ⟨.inl rfl, hs⟩
      · have hending := hcalled.ending
        generalize (publishTrainingModelFiles settings around job s).1 = r,
          (publishTrainingModelFiles settings around job s).2 = s' at hending
        cases hending with
        | failed e => exact ⟨.inl rfl, hs⟩
        | created habsent hscan hr =>
          exact ⟨.inr ⟨habsent, kind, tree, _, hcalled.publishable, rfl, hnodes hscan⟩, rfl⟩
        | found hfound => exact ⟨.inl rfl, hs⟩
    · rcases call_cases settings around hstate hs with ⟨e, he⟩ | ⟨kind, tree, checksum, hcalled⟩
      · rw [he] at hp
        cases hp
      · have hending := hcalled.ending
        rw [hp] at hending
        generalize (publishTrainingModelFiles settings around job s).2 = s' at hending
        cases hending with
        | created habsent hscan hr =>
          obtain rfl := hr p rfl
          exact hagain hcalled.publishable hcalled.fingerprint (hcalled.publishable.found hcalled.fingerprint hscan) true
        | found hfound =>
          obtain ⟨target, staging⟩ := s
          obtain rfl : staging = none := hs
          rw [hroot kind tree hcalled.publishable]
          exact hagain hcalled.publishable hcalled.fingerprint hfound false
    · rcases call_cases settings around hstate hs with ⟨e', he'⟩ | ⟨kind, tree, checksum, hcalled⟩
      · rw [he'] at hne
        exact absurd rfl hne
      · have hending := hcalled.ending
        rw [he] at hending
        generalize (publishTrainingModelFiles settings around job s).2 = s' at hending hne
        cases hending with
        | failed e => exact absurd rfl hne
        | created habsent hscan hr =>
          exact ⟨kind, tree, _, checksum, true, hcalled.publishable, rfl, hnodes hscan, hcalled.fingerprint,
            hagain hcalled.publishable hcalled.fingerprint (hcalled.publishable.found hcalled.fingerprint hscan) true⟩

end Publication

/-! ## A model root below a symbolic link -/

namespace Sample

theorem model_ordered : (model .nil).Ordered := by
  unfold model
  repeat unfold Forest.Ordered
  repeat unfold Forest.names
  unfold IsUnicode
  decide +kernel

/-- A job with a merged model, and nothing else that can be published. -/
def publicationJob : PublicationJob where
  id := 1
  actualState := .succeeded
  artifact := fun kind => match kind with
    | .merged => .ok (some ⟨model .nil, model_ordered⟩)
    | _ => .ok none

/-- The model root resolves to itself. -/
def publicationSettings : PublicationSettings Bytes where
  limits := limits
  float := Importer.Sample.float
  hash := id
  root := [py "srv", py "models"]
  resolvedRoot := [py "srv", py "models"]

/-- `/srv` is a symbolic link to `/mnt`. -/
def linkedSettings : PublicationSettings Bytes := { publicationSettings with resolvedRoot := [py "mnt", py "models"] }

def publishedModel : PyStr := py "trained-00000000-0000-0000-0000-000000000001"

end Sample

/-- The second call returns another path than the first one. -/
theorem path_is_resolved :
    (publishTrainingModelFiles Sample.linkedSettings calm Sample.publicationJob ⟨none, none⟩).1.map PublishedModelFiles.path =
        .ok [py "srv", py "models", Sample.publishedModel] ∧
      (publishTrainingModelFiles Sample.linkedSettings calm Sample.publicationJob
          (publishTrainingModelFiles Sample.linkedSettings calm Sample.publicationJob ⟨none, none⟩).2).1.map
          PublishedModelFiles.path = .ok [py "mnt", py "models", Sample.publishedModel] ∧
      ¬ PublishesSafely Sample.linkedSettings Sample.publicationJob := by
  have hfirst : (publishTrainingModelFiles Sample.linkedSettings calm Sample.publicationJob ⟨none, none⟩).1.map
      PublishedModelFiles.path = .ok [py "srv", py "models", Sample.publishedModel] := by decide +kernel
  have hsecond : (publishTrainingModelFiles Sample.linkedSettings calm Sample.publicationJob
      (publishTrainingModelFiles Sample.linkedSettings calm Sample.publicationJob ⟨none, none⟩).2).1.map
      PublishedModelFiles.path = .ok [py "mnt", py "models", Sample.publishedModel] := by decide +kernel
  refine ⟨hfirst, hsecond, fun hsafe => ?_⟩
  have hok {r : Except PublicationError (PublishedModelFiles Bytes)} {path : RelativePath}
      (h : r.map PublishedModelFiles.path = .ok path) : ∃ p, r = .ok p ∧ p.path = path := by
    cases r with
    | error e => cases h
    | ok p => exact ⟨p, rfl, Except.ok.inj h⟩
  obtain ⟨p, hp, hpath⟩ := hok hfirst
  obtain ⟨p', hp', hpath'⟩ := hok hsecond
  have hsame := ((hsafe.again calm ⟨none, none⟩ p rfl hp).same calm p' hp').1
  rw [hpath, hpath'] at hsame
  exact absurd hsame (by decide)

theorem plain_root_is_safe : PublishesSafely Sample.publicationSettings Sample.publicationJob := by
  refine (publishesSafely_iff rfl).mpr ⟨fun _ _ _ => rfl, fun tree h => ?_⟩
  have hnone : (.ok none : FileCheck (Option ArtifactTree)) = .ok (some tree) := h.2
  cases hnone

end OpenLLMOps.TrainingControl
