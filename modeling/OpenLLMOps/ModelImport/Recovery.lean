import OpenLLMOps.ModelImport.Coordinators

/-!
# Recovering an abandoned import

A recovery takes a job away from the executions that are running on it (`fenced`). No
transaction of an execution checks that its worker still has the claim, so a fenced
execution that goes on changes the job. If a recovery only takes jobs on which nothing
runs (`TakesAbandoned`), there are no such executions.

The rest holds of every run: the removal of a job's directories finds no asset in the
store directory, and the path of an asset is unique (`AssetInv`).
-/

namespace OpenLLMOps.ModelImport

open Framework

/-- A step of a fenced execution neither changes its job nor creates an asset. -/
def LeavesAlone (s : Coordinators) (l : Label) (s' : Coordinators) : Prop :=
  ∀ e ∈ s.fenced, (∃ t, l = .commit t ∧ t.execution = e) ∨ (∃ id manifest now, l = .finalize e id manifest now) →
    s'.db.jobs.lookup e.job = s.db.jobs.lookup e.job ∧ s'.db.assets = s.db.assets

/-- A directory that a READY asset points to is not removed. -/
def KeepsDirectories (s : Coordinators) (_ : Label) (s' : Coordinators) : Prop :=
  ∀ id, ∀ asset ∈ s.db.assets.lookup id, asset.status = .ready → asset.localPath ∈ s.directories →
    asset.localPath ∈ s'.directories

/-- A job has at most one asset. -/
def OneAsset (s : Coordinators) : Prop :=
  ∀ id id', ∀ asset ∈ s.db.assets.lookup id, ∀ asset' ∈ s.db.assets.lookup id',
    asset.metadata.importJobId = asset'.metadata.importJobId → id = id'

/-- A recovery takes a job only when no execution of it is running. -/
def TakesAbandoned (s : Coordinators) (l : Label) (_ : Coordinators) : Prop :=
  match l with
  | .recover _ id _ _ _ => ∀ e ∈ s.executions, e.job ≠ id
  | _ => True

instance (s : Coordinators) (l : Label) (s' : Coordinators) : Decidable (TakesAbandoned s l s') := by
  unfold TakesAbandoned
  cases l <;> exact inferInstance

/-- What a recovery fences off. -/
structure RecoveryFences (ls : List Label) : Prop where
  fenced : coordinators.EachStep LeavesAlone coordinators.init ls
  directories : coordinators.EachStep KeepsDirectories coordinators.init ls
  assets : coordinators.Always OneAsset coordinators.init ls

/-! ## Assets -/

section Assets

variable {s s' : Coordinators} {l : Label}

/-- An asset is the import of the job whose store directory it points to, and no other points
there. -/
structure AssetInv (s : Coordinators) : Prop where
  path : ∀ id asset, s.db.assets.lookup id = some asset → asset.localPath = ⟨.store, asset.metadata.importJobId⟩
  unique : ∀ id id' asset asset', s.db.assets.lookup id = some asset → s.db.assets.lookup id' = some asset' →
    asset.localPath = asset'.localPath → id = id'

/-- No asset points to the path, if the check of the assets finds none. -/
theorem no_asset_at {assets : Table ModelAsset} {d : Directory} (h : ¬ assets.entries.any (·.2.localPath = d) = true)
    {id : Uuid} {asset : ModelAsset} (ha : assets.lookup id = some asset) : asset.localPath ≠ d := by
  rintro rfl
  refine h (List.any_eq_true.mpr ⟨⟨id, asset⟩, AList.mem_lookup_iff.mp ha, ?_⟩)
  exact decide_eq_true rfl

/-- A finished import creates one asset, for a path that no other has. -/
theorem finalizeReady_ok {id assetId : Uuid} {finalPath : Directory} {manifest : ModelManifest} {now : Time}
    {db db' : ImportDb} (h : finalizeReady id assetId finalPath manifest now db = .ok db') :
    ∃ asset, db'.assets = db.assets.insert assetId asset ∧ asset.localPath = ⟨.store, id⟩ ∧
      asset.metadata.importJobId = id ∧ ∀ i a, db.assets.lookup i = some a → a.localPath ≠ ⟨.store, id⟩ := by
  unfold finalizeReady at h
  split at h <;> [cases h; skip]
  rename_i hpath
  obtain rfl := not_not.mp hpath
  split at h <;> [cases h; skip]
  split at h <;> [cases h; skip]
  split at h <;> [cases h; skip]
  split at h <;> cases h
  rename_i hnone
  exact ⟨_, rfl, rfl, rfl, fun i a ha => no_asset_at hnone ha⟩

/-- What a step does to the assets: it deletes one softly, creates one, or nothing. -/
theorem step_assets (hs : s.step l = some s') :
    s'.db.assets = s.db.assets ∨
    (∃ id asset asset', s.db.assets.lookup id = some asset ∧ s'.db.assets = s.db.assets.insert id asset' ∧
      asset'.localPath = asset.localPath ∧ asset'.metadata = asset.metadata) ∨
    ∃ id job asset, s.db.assets.lookup id = none ∧ s'.db.assets = s.db.assets.insert id asset ∧
      asset.localPath = ⟨.store, job⟩ ∧ asset.metadata.importJobId = job ∧
      ∀ i a, s.db.assets.lookup i = some a → a.localPath ≠ ⟨.store, job⟩ := by
  cases l with
  | finalize e assetId manifest now =>
    simp only [Coordinators.step] at hs
    split at hs <;> [skip; cases hs]
    rename_i hen
    split at hs <;> cases hs
    · exact .inl rfl
    rename_i db hdb
    obtain ⟨asset, he, hp, hm, hnone⟩ := finalizeReady_ok hdb
    exact .inr (.inr ⟨assetId, e.job, asset, hen.2, he, hp, hm, hnone⟩)
  | deleteAsset id now =>
    simp only [Coordinators.step] at hs
    split at hs
    · cases hs
      exact .inl rfl
    rename_i asset ha
    split at hs <;> cases hs
    · exact .inl rfl
    · exact .inr (.inl ⟨id, asset, _, ha, rfl, rfl, rfl⟩)
  | _ =>
    refine .inl ?_
    simp only [Coordinators.step] at hs
    repeat' split at hs
    all_goals first
      | (cases hs; rfl)
      | cases hs

theorem AssetInv.step (h : AssetInv s) (hs : s.step l = some s') : AssetInv s' := by
  rcases step_assets hs with e | ⟨i, old, new, hold, e, hp, hm⟩ | ⟨i, job, new, hnone, e, hp, hm, hfresh⟩
  · refine ⟨fun id asset ha => ?_, fun id id' a a' ha ha' => ?_⟩
    · exact h.path id asset (e ▸ ha)
    · exact h.unique id id' a a' (e ▸ ha) (e ▸ ha')
  · -- every asset was there with this path
    have hback {id : Uuid} {a : ModelAsset} (ha : s'.db.assets.lookup id = some a) :
        ∃ a₀, s.db.assets.lookup id = some a₀ ∧ a.localPath = a₀.localPath ∧ a.metadata = a₀.metadata := by
      rw [e] at ha
      rcases lookup_insert_cases ha with ⟨rfl, rfl⟩ | ⟨-, ha⟩
      · exact ⟨old, hold, hp, hm⟩
      · exact ⟨a, ha, rfl, rfl⟩
    refine ⟨fun id a ha => ?_, fun id id' a a' ha ha' hpath => ?_⟩
    · obtain ⟨a₀, ha₀, hp₀, hm₀⟩ := hback ha
      rw [hp₀, hm₀]
      exact h.path id a₀ ha₀
    · obtain ⟨a₀, ha₀, hp₀, -⟩ := hback ha
      obtain ⟨a₁, ha₁, hp₁, -⟩ := hback ha'
      exact h.unique id id' a₀ a₁ ha₀ ha₁ (by rw [← hp₀, ← hp₁, hpath])
  · refine ⟨fun id a ha => ?_, fun id id' a a' ha ha' hpath => ?_⟩
    · rw [e] at ha
      rcases lookup_insert_cases ha with ⟨-, rfl⟩ | ⟨-, ha⟩
      · rw [hp, hm]
      · exact h.path id a ha
    · rw [e] at ha ha'
      rcases lookup_insert_cases ha with ⟨hid, hnew⟩ | ⟨-, hold⟩ <;>
        rcases lookup_insert_cases ha' with ⟨hid', hnew'⟩ | ⟨-, hold'⟩
      · rw [hid, hid']
      · exact absurd (by rw [← hpath, hnew, hp]) (hfresh id' a' hold')
      · exact absurd (by rw [hpath, hnew', hp]) (hfresh id a hold)
      · exact h.unique id id' a a' hold hold' hpath

theorem AssetInv.init : AssetInv ⟨⟨∅, ∅⟩, [], [], [], [], 0, [], []⟩ := by
  have hnone (id : Uuid) : (∅ : Table ModelAsset).lookup id = none := rfl
  refine ⟨fun id a ha => ?_, fun id id' a a' ha => ?_⟩ <;> rw [hnone] at ha <;> cases ha

theorem AssetInv.oneAsset (h : AssetInv s) : OneAsset s := by
  intro id id' a ha a' ha' hjob
  refine h.unique id id' a a' ha ha' ?_
  rw [h.path id a ha, h.path id' a' ha', hjob]

/-- A recovery that removes a store directory has found no asset that points there. -/
theorem recoverJob_removed {assets : Table ModelAsset} {id : Uuid} {job : ModelImportJob} {now : Time}
    {fault : Option RemovalFault} {root : Root} (h : root ∈ (recoverJob assets id job now fault).2) {i : Uuid}
    {asset : ModelAsset} (ha : assets.lookup i = some asset) : asset.localPath ≠ ⟨.store, id⟩ := by
  unfold recoverJob at h
  split at h
  · cases h
  split at h
  · cases h
  · rename_i hnone
    exact no_asset_at hnone ha

theorem AssetInv.keepsDirectories (h : AssetInv s) (hs : s.step l = some s') : KeepsDirectories s l s' := by
  intro id asset ha _ hd
  have hpath := h.path id asset ha
  -- the staging directories are not the store's
  have hstaging (job : Uuid) : asset.localPath ∈ s.directories.filter (· ≠ ⟨.staging, job⟩) := by
    refine List.mem_filter.mpr ⟨hd, decide_eq_true fun e => ?_⟩
    rw [hpath] at e
    cases e
  cases l with
  | discard e =>
    simp only [Coordinators.step] at hs
    split at hs <;> cases hs
    exact hstaging e.job
  | publish e =>
    simp only [Coordinators.step] at hs
    split at hs <;> cases hs
    exact List.mem_cons_of_mem _ (hstaging e.job)
  | makeDirectory e root =>
    simp only [Coordinators.step] at hs
    split at hs <;> cases hs
    exact List.mem_cons_of_mem _ hd
  | recover worker i timeout now fault =>
    simp only [Coordinators.step] at hs
    split at hs <;> [cases hs; skip]
    split at hs <;> cases hs
    refine List.mem_filter.mpr ⟨hd, decide_eq_true ?_⟩
    rintro ⟨hjob, hroot⟩
    refine recoverJob_removed hroot ha ?_
    rw [hpath] at hjob ⊢
    rw [← hjob]
  | _ =>
    simp only [Coordinators.step] at hs
    repeat' split at hs
    all_goals first
      | (cases hs; exact hd)
      | cases hs

end Assets

/-! ## Runs -/

section Runs

variable {s s' : Coordinators} {l : Label}

/-- Without a recovery of a job on which something runs, no execution is fenced. -/
theorem fenced_step (h : s.fenced = []) (hs : s.step l = some s') (hc : TakesAbandoned s l s') : s'.fenced = [] := by
  cases l with
  | recover worker id timeout now fault =>
    simp only [Coordinators.step] at hs
    split at hs <;> [cases hs; skip]
    split at hs <;> cases hs
    rw [List.append_eq_nil_iff, List.filter_eq_nil_iff]
    exact ⟨fun e he hjob => hc e he (of_decide_eq_true hjob), h⟩
  | _ =>
    simp only [Coordinators.step] at hs
    repeat' split at hs
    all_goals first
      | (cases hs; exact h)
      | cases hs

/-- In a run whose recoveries only take jobs on which nothing runs, no execution changes a job that
has been taken from it; and in every run the directories of READY assets stay, and a job has at most
one asset. -/
theorem recoveryFences_of_takesAbandoned (ls : List Label)
    (h : coordinators.EachStep TakesAbandoned coordinators.init ls) : RecoveryFences ls := by
  have hall := System.EachStep.of_true (M := coordinators) coordinators.init ls
  have hstep {s l s'} (h : AssetInv s) (hs : coordinators.step s l = some s') (_ : True) : AssetInv s' := h.step hs
  have hinit : AssetInv coordinators.init := AssetInv.init
  have hfence {s l s'} (h : s.fenced = []) (hs : coordinators.step s l = some s') (hc : TakesAbandoned s l s') :
      s'.fenced = [] := fenced_step h hs hc
  refine ⟨?_, ?_, ?_⟩
  · refine @System.eachStep_of_invariant _ _ _ _ (fun s => s.fenced = []) hfence _ (fun h _ _ => ?_) _ _ rfl h
    intro e he
    rw [h] at he
    cases he
  · exact System.eachStep_of_invariant hstep (fun h hs _ => h.keepsDirectories hs) hinit hall
  · exact System.always_of_invariant hstep AssetInv.oneAsset hinit hall

end Runs

section Sample

/-- A job for a directory of the inbox. -/
def Sample.inbox : ModelImportCreate := ⟨py "qwen", .controlledDirectory, none, none, some (py "qwen"), .base⟩

def Sample.manifest : ModelManifest :=
  ⟨py "qwen2", none, 10, 0, [], none, [], none, none, none⟩

/-- The executions of the two workers. -/
def Sample.first : Execution := ⟨0, py "a", 1⟩
def Sample.second : Execution := ⟨1, py "b", 1⟩

/-- A report of progress, and the job when no worker has it. -/
def Sample.progress : Change := .progress (py "transferring") 5 (some 10) 300

/-- The first worker crashes; the second recovers its job, claims it and finishes it. -/
theorem recoveryFences_crashed :
    RecoveryFences [.create 1 Sample.inbox, .claim (py "a") 1 5, .makeDirectory Sample.first .staging,
      .crash (py "a"), .recover (py "b") 1 120 200 none, .claim (py "b") 1 201,
      .makeDirectory Sample.second .staging, .publish Sample.second, .finalize Sample.second 7 Sample.manifest 202] :=
  recoveryFences_of_takesAbandoned _ (by decide)

/-- The first worker stalls, the second takes its job, and the first goes on. -/
def Sample.stalled : List Label :=
  [.create 1 Sample.inbox, .claim (py "a") 1 5, .recover (py "b") 1 120 200 none,
    .read Sample.first Sample.progress]

/-- The report of a worker that has stalled makes the job TRANSFERRING, without a claim. -/
theorem stalled_worker_goes_on : ¬ ∀ ls, RecoveryFences ls := by
  intro h
  have hfenced := (h (Sample.stalled ++ [.commit ⟨Sample.first, Sample.progress, Sample.inbox.job⟩])).fenced
  have hcommit := (hfenced.of_append rfl _ rfl).1 Sample.first List.mem_cons_self (.inl ⟨_, rfl, rfl⟩)
  have e : some ModelImportStatus.transferring = some .pending :=
    congrArg (Option.map fun job : ModelImportJob => job.status) hcommit.1
  cases e

end Sample

end OpenLLMOps.ModelImport
