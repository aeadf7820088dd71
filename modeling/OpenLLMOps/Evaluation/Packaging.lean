import Mathlib.Data.List.Perm.Basic
import OpenLLMOps.Evaluation.Benchmarks
import OpenLLMOps.Framework.Lists

/-!
# Benchmarks and their packaging

A conversion reads of a file its split, its subject and its content (`View`). Directories around
the files leave these as they are (`Wrapped.chosen`), and the files are sorted by the first two,
so the dataset is the same for every packaging of the files. The ids of its records are distinct
(`convertSelected_ids`), and its fingerprint tells the files (`csvTreeInput_injective`).
-/

namespace OpenLLMOps.Benchmarks

open Framework

variable {library : BenchmarkLibrary} {spec : BenchmarkSpec}

/-! ## Files as they are selected -/

/-- What the conversion reads of a file. -/
structure View where
  split : Split
  category : PyStr
  content : Bytes

def Selected.view (s : Selected) : View := ⟨s.split, s.category, s.source.content⟩

def View.identity (v : View) : Split × PyStr := (v.split, v.category)

/-- What a file is selected as where the splits `wanted` are asked for. -/
inductive Chosen (library : BenchmarkLibrary) (spec : BenchmarkSpec) (wanted : Split → Prop) (source : SourceCsv) :
    Option View → Prop
  | unsplit : detectSplit library source = .ok none → Chosen library spec wanted source none
  | unwanted {split : Split} : detectSplit library source = .ok (some split) → ¬wanted split →
      Chosen library spec wanted source none
  | unnamed {split : Split} : detectSplit library source = .ok (some split) → wanted split →
      category library spec source split = .ok none → Chosen library spec wanted source none
  | file {split : Split} {subject : PyStr} : detectSplit library source = .ok (some split) → wanted split →
      category library spec source split = .ok (some subject) →
      Chosen library spec wanted source (some ⟨split, subject, source.content⟩)

theorem Chosen.of_view {wanted : Split → Prop} {files : List SourceCsv} {found : List (Option View)}
    (h : List.Forall₂ (Chosen library spec wanted) files found) {v : View} (hv : v ∈ found.filterMap id) :
    wanted v.split ∧ ∃ source ∈ files, source.content = v.content := by
  induction h with
  | nil => cases hv
  | @cons source _ _ _ hchosen _ ih =>
    have hrest {found : List (Option View)} (hv : v ∈ found.filterMap id → wanted v.split ∧
        ∃ source ∈ ‹List SourceCsv›, source.content = v.content) (hmem : v ∈ found.filterMap id) :
        wanted v.split ∧ ∃ s ∈ source :: ‹List SourceCsv›, s.content = v.content := by
      obtain ⟨hw, s, hs, hcontent⟩ := hv hmem
      exact ⟨hw, s, List.mem_cons_of_mem _ hs, hcontent⟩
    cases hchosen with
    | unsplit | unwanted | unnamed => exact hrest ih hv
    | file _ hw =>
      rcases List.mem_cons.mp hv with rfl | hv
      · exact ⟨hw, source, List.mem_cons_self, rfl⟩
      · exact hrest ih hv

theorem selectFiles_chosen {splits : List Split} {files : List SourceCsv} {done selected : List Selected}
    (h : selectFiles library spec splits done files = .ok selected) (hn : (done.map Selected.identity).Nodup) :
    ∃ found, List.Forall₂ (Chosen library spec (· ∈ splits)) files found ∧
      selected.map Selected.view = done.map Selected.view ++ found.filterMap id ∧
      (selected.map Selected.identity).Nodup := by
  induction files generalizing done with
  | nil =>
    obtain rfl := Except.ok.inj h
    exact ⟨[], .nil, by simp, hn⟩
  | cons source files ih =>
    obtain ⟨split, hsplit, h⟩ := bind_eq_ok.mp h
    cases split with
    | none =>
      obtain ⟨found, hfound, hviews, hselected⟩ := ih h hn
      exact ⟨none :: found, .cons (.unsplit hsplit) hfound, hviews, hselected⟩
    | some split =>
      simp only at h
      by_cases hw : split ∈ splits
      · rw [if_neg (not_not_intro hw)] at h
        obtain ⟨subject, hsubject, h⟩ := bind_eq_ok.mp h
        cases subject with
        | none =>
          obtain ⟨found, hfound, hviews, hselected⟩ := ih h hn
          exact ⟨none :: found, .cons (.unnamed hsplit hw hsubject) hfound, hviews, hselected⟩
        | some subject =>
          obtain ⟨hnew, h⟩ := ite_error_eq_ok.mp h
          have hn' : ((done ++ [Selected.mk split subject source]).map Selected.identity).Nodup := by
            rw [List.map_append, List.map_singleton, ← List.concat_eq_append]
            exact List.Nodup.concat hnew hn
          obtain ⟨found, hfound, hviews, hselected⟩ := ih h hn'
          refine ⟨_ :: found, .cons (.file hsplit hw hsubject) hfound, ?_, hselected⟩
          rw [hviews, List.map_append, List.append_assoc]
          rfl
      · rw [if_pos hw] at h
        obtain ⟨found, hfound, hviews, hselected⟩ := ih h hn
        exact ⟨none :: found, .cons (.unwanted hsplit hw) hfound, hviews, hselected⟩

theorem identity_view (selected : List Selected) :
    (selected.map Selected.view).map View.identity = selected.map Selected.identity := by
  rw [List.map_map]
  rfl

theorem selectFiles_of_chosen {splits : List Split} {files : List SourceCsv} {done : List Selected}
    {found : List (Option View)} (h : List.Forall₂ (Chosen library spec (· ∈ splits)) files found)
    (hn : ((done.map Selected.view ++ found.filterMap id).map View.identity).Nodup) :
    ∃ selected, selectFiles library spec splits done files = .ok selected ∧
      selected.map Selected.view = done.map Selected.view ++ found.filterMap id := by
  induction h generalizing done with
  | nil => exact ⟨done, rfl, by simp⟩
  | @cons source o files found hchosen _ ih =>
    cases hchosen with
    | unsplit hsplit =>
      obtain ⟨selected, hselected, hviews⟩ := ih hn
      exact ⟨selected, bind_eq_ok.mpr ⟨none, hsplit, hselected⟩, hviews⟩
    | @unwanted split hsplit hw =>
      obtain ⟨selected, hselected, hviews⟩ := ih hn
      exact ⟨selected, bind_eq_ok.mpr ⟨some split, hsplit, (if_pos hw).trans hselected⟩, hviews⟩
    | @unnamed split hsplit hw hsubject =>
      obtain ⟨selected, hselected, hviews⟩ := ih hn
      refine ⟨selected, bind_eq_ok.mpr ⟨some split, hsplit, ?_⟩, hviews⟩
      exact (if_neg (not_not_intro hw)).trans (bind_eq_ok.mpr ⟨none, hsubject, hselected⟩)
    | @file split subject hsplit hw hsubject =>
      have hviews' : (done ++ [Selected.mk split subject source]).map Selected.view ++ found.filterMap id =
          done.map Selected.view ++ (some ⟨split, subject, source.content⟩ :: found).filterMap id := by
        rw [List.map_append, List.append_assoc]
        rfl
      rw [← hviews'] at hn
      obtain ⟨selected, hselected, hviews⟩ := ih hn
      refine ⟨selected, bind_eq_ok.mpr ⟨some split, hsplit, ?_⟩, hviews.trans hviews'⟩
      refine (if_neg (not_not_intro hw)).trans (bind_eq_ok.mpr ⟨some subject, hsubject, (if_neg ?_).trans hselected⟩)
      rw [hviews', List.map_append, identity_view] at hn
      exact fun hmem => (List.nodup_append.mp hn).2.2 _ hmem _ List.mem_cons_self rfl

/-- What the fingerprint takes of a file. -/
def View.entry (spec : BenchmarkSpec) (v : View) : PyStr × Bytes :=
    (canonicalSourcePath spec v.split v.category, v.content)

theorem normalizedFiles_chosen {files : List SourceCsv} {done normalized : List (PyStr × Bytes)}
    (h : normalizedFiles library spec done files = .ok normalized) (hn : (done.map Prod.fst).Nodup) :
    ∃ found, List.Forall₂ (Chosen library spec fun _ => True) files found ∧
      normalized = done ++ (found.filterMap id).map (View.entry spec) ∧ (normalized.map Prod.fst).Nodup := by
  induction files generalizing done with
  | nil =>
    obtain rfl := Except.ok.inj h
    exact ⟨[], .nil, by simp, hn⟩
  | cons source files ih =>
    obtain ⟨o, ho, h⟩ := bind_eq_ok.mp h
    obtain ⟨split, hsplit, ho⟩ := bind_eq_ok.mp ho
    cases split with
    | none =>
      obtain rfl := Except.ok.inj ho
      obtain ⟨found, hfound, hentries, hnormalized⟩ := ih h hn
      exact ⟨none :: found, .cons (.unsplit hsplit) hfound, hentries, hnormalized⟩
    | some split =>
      obtain ⟨subject, hsubject, ho⟩ := bind_eq_ok.mp ho
      cases subject with
      | none =>
        obtain rfl := Except.ok.inj ho
        obtain ⟨found, hfound, hentries, hnormalized⟩ := ih h hn
        exact ⟨none :: found, .cons (.unnamed hsplit trivial hsubject) hfound, hentries, hnormalized⟩
      | some subject =>
        obtain rfl := Except.ok.inj ho
        obtain ⟨hnew, h⟩ := ite_error_eq_ok.mp h
        have hn' : ((done ++ [(canonicalSourcePath spec split subject, source.content)]).map Prod.fst).Nodup := by
          rw [List.map_append, List.map_singleton, ← List.concat_eq_append]
          exact List.Nodup.concat hnew hn
        obtain ⟨found, hfound, hentries, hnormalized⟩ := ih h hn'
        refine ⟨_ :: found, .cons (.file hsplit trivial hsubject) hfound, ?_, hnormalized⟩
        rw [hentries, List.append_assoc]
        rfl

theorem classify_none {source : SourceCsv} (h : Chosen library spec (fun _ => True) source none) :
    classify library spec source = .ok none := by
  cases h with
  | unsplit hsplit => exact bind_eq_ok.mpr ⟨none, hsplit, rfl⟩
  | unwanted _ hw => exact absurd trivial hw
  | unnamed hsplit _ hsubject => exact bind_eq_ok.mpr ⟨_, hsplit, bind_eq_ok.mpr ⟨none, hsubject, rfl⟩⟩

theorem classify_some {source : SourceCsv} {v : View} (h : Chosen library spec (fun _ => True) source (some v)) :
    classify library spec source = .ok (some ⟨v.split, v.category, source⟩) ∧ v.content = source.content := by
  cases h with
  | file hsplit _ hsubject => exact ⟨bind_eq_ok.mpr ⟨_, hsplit, bind_eq_ok.mpr ⟨_, hsubject, rfl⟩⟩, rfl⟩

theorem normalizedFiles_of_chosen {files : List SourceCsv} {done : List (PyStr × Bytes)} {found : List (Option View)}
    (h : List.Forall₂ (Chosen library spec fun _ => True) files found)
    (hn : ((done ++ (found.filterMap id).map (View.entry spec)).map Prod.fst).Nodup) :
    normalizedFiles library spec done files = .ok (done ++ (found.filterMap id).map (View.entry spec)) := by
  induction h generalizing done with
  | nil => exact congrArg Except.ok (List.append_nil done).symm
  | @cons source o files found hchosen _ ih =>
    cases o with
    | none => exact bind_eq_ok.mpr ⟨none, classify_none hchosen, ih hn⟩
    | some v =>
      obtain ⟨hv, hcontent⟩ := classify_some hchosen
      have hentry : (canonicalSourcePath spec v.split v.category, source.content) = v.entry spec := by
        rw [View.entry, hcontent]
      have hnew : canonicalSourcePath spec v.split v.category ∉ done.map Prod.fst := by
        rw [List.map_append] at hn
        exact fun hmem => (List.nodup_append.mp hn).2.2 _ hmem _ List.mem_cons_self rfl
      have hrest : done ++ ((some v :: found).filterMap id).map (View.entry spec) =
          done ++ [v.entry spec] ++ (found.filterMap id).map (View.entry spec) := by
        rw [List.append_assoc]
        rfl
      rw [hrest] at hn ⊢
      refine bind_eq_ok.mpr ⟨some _, hv, (if_neg hnew).trans ?_⟩
      show normalizedFiles library spec (done ++ [(_, source.content)]) files = _
      rw [hentry]
      exact ih hn

/-! ## Packaging -/

/-- Two files that are selected as the same, wherever they are. -/
structure SameFile (library : BenchmarkLibrary) (a b : SourceCsv) : Prop where
  content : a.content = b.content
  matched : splitMatches library a = splitMatches library b
  stem : stem a.path.parts = stem b.path.parts

theorem SameFile.symm {a b : SourceCsv} (h : SameFile library a b) : SameFile library b a :=
  ⟨h.content.symm, h.matched.symm, h.stem.symm⟩

/-- The files in another order, and each of them elsewhere. -/
def Repackaged (library : BenchmarkLibrary) (files files' : List SourceCsv) : Prop :=
  ∃ mid, files.Perm mid ∧ List.Forall₂ (SameFile library) mid files'

theorem Repackaged.symm {files files' : List SourceCsv} (h : Repackaged library files files') :
    Repackaged library files' files := by
  obtain ⟨mid, hperm, hsame⟩ := h
  have hflip : List.Forall₂ (fun a b => SameFile library b a) files' mid := hsame.flip
  have hcomp : Relation.Comp (List.Forall₂ fun a b => SameFile library b a) List.Perm files' files :=
    ⟨mid, hflip, hperm.symm⟩
  rw [List.forall₂_comp_perm_eq_perm_comp_forall₂] at hcomp
  obtain ⟨mid', hperm', hsame'⟩ := hcomp
  exact ⟨mid', hperm', hsame'.imp fun _ _ => SameFile.symm⟩

/-- A file behind directories that no split is called. -/
structure Wrapped (library : BenchmarkLibrary) (source wrapped : SourceCsv) : Prop where
  content : wrapped.content = source.content
  rootHint : wrapped.rootHint = source.rootHint
  path : ∃ wrappers : RelativePath, wrapped.path.parts = wrappers ++ source.path.parts ∧
    ∀ wrapper ∈ wrappers, Split.ofText? (wrapper.lower library.casing) = none

/-- A file of a directory, and the same file in an archive of the directory. -/
structure Archived (library : BenchmarkLibrary) (root : PyStr) (source archived : SourceCsv) : Prop where
  content : archived.content = source.content
  rootHint : source.rootHint = some (root.lower library.casing)
  archivedHint : archived.rootHint = none
  path : archived.path.parts = root :: source.path.parts

theorem stem_append {wrappers parts : RelativePath} (h : parts ≠ []) : stem (wrappers ++ parts) = stem parts := by
  have hname : RelativePath.name (wrappers ++ parts) = RelativePath.name parts := by
    rw [RelativePath.name, RelativePath.name, List.getLastD_eq_getLast?, List.getLastD_eq_getLast?,
      List.getLast?_append_of_ne_nil _ h]
  unfold stem RelativePath.suffix
  rw [hname]

theorem Wrapped.sameFile {source wrapped : SourceCsv} (h : Wrapped library source wrapped) :
    SameFile library source wrapped := by
  obtain ⟨wrappers, hparts, hwrappers⟩ := h.path
  refine ⟨h.content.symm, ?_, by rw [hparts, stem_append source.path.ne_nil]⟩
  have hnone : (wrappers.map (PyStr.lower library.casing)).filterMap Split.ofText? = [] := by
    rw [List.filterMap_map, List.filterMap_eq_nil_iff]
    exact hwrappers
  have hlast : wrapped.path.parts.dropLast = wrappers ++ source.path.parts.dropLast := by
    rw [hparts, List.dropLast_append_of_ne_nil source.path.ne_nil]
  unfold splitMatches
  rw [hlast, h.rootHint, List.map_append]
  cases source.rootHint with
  | none => simp only [List.filterMap_append, hnone, List.nil_append]
  | some hint =>
    by_cases hh : (Split.ofText? hint).isSome
    · simp only [if_pos hh, List.filterMap_cons, List.filterMap_append, hnone, List.nil_append]
    · simp only [if_neg hh, List.filterMap_append, hnone, List.nil_append]

theorem Archived.sameFile {root : PyStr} {source archived : SourceCsv} (h : Archived library root source archived) :
    SameFile library source archived := by
  refine ⟨h.content.symm, ?_, by rw [h.path, ← List.singleton_append, stem_append source.path.ne_nil]⟩
  have hlast : archived.path.parts.dropLast = root :: source.path.parts.dropLast := by
    rw [h.path, List.dropLast_cons_of_ne_nil source.path.ne_nil]
  unfold splitMatches
  rw [hlast, h.rootHint, h.archivedHint, List.map_cons]
  cases hroot : Split.ofText? (root.lower library.casing) with
  | none => simp [hroot]
  | some split => simp [hroot]

section SameFile

variable {a b : SourceCsv} {wanted wanted' : Split → Prop}

theorem SameFile.detectSplit_ok (h : SameFile library a b) {o : Option Split}
    (ho : detectSplit library a = .ok o) : detectSplit library b = .ok o := by
  obtain ⟨hone, hlast⟩ := ite_error_eq_ok.mp ho
  refine ite_error_eq_ok.mpr ?_
  rw [← h.matched]
  exact ⟨hone, hlast⟩

theorem subjectOf_ok {stem subject : PyStr} (b : SourceCsv) (h : subjectOf library a stem = .ok subject) :
    subjectOf library b stem = .ok subject :=
  ite_error_eq_ok.mpr (ite_error_eq_ok.mp h)

theorem map_some_ok {ε α : Type} {x y : Except ε α} (h : ∀ a, x = .ok a → y = .ok a) {o : Option α}
    (ho : some <$> x = .ok o) : some <$> y = .ok o := by
  cases x with
  | error e => cases ho
  | ok a => rwa [h a rfl]

theorem SameFile.category_ok (h : SameFile library a b) {split : Split} {o : Option PyStr}
    (ho : category library spec a split = .ok o) : category library spec b split = .ok o := by
  unfold category at ho ⊢
  rw [← h.stem]
  cases hname : spec.name with
  | ceval =>
    simp only [hname] at ho ⊢
    split at ho
    · rename_i hsuffix
      rw [if_pos hsuffix]
      exact map_some_ok (fun _ => subjectOf_ok b) ho
    · rename_i hsuffix
      rwa [if_neg hsuffix]
  | cmmlu =>
    simp only [hname] at ho ⊢
    exact map_some_ok (fun _ => subjectOf_ok b) ho

theorem SameFile.chosen (h : SameFile library a b) (hw : ∀ split, wanted split ↔ wanted' split)
    {o : Option View} (ho : Chosen library spec wanted a o) : Chosen library spec wanted' b o := by
  cases ho with
  | unsplit hsplit => exact .unsplit (h.detectSplit_ok hsplit)
  | unwanted hsplit hnot => exact .unwanted (h.detectSplit_ok hsplit) (mt (hw _).mpr hnot)
  | unnamed hsplit hwanted hsubject =>
    exact .unnamed (h.detectSplit_ok hsplit) ((hw _).mp hwanted) (h.category_ok hsubject)
  | file hsplit hwanted hsubject =>
    rw [h.content]
    exact .file (h.detectSplit_ok hsplit) ((hw _).mp hwanted) (h.category_ok hsubject)

end SameFile

theorem Repackaged.chosen {files files' : List SourceCsv} {wanted wanted' : Split → Prop} {found : List (Option View)}
    (h : Repackaged library files files') (hw : ∀ split, wanted split ↔ wanted' split)
    (hfound : List.Forall₂ (Chosen library spec wanted) files found) :
    ∃ found', List.Forall₂ (Chosen library spec wanted') files' found' ∧ found'.Perm found := by
  obtain ⟨mid, hperm, hsame⟩ := h
  obtain ⟨found', hmid, hfound'⟩ := List.perm_comp_forall₂ hperm.symm hfound
  refine ⟨found', ?_, hfound'⟩
  clear hperm hfound'
  induction hsame generalizing found' with
  | nil => cases hmid with | nil => exact .nil
  | cons hfile _ ih =>
    cases hmid with
    | cons ho hrest => exact .cons (hfile.chosen hw ho) (ih _ hrest)

/-! ## The order of the files -/

def View.key (v : View) : List PyStr := [[v.split.index], v.category]

theorem Split.index_injective {s t : Split} (h : s.index = t.index) : s = t := by
  cases s <;> cases t <;> first | rfl | cases h

theorem View.identity_of_key {v w : View} (h : v.key = w.key) : v.identity = w.identity := by
  obtain ⟨hindex, hcategory⟩ := List.cons.inj h
  rw [View.identity, View.identity, Split.index_injective (List.cons.inj hindex).1, (List.cons.inj hcategory).1]

/-- The path decides nothing where the split and the subject do. -/
theorem Selected.view_key_le {s t : Selected} (h : s.key ≤ t.key) : s.view.key ≤ t.view.key := by
  refine not_lt.mp fun hlt => absurd h (not_le.mpr ?_)
  simp only [View.key, Selected.view, Selected.key, List.cons_lt_cons_iff, List.not_lt_nil,
    and_false, or_false] at hlt ⊢
  tauto

theorem Selected.sorted_views (selected : List Selected) :
    ((selected.insertionSort fun a b => a.key ≤ b.key).map Selected.view).Pairwise fun v w => v.key ≤ w.key :=
  List.pairwise_map.mpr ((pairwise_insertionSort_key Selected.key selected).imp Selected.view_key_le)

/-- Files that are selected as the same are sorted in the same order. -/
theorem Selected.sorted_of_perm {selected selected' : List Selected}
    (h : (selected.map Selected.view).Perm (selected'.map Selected.view))
    (hn : (selected.map Selected.identity).Nodup) :
    (selected.insertionSort fun a b => a.key ≤ b.key).map Selected.view =
      (selected'.insertionSort fun a b => a.key ≤ b.key).map Selected.view := by
  have hsorted := (List.perm_insertionSort (fun a b : Selected => a.key ≤ b.key) selected).map Selected.view
  have hsorted' := (List.perm_insertionSort (fun a b : Selected => a.key ≤ b.key) selected').map Selected.view
  refine List.Perm.eq_of_pairwise ?_ (sorted_views selected) (sorted_views selected')
    ((hsorted.trans h).trans hsorted'.symm)
  intro v w hv hw hle hge
  rw [← identity_view] at hn
  exact List.inj_on_of_nodup_map hn (hsorted.mem_iff.mp hv) ((hsorted'.trans h.symm).mem_iff.mp hw)
    (View.identity_of_key (le_antisymm hle hge))

/-! ## Conversion -/

theorem convertSelected_congr {selected selected' : List Selected}
    (hviews : selected.map Selected.view = selected'.map Selected.view) {c counted : Counted}
    (h : convertSelected library spec c selected = .ok counted) :
      convertSelected library spec c selected' = .ok counted := by
  induction selected generalizing c selected' with
  | nil =>
    cases selected' with
    | nil => exact h
    | cons _ _ => cases hviews
  | cons s selected ih =>
    cases selected' with
    | nil => cases hviews
    | cons t selected' =>
      obtain ⟨hview, hviews⟩ := List.cons.inj hviews
      obtain ⟨hsplit, hcategory, hcontent⟩ := View.mk.inj hview
      obtain ⟨records, hrecords, h⟩ := bind_eq_ok.mp h
      refine bind_eq_ok.mpr ⟨records, mapError_eq_ok.mpr ?_, ?_⟩
      · rw [← hsplit, ← hcategory, ← hcontent]
        exact mapError_eq_ok.mp hrecords
      · rw [← hsplit, ← hcategory]
        exact ih hviews h

theorem mem_categoriesOf {selected : List Selected} {split : Split} {subject : PyStr} :
    subject ∈ categoriesOf selected split ↔ (split, subject) ∈ selected.map Selected.identity := by
  simp only [categoriesOf, Selected.identity, List.mem_map, List.mem_filter, decide_eq_true_eq, Prod.mk.injEq]
  constructor
  · rintro ⟨s, ⟨hs, hsplit⟩, hcategory⟩
    exact ⟨s, hs, hsplit, hcategory⟩
  · rintro ⟨s, hs, hsplit, hcategory⟩
    exact ⟨s, ⟨hs, hsplit⟩, hcategory⟩

theorem sameSet_eq_true {a b : List PyStr} : sameSet a b = true ↔ ∀ c, c ∈ a ↔ c ∈ b := by
  simp only [sameSet, Bool.and_eq_true, List.all_eq_true, decide_eq_true_eq]
  exact ⟨fun h c => ⟨h.1 c, h.2 c⟩, fun h => ⟨fun c => (h c).mp, fun c => (h c).mpr⟩⟩

/-- Sets that are all the official one do not differ. -/
theorem isPartial_eq_false {selected : List Selected} {splits : List Split} :
    isPartial spec selected splits = false ↔
      ∀ split ∈ splits, ∀ subject, subject ∈ categoriesOf selected split ↔ subject ∈ spec.subjects := by
  simp only [isPartial, Bool.or_eq_false_iff, Bool.not_eq_false', List.any_eq_false,
    Bool.not_eq_true', Bool.not_eq_false,
    List.all_eq_true, sameSet_eq_true]
  refine ⟨And.left, fun h => ⟨h, fun split hsplit subject => ?_⟩⟩
  cases splits with
  | nil => cases hsplit
  | cons first rest => exact (h split hsplit subject).trans (h first List.mem_cons_self subject).symm

theorem isPartial_congr {selected selected' : List Selected} {splits splits' : List Split}
    (hselected : ∀ i, i ∈ selected.map Selected.identity ↔ i ∈ selected'.map Selected.identity)
    (hsplits : ∀ split, split ∈ splits ↔ split ∈ splits') :
    isPartial spec selected splits = isPartial spec selected' splits' := by
  rw [Bool.eq_iff_iff, ← not_iff_not, Bool.not_eq_true, Bool.not_eq_true, isPartial_eq_false, isPartial_eq_false]
  simp only [mem_categoriesOf, hselected, hsplits]

/-- What `convert` checks of the selected files, and what it makes of them. -/
theorem convert_eq_ok {files : List SourceCsv} {splits : List Split} {allowPartial : Bool} {c : Converted} :
    convert library spec files splits allowPartial = .ok c ↔
      ∃ selected counted, selectFiles library spec splits [] files = .ok selected ∧ selected ≠ [] ∧
        (∀ split ∈ splits, categoriesOf selected split ≠ []) ∧
        (∀ i ∈ selected.map Selected.identity, i.2 ∈ spec.subjects) ∧
        (isPartial spec selected splits = true → allowPartial = true) ∧
        convertSelected library spec ⟨[], [], []⟩ (selected.insertionSort fun a b => a.key ≤ b.key) = .ok counted ∧
        c = ⟨counted.records, sortedCounts counted.splitCounts, sortedCounts counted.categoryCounts, selected.length,
          isPartial spec selected splits⟩ := by
  have hmissing (selected : List Selected) :
      ¬splits.eraseDups.filter (fun split => categoriesOf selected split = []) ≠ [] ↔
        ∀ split ∈ splits, categoriesOf selected split ≠ [] := by
    rw [not_not, List.filter_eq_nil_iff]
    simp only [List.mem_eraseDups, decide_eq_true_eq, ne_eq]
  have hunknown (selected : List Selected) :
      ¬(selected.map Selected.category).filter (· ∉ spec.subjects) ≠ [] ↔
        ∀ i ∈ selected.map Selected.identity, i.2 ∈ spec.subjects := by
    rw [not_not, List.filter_eq_nil_iff]
    simp [Selected.identity]
  constructor
  · intro h
    obtain ⟨selected, hselected, h⟩ := bind_eq_ok.mp h
    obtain ⟨hne, h⟩ := ite_error_eq_ok.mp h
    obtain ⟨hsplits, h⟩ := ite_error_eq_ok.mp h
    obtain ⟨hsubjects, h⟩ := ite_error_eq_ok.mp h
    obtain ⟨hallowed, h⟩ := ite_error_eq_ok.mp h
    obtain ⟨counted, hcounted, h⟩ := bind_eq_ok.mp h
    refine ⟨selected, counted, hselected, hne, (hmissing selected).mp hsplits, (hunknown selected).mp hsubjects, ?_,
      hcounted, (Except.ok.inj h).symm⟩
    exact fun h => not_not.mp fun hallow => hallowed ⟨h, hallow⟩
  · rintro ⟨selected, counted, hselected, hne, hsplits, hsubjects, hallowed, hcounted, rfl⟩
    refine bind_eq_ok.mpr ⟨selected, hselected, ite_error_eq_ok.mpr ⟨hne, ?_⟩⟩
    refine ite_error_eq_ok.mpr
      ⟨(hmissing selected).mpr hsplits, ite_error_eq_ok.mpr ⟨(hunknown selected).mpr hsubjects, ?_⟩⟩
    exact ite_error_eq_ok.mpr ⟨fun h => h.2 (hallowed h.1), bind_eq_ok.mpr ⟨counted, hcounted, rfl⟩⟩

/-! ## The dataset -/

/-- The requested splits are a set. -/
theorem normalizeSplits_congr {requested requested' : List PyStr} (h : ∀ text, text ∈ requested ↔ text ∈ requested') :
    normalizeSplits spec (some requested) = normalizeSplits spec (some requested') := by
  have hinvalid : ((requested.filter fun text => (Split.ofText? text).isNone).dedup).Perm
      (requested'.filter fun text => (Split.ofText? text).isNone).dedup := by
    refine (List.perm_ext_iff_of_nodup (List.nodup_dedup _) (List.nodup_dedup _)).mpr fun text => ?_
    simp only [List.mem_dedup, List.mem_filter, h text]
  have hnil : requested.filter (fun text => (Split.ofText? text).isNone) = [] ↔
      requested'.filter (fun text => (Split.ofText? text).isNone) = [] := by
    simp only [List.filter_eq_nil_iff, h]
  have horder : (Split.order.filter fun split => split.text ∈ requested) =
      Split.order.filter fun split => split.text ∈ requested' := by simp only [h]
  cases requested with
  | nil =>
    cases requested' with
    | nil => rfl
    | cons text _ => exact absurd ((h text).mpr List.mem_cons_self) List.not_mem_nil
  | cons first rest =>
    cases requested' with
    | nil => exact absurd ((h first).mp List.mem_cons_self) List.not_mem_nil
    | cons first' rest' =>
      simp only [normalizeSplits, insertionSort_of_perm hinvalid, hnil, horder, ne_eq, List.cons_ne_nil, ite_false]

section Repackaged

variable {files files' : List SourceCsv} {splits splits' : List Split} {allowPartial : Bool}

theorem Repackaged.convert_ok (h : Repackaged library files files') (hs : ∀ split, split ∈ splits ↔ split ∈ splits')
    {c : Converted} (hc : convert library spec files splits allowPartial = .ok c) :
    convert library spec files' splits' allowPartial = .ok c := by
  obtain ⟨selected, counted, hselected, hne, hmissing, hunknown, hallowed, hcounted, rfl⟩ := convert_eq_ok.mp hc
  obtain ⟨found, hfound, hviews, hnodup⟩ := selectFiles_chosen hselected List.nodup_nil
  obtain ⟨found', hfound', hperm⟩ := h.chosen hs hfound
  have hviewsPerm : (found'.filterMap id).Perm (selected.map Selected.view) := hviews ▸ hperm.filterMap id
  have hnodup' : ((([] : List Selected).map Selected.view ++ found'.filterMap id).map View.identity).Nodup := by
    rw [List.map_nil, List.nil_append, (hviewsPerm.map View.identity).nodup_iff, identity_view]
    exact hnodup
  obtain ⟨selected', hselected', hviews'⟩ := selectFiles_of_chosen hfound' hnodup'
  have hperm' : (selected.map Selected.view).Perm (selected'.map Selected.view) := by
    rw [hviews']
    exact hviewsPerm.symm
  have hidentity (i : Split × PyStr) : i ∈ selected.map Selected.identity ↔ i ∈ selected'.map Selected.identity := by
    rw [← identity_view, ← identity_view]
    exact (hperm'.map View.identity).mem_iff
  have hlength : selected.length = selected'.length := by simpa using hperm'.length_eq
  have hallowed' : isPartial spec selected splits = isPartial spec selected' splits' := isPartial_congr hidentity hs
  refine convert_eq_ok.mpr ⟨selected', counted, hselected', ?_, ?_, ?_, ?_, ?_, ?_⟩
  · intro hnil
    rw [hnil] at hlength
    exact hne (List.eq_nil_of_length_eq_zero hlength)
  · intro split hsplit hnil
    refine hmissing split ((hs split).mpr hsplit) (List.eq_nil_iff_forall_not_mem.mpr fun subject hmem => ?_)
    have hmem' : subject ∈ categoriesOf selected' split :=
      mem_categoriesOf.mpr ((hidentity _).mp (mem_categoriesOf.mp hmem))
    rw [hnil] at hmem'
    cases hmem'
  · exact fun i hi => hunknown i ((hidentity i).mpr hi)
  · rwa [← hallowed']
  · exact convertSelected_congr (Selected.sorted_of_perm hperm' hnodup) hcounted
  · rw [hlength, hallowed']

/-- What the fingerprint of the contents takes. -/
theorem Repackaged.benchmarkContentSha256_ok {D : Type} {hash : Bytes → D} {sha : Option D}
    (h : Repackaged library files files') (hsha : benchmarkContentSha256 library spec hash files = .ok sha) :
    benchmarkContentSha256 library spec hash files' = .ok sha := by
  obtain ⟨normalized, hnormalized, hresult⟩ := bind_eq_ok.mp hsha
  obtain ⟨found, hfound, hentries, hnodup⟩ := normalizedFiles_chosen hnormalized List.nodup_nil
  obtain ⟨found', hfound', hperm⟩ := h.chosen (fun _ => Iff.rfl) hfound
  have hentriesPerm : ([] ++ (found'.filterMap id).map (View.entry spec)).Perm normalized := by
    rw [hentries]
    exact (hperm.filterMap id).map (View.entry spec)
  have hnodup' : (([] ++ (found'.filterMap id).map (View.entry spec)).map Prod.fst).Nodup :=
    (hentriesPerm.map Prod.fst).nodup_iff.mpr hnodup
  refine bind_eq_ok.mpr ⟨_, normalizedFiles_of_chosen hfound' hnodup', hresult ▸ congrArg Except.ok ?_⟩
  rw [canonicalCsvSha256, canonicalCsvSha256, insertionSort_key_of_perm hentriesPerm]
  exact fun a ha b hb => List.inj_on_of_nodup_map hnodup' ha hb

/-- The records, the counts and the fingerprint of the contents are the same for every packaging of the files and
however often, and in whichever order, the splits are asked for. -/
theorem dataset_repackaged {D : Type} {hash : Bytes → D} (h : Repackaged library files files')
    {requested requested' : List PyStr} (hr : ∀ text, text ∈ requested ↔ text ∈ requested') :
    normalizeSplits spec (some requested') = normalizeSplits spec (some requested) ∧
      (∀ splits c, convert library spec files splits allowPartial = .ok c ↔
        convert library spec files' splits allowPartial = .ok c) ∧
      ∀ sha, benchmarkContentSha256 library spec hash files = .ok sha ↔
        benchmarkContentSha256 library spec hash files' = .ok sha :=
  ⟨(normalizeSplits_congr hr).symm,
    fun _ _ => ⟨h.convert_ok fun _ => Iff.rfl, h.symm.convert_ok fun _ => Iff.rfl⟩,
    fun _ => ⟨h.benchmarkContentSha256_ok, h.symm.benchmarkContentSha256_ok⟩⟩

end Repackaged

/-- A library of the standard, as far as ASCII goes. -/
def asciiLibrary : BenchmarkLibrary := ⟨fun _ c _ => [c], plainText⟩

def lawPath : LogicalPath :=
  ⟨[py "dev", py "law_dev.csv"], by decide, by unfold RelativePath.Proper; decide, by unfold IsUnicode; decide⟩

def wrappedLawPath : LogicalPath :=
  ⟨[py "ceval-exam", py "dev", py "law_dev.csv"], by decide, by unfold RelativePath.Proper; decide,
    by unfold IsUnicode; decide⟩

/-- Two questions. -/
def lawCsv : Bytes := ((py "id,question,A,B,C,D,answer\n0,q,a,b,c,d,B\n1,r,a,b,c,d,A\n").encode).getD []

def lawFile : SourceCsv := ⟨lawPath, lawCsv, none⟩

def wrappedLawFile : SourceCsv := ⟨wrappedLawPath, lawCsv, none⟩

theorem wrappedLawFile_wrapped : Wrapped asciiLibrary lawFile wrappedLawFile :=
  ⟨rfl, rfl, [py "ceval-exam"], rfl, by decide⟩

theorem law_repackaged :
    (convert asciiLibrary Benchmark.ceval.spec [lawFile] [.dev] true).isOk = true ∧
      ∀ c, convert asciiLibrary Benchmark.ceval.spec [lawFile] [.dev] true = .ok c ↔
        convert asciiLibrary Benchmark.ceval.spec [wrappedLawFile] [.dev] true = .ok c :=
  ⟨by decide +kernel,
    fun c => (@dataset_repackaged asciiLibrary Benchmark.ceval.spec [lawFile] [wrappedLawFile] true Bytes id
      ⟨[lawFile], .refl _, .cons wrappedLawFile_wrapped.sameFile .nil⟩ [py "dev"] [py "dev", py "dev"]
      (fun text => by simp)).2.1 [.dev] c⟩

/-! ## The ids of the records -/

/-- The id of a record. -/
def idOf : Json → Option PyStr
  | .obj members =>
    match Dict.get? members (py "id") with
    | some (.str id) => some id
    | _ => none
  | _ => none

theorem recordId_injective {split split' : Split} {subject subject' : PyStr} {n n' : Nat}
    (h : recordId spec split subject n = recordId spec split' subject' n') :
    split = split' ∧ subject = subject' ∧ n = n' := by
  have hdigits (n : Nat) : 58 ∉ decimal n := fun hmem => absurd (decimal_digits n 58 hmem) (by decide)
  have hsplit : split.text ++ 58 :: (subject ++ 58 :: decimal n) = split'.text ++
    58 :: (subject' ++ 58 :: decimal n') := by
    simp only [recordId, List.append_assoc, List.append_cancel_left_eq] at h
    exact h
  have htext (split : Split) : 58 ∉ split.text := by cases split <;> decide
  obtain ⟨htexts, hrest⟩ := cut_first_unique hsplit (htext split) (htext split')
  obtain ⟨hsubjects, hnumbers⟩ := cut_last_unique hrest (hdigits n) (hdigits n')
  refine ⟨?_, hsubjects, ?_⟩
  · cases split <;> cases split' <;> first | rfl | exact absurd htexts (by decide)
  · rw [← ofDecimal_decimal n, hnumbers, ofDecimal_decimal]

theorem recordOf_id {split : Split} {subject : PyStr} {sourceRow : Nat} {raw : Csv.DictRow} {record : Json}
    (h : recordOf library spec split subject sourceRow raw = .ok record) :
    idOf record = some (recordId spec split subject (sourceRow - 1)) := by
  obtain ⟨row, -, h⟩ := bind_eq_ok.mp h
  obtain ⟨-, h⟩ := ite_error_eq_ok.mp h
  obtain ⟨-, h⟩ := ite_error_eq_ok.mp h
  obtain ⟨-, h⟩ := ite_error_eq_ok.mp h
  obtain rfl := Except.ok.inj h
  rfl

theorem recordsOf_ids {split : Split} {subject : PyStr} {number : Nat} {rows : List Csv.DictRow} {records : List Json}
    (h : recordsOf library spec split subject (number + 1) rows = .ok records) :
    records.map idOf = (List.range' number records.length).map fun n => some (recordId spec split subject n) := by
  induction rows generalizing number records with
  | nil =>
    obtain rfl := Except.ok.inj h
    rfl
  | cons raw rows ih =>
    obtain ⟨record, hrecord, h⟩ := bind_eq_ok.mp h
    obtain ⟨rest, hrest, h⟩ := bind_eq_ok.mp h
    obtain rfl := Except.ok.inj h
    rw [List.map_cons, recordOf_id hrecord, ih hrest, List.length_cons, List.range'_succ, List.map_cons]
    rfl

theorem parseCsv_ids {source : SourceCsv} {split : Split} {subject : PyStr} {records : List Json}
    (h : parseCsv library spec source split subject = .ok records) :
    records.map idOf = (List.range' 1 records.length).map fun n => some (recordId spec split subject n) := by
  have hcontent := mapError_eq_ok.mp h
  unfold parseContent at hcontent
  split at hcontent
  · cases hcontent
  · obtain ⟨-, hcontent⟩ := ite_error_eq_ok.mp hcontent
    simp only at hcontent
    split at hcontent
    · split at hcontent <;> cases hcontent
    · obtain ⟨records', hrecords, hcontent⟩ := bind_eq_ok.mp hcontent
      obtain ⟨-, hcontent⟩ := ite_error_eq_ok.mp hcontent
      obtain ⟨-, hcontent⟩ := ite_error_eq_ok.mp hcontent
      obtain rfl := Except.ok.inj hcontent
      exact recordsOf_ids hrecords

theorem convertSelected_ids {selected : List Selected}
    (hn : (selected.map Selected.identity).Nodup) {c counted : Counted}
    (h : convertSelected library spec c selected = .ok counted) :
    ∃ new, counted.records = c.records ++ new ∧ (new.map idOf).Nodup ∧
      ∀ record ∈ new, ∃ s ∈ selected, ∃ n, 0 < n ∧ idOf record = some (recordId spec s.split s.category n) := by
  induction selected generalizing c with
  | nil =>
    obtain rfl := Except.ok.inj h
    exact ⟨[], (List.append_nil _).symm, List.nodup_nil, fun record hrecord => absurd hrecord List.not_mem_nil⟩
  | cons s selected ih =>
    obtain ⟨hnew, hn⟩ := List.nodup_cons.mp hn
    obtain ⟨records, hrecords, h⟩ := bind_eq_ok.mp h
    obtain ⟨new, hnewRecords, hnodup, hids⟩ := ih hn h
    have hfile := parseCsv_ids hrecords
    have hfileIds : ∀ record ∈ records, ∃ n, 0 < n ∧ idOf record = some (recordId spec s.split s.category n) := by
      intro record hrecord
      have hmem : idOf record ∈ records.map idOf := List.mem_map_of_mem hrecord
      rw [hfile] at hmem
      obtain ⟨n, hn, hid⟩ := List.mem_map.mp hmem
      exact ⟨n, (List.mem_range'_1.mp hn).1, hid.symm⟩
    refine ⟨records ++ new, by rw [hnewRecords, Counted.add, List.append_assoc], ?_, ?_⟩
    · rw [List.map_append, List.nodup_append]
      refine ⟨?_, hnodup, ?_⟩
      · rw [hfile]
        refine (List.nodup_range' ..).map fun n n' heq => ?_
        exact (recordId_injective (Option.some.inj heq)).2.2
      · intro id hid id' hid' heq
        obtain ⟨record, hrecord, rfl⟩ := List.mem_map.mp hid
        obtain ⟨record', hrecord', rfl⟩ := List.mem_map.mp hid'
        obtain ⟨n, -, hid⟩ := hfileIds record hrecord
        obtain ⟨t, ht, n', -, hid'⟩ := hids record' hrecord'
        rw [hid, hid'] at heq
        obtain ⟨hsplit, hcategory, -⟩ := recordId_injective (Option.some.inj heq)
        refine hnew (List.mem_map.mpr ⟨t, ht, ?_⟩)
        rw [Selected.identity, Selected.identity, hsplit, hcategory]
    · intro record hrecord
      rcases List.mem_append.mp hrecord with hrecord | hrecord
      · obtain ⟨n, hn⟩ := hfileIds record hrecord
        exact ⟨s, List.mem_cons_self, n, hn⟩
      · obtain ⟨t, ht, n, hn⟩ := hids record hrecord
        exact ⟨t, List.mem_cons_of_mem _ ht, n, hn⟩

/-- What is converted: files of requested splits and official subjects, no two of the same split and subject. -/
theorem convert_selected {files : List SourceCsv} {splits : List Split} {allowPartial : Bool} {c : Converted}
    (h : convert library spec files splits allowPartial = .ok c) :
    ∃ selected counted, selected ≠ [] ∧ (selected.map Selected.identity).Nodup ∧
      (∀ s ∈ selected, s.split ∈ splits ∧ s.category ∈ spec.subjects ∧
        ∃ source ∈ files, source.content = s.source.content) ∧
      convertSelected library spec ⟨[], [], []⟩ selected = .ok counted ∧ c.records = counted.records := by
  obtain ⟨selected, counted, hselected, hne, -, hunknown, -, hcounted, rfl⟩ := convert_eq_ok.mp h
  obtain ⟨found, hfound, hviews, hnodup⟩ := selectFiles_chosen hselected List.nodup_nil
  have hsorted := List.perm_insertionSort (fun a b : Selected => a.key ≤ b.key) selected
  refine ⟨_, counted, ?_, (hsorted.map Selected.identity).nodup_iff.mpr hnodup, fun s hs => ?_, hcounted, rfl⟩
  · exact fun hnil => hne (List.nil_perm.mp (hnil ▸ hsorted))
  · have hs := hsorted.mem_iff.mp hs
    have hview : s.view ∈ selected.map Selected.view := List.mem_map_of_mem hs
    rw [hviews] at hview
    obtain ⟨hw, hsource⟩ := Chosen.of_view hfound hview
    exact ⟨hw, hunknown _ (List.mem_map_of_mem hs), hsource⟩

/-- The ids of a dataset are distinct, and each tells the split, the subject and the row. -/
theorem convert_ids {files : List SourceCsv} {splits : List Split} {allowPartial : Bool} {c : Converted}
    (h : convert library spec files splits allowPartial = .ok c) :
    (c.records.map idOf).Nodup ∧ ∀ record ∈ c.records, ∃ split subject n, split ∈ splits ∧ subject ∈ spec.subjects ∧
      0 < n ∧ idOf record = some (recordId spec split subject n) := by
  obtain ⟨selected, counted, -, hnodup, hfiles, hcounted, hrecords⟩ := convert_selected h
  obtain ⟨new, hnew, hids, hnumbers⟩ := convertSelected_ids hnodup hcounted
  have hnew : counted.records = new := hnew
  rw [hrecords, hnew]
  refine ⟨hids, fun record hrecord => ?_⟩
  obtain ⟨s, hs, n, hn, hid⟩ := hnumbers record hrecord
  obtain ⟨hsplit, hsubject, -⟩ := hfiles s hs
  exact ⟨s.split, s.category, n, hsplit, hsubject, hn, hid⟩

theorem law_ids :
    ∃ c, convert asciiLibrary Benchmark.ceval.spec [lawFile] [.dev] true = .ok c ∧ c.records.length = 2 ∧
      (c.records.map idOf).Nodup ∧ ∀ record ∈ c.records, ∃ split subject n, split ∈ [Split.dev] ∧
        subject ∈ Benchmark.ceval.spec.subjects ∧ 0 < n ∧
        idOf record = some (recordId Benchmark.ceval.spec split subject n) := by
  have htwo : (convert asciiLibrary Benchmark.ceval.spec [lawFile] [.dev] true).toOption.map
      (fun c => c.records.length) = some 2 := by decide +kernel
  cases h : convert asciiLibrary Benchmark.ceval.spec [lawFile] [.dev] true with
  | error e =>
    rw [h] at htwo
    cases htwo
  | ok c =>
    rw [h] at htwo
    exact ⟨c, rfl, Option.some.inj htwo, convert_ids h⟩

/-! ## The fingerprint -/

theorem bigEndian_length (width n : Nat) : (bigEndian width n).length = width := by
  induction width generalizing n with
  | zero => rfl
  | succ width ih => rw [bigEndian, List.length_append, ih, List.length_singleton]

theorem bigEndian_injective {width m n : Nat} (hm : m < 256 ^ width) (hn : n < 256 ^ width)
    (h : bigEndian width m = bigEndian width n) : m = n := by
  induction width generalizing m n with
  | zero => omega
  | succ width ih =>
    obtain ⟨hinit, hlast⟩ := List.append_inj' h rfl
    have hdiv : m / 256 = n / 256 :=
      ih (Nat.div_lt_of_lt_mul (by omega)) (Nat.div_lt_of_lt_mul (by omega)) hinit
    have hmod : m % 256 = n % 256 := by
      have := congrArg UInt8.toNat (List.singleton_inj.mp hlast)
      simpa using this
    omega

theorem lengthBytes_eq_some {b l : Bytes} : lengthBytes b = some l ↔ b.length < 2 ^ 64 ∧ bigEndian 8 b.length = l := by
  rw [lengthBytes, Option.ite_none_right_eq_some, Option.some.injEq]

/-- Bytes behind their length end in one place only. -/
theorem lengthBytes_cut {a b la lb x y : Bytes} (ha : lengthBytes a = some la) (hb : lengthBytes b = some lb)
    (h : la ++ (a ++ x) = lb ++ (b ++ y)) : a = b ∧ x = y := by
  obtain ⟨hla, rfl⟩ := lengthBytes_eq_some.mp ha
  obtain ⟨hlb, rfl⟩ := lengthBytes_eq_some.mp hb
  obtain ⟨hlength, hrest⟩ := List.append_inj h (by rw [bigEndian_length, bigEndian_length])
  exact List.append_inj hrest (bigEndian_injective (by omega) (by omega) hlength)

theorem csvTreeInput_cons {file : PyStr × Bytes} {files : List (PyStr × Bytes)} {b : Bytes} :
    csvTreeInput (file :: files) = some b ↔ ∃ name nameLength contentLength rest, file.1.encode = some name ∧
      lengthBytes name = some nameLength ∧ lengthBytes file.2 = some contentLength ∧ csvTreeInput files = some rest ∧
        nameLength ++ (name ++ (contentLength ++ (file.2 ++ rest))) = b := by
  simp only [csvTreeInput, bind_eq_some, Option.some.injEq]
  constructor
  · rintro ⟨name, hname, nameLength, hlength, contentLength, hcontent, rest, hrest, rfl⟩
    exact ⟨name, nameLength, contentLength, rest, hname, hlength, hcontent, hrest, rfl⟩
  · rintro ⟨name, nameLength, contentLength, rest, hname, hlength, hcontent, hrest, rfl⟩
    exact ⟨name, hname, nameLength, hlength, contentLength, hcontent, rest, hrest, rfl⟩

theorem csvTreeInput_ne_nil {file : PyStr × Bytes} {files : List (PyStr × Bytes)} {b : Bytes}
    (h : csvTreeInput (file :: files) = some b) : b ≠ [] := by
  obtain ⟨name, nameLength, contentLength, rest, -, hlength, -, -, rfl⟩ := csvTreeInput_cons.mp h
  obtain ⟨-, rfl⟩ := lengthBytes_eq_some.mp hlength
  intro hnil
  have hlength := congrArg List.length hnil
  rw [List.length_append, bigEndian_length, List.length_nil] at hlength
  omega

/-- What is hashed tells the files. -/
theorem csvTreeInput_injective {files files' : List (PyStr × Bytes)} {b : Bytes}
    (hu : ∀ file ∈ files, IsUnicode file.1) (hu' : ∀ file ∈ files', IsUnicode file.1)
    (h : csvTreeInput files = some b) (h' : csvTreeInput files' = some b) : files = files' := by
  induction files generalizing files' b with
  | nil =>
    obtain rfl := Option.some.inj h
    cases files' with
    | nil => rfl
    | cons file files' => exact absurd rfl (csvTreeInput_ne_nil h')
  | cons file files ih =>
    cases files' with
    | nil =>
      obtain rfl := Option.some.inj h'
      exact absurd rfl (csvTreeInput_ne_nil h)
    | cons file' files' =>
      obtain ⟨name, _, _, rest, hname, hlength, hcontent, hrest, rfl⟩ := csvTreeInput_cons.mp h
      obtain ⟨name', _, _, rest', hname', hlength', hcontent', hrest', heq⟩ := csvTreeInput_cons.mp h'
      obtain ⟨rfl, hcontents⟩ := lengthBytes_cut hlength' hlength heq
      obtain ⟨hsame, rfl⟩ := lengthBytes_cut hcontent' hcontent hcontents
      have hpath : file.1 = file'.1 := Option.some.inj
        ((decodeUtf8_encode (hu file List.mem_cons_self) hname).symm.trans
          (decodeUtf8_encode (hu' file' List.mem_cons_self) hname'))
      rw [ih (fun f hf => hu f (List.mem_cons_of_mem _ hf))
        (fun f hf => hu' f (List.mem_cons_of_mem _ hf)) hrest hrest',
        Prod.ext hpath hsame.symm]

/-- The fingerprint of files with distinct paths tells which path has which content. -/
theorem canonicalCsvSha256_tells {D : Type} {hash : Bytes → D} (hhash : Function.Injective hash)
    {files files' : List (PyStr × Bytes)} (hn : (files.map Prod.fst).Nodup) (hn' : (files'.map Prod.fst).Nodup)
    (hu : ∀ file ∈ files, IsUnicode file.1) (hu' : ∀ file ∈ files', IsUnicode file.1) {d : D}
    (h : canonicalCsvSha256 hash files = some d) :
    canonicalCsvSha256 hash files' = some d ↔ ∀ file, file ∈ files ↔ file ∈ files' := by
  have hsorted (l : List (PyStr × Bytes)) := List.perm_insertionSort (fun a b : PyStr × Bytes => a.1 ≤ b.1) l
  constructor
  · intro h'
    obtain ⟨b, hb, hd⟩ := Option.map_eq_some_iff.mp h
    obtain ⟨b', hb', hd'⟩ := Option.map_eq_some_iff.mp h'
    obtain rfl := hhash (hd.trans hd'.symm)
    have hsame := csvTreeInput_injective (fun f hf => hu f ((hsorted files).mem_iff.mp hf))
      (fun f hf => hu' f ((hsorted files').mem_iff.mp hf)) hb hb'
    exact fun file => by rw [← (hsorted files).mem_iff, hsame, (hsorted files').mem_iff]
  · intro hmem
    have hperm : files.Perm files' :=
      (List.perm_ext_iff_of_nodup (List.Nodup.of_map _ hn) (List.Nodup.of_map _ hn')).mpr hmem
    rw [← h, canonicalCsvSha256, canonicalCsvSha256, insertionSort_key_of_perm hperm]
    exact fun a ha b hb => List.inj_on_of_nodup_map hn ha hb

/-- What `_canonical_csv_sha256` reads of a file. -/
def SourceCsv.entry (source : SourceCsv) : PyStr × Bytes := (source.path.text, source.content)

theorem LogicalPath.text_unicode (p : LogicalPath) : IsUnicode p.text := by
  intro c hc
  rcases RelativePath.mem_posix hc with rfl | ⟨part, hpart, hc⟩
  · decide
  · exact p.unicode part hpart c hc

/-- The fingerprint of files at distinct paths tells which content is at which path. -/
theorem fingerprint_tells_sources {D : Type} {hash : Bytes → D} (hhash : Function.Injective hash)
    {files files' : List SourceCsv} (hn : (files.map fun f => f.path.text).Nodup)
    (hn' : (files'.map fun f => f.path.text).Nodup) {d : D}
    (h : canonicalCsvSha256 hash (files.map SourceCsv.entry) = some d) :
    canonicalCsvSha256 hash (files'.map SourceCsv.entry) = some d ↔
      ∀ file, file ∈ files.map SourceCsv.entry ↔ file ∈ files'.map SourceCsv.entry := by
  have hpaths {l : List SourceCsv} (hl : (l.map fun f => f.path.text).Nodup) :
      ((l.map SourceCsv.entry).map Prod.fst).Nodup := by
    rw [List.map_map]
    exact hl
  have hunicode (l : List SourceCsv) : ∀ file ∈ l.map SourceCsv.entry, IsUnicode file.1 := by
    intro file hfile
    obtain ⟨f, -, rfl⟩ := List.mem_map.mp hfile
    exact f.path.text_unicode
  exact canonicalCsvSha256_tells hhash (hpaths hn) (hpaths hn') (hunicode files) (hunicode files') h

theorem law_fingerprint :
    canonicalCsvSha256 id ([wrappedLawFile, lawFile].map SourceCsv.entry) =
        canonicalCsvSha256 id ([lawFile, wrappedLawFile].map SourceCsv.entry) ∧
      (canonicalCsvSha256 id ([lawFile, wrappedLawFile].map SourceCsv.entry)).isSome = true := by
  have hsome : (canonicalCsvSha256 id ([lawFile, wrappedLawFile].map SourceCsv.entry)).isSome = true := by
    decide +kernel
  obtain ⟨d, hd⟩ := Option.isSome_iff_exists.mp hsome
  have hsame := @fingerprint_tells_sources Bytes id Function.injective_id [lawFile, wrappedLawFile]
    [wrappedLawFile, lawFile] (by decide) (by decide) d hd
  refine ⟨(hsame.mpr fun file => ?_).trans hd.symm, hsome⟩
  exact (List.Perm.swap wrappedLawFile.entry lawFile.entry []).mem_iff

end OpenLLMOps.Benchmarks
