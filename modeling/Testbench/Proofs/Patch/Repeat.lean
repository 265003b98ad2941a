import Testbench.Proofs.Patch.Amendment
import Testbench.Proofs.Patch.Step

/-!
# Patching twice

The sources are patched in three steps or in one. Each of them settles its own files, and no later
step touches these again: only the files that different steps write have to be different. This is
what the specification asks of patching that is repeated (§4.2).

- `Layout.IsPlain`, `Job.files`: the layouts for which this holds, and the files that take part.
- `copyGraphics_settles`, `installSupport_settles`, `amendSnapshots_settles`,
  `guardGraphics_settles`: what each step leaves, and on which files it is settled from then on.
- `patch_settles`: all steps together are settled on what they leave.
- `apply_apply`: patching twice is patching once.
-/

namespace Testbench

namespace Patch

open Testbench.Tree

/-! ## Layouts -/

namespace Layout

/-- All paths of the layout are relative ones of plain names. -/
structure IsPlain (l : Layout) : Prop where
  patchesDir : Path.IsPlain l.patchesDir
  testsDir : Path.IsPlain l.testsDir
  supportDir : Path.IsPlain l.supportDir
  graphicsTest : Path.IsPlain l.graphicsTest
  labelSupport : Path.IsPlain l.labelSupport
  snapshotTest : Path.IsPlain l.snapshotTest

theorem isPlain_standard : Layout.standard.IsPlain := by constructor <;> decide

/-- The replacement for the tests of graphics numbers, from the root. -/
def graphicsSource (l : Layout) : String := Path.join l.patchesDir l.graphicsTest

/-- The tests of graphics numbers, from the root. -/
def graphicsTarget (l : Layout) : String := Path.join l.testsDir l.graphicsTest

/-- The support file among the replacements, from the root. -/
def labelSource (l : Layout) : String := Path.join l.patchesDir l.labelSupport

/-- The directory with the support files, from the root. -/
def labelDir (l : Layout) : String := Path.join l.testsDir l.supportDir

/-- The installed support file, from the root. -/
def labelTarget (l : Layout) : String := Path.join l.labelDir l.labelSupport

/-- The snapshot tests, from the root. -/
def snapshotTarget (l : Layout) : String := Path.join l.testsDir l.snapshotTest

/-- The files that take part, from the root. -/
def files (l : Layout) : List String :=
  [l.graphicsSource, l.labelSource, l.graphicsTarget, l.snapshotTarget, l.labelTarget]

namespace IsPlain

variable {l : Layout} (h : l.IsPlain)
include h

theorem graphicsSource : Path.IsPlain l.graphicsSource := h.patchesDir.join h.graphicsTest

theorem graphicsTarget : Path.IsPlain l.graphicsTarget := h.testsDir.join h.graphicsTest

theorem labelSource : Path.IsPlain l.labelSource := h.patchesDir.join h.labelSupport

theorem labelDir : Path.IsPlain l.labelDir := h.testsDir.join h.supportDir

theorem labelTarget : Path.IsPlain l.labelTarget := h.labelDir.join h.labelSupport

theorem snapshotTarget : Path.IsPlain l.snapshotTarget := h.testsDir.join h.snapshotTest

theorem files : ∀ q ∈ l.files, Path.IsPlain q := by
  simp only [Layout.files, List.forall_mem_cons]
  exact ⟨h.graphicsSource, h.labelSource, h.graphicsTarget, h.snapshotTarget, h.labelTarget,
    by simp⟩

end IsPlain

end Layout

namespace Job

variable {j : Job} {t : Tree} {b : Location}

/-- The files that take part: the replacements and the files that are patched. -/
def files (j : Job) : List String :=
  [j.graphicsPatch, j.labelPatch, j.graphicsTest, j.snapshotTest, j.labelSupport]

section Paths

variable (h : j.layout.IsPlain)
include h

theorem graphicsPatch_eq : j.graphicsPatch = Path.join j.root j.layout.graphicsSource :=
  Path.join_join h.patchesDir h.graphicsTest

theorem graphicsTest_eq : j.graphicsTest = Path.join j.root j.layout.graphicsTarget :=
  Path.join_join h.testsDir h.graphicsTest

theorem labelPatch_eq : j.labelPatch = Path.join j.root j.layout.labelSource :=
  Path.join_join h.patchesDir h.labelSupport

theorem supportDir_eq : j.supportDir = Path.join j.root j.layout.labelDir :=
  Path.join_join h.testsDir h.supportDir

theorem labelSupport_eq : j.labelSupport = Path.join j.root j.layout.labelTarget := by
  unfold labelSupport
  rw [supportDir_eq h]
  exact Path.join_join h.labelDir h.labelSupport

theorem snapshotTest_eq : j.snapshotTest = Path.join j.root j.layout.snapshotTarget :=
  Path.join_join h.testsDir h.snapshotTest

theorem files_eq : j.files = j.layout.files.map (Path.join j.root) := by
  unfold files
  rw [graphicsPatch_eq h, labelPatch_eq h, graphicsTest_eq h, snapshotTest_eq h, labelSupport_eq h]
  rfl

theorem copyGraphics_of_files {p : Progress}
    (hp : (p.tree.isFile (Path.join j.root j.layout.graphicsSource) &&
      p.tree.isFile (Path.join j.root j.layout.graphicsTarget)) = true) :
    j.copyGraphics p = copyStep
      (p.say .step ("Copying patched " ++ j.layout.graphicsTest ++ "..."))
      (Path.join j.root j.layout.graphicsSource) (Path.join j.root j.layout.graphicsTarget)
      "Patched" := by
  rw [← graphicsPatch_eq h, ← graphicsTest_eq h] at hp ⊢
  exact if_pos hp

theorem copyGraphics_of_missing {p : Progress}
    (hp : ¬ (p.tree.isFile (Path.join j.root j.layout.graphicsSource) &&
      p.tree.isFile (Path.join j.root j.layout.graphicsTarget)) = true) :
    j.copyGraphics p = p := by
  rw [← graphicsPatch_eq h, ← graphicsTest_eq h] at hp
  exact if_neg hp

theorem copySupport_of_file {p : Progress}
    (hp : p.tree.isFile (Path.join j.root j.layout.labelSource) = true) :
    j.copySupport p = copyStep
      (p.say .step ("Copying " ++ j.layout.labelSupport ++ " to " ++ j.supportDir ++ "..."))
      (Path.join j.root j.layout.labelSource) (Path.join j.root j.layout.labelTarget) "Added" := by
  rw [← labelSupport_eq h]
  rw [← labelPatch_eq h] at hp ⊢
  exact if_pos hp

theorem copySupport_of_missing {p : Progress}
    (hp : ¬ p.tree.isFile (Path.join j.root j.layout.labelSource) = true) :
    j.copySupport p = p := by
  rw [← labelPatch_eq h] at hp
  exact if_neg hp

theorem amendSnapshots_eq (p : Progress) : j.amendSnapshots p =
    if p.tree.isFile (Path.join j.root j.layout.snapshotTarget) then
      amendStep (p.say .step ("Patching " ++ j.layout.snapshotTest ++ "..."))
        (Path.join j.root j.layout.snapshotTarget) Amendment.routeLabels
    else p := by
  rw [← snapshotTest_eq h]
  rfl

theorem guardGraphics_eq (p : Progress) : j.guardGraphics p =
    if p.tree.isFile (Path.join j.root j.layout.graphicsTarget) then
      amendStep (p.say .step ("Patching " ++ j.graphicsTest ++ "..."))
        (Path.join j.root j.layout.graphicsTarget) Amendment.guardGraphics
    else p := by
  rw [← graphicsTest_eq h]
  rfl

/-- Files that differ stand at different places. -/
theorem places_nodup (hfiles : j.files.Nodup) (b : Location) :
    (j.layout.files.map (b ++ Path.names ·)).Nodup := by
  rw [files_eq h] at hfiles
  refine List.pairwise_map.mpr ((List.pairwise_map.mp hfiles).imp_of_mem ?_)
  intro q r hq hr hne heq
  exact hne (by rw [(h.files q hq).eq_of_names_eq (h.files r hr) (List.append_cancel_left heq)])

end Paths

/-! ## Installing replacements -/

/-- The tests of graphics numbers are settled as long as they and their replacement stay files with
the same octets. -/
theorem copyGraphics_settles (h : t.Site j.root b) (hl : j.layout.IsPlain)
    (hplaces : b ++ Path.names j.layout.graphicsSource ≠
      b ++ Path.names j.layout.graphicsTarget) :
    ∃ t' as ws, Does j.copyGraphics t t' as ws ∧ t'.Site j.root b ∧ t.Within t' ∧
      ∀ u : Tree, u.Site j.root b → t'.Within u →
        u.file? (b ++ Path.names j.layout.graphicsSource) =
          t'.file? (b ++ Path.names j.layout.graphicsSource) →
        u.file? (b ++ Path.names j.layout.graphicsTarget) =
          t'.file? (b ++ Path.names j.layout.graphicsTarget) →
        Settled j.copyGraphics u ws := by
  have hq := hl.graphicsSource
  have hr := hl.graphicsTarget
  by_cases hboth : (t.isFile (Path.join j.root j.layout.graphicsSource) &&
      t.isFile (Path.join j.root j.layout.graphicsTarget)) = true
  · obtain ⟨hsource, htarget⟩ := Bool.and_eq_true_iff.mp hboth
    obtain ⟨t', as, ws, hdoes, hsite, hwithin, hframe, hkeeps, hsettles⟩ :=
      copyStep_settles "Patched" h hq hr hplaces hsource
    have hsource' : t'.isFile (Path.join j.root j.layout.graphicsSource) = true := by
      rw [h.isFile_congr hsite hq (file?_congr (hframe _ hplaces)), hsource]
    have htarget' := hkeeps htarget
    refine ⟨t', as, ws, (hdoes.say _ _).congr fun p hp => copyGraphics_of_files hl ?_, hsite,
      hwithin, fun u hu hwithin hus hut => ?_⟩
    · rw [hp, hboth]
    -- both are files, so that they stand there in `u` as well, and the target can be reached
    obtain ⟨-, e, he⟩ := (hsite.isFile_iff hq).mp hsource'
    obtain ⟨hfits, e', he'⟩ := (hsite.isFile_iff hr).mp htarget'
    obtain ⟨d, n, hparting⟩ :=
      hsite.exists_parting hr hfits (by rw [(file?_eq_some_iff.mp he').1]; simp)
    have hkept : Keeps t' u j.root b j.layout.graphicsSource j.layout.graphicsTarget := by
      refine ⟨hu, hwithin, get?_eq_of_file?_eq hus he, get?_eq_of_file?_eq hut he', fun e hnot => ?_⟩
      rw [hparting] at hnot
      cases hnot
    refine ((hsettles u hkept).say _ _).congr fun p hp => copyGraphics_of_files hl ?_
    rw [hp, hsite.isFile_congr hu hq hus, hsite.isFile_congr hu hr hut, hsource', htarget']
    rfl
  · refine ⟨t, [], [], does_of_eq fun p hp => copyGraphics_of_missing hl ?_, h, .refl t,
      fun u hu _ hus hut => settled_of_eq fun p hp => copyGraphics_of_missing hl ?_⟩
    · rwa [hp]
    · rwa [hp, h.isFile_congr hu hq hus, h.isFile_congr hu hr hut]

/-- The installed support file is settled as long as nothing but octets of other files changes. -/
theorem copySupport_settles (h : t.Site j.root b) (hl : j.layout.IsPlain)
    (hplaces : b ++ Path.names j.layout.labelSource ≠ b ++ Path.names j.layout.labelTarget) :
    ∃ t' as ws, Does j.copySupport t t' as ws ∧ t'.Site j.root b ∧ t.Within t' ∧
      (∀ l, l ≠ b ++ Path.names j.layout.labelTarget → t'.get? l = t.get? l) ∧
      ∀ u : Tree, Keeps t' u j.root b j.layout.labelSource j.layout.labelTarget →
        Settled j.copySupport u ws := by
  have hq := hl.labelSource
  have hr := hl.labelTarget
  by_cases hsource : t.isFile (Path.join j.root j.layout.labelSource) = true
  · obtain ⟨t', as, ws, hdoes, hsite, hwithin, hframe, -, hsettles⟩ :=
      copyStep_settles "Added" h hq hr hplaces hsource
    have hsource' : t'.isFile (Path.join j.root j.layout.labelSource) = true := by
      rw [h.isFile_congr hsite hq (file?_congr (hframe _ hplaces)), hsource]
    refine ⟨t', as, ws, (hdoes.say _ _).congr fun p hp => copySupport_of_file hl ?_, hsite,
      hwithin, hframe,
      fun u hu => ((hsettles u hu).say _ _).congr fun p hp => copySupport_of_file hl ?_⟩
    · rw [hp, hsource]
    · rw [hp, hsite.isFile_congr hu.site hq (file?_congr hu.source), hsource']
  · refine ⟨t, [], [], does_of_eq fun p hp => copySupport_of_missing hl ?_, h, .refl t,
      fun _ _ => rfl, fun u hu => settled_of_eq fun p hp => copySupport_of_missing hl ?_⟩
    · rwa [hp]
    · rwa [hp, h.isFile_congr hu.site hq (file?_congr hu.source)]

/-- Where the support directory cannot be made, nothing else is tried. -/
theorem does_installSupport_of_error {e : FileError} (hmissing : ¬ t.isDir j.supportDir = true)
    (hmake : t.makeDir j.supportDir = .error e) :
    Does j.installSupport t t [] ["create " ++ j.supportDir ++ " failed: " ++ e.message] := by
  rintro p rfl
  unfold installSupport
  rw [if_neg hmissing, hmake]
  exact ⟨rfl, (List.append_nil _).symm, rfl⟩

/-- Once the support directory is made, the support file is installed as if it had been there. -/
theorem does_installSupport_of_made {t₁ t' : Tree} {as : List Action} {ws : List String}
    (hmissing : ¬ t.isDir j.supportDir = true) (hmake : t.makeDir j.supportDir = .ok t₁)
    (hdoes : Does j.copySupport t₁ t' as ws) :
    Does j.installSupport t t' (.createdDir j.supportDir :: as) ws := by
  rintro p rfl
  obtain ⟨htree, hacts, hwarns⟩ :=
    hdoes ((p.withTree t₁).act (.createdDir j.supportDir)) rfl
  unfold installSupport
  rw [if_neg hmissing, hmake]
  refine ⟨htree, ?_, hwarns⟩
  rw [hacts]
  exact List.append_assoc _ _ _

/-- The support directory is made in a directory, at a free place. -/
theorem supportDir_made (h : t.Site j.root b) (hl : j.layout.IsPlain)
    (hmake : t.makeDir j.supportDir = .ok t') :
    Fits j.root j.layout.labelDir ∧ t'.Site j.root b ∧
      t' = t.set (b ++ Path.names j.layout.labelDir) .dir ∧
      t.get? (b ++ Path.names j.layout.labelDir) = none := by
  rw [supportDir_eq hl] at hmake
  exact h.makeDir_ok hl.labelDir hmake

/-- The support directory and the support file are settled as long as nothing but octets of other
files changes. No file is lost or found where another one than the support file stands. -/
theorem installSupport_settles (h : t.Site j.root b) (hl : j.layout.IsPlain)
    (hplaces : b ++ Path.names j.layout.labelSource ≠ b ++ Path.names j.layout.labelTarget) :
    ∃ t' as ws, Does j.installSupport t t' as ws ∧ t'.Site j.root b ∧ t.Within t' ∧
      (∀ l, l ≠ b ++ Path.names j.layout.labelTarget → t'.file? l = t.file? l) ∧
      ∀ u : Tree, t'.Alike u → Keeps t' u j.root b j.layout.labelSource j.layout.labelTarget →
        Settled j.installSupport u ws := by
  have hd := hl.labelDir
  have hdir (p : Progress) (hp : p.tree.isDir j.supportDir = true) :
      j.installSupport p = j.copySupport p := if_pos hp
  by_cases hfound : t.isDir j.supportDir = true
  · obtain ⟨t', as, ws, hdoes, hsite, hwithin, hframe, hsettles⟩ := copySupport_settles h hl hplaces
    refine ⟨t', as, ws, hdoes.congr fun p hp => hdir p (by rw [hp, hfound]), hsite, hwithin,
      fun l hl => file?_congr (hframe l hl), fun u _ hu => ?_⟩
    refine (hsettles u hu).congr fun p hp => hdir p ?_
    rw [hp]
    exact (hwithin.trans hu.within).isDir hfound
  · cases hmake : t.makeDir j.supportDir with
    | error e =>
      refine ⟨t, _, _, does_installSupport_of_error hfound hmake, h, .refl t, fun _ _ => rfl,
        fun u halike _ => ?_⟩
      have hfound' : ¬ u.isDir j.supportDir = true := by rwa [halike.isDir]
      exact ⟨[], does_installSupport_of_error hfound' (halike.makeDir_error hmake), by simp⟩
    | ok t₁ =>
      obtain ⟨hfits, hsite₁, rfl, hvacant⟩ := supportDir_made h hl hmake
      have hget (l : Location) := get?_set t (b ++ Path.names j.layout.labelDir) l .dir
        (Site.place_ne_nil hd)
      obtain ⟨t', as, ws, hdoes, hsite, hwithin, hframe, hsettles⟩ :=
        copySupport_settles hsite₁ hl hplaces
      refine ⟨t', _, _, does_installSupport_of_made hfound hmake hdoes, hsite,
        (makeDir_within hmake).trans hwithin, fun l hl => ?_, fun u _ hu => ?_⟩
      · -- a directory where nothing stood is no file, and was none
        rw [file?_congr (hframe l hl), file?, hget]
        split
        · next heq =>
          rw [file?, heq, hvacant]
          rfl
        · rfl
      · refine (hsettles u hu).congr fun p hp => hdir p ?_
        rw [hp, supportDir_eq hl, hu.site.isDir_iff hd]
        refine ⟨hfits, (hwithin.trans hu.within).get?_dir ?_⟩
        rw [hget, if_pos rfl]

/-! ## Amending in place -/

/-- A file that is amended, if it is there, is settled from then on. -/
theorem amend_settles {root q m : String} {amend : List Char → Option (List Char)}
    (h : t.Site root b) (hq : Path.IsPlain q)
    (hamend : ∀ source amended, amend source = some amended → amend amended = none)
    {f : Progress → Progress}
    (hf : ∀ p : Progress, f p = if p.tree.isFile (Path.join root q) then
      amendStep (p.say .step m) (Path.join root q) amend else p) :
    ∃ t' ws, Amended f t t' root b (b ++ Path.names q) ws := by
  by_cases hfile : t.isFile (Path.join root q) = true
  · obtain ⟨t', ws, hfile', ⟨as, hdoes⟩, hsite, halike, hframe, hsettled⟩ :=
      amendStep_settles h hq hfile hamend
    refine ⟨t', ws, ⟨as, (hdoes.say .step m).congr fun p hp => ?_⟩, hsite, halike, hframe,
      (hsettled.say .step m).congr fun p hp => ?_⟩
    · rw [hf, hp, if_pos hfile]
    · rw [hf, hp, if_pos hfile']
  · have hskip (p : Progress) (hp : p.tree = t) : f p = p := by
      rw [hf, hp, if_neg hfile]
    exact ⟨t, [], (settled_of_eq hskip).amended h _⟩

theorem amendSnapshots_settles (h : t.Site j.root b) (hl : j.layout.IsPlain) :
    ∃ t' ws, Amended j.amendSnapshots t t' j.root b
      (b ++ Path.names j.layout.snapshotTarget) ws :=
  amend_settles h hl.snapshotTarget (fun _ _ => Amendment.routeLabels_of_routeLabels)
    (amendSnapshots_eq hl)

theorem guardGraphics_settles (h : t.Site j.root b) (hl : j.layout.IsPlain) :
    ∃ t' ws, Amended j.guardGraphics t t' j.root b
      (b ++ Path.names j.layout.graphicsTarget) ws :=
  amend_settles h hl.graphicsTarget (fun _ _ => Amendment.guardGraphics_of_guardGraphics)
    (guardGraphics_eq hl)

/-! ## All steps -/

/-- The steps with replacement files at hand, one behind the other. What the first step left is
kept by the second, which writes the support file, and by the third, which writes the snapshot
tests; what the second left is kept by the third. -/
theorem install_settles (h : t.Site j.root b) (hl : j.layout.IsPlain) (hfiles : j.files.Nodup) :
    ∃ t' as ws, Does (fun p => j.amendSnapshots (j.installSupport (j.copyGraphics p))) t t' as ws ∧
      t.Within t' ∧
      Settled (fun p => j.amendSnapshots (j.installSupport (j.copyGraphics p))) t' ws := by
  have hnodup := places_nodup hl hfiles b
  simp only [Layout.files, List.map_cons, List.map_nil, List.nodup_cons, List.mem_cons,
    List.not_mem_nil, or_false, not_or, not_false_eq_true, List.nodup_nil, and_true] at hnodup
  obtain ⟨⟨-, hgs_gt, hgs_st, hgs_lt⟩, ⟨-, hls_st, hls_lt⟩, ⟨hgt_st, hgt_lt⟩, hst_lt⟩ := hnodup
  obtain ⟨t₁, as₁, ws₁, hdoes₁, hsite₁, hwithin₁, hsettles₁⟩ := copyGraphics_settles h hl hgs_gt
  obtain ⟨t₂, as₂, ws₂, hdoes₂, hsite₂, hwithin₂, hframe₂, hsettles₂⟩ :=
    installSupport_settles hsite₁ hl hls_lt
  obtain ⟨t₃, ws₃, ⟨as₃, hdoes₃⟩, hsite₃, halike₃, hframe₃, hsettled₃⟩ :=
    amendSnapshots_settles hsite₂ hl
  have hwithin₃ := hwithin₂.trans halike₃.within
  refine ⟨t₃, _, _, (hdoes₁.comp hdoes₂).comp hdoes₃, hwithin₁.trans hwithin₃, ?_⟩
  -- a file that neither of the later steps writes is what the first step left
  have hkept {l : Location} (hst : l ≠ b ++ Path.names j.layout.snapshotTarget)
      (hlt : l ≠ b ++ Path.names j.layout.labelTarget) : t₃.file? l = t₁.file? l :=
    (file?_congr (hframe₃ l hst)).trans (hframe₂ l hlt)
  have hsettled₁ : Settled j.copyGraphics t₃ ws₁ :=
    hsettles₁ t₃ hsite₃ hwithin₃ (hkept hgs_st hgs_lt) (hkept hgt_st hgt_lt)
  have hsettled₂ : Settled j.installSupport t₃ ws₂ :=
    hsettles₂ t₃ halike₃ (.of_alike hsite₃ halike₃ (hframe₃ _ hls_st) (hframe₃ _ (Ne.symm hst_lt)))
  exact (hsettled₁.comp hsettled₂).comp hsettled₃

/-- All steps together are settled on what they leave. -/
theorem patch_settles (hclosed : t.Closed) (hordinary : t.OrdinaryBelow j.root)
    (hl : j.layout.IsPlain) (hfiles : j.files.Nodup) :
    ∃ t' as ws, Does j.patch t t' as ws ∧ Settled j.patch t' ws := by
  have hinstall (p : Progress) (hp : p.tree.isDir j.patchesDir = true) :
      j.patch p = j.amendSnapshots (j.installSupport (j.copyGraphics p)) := if_pos hp
  have hguard (p : Progress) (hp : ¬ p.tree.isDir j.patchesDir = true) :
      j.patch p = j.guardGraphics p := if_neg hp
  by_cases hdir : t.isDir j.patchesDir = true
  · obtain ⟨l, hfind, -⟩ := Tree.isDir_iff.mp hdir
    -- the directory of replacements is found, so that the root leads somewhere
    obtain ⟨b, h⟩ := exists_site hclosed hordinary hl.patchesDir hfind
    obtain ⟨t', as, ws, hdoes, hwithin, hsettled⟩ := install_settles h hl hfiles
    refine ⟨t', as, ws, hdoes.congr fun p hp => hinstall p ?_,
      hsettled.congr fun p hp => hinstall p ?_⟩
    · rwa [hp]
    · rw [hp]
      exact hwithin.isDir hdir
  · by_cases hfile : t.isFile j.graphicsTest = true
    · rw [graphicsTest_eq hl] at hfile
      obtain ⟨l, hfind⟩ := exists_find_of_isFile hfile
      obtain ⟨b, h⟩ := exists_site hclosed hordinary hl.graphicsTarget hfind
      obtain ⟨t', ws, ⟨as, hdoes⟩, -, halike, -, hsettled⟩ := guardGraphics_settles h hl
      refine ⟨t', as, ws, hdoes.congr fun p hp => hguard p ?_,
        hsettled.congr fun p hp => hguard p ?_⟩
      · rwa [hp]
      · rwa [hp, halike.isDir]
    · have hskip (p : Progress) (hp : p.tree = t) : j.patch p = p := by
        rw [hguard p (by rwa [hp])]
        exact if_neg (by rwa [hp])
      exact ⟨t, [], [], does_of_eq hskip, settled_of_eq hskip⟩

/-- **Patching twice is patching once.** In a tree without links below the root, a second run on
the host that needs patches leaves the files as the first one left them, finds everything patched,
and warns of the same. -/
theorem apply_apply {host : String} {s : Session} (hhost : host = j.layout.targetOs)
    (hl : j.layout.IsPlain) (hfiles : j.files.Nodup) (hclosed : s.tree.Closed)
    (hordinary : s.tree.OrdinaryBelow j.root) :
    let first := j.apply host s
    let second := j.apply host first.2
    second.2.tree = first.2.tree ∧
      (∀ a ∈ second.1.actions, ∃ path, a = .alreadyPatched path) ∧
      second.1.warnings = first.1.warnings := by
  obtain ⟨t', as, ws, hdoes, as', hdoes', has'⟩ := patch_settles hclosed hordinary hl hfiles
  have happly (s : Session) : j.apply host s =
      let p := j.patch { session := s.say .step "Patching test files for platform compatibility..." }
      (⟨.applied, p.actions, p.warnings⟩, p.session.emit [closing p.warnings]) := if_pos hhost
  intro first second
  obtain ⟨htree, -, hwarns⟩ := hdoes
    { session := s.say .step "Patching test files for platform compatibility..." } rfl
  have hfirst : first.2.tree = t' := by
    show (j.apply host s).2.tree = t'
    rw [happly]
    exact htree
  obtain ⟨htree', hacts', hwarns'⟩ := hdoes'
    { session := first.2.say .step "Patching test files for platform compatibility..." } hfirst
  refine ⟨?_, ?_, ?_⟩
  · rw [hfirst]
    show (j.apply host first.2).2.tree = t'
    rw [happly]
    exact htree'
  · show ∀ a ∈ (j.apply host first.2).1.actions, _
    rw [happly]
    dsimp only
    rw [hacts']
    exact has'
  · show (j.apply host first.2).1.warnings = (j.apply host s).1.warnings
    rw [happly, happly]
    dsimp only
    rw [hwarns', hwarns]

/-- Sources with replacements at hand and nothing patched yet. -/
def unpatched : Tree where
  here := []
  entries := [(["pkg"], .dir), (["pkg", "patches"], .dir),
    (["pkg", "patches", "CGFloatTests.swift"], .file "new".toUTF8 false),
    (["pkg", "patches", "DispatchQueueLabel.swift"], .file "wrapper".toUTF8 false),
    (["pkg", "Tests"], .dir), (["pkg", "Tests", "GRDBTests"], .dir),
    (["pkg", "Tests", "GRDBTests", "CGFloatTests.swift"], .file "old".toUTF8 false),
    (["pkg", "Tests", "GRDBTests", "DatabaseSnapshotTests.swift"], .file "label".toUTF8 false)]

/-- Every step has something to do to these sources, and only once. -/
theorem apply_apply_unpatched :
    let j : Job := ⟨"pkg", .standard⟩
    let first := j.apply "linux" { tree := unpatched }
    let second := j.apply "linux" first.2
    first.1.actions =
        [.copied "pkg/patches/CGFloatTests.swift" "pkg/Tests/GRDBTests/CGFloatTests.swift",
          .createdDir "pkg/Tests/GRDBTests/Support",
          .copied "pkg/patches/DispatchQueueLabel.swift"
            "pkg/Tests/GRDBTests/Support/DispatchQueueLabel.swift",
          .amended "pkg/Tests/GRDBTests/DatabaseSnapshotTests.swift"] ∧
      second.2.tree = first.2.tree ∧
      (∀ a ∈ second.1.actions, ∃ path, a = .alreadyPatched path) ∧
      second.1.warnings = first.1.warnings := by
  exact ⟨by decide +kernel, apply_apply rfl Layout.isPlain_standard (by decide)
    (closed_of_entries (by decide)) (ordinaryBelow_of_entries (by decide) "pkg")⟩

end Job

end Patch

end Testbench
