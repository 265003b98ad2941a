import Testbench.Proofs.Patch.Repeat
import Testbench.Proofs.Tree.Agree

/-!
# Patching next to other files

What patching does only depends on the files that take part and, without links, on the ways to them.
On two trees that agree there it does the same, it changes no other place, and what it changes it
reports.

- `Steady`: a step that does the same on related trees.
- `steady_copyStep`, `steady_amendStep`: single files.
- `Job.paths`, `steady_patch`: all steps.
- `apply_congr`, `apply_follows`: the sources are patched in two trees.
- `apply_again`, `apply_idle`: sources that are patched already, and a root that leads nowhere.
-/

namespace Testbench

namespace Patch

open Testbench.Tree

variable {f g : Progress → Progress} {t u : Tree} {R : Tree → Tree → Prop}

/-- The actions only say that all was found patched. -/
def Quiet (as : List Action) : Prop := ∀ a ∈ as, ∃ path, a = .alreadyPatched path

theorem quiet_append {as as' : List Action} : Quiet (as ++ as') ↔ Quiet as ∧ Quiet as' :=
  List.forall_mem_append

/-- On two related trees a step reports the same and leaves trees that are related again. It changes
nothing where it finds all patched. -/
def Steady (R : Tree → Tree → Prop) (f : Progress → Progress) : Prop :=
  ∀ t u : Tree, R t u → ∃ t' u' as ws, Does f t t' as ws ∧ Does f u u' as ws ∧ R t' u' ∧
    (Quiet as → t' = t ∧ u' = u)

/-- One step after the other. -/
theorem Steady.comp (hf : Steady R f) (hg : Steady R g) : Steady R (fun p => g (f p)) := by
  intro t u h
  obtain ⟨t₁, u₁, as, ws, hdoes, hdoes', hrelated, hquiet⟩ := hf t u h
  obtain ⟨t₂, u₂, as₂, ws₂, hdoes₂, hdoes₂', hrelated₂, hquiet₂⟩ := hg t₁ u₁ hrelated
  refine ⟨t₂, u₂, as ++ as₂, ws ++ ws₂, hdoes.comp hdoes₂, hdoes'.comp hdoes₂', hrelated₂,
    fun hall => ?_⟩
  obtain ⟨hfirst, hsecond⟩ := quiet_append.mp hall
  obtain ⟨rfl, rfl⟩ := hquiet hfirst
  exact hquiet₂ hsecond

theorem Steady.say (hf : Steady R f) (tag : Tag) (m : String) :
    Steady R (fun p => f (p.say tag m)) := by
  intro t u h
  obtain ⟨t', u', as, ws, hdoes, hdoes', hrest⟩ := hf t u h
  exact ⟨t', u', as, ws, hdoes.say tag m, hdoes'.say tag m, hrest⟩

theorem steady_id : Steady R id := by
  intro t u h
  exact ⟨t, u, [], [], does_of_eq fun _ _ => rfl, does_of_eq fun _ _ => rfl, h,
    fun _ => ⟨rfl, rfl⟩⟩

/-- A choice that trees which agree make alike. -/
theorem Steady.ite {c : Tree → Bool} (hc : ∀ {t u : Tree}, R t u → c u = c t)
    (hf : Steady R f) (hg : Steady R g) :
    Steady R (fun p => if c p.tree then f p else g p) := by
  intro t u h
  by_cases hct : c t = true
  · obtain ⟨t', u', as, ws, hdoes, hdoes', hrest⟩ := hf t u h
    refine ⟨t', u', as, ws, hdoes.congr fun p hp => ?_, hdoes'.congr fun p hp => ?_, hrest⟩
    · rw [hp, if_pos hct]
    · rw [hp, hc h, if_pos hct]
  · obtain ⟨t', u', as, ws, hdoes, hdoes', hrest⟩ := hg t u h
    refine ⟨t', u', as, ws, hdoes.congr fun p hp => ?_, hdoes'.congr fun p hp => ?_, hrest⟩
    · rw [hp, if_neg hct]
    · rw [hp, hc h, if_neg hct]

/-! ## Single files -/

section Files

variable {paths : List String} {source target done : String} (hR : Mirrors paths R)
  (hsource : source ∈ paths) (htarget : target ∈ paths)

include hR hsource htarget

theorem steady_copyStep : Steady R (copyStep · source target done) := by
  intro t u h
  have hread := hR.read h hsource
  have hread' := hR.read h htarget
  cases hoctets : t.read source with
  | error e =>
    have hcopy : copyOver t source target = .error e := copyOver_of_read_error hoctets
    have hcopy' : copyOver u source target = .error e :=
      copyOver_of_read_error (hread.trans hoctets)
    exact ⟨t, u, _, _, does_copyStep_of_error done hcopy, does_copyStep_of_error done hcopy', h,
      fun _ => ⟨rfl, rfl⟩⟩
  | ok octets =>
    by_cases hsame : t.read target = .ok octets
    · have hcopy := copyOver_of_same hoctets hsame
      have hcopy' := copyOver_of_same (hread.trans hoctets) (hread'.trans hsame)
      exact ⟨t, u, _, _, does_copyStep_of_same done hcopy, does_copyStep_of_same done hcopy', h,
        fun _ => ⟨rfl, rfl⟩⟩
    · have hcopy := copyOver_of_other hoctets hsame
      have hcopy' := copyOver_of_other (hread.trans hoctets) (by rwa [hread'])
      rcases hR.write octets h htarget with ⟨e, hwrite, hwrite'⟩ |
        ⟨t', u', hwrite, hwrite', hfollows⟩
      · rw [hwrite] at hcopy
        rw [hwrite'] at hcopy'
        exact ⟨t, u, _, _, does_copyStep_of_error done hcopy, does_copyStep_of_error done hcopy', h,
          fun _ => ⟨rfl, rfl⟩⟩
      · rw [hwrite] at hcopy
        rw [hwrite'] at hcopy'
        refine ⟨t', u', _, _, does_copyStep done hcopy, does_copyStep done hcopy', hfollows,
          fun hquiet => ?_⟩
        obtain ⟨_, heq⟩ := hquiet _ (List.mem_singleton.mpr rfl)
        cases heq

end Files

section Amending

variable {paths : List String} {path : String} {amend : List Char → Option (List Char)}

theorem steady_amendStep (hR : Mirrors paths R) (hpath : path ∈ paths) :
    Steady R (amendStep · path amend) := by
  intro t u h
  have hread : u.readText path = t.readText path := by
    unfold readText
    rw [hR.read h hpath]
  cases hsource : t.readText path with
  | error e =>
    exact ⟨t, u, _, _, does_amendStep_of_unread hsource,
      does_amendStep_of_unread (hread.trans hsource), h, fun _ => ⟨rfl, rfl⟩⟩
  | ok source =>
    cases hamend : amend source.toList with
    | none =>
      exact ⟨t, u, _, _, does_amendStep_of_amended hsource hamend,
        does_amendStep_of_amended (hread.trans hsource) hamend, h, fun _ => ⟨rfl, rfl⟩⟩
    | some patched =>
      rcases hR.write (String.ofList patched).toUTF8 h hpath with ⟨e, hwrite, hwrite'⟩ |
        ⟨t', u', hwrite, hwrite', hfollows⟩
      · exact ⟨t, u, _, _, does_amendStep_of_unwritten hsource hamend hwrite,
          does_amendStep_of_unwritten (hread.trans hsource) hamend hwrite', h,
          fun _ => ⟨rfl, rfl⟩⟩
      · refine ⟨t', u', _, _, does_amendStep hsource hamend hwrite,
          does_amendStep (hread.trans hsource) hamend hwrite', hfollows, fun hquiet => ?_⟩
        obtain ⟨_, heq⟩ := hquiet _ (List.mem_singleton.mpr rfl)
        cases heq

end Amending

/-! ## All steps -/

namespace Job

variable (j : Job)

/-- The paths that patching looks at. -/
def paths (j : Job) : List String :=
  [j.patchesDir, j.graphicsPatch, j.graphicsTest, j.supportDir, j.labelPatch, j.labelSupport,
    j.snapshotTest]

section Steps

variable {j} (hR : Mirrors j.paths R)
include hR

theorem steady_copyGraphics : Steady R j.copyGraphics := by
  refine Steady.ite (c := fun t => t.isFile j.graphicsPatch && t.isFile j.graphicsTest)
    (fun h => ?_) (Steady.say (steady_copyStep hR ?_ ?_) _ _) steady_id
  · rw [hR.isFile h (by simp [paths]), hR.isFile h (by simp [paths])]
  · simp [paths]
  · simp [paths]

theorem steady_copySupport : Steady R j.copySupport := by
  refine Steady.ite (c := fun t => t.isFile j.labelPatch)
    (fun h => ?_) (Steady.say (steady_copyStep hR ?_ ?_) _ _) steady_id
  · exact hR.isFile h (by simp [paths])
  · simp [paths]
  · simp [paths]

theorem steady_amendSnapshots : Steady R j.amendSnapshots := by
  refine Steady.ite (c := fun t => t.isFile j.snapshotTest)
    (fun h => ?_) (Steady.say (steady_amendStep hR ?_) _ _) steady_id
  · exact hR.isFile h (by simp [paths])
  · simp [paths]

theorem steady_guardGraphics : Steady R j.guardGraphics := by
  refine Steady.ite (c := fun t => t.isFile j.graphicsTest)
    (fun h => ?_) (Steady.say (steady_amendStep hR ?_) _ _) steady_id
  · exact hR.isFile h (by simp [paths])
  · simp [paths]

theorem steady_installSupport : Steady R j.installSupport := by
  intro t u h
  have hmem : j.supportDir ∈ j.paths := by simp [paths]
  have hdir := hR.isDir h hmem
  by_cases hfound : t.isDir j.supportDir = true
  · have hfound' := hdir.trans hfound
    obtain ⟨t', u', as, ws, hdoes, hdoes', hrest⟩ := steady_copySupport hR t u h
    refine ⟨t', u', as, ws, hdoes.congr fun p hp => ?_, hdoes'.congr fun p hp => ?_, hrest⟩
    · exact if_pos (by rwa [hp])
    · exact if_pos (by rwa [hp])
  · have hmissing : ¬ u.isDir j.supportDir = true := by rwa [hdir]
    rcases hR.makeDir h hmem with ⟨e, hmake, hmake'⟩ | ⟨t₁, u₁, hmake, hmake', hrelated⟩
    · exact ⟨t, u, _, _, does_installSupport_of_error hfound hmake,
        does_installSupport_of_error hmissing hmake', h, fun _ => ⟨rfl, rfl⟩⟩
    · obtain ⟨t', u', as, ws, hdoes, hdoes', hrelated', -⟩ := steady_copySupport hR t₁ u₁ hrelated
      refine ⟨t', u', _, _, does_installSupport_of_made hfound hmake hdoes,
        does_installSupport_of_made hmissing hmake' hdoes', hrelated', fun hquiet => ?_⟩
      obtain ⟨_, heq⟩ := hquiet _ List.mem_cons_self
      cases heq

theorem steady_patch : Steady R j.patch := by
  have hinstall := ((steady_copyGraphics hR).comp (steady_installSupport hR)).comp
    (steady_amendSnapshots hR)
  refine Steady.ite (c := fun t => t.isDir j.patchesDir) (fun h => ?_) hinstall
    (steady_guardGraphics hR)
  exact hR.isDir h (by simp [paths])

end Steps

/-! ## Whole jobs -/

variable (host : String) (s s' : Session)

theorem apply_of_target (h : host = j.layout.targetOs) : j.apply host s =
    let p := j.patch { session := s.say .step "Patching test files for platform compatibility..." }
    (⟨.applied, p.actions, p.warnings⟩, p.session.emit [closing p.warnings]) := if_pos h

theorem apply_of_other (h : host ≠ j.layout.targetOs) :
    (j.apply host s).1 = ⟨.notApplicable host, [], []⟩ ∧ (j.apply host s).2.tree = s.tree := by
  unfold apply
  dsimp only
  rw [if_neg h]
  exact ⟨rfl, rfl⟩

/-- Related trees are patched alike. -/
theorem apply_related (hR : Mirrors j.paths R) (h : R s.tree s'.tree) :
    (j.apply host s').1 = (j.apply host s).1 ∧ R (j.apply host s).2.tree (j.apply host s').2.tree ∧
      (Quiet (j.apply host s).1.actions →
        (j.apply host s).2.tree = s.tree ∧ (j.apply host s').2.tree = s'.tree) := by
  by_cases hhost : host = j.layout.targetOs
  · obtain ⟨t', u', as, ws, hdoes, hdoes', hrelated, hquiet⟩ := steady_patch hR _ _ h
    obtain ⟨htree, hacts, hwarns⟩ := hdoes
      { session := s.say .step "Patching test files for platform compatibility..." } rfl
    obtain ⟨htree', hacts', hwarns'⟩ := hdoes'
      { session := s'.say .step "Patching test files for platform compatibility..." } rfl
    rw [apply_of_target j host s hhost, apply_of_target j host s' hhost]
    dsimp only
    rw [hacts, hacts', hwarns, hwarns', List.nil_append]
    rw [← htree, ← htree'] at hrelated hquiet
    exact ⟨rfl, hrelated, hquiet⟩
  · obtain ⟨hreport, htree⟩ := apply_of_other j host s hhost
    obtain ⟨hreport', htree'⟩ := apply_of_other j host s' hhost
    rw [hreport, hreport', htree, htree']
    exact ⟨rfl, h, fun _ => ⟨rfl, rfl⟩⟩

/-- What is patched only depends on the files. -/
theorem apply_congr (h : s'.tree = s.tree) :
    (j.apply host s').1 = (j.apply host s).1 ∧
      (j.apply host s').2.tree = (j.apply host s).2.tree := by
  obtain ⟨hreport, htree, -⟩ := apply_related j host s s' (mirrors_eq j.paths) h.symm
  exact ⟨hreport, htree.symm⟩

/-- Trees that agree on all that takes part are patched alike. -/
theorem apply_follows (h : Agree j.paths s.tree s'.tree) :
    (j.apply host s').1 = (j.apply host s).1 ∧
      Follows j.paths s.tree (j.apply host s).2.tree (j.apply host s').2.tree ∧
      (Quiet (j.apply host s).1.actions →
        (j.apply host s).2.tree = s.tree ∧ (j.apply host s').2.tree = s'.tree) :=
  apply_related j host s s' (mirrors_follows j.paths s.tree) h.follows

/-- What has been patched is left as it is. -/
theorem apply_again (hl : j.layout.IsPlain) (hfiles : j.files.Nodup) (hclosed : s.tree.Closed)
    (hordinary : s.tree.OrdinaryBelow j.root) (hs' : s'.tree = (j.apply host s).2.tree) :
    (j.apply host s').2.tree = s'.tree ∧ Quiet (j.apply host s').1.actions := by
  by_cases hhost : host = j.layout.targetOs
  · obtain ⟨t', as, ws, hdoes, as', hdoes', hquiet⟩ := patch_settles hclosed hordinary hl hfiles
    obtain ⟨htree, -, -⟩ := hdoes
      { session := s.say .step "Patching test files for platform compatibility..." } rfl
    rw [apply_of_target j host s hhost] at hs'
    obtain ⟨htree', hacts', -⟩ := hdoes'
      { session := s'.say .step "Patching test files for platform compatibility..." }
      (hs'.trans htree)
    rw [apply_of_target j host s' hhost]
    dsimp only
    rw [hacts']
    exact ⟨htree'.trans (hs'.trans htree).symm, hquiet⟩
  · obtain ⟨hreport, htree⟩ := apply_of_other j host s' hhost
    rw [hreport]
    exact ⟨htree, by simp [Quiet]⟩

/-- Where the root leads nowhere, nothing is patched. -/
theorem apply_idle (hl : j.layout.IsPlain) (h : s.tree.LinkFree) (hroot : ¬ s.tree.Opens j.root) :
    (j.apply host s).2.tree = s.tree ∧ (j.apply host s).1.actions = [] := by
  by_cases hhost : host = j.layout.targetOs
  · have hfind {q : String} {l : Location} (hq : Path.IsPlain q) :
        s.tree.find (Path.join j.root q) ≠ .ok l := fun hfind => hroot (opens_of_find_join h hq hfind)
    have hdir : ¬ s.tree.isDir j.patchesDir = true := by
      intro hdir
      obtain ⟨l, hl', -⟩ := Tree.isDir_iff.mp hdir
      exact hfind hl.patchesDir hl'
    have hfile : ¬ s.tree.isFile j.graphicsTest = true := by
      intro hfile
      obtain ⟨l, hl'⟩ := exists_find_of_isFile hfile
      rw [graphicsTest_eq hl] at hl'
      exact hfind hl.graphicsTarget hl'
    have hpatch (p : Progress) (hp : p.tree = s.tree) : j.patch p = p := by
      rw [← hp] at hdir hfile
      unfold patch guardGraphics
      rw [if_neg hdir, if_neg hfile]
    rw [apply_of_target j host s hhost, hpatch _ rfl]
    exact ⟨rfl, rfl⟩
  · obtain ⟨hreport, htree⟩ := apply_of_other j host s hhost
    rw [hreport]
    exact ⟨htree, rfl⟩

end Job

end Patch

end Testbench
