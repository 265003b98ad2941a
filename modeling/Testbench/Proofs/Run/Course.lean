import Testbench.Proofs.Patch.Steady
import Testbench.Proofs.Report.Rewriting
import Testbench.Proofs.Report.Setup
import Testbench.Proofs.Run.Later
import Testbench.Proofs.Run.Sweep

/-!
# The course of a run

What a run that comes to its end does to the files: earlier output is removed, the report directory
is made, the sources are patched, and the reports are written. On the files that it has left the
same course can be taken again. What was made is made again, nothing is left to be patched, and the
new reports take the places of the old ones.

- `Course`: the files from phase to phase.
- `Course.layers`: what each phase leaves.
- `Course.swept_again`, `Course.made_again`, `Course.patched_again`: its phases taken again.
- `Course.again`: the course that is taken on the files that a run has left.
-/

namespace Testbench

open Testbench.Tree

/-! ## Places that are patched -/

namespace Patch

/-- The paths that patching looks at, from the root. -/
def Layout.places (l : Layout) : List String :=
  [l.patchesDir, l.graphicsSource, l.graphicsTarget, l.labelDir, l.labelSource, l.labelTarget,
    l.snapshotTarget]

/-- No name in the layout is one of output. -/
def Layout.Apart (l : Layout) : Prop :=
  ∀ q ∈ l.places, ∀ n ∈ Path.names q, n ≠ Run.buildDir ∧ n ∉ Report.generated

theorem Layout.apart_standard : Layout.standard.Apart := by
  unfold Apart
  decide

theorem Layout.IsPlain.places {l : Layout} (h : l.IsPlain) : ∀ q ∈ l.places, Path.IsPlain q := by
  simp only [Layout.places, List.forall_mem_cons]
  exact ⟨h.patchesDir, h.graphicsSource, h.graphicsTarget, h.labelDir, h.labelSource, h.labelTarget,
    h.snapshotTarget, by simp⟩

theorem Job.paths_eq {j : Job} (h : j.layout.IsPlain) :
    j.paths = j.layout.places.map (Path.join j.root) := by
  unfold Job.paths
  rw [Job.graphicsPatch_eq h, Job.graphicsTest_eq h, Job.supportDir_eq h, Job.labelPatch_eq h,
    Job.labelSupport_eq h, Job.snapshotTest_eq h]
  rfl

/-- The places that patching depends on: the start, those on the way to the root, and those that are
named from there. -/
theorem mem_trail_cases {t : Tree} {root q : String} {l : Location} (hq : Path.IsPlain q)
    (hl : l ∈ t.trail (Path.join root q)) :
    l = t.start root ∨ l ∈ stops (t.start root) (Path.names root) ∨
      ∃ ms, ms ≠ [] ∧ ms <+: Path.names q ∧ l = t.spot root ++ ms := by
  have hplain : ∀ n ∈ Path.names q, n ≠ "." ∧ n ≠ ".." := fun n hn => hq.ne_of_mem_names hn
  unfold trail at hl
  rw [start_join hq, Path.names_join hq.isAbsolute_eq, stops_append] at hl
  rcases List.mem_cons.mp hl with rfl | hl
  · exact .inl rfl
  refine .inr ?_
  rcases List.mem_cons.mp hl with rfl | hl
  · refine .inr ⟨Path.names q, hq.names_ne_nil, List.prefix_refl _, ?_⟩
    unfold spot
    rw [start_join hq, Path.names_join hq.isAbsolute_eq, reach_append, reach_of_plain _ hplain]
  · rcases List.mem_append.mp hl with hl | hl
    · exact .inl hl
    · exact .inr (exists_of_mem_stops_of_plain _ hplain hl)

/-- The end of a path that patching looks at, from the root. -/
theorem spot_join_of_plain (t : Tree) {root q : String} (hq : Path.IsPlain q) :
    t.spot (Path.join root q) = t.spot root ++ Path.names q := by
  have hplain : ∀ n ∈ Path.names q, n ≠ "." ∧ n ≠ ".." := fun n hn => hq.ne_of_mem_names hn
  unfold spot
  rw [start_join hq, Path.names_join hq.isAbsolute_eq, reach_append, reach_of_plain _ hplain]

end Patch

namespace Run

variable {r : Run} {o : Options} {v : Version} {results : ResultSet} {t u s p w : Tree}
  {l : Location}

/-- The job of patching the sources. -/
def job (r : Run) : Patch.Job := ⟨r.root, r.config.patches⟩

/-- What a run that comes to its end does to the files, from phase to phase. -/
structure Course (r : Run) (o : Options) (v : Version) (results : ResultSet) (t u s p w : Tree) :
    Prop where
  swept : u = if o.clean then r.sweep (r.resolve o.reportPath) t else t
  made : Report.setup u (r.resolve o.reportPath) = (.ok (), s)
  patched : (r.job.apply r.host.os { tree := s }).2.tree = p
  written : Report.write p (r.resolve o.reportPath) results r.config.knownIssues (r.context v) =
    (.ok (.under (r.resolve o.reportPath)), w)

/-- What the phases of a run leave: trees without links and gaps, each of which has all that was in
the one before. -/
structure Layers (r : Run) (dir : String) (t u s p w : Tree) : Prop where
  removed : u.Solid
  made : s.Solid
  patched : p.Solid
  written : w.Solid
  here : u.here = t.here
  grown : u.Within s
  grown' : s.Within p
  grown'' : p.Within w
  /-- Directories are made on the way to the report directory, and in it. -/
  new : ∀ l, s.get? l = u.get? l ∨ s.get? l = some .dir ∧
    (l ∈ stops (t.start dir) (Path.names dir) ∨ ∃ name ∈ Report.subdirs, l = t.spot dir ++ [name])
  /-- Only files below the root are patched. -/
  new' : ∀ l, (∀ q ∈ r.config.patches.places, l ≠ t.spot r.root ++ Path.names q) →
    p.get? l = s.get? l
  new'' : ∀ l, l ≠ t.spot dir ++ [Report.jsonName] → l ≠ t.spot dir ++ [Report.textName] →
    w.get? l = p.get? l
  opens : s.Opens dir
  dir : s.get? (t.spot dir) = some .dir

/-- A path that is resolved starts at the root of everything, or where the root of the sources
does. -/
theorem start_resolve (t : Tree) (r : Run) (path : String) :
    t.start (r.resolve path) = t.start r.root ∨ t.start (r.resolve path) = [] := by
  unfold resolve
  by_cases habs : Path.isAbsolute path = true
  · refine .inr ?_
    have hjoin : Path.join r.root path = path := if_pos habs
    rw [hjoin]
    exact if_pos habs
  · refine .inl ?_
    rw [Bool.not_eq_true] at habs
    unfold start
    rw [Path.isAbsolute_join habs]

theorem get?_start_resolve (path : String) (hstart : u.get? (t.start r.root) = some .dir) :
    u.get? (t.start (r.resolve path)) = some .dir := by
  rcases start_resolve t r path with heq | hnil
  · rwa [heq]
  · rw [hnil]
    exact get?_root u

/-- Directories are made on the way to the report directory, and in it. -/
theorem mem_stops_of_setup {dir path : String} (hpath : path ∈ dir :: Report.subdirs.map (Path.join dir))
    (hl : l ∈ stops (t.start path) (Path.names path)) :
    l ∈ stops (t.start dir) (Path.names dir) ∨ ∃ name ∈ Report.subdirs, l = t.spot dir ++ [name] := by
  rcases List.mem_cons.mp hpath with rfl | hpath
  · exact .inl hl
  obtain ⟨name, hname, rfl⟩ := List.mem_map.mp hpath
  obtain ⟨hplain, hnames⟩ := isPlain_of_mem_generated (List.mem_append_left _ hname)
  obtain ⟨hdot, hback⟩ := hplain.ne_of_mem_names (n := name) (by rw [hnames]; simp)
  rw [start_join hplain, Path.names_join hplain.isAbsolute_eq, hnames, stops_append] at hl
  rcases List.mem_append.mp hl with hl | hl
  · exact .inl hl
  · rw [stops, if_neg hdot, if_neg hback, stops, List.mem_singleton] at hl
    exact .inr ⟨name, hname, hl⟩

theorem Course.layers (h : r.Course o v results t u s p w) (ht : t.Solid)
    (hstart : u.get? (t.start r.root) = some .dir) (hl : r.config.patches.IsPlain) :
    r.Layers (r.resolve o.reportPath) t u s p w := by
  -- removal
  have hremoved : u.Solid ∧ u.here = t.here := by
    rw [h.swept]
    split
    · exact ⟨solid_sweep r _ ht, (sweep_remnant_clear r _ ht).here.trans (here_clear ..)⟩
    · exact ⟨ht, rfl⟩
  obtain ⟨hu, hhere⟩ := hremoved
  have hstartDir : u.get? (u.start (r.resolve o.reportPath)) = some .dir := by
    rw [start_congr hhere]
    exact get?_start_resolve o.reportPath hstart
  -- the report directory
  obtain ⟨hs, hmade⟩ := Report.setup_at_stops hu hstartDir
  rw [h.made] at hs hmade
  have hgrown := Report.setup_within u (r.resolve o.reportPath)
  rw [h.made] at hgrown
  obtain ⟨hopens, hdir⟩ := Report.opens_of_setup hu hstartDir h.made
  rw [spot_congr (hmade.here.trans hhere)] at hdir
  have hstart₁ : s.get? (s.start r.root) = some .dir := by
    rw [start_congr (hmade.here.trans hhere)]
    exact hgrown.get?_dir hstart
  -- patching
  have hpaths : ∀ path ∈ r.job.paths, s.get? (s.start path) = some .dir := by
    intro path hpath
    rw [Patch.Job.paths_eq hl] at hpath
    obtain ⟨q, hq, rfl⟩ := List.mem_map.mp hpath
    rw [start_join (hl.places q hq)]
    exact hstart₁
  obtain ⟨-, hfollows, -⟩ := r.job.apply_follows r.host.os { tree := s } { tree := s }
    (.refl hs hpaths)
  have hpatched := (r.job.apply_grown r.host.os { tree := s }).within
  rw [h.patched] at hfollows hpatched
  -- the reports
  have hstart₂ : p.get? (p.start (r.resolve o.reportPath)) = some .dir := by
    rw [start_congr (hfollows.here.trans (hmade.here.trans hhere))]
    exact hpatched.get?_dir (hgrown.get?_dir (get?_start_resolve o.reportPath hstart))
  obtain ⟨hw, -, hframe⟩ := Report.write_frame hfollows.agree.left hstart₂ h.written
  have hwritten := Report.write_within p (r.resolve o.reportPath) results r.config.knownIssues
    (r.context v)
  rw [h.written] at hwritten
  rw [spot_congr (hfollows.here.trans (hmade.here.trans hhere))] at hframe
  refine ⟨hu, hs, hfollows.agree.left, hw, hhere, hgrown, hpatched, hwritten, fun l => ?_,
    fun l hl' => ?_, hframe, hopens, hdir⟩
  · refine (hmade.get l).imp_right ?_
    rintro ⟨⟨path, hpath, hstops⟩, -, hnew⟩
    rw [start_congr hhere] at hstops
    exact ⟨hnew, mem_stops_of_setup hpath hstops⟩
  · refine hfollows.frame l fun path hpath => ?_
    rw [Patch.Job.paths_eq hl] at hpath
    obtain ⟨q, hq, rfl⟩ := List.mem_map.mp hpath
    rw [Patch.spot_join_of_plain _ (hl.places q hq)]
    show l ≠ s.spot r.root ++ _
    rw [spot_congr (hmade.here.trans hhere)]
    exact hl' q hq

/-! ## The same course again -/

section Again

variable (h : r.Course o v results t u s p w) (ht : t.Solid)
  (hstart : u.get? (t.start r.root) = some .dir) (hl : r.config.patches.IsPlain)
include h ht hstart hl

/-- What is left in front of the report directory is left there again. -/
theorem Course.swept_again
    (hgrounded : o.clean = true → t.Grounded r.root ∧ t.Grounded (r.resolve o.reportPath)) :
    u.Within (if o.clean then r.sweep (r.resolve o.reportPath) w else w) := by
  have hlayers := h.layers ht hstart hl
  have hwithin := hlayers.grown.trans (hlayers.grown'.trans hlayers.grown'')
  by_cases hclean : o.clean = true
  · obtain ⟨hroot, hdir⟩ := hgrounded hclean
    have hu := h.swept
    rw [if_pos hclean] at hu ⊢
    subst hu
    refine sweep_keeps ht hlayers.written hwithin hstart (get?_start_resolve o.reportPath hstart)
      hroot hdir fun hspot hnot hlater hnone => ?_
    -- what is made, patched or written is neither above the report directory nor the root
    have hs : s.get? (t.spot r.root) = none := by
      rcases hlayers.new (t.spot r.root) with heq | ⟨-, hstops | ⟨name, -, heq⟩⟩
      · rwa [heq]
      · rcases prefix_or_isLeft_of_mem_stops _ _ hstops with hprefix | hleft
        · exact absurd hnone (hlayers.removed.closed.get?_ne_none_of_prefix hprefix hspot)
        · rw [get?_sweep_root r _ ht, hdir _ hleft] at hnone
          cases hnone
      · exact absurd (heq ▸ List.prefix_append _ _) hnot
    have hp : p.get? (t.spot r.root) = none := by
      rw [hlayers.new', hs]
      intro q hq heq
      have hnames := (hl.places q hq).names_ne_nil
      exact hnames (List.append_right_eq_self.mp heq.symm)
    rw [hlayers.new'', hp] at hlater
    · exact hlater rfl
    · rintro heq
      exact hnot (heq ▸ List.prefix_append _ _)
    · rintro heq
      exact hnot (heq ▸ List.prefix_append _ _)
  · rw [if_neg hclean]
    exact hwithin

/-- The report directory is made again, and nothing is in the way. -/
theorem Course.made_again
    (hgrounded : o.clean = true → t.Grounded r.root ∧ t.Grounded (r.resolve o.reportPath)) : ∃ s',
    Report.setup (if o.clean then r.sweep (r.resolve o.reportPath) w else w)
      (r.resolve o.reportPath) = (.ok (), s') ∧
    s'.Solid ∧ s.Within s' ∧ Remnant (fun _ => True) w s' := by
  have hlayers := h.layers ht hstart hl
  have hlower := h.swept_again ht hstart hl hgrounded
  have hupper : Remnant (fun _ => True) w
      (if o.clean then r.sweep (r.resolve o.reportPath) w else w) := by
    split
    · exact ((clear_remnant w r.root buildDir).mono fun _ _ => trivial).trans
        ((sweep_remnant_clear r _ hlayers.written).mono fun _ _ => trivial)
    · exact .refl _ w
  have hsolid : (if o.clean then r.sweep (r.resolve o.reportPath) w else w).Solid := by
    split
    · exact solid_sweep r _ hlayers.written
    · exact hlayers.written
  refine Report.makeAll_between hlayers.written _ hsolid (fun path hpath => ?_) hlower hupper h.made
    (hlayers.grown'.trans hlayers.grown'')
  rw [Report.start_of_mem_setup _ hpath, hlower.start_eq, start_congr hlayers.here]
  exact hlower.get?_dir (get?_start_resolve o.reportPath hstart)

/-- Reports are not patched, so that they are only written over. -/
theorem Course.get?_report (hapart : r.config.patches.Apart) {name : String}
    (hname : name ∈ Report.generated) :
    p.get? (t.spot (r.resolve o.reportPath) ++ [name]) =
      s.get? (t.spot (r.resolve o.reportPath) ++ [name]) := by
  refine (h.layers ht hstart hl).new' _ fun q hq heq => ?_
  obtain ⟨ms, m, hnames, -⟩ := (hl.places q hq).exists_names_eq
  rw [hnames, ← List.append_assoc] at heq
  obtain ⟨-, hm⟩ := List.append_inj' heq rfl
  obtain rfl := (List.cons.inj hm).1
  exact (hapart q hq name (by simp [hnames])).2 hname

variable {s' : Tree} (hapart : r.config.patches.Apart)
  (hmade : Report.setup (if o.clean then r.sweep (r.resolve o.reportPath) w else w)
    (r.resolve o.reportPath) = (.ok (), s'))
  (hlower : s.Within s') (hupper : Remnant (fun _ => True) w s')
include hapart hmade hlower hupper

/-- Besides the reports, all is as it was when the sources had been patched. -/
theorem Course.get?_again (hjson : l ≠ t.spot (r.resolve o.reportPath) ++ [Report.jsonName])
    (htext : l ≠ t.spot (r.resolve o.reportPath) ++ [Report.textName]) :
    s'.get? l = p.get? l := by
  have hlayers := h.layers ht hstart hl
  have hhere := (hlayers.grown.trans (hlayers.grown'.trans hlayers.grown'')).here.trans hlayers.here
  rcases hupper.get l with heq | ⟨hnone, -⟩
  · rw [heq, hlayers.new'' l hjson htext]
  rw [hnone]
  -- a place that has not been made again would have been patched, but nothing is removed there
  refine Classical.byContradiction fun hp => ?_
  have hs : s.get? l = none :=
    Classical.byContradiction fun hs => hlower.get?_ne_none hs hnone
  obtain ⟨q, hq, rfl⟩ : ∃ q ∈ r.config.patches.places, l = t.spot r.root ++ Path.names q := by
    refine Classical.byContradiction fun hnot => hp ?_
    rw [hlayers.new' l fun q hq heq => hnot ⟨q, hq, heq⟩, hs]
  have hne : w.spot r.root ++ Path.names q ≠ w.spot (r.resolve o.reportPath) := by
    intro heq
    rw [spot_congr hhere, spot_congr hhere] at heq
    rw [heq, hlayers.dir] at hs
    cases hs
  have hkept : (if o.clean then r.sweep (r.resolve o.reportPath) w else w).get?
      (t.spot r.root ++ Path.names q) = w.get? (t.spot r.root ++ Path.names q) := by
    split
    · rw [← spot_congr hhere]
      exact get?_sweep_of_plain hlayers.written (hapart q hq) hne
    · rfl
  have hgrown := Report.setup_within
    (if o.clean then r.sweep (r.resolve o.reportPath) w else w) (r.resolve o.reportPath)
  rw [hmade] at hgrown
  exact hgrown.get?_ne_none (by rw [hkept]; exact hlayers.grown''.get?_ne_none (Ne.symm hp)) hnone

/-- Nothing that stood there when the sources had been patched is missing. -/
theorem Course.within_again : p.Within s' := by
  have hlayers := h.layers ht hstart hl
  refine ⟨hlower.here.trans hlayers.grown'.here.symm, fun l shape hs => ?_⟩
  have hreport {name : String} (hname : name ∈ Report.generated)
      (hl' : l = t.spot (r.resolve o.reportPath) ++ [name]) : s'.shape? l = some shape := by
    refine hlower.shape l shape ?_
    unfold shape? at hs ⊢
    rwa [hl', ← h.get?_report ht hstart hl hapart hname, ← hl']
  by_cases hjson : l = t.spot (r.resolve o.reportPath) ++ [Report.jsonName]
  · exact hreport (by decide) hjson
  by_cases htext : l = t.spot (r.resolve o.reportPath) ++ [Report.textName]
  · exact hreport (by decide) htext
  unfold shape? at hs ⊢
  rwa [h.get?_again ht hstart hl hapart hmade hlower hupper hjson htext]

omit hapart hmade hlower hupper in
/-- Where a tree between the first and the last phase has a directory, no report is written. -/
theorem Course.ne_report {x : Tree} (hx : x.Within w) (hdir : x.get? l = some .dir) :
    l ≠ t.spot (r.resolve o.reportPath) ++ [Report.jsonName] ∧
      l ≠ t.spot (r.resolve o.reportPath) ++ [Report.textName] := by
  have hlayers := h.layers ht hstart hl
  have hhere := hlayers.grown'.here.trans (hlayers.grown.here.trans hlayers.here)
  have hstart₁ : p.get? (p.start (r.resolve o.reportPath)) = some .dir := by
    rw [start_congr hhere]
    exact hlayers.grown'.get?_dir (hlayers.grown.get?_dir (get?_start_resolve o.reportPath hstart))
  obtain ⟨hjson, htext⟩ := Report.ne_dir_of_write hlayers.patched hstart₁ h.written
  rw [spot_congr hhere] at hjson htext
  constructor
  · rintro rfl
    exact hjson (hx.get?_dir hdir)
  · rintro rfl
    exact htext (hx.get?_dir hdir)

/-- Where the root leads somewhere, the sources and the ways to them are as they were when they had
been patched. -/
theorem Course.agree_again (hs' : s'.Solid) (hroot : p.Opens r.root) : Agree r.job.paths p s' := by
  have hlayers := h.layers ht hstart hl
  have hhere := hlayers.grown'.here.trans (hlayers.grown.here.trans hlayers.here)
  have hget {l : Location} (hdir : p.get? l = some .dir) : s'.get? l = p.get? l := by
    obtain ⟨hjson, htext⟩ := h.ne_report ht hstart hl hlayers.grown'' hdir
    exact h.get?_again ht hstart hl hapart hmade hlower hupper hjson htext
  have hstart₁ : p.get? (p.start r.root) = some .dir := by
    rw [start_congr hhere]
    exact hlayers.grown'.get?_dir (hlayers.grown.get?_dir hstart)
  have hpaths {path : String} (hpath : path ∈ r.job.paths) :
      ∃ q ∈ r.config.patches.places, Path.IsPlain q ∧ path = Path.join r.root q := by
    rw [Patch.Job.paths_eq hl] at hpath
    obtain ⟨q, hq, rfl⟩ := List.mem_map.mp hpath
    exact ⟨q, hq, hl.places q hq, rfl⟩
  refine ⟨hlayers.patched, hs', hlower.here.trans hlayers.grown'.here.symm, fun path hpath => ?_,
    fun path hpath l hmem => ?_⟩
  · obtain ⟨q, -, hplain, rfl⟩ := hpaths hpath
    rwa [start_join hplain]
  · obtain ⟨q, hq, hplain, rfl⟩ := hpaths hpath
    rcases Patch.mem_trail_cases hplain hmem with rfl | hstops | ⟨ms, hne, hprefix, rfl⟩
    · exact hget hstart₁
    · exact hget (hroot.dirs l hstops)
    · -- no report has one of these names
      have hreport {name : String} (hname : name ∈ Report.generated) :
          p.spot r.root ++ ms ≠ t.spot (r.resolve o.reportPath) ++ [name] := by
        intro heq
        rcases List.eq_nil_or_concat ms with hnil | ⟨front, m, rfl⟩
        · exact hne hnil
        · rw [List.concat_eq_append, ← List.append_assoc] at heq
          obtain ⟨-, hm⟩ := List.append_inj' heq rfl
          obtain rfl := (List.cons.inj hm).1
          exact (hapart q hq m (List.IsPrefix.subset hprefix (by simp))).2 hname
      exact h.get?_again ht hstart hl hapart hmade hlower hupper (hreport (by decide))
        (hreport (by decide))

omit hapart hmade hlower hupper in
/-- Only ordinary entries stand below the root when the sources are patched. -/
theorem Course.ordinaryBelow
    (hordinary : ∀ l e, t.spot r.root <+: l → t.get? l = some e → e.isOrdinary = true) :
    s.OrdinaryBelow r.root := by
  have hlayers := h.layers ht hstart hl
  intro b hbase l e hbelow he
  obtain ⟨k, hk⟩ := hbase
  obtain ⟨-, -, hb⟩ := (Tree.walk_dot_iff hlayers.made.linkFree).mp hk
  have hspot : b = t.spot r.root := hb.trans (spot_congr (hlayers.grown.here.trans hlayers.here) _)
  rw [hspot] at hbelow
  rcases hlayers.new l with heq | ⟨hdir, -⟩
  · refine hordinary l e hbelow ?_
    -- what has been left by the removal was there before
    rw [heq, h.swept] at he
    split at he
    · have hwithin := (sweep_remnant_clear r (r.resolve o.reportPath) ht)
      have hclear := clear_remnant t r.root buildDir
      rcases hwithin.get l with heq' | ⟨hnone, -⟩
      · rw [heq'] at he
        rcases hclear.get l with heq'' | ⟨hnone, -⟩
        · rwa [← heq'']
        · rw [hnone] at he
          cases he
      · rw [hnone] at he
        cases he
    · exact he
  · rw [hdir] at he
    cases he
    rfl

/-- Nothing is left to be patched. -/
theorem Course.patched_again (hs' : s'.Solid) (hfiles : r.job.files.Nodup)
    (hordinary : ∀ l e, t.spot r.root <+: l → t.get? l = some e → e.isOrdinary = true) :
    (r.job.apply r.host.os { tree := s' }).2.tree = s' ∧
      Patch.Quiet (r.job.apply r.host.os { tree := s' }).1.actions := by
  have hlayers := h.layers ht hstart hl
  by_cases hroot : p.Opens r.root
  · obtain ⟨-, hquiet⟩ := r.job.apply_again r.host.os { tree := s } { tree := p } hl hfiles
      hlayers.made.closed
      (h.ordinaryBelow ht hstart hl hordinary) h.patched.symm
    obtain ⟨hreport, -, hkept⟩ := r.job.apply_follows r.host.os { tree := p } { tree := s' }
      (h.agree_again ht hstart hl hapart hmade hlower hupper hs' hroot)
    rw [hreport]
    exact ⟨(hkept hquiet).2, hquiet⟩
  · -- the root still leads nowhere: only reports have come, and no directory
    have hroot' : ¬ s'.Opens r.root := by
      intro hopens
      refine hroot ⟨hopens.short, fun l hl' => ?_⟩
      rw [← start_congr (hlower.here.trans hlayers.grown'.here.symm)] at hl'
      have hdir := hopens.dirs l hl'
      obtain ⟨hjson, htext⟩ := h.ne_report ht hstart hl hupper.within hdir
      rwa [← h.get?_again ht hstart hl hapart hmade hlower hupper hjson htext]
    obtain ⟨htree, hacts⟩ := r.job.apply_idle r.host.os { tree := s' } hl hs'.linkFree hroot'
    rw [hacts]
    exact ⟨htree, by simp [Patch.Quiet]⟩

end Again

/-- Two trees hold the same, but for the two summaries of a run in the report directory: these hold
what is rendered of these results in the one, and in the other what is rendered of those at another
time. -/
structure Renews (r : Run) (o : Options) (v : Version) (timestamp : String)
    (results results' : ResultSet) (t w w' : Tree) : Prop where
  here : w'.here = w.here
  others : ∀ l, l ≠ t.spot (r.resolve o.reportPath) ++ [Report.jsonName] →
    l ≠ t.spot (r.resolve o.reportPath) ++ [Report.textName] → w'.get? l = w.get? l
  json : Renewed (Report.json results r.config.knownIssues (r.context v)).toUTF8
    (Report.json results' r.config.knownIssues { r.context v with timestamp := timestamp }).toUTF8
    w w' (t.spot (r.resolve o.reportPath) ++ [Report.jsonName])
  text : Renewed (Report.text results (r.context v)).toUTF8
    (Report.text results' { r.context v with timestamp := timestamp }).toUTF8
    w w' (t.spot (r.resolve o.reportPath) ++ [Report.textName])

/-- **The same course can be taken again** on the files that a run has left. Nothing is left to be
patched, and whatever the results are, only the reports are renewed. -/
theorem Course.again (h : r.Course o v results t u s p w) (ht : t.Solid)
    (hstart : u.get? (t.start r.root) = some .dir) (hl : r.config.patches.IsPlain)
    (hapart : r.config.patches.Apart) (hfiles : r.job.files.Nodup)
    (hordinary : ∀ l e, t.spot r.root <+: l → t.get? l = some e → e.isOrdinary = true)
    (hgrounded : o.clean = true → t.Grounded r.root ∧ t.Grounded (r.resolve o.reportPath))
    (timestamp : String) (elapsed : Nat → Duration) :
    ∃ u' s', Patch.Quiet (r.job.apply r.host.os { tree := s' }).1.actions ∧
      ∀ results', ∃ w', (r.later timestamp elapsed).Course o v results' w u' s' s' w' ∧
        r.Renews o v timestamp results results' t w w' := by
  have hlayers := h.layers ht hstart hl
  have hhere := hlayers.grown'.here.trans (hlayers.grown.here.trans hlayers.here)
  obtain ⟨s', hmade, hs', hlower, hupper⟩ := h.made_again ht hstart hl hgrounded
  obtain ⟨hpatched, hquiet⟩ :=
    h.patched_again ht hstart hl hapart hmade hlower hupper hs' hfiles hordinary
  have hstart₁ : p.get? (p.start (r.resolve o.reportPath)) = some .dir := by
    rw [start_congr hhere]
    exact hlayers.grown'.get?_dir (hlayers.grown.get?_dir (get?_start_resolve o.reportPath hstart))
  refine ⟨if o.clean then r.sweep (r.resolve o.reportPath) w else w, s', hquiet,
    fun results' => ?_⟩
  obtain ⟨w', hwritten, hframe, hjson, htext⟩ := Report.write_again results'
    { r.context v with timestamp := timestamp } hlayers.patched hstart₁ h.written hs'.linkFree
    (h.within_again ht hstart hl hapart hmade hlower hupper)
    fun l => (hupper.get l).symm.imp_left And.left
  rw [spot_congr hhere] at hframe hjson htext
  refine ⟨w', ⟨rfl, hmade, hpatched, hwritten⟩, ⟨?_, fun l hl₁ hl₂ => ?_, hjson, htext⟩⟩
  · have hwithin := Report.write_within s' (r.resolve o.reportPath) results' r.config.knownIssues
      { r.context v with timestamp := timestamp }
    rw [hwritten] at hwithin
    exact hwithin.here.trans hupper.here
  · rw [hframe l hl₁ hl₂, h.get?_again ht hstart hl hapart hmade hlower hupper hl₁ hl₂,
      hlayers.new'' l hl₁ hl₂]

end Run

end Testbench
