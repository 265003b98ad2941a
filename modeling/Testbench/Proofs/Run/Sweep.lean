import Testbench.Proofs.Run.Removal
import Testbench.Proofs.Tree.Clearing

/-!
# Removing earlier output again

What a run removes from a tree without links is told by the tree alone, and what it leaves is left
by the next run as well, no matter what has been put next to it in between. The one thing that may
get in the way is a directory that the path of the root or of the reports goes through only to leave
it by `..`: it must have been there from the start.

- `Run.sweep`, `tree_swept`: what a run removes, as a change of a tree.
- `sweep_within_clear`, `away_of_away`: the directory of builds, and the report directory.
- `sweep_keeps`: what is left by a removal is left by the next one.
-/

namespace Testbench

namespace Run

open Testbench.Tree

variable {r : Run} {t t' : Tree} {dir : String} {l : Location}

/-! ## What a run removes -/

/-- The tree without what earlier runs have built and reported. -/
def sweep (r : Run) (dir : String) (t : Tree) : Tree :=
  let t := t.clear r.root buildDir
  if t.isDir dir && !t.encloses dir r.root then
    (Report.generated.foldl (Tree.clear · dir) t).removeBare dir
  else t

/-- The reports are removed from a directory that does not hold the root. -/
theorem sweep_of_away (hdir : (t.clear r.root buildDir).isDir dir = true)
    (hencloses : (t.clear r.root buildDir).encloses dir r.root = false) :
    r.sweep dir t =
      (Report.generated.foldl (Tree.clear · dir) (t.clear r.root buildDir)).removeBare dir := by
  unfold sweep
  exact if_pos (by rw [hdir, hencloses]; rfl)

/-- A plain name in a directory is removed from there. -/
theorem tree_removePath_join {name : String} {s : Session} (h : s.tree.LinkFree)
    (hplain : Path.IsPlain name) (hname : Path.names name = [name]) :
    (removePath (Path.join dir name) s).tree = s.tree.clear dir name := by
  unfold Tree.clear
  by_cases hhas : s.tree.has (Path.join dir name) = true
  · rw [if_pos hhas]
    obtain ⟨d, ⟨k, hk⟩, -, hremoved⟩ := tree_removePath_of_has hplain hname hhas
    obtain ⟨-, -, rfl⟩ := (Tree.walk_dot_iff h).mp hk
    exact hremoved
  · rw [if_neg hhas, tree_removePath_of_not_has hhas]

theorem tree_removePaths_join : ∀ (names : List String) {s : Session}, s.tree.Solid →
    (∀ name ∈ names, Path.IsPlain name ∧ Path.names name = [name]) →
    ((names.map (Path.join dir)).foldl (fun s path => removePath path s) s).tree =
      names.foldl (Tree.clear · dir) s.tree
  | [], _, _, _ => rfl
  | name :: names, s, h, hnames => by
    obtain ⟨⟨hplain, hname⟩, hnames⟩ := List.forall_mem_cons.mp hnames
    have hfirst : (removePath (Path.join dir name) s).tree = s.tree.clear dir name :=
      tree_removePath_join h.linkFree hplain hname
    have hsolid : (removePath (Path.join dir name) s).tree.Solid := by
      rw [hfirst]
      exact h.clear dir name
    rw [List.map_cons, List.foldl_cons, List.foldl_cons, tree_removePaths_join names hsolid hnames,
      hfirst]

theorem tree_removeIfEmpty (dir : String) (s : Session) :
    (removeIfEmpty dir s).tree = s.tree.removeBare dir := by
  unfold removeIfEmpty Tree.removeBare
  cases s.tree.removeDir dir with
  | ok t => rfl
  | error e => rfl

theorem tree_removeReports {s : Session} (h : s.tree.Solid) :
    (r.removeReports dir s).tree =
      if s.tree.isDir dir && !s.tree.encloses dir r.root then
        (Report.generated.foldl (Tree.clear · dir) s.tree).removeBare dir
      else s.tree := by
  unfold removeReports
  by_cases hdir : s.tree.isDir dir = true
  · by_cases hencloses : s.tree.encloses dir r.root = true
    · simp only [hdir, hencloses, if_true, Bool.not_true, Bool.and_false]
      rfl
    · rw [Bool.not_eq_true] at hencloses
      simp only [hdir, hencloses, if_true, Bool.not_false, Bool.and_true]
      rw [if_neg Bool.false_ne_true, tree_removeIfEmpty,
        tree_removePaths_join _ h fun _ => isPlain_of_mem_generated]
  · rw [Bool.not_eq_true] at hdir
    simp only [hdir, Bool.false_and]
    rfl

/-- What a run removes from a tree without links. -/
theorem tree_swept {o : Options} {s : Session} (h : s.tree.Solid) :
    (r.swept o s).tree = if o.clean then r.sweep (r.resolve o.reportPath) s.tree else s.tree := by
  unfold swept
  split
  · have hbuild : (removePath (r.resolve buildDir) s).tree = s.tree.clear r.root buildDir :=
      tree_removePath_join h.linkFree isPlain_buildDir.1 isPlain_buildDir.2
    have hsolid : (removePath (r.resolve buildDir) s).tree.Solid := by
      rw [hbuild]
      exact h.clear r.root buildDir
    rw [tree_removeReports hsolid, hbuild]
    rfl
  · rfl

theorem solid_sweep (r : Run) (dir : String) (h : t.Solid) : (r.sweep dir t).Solid := by
  have hbuild := h.clear r.root buildDir
  unfold sweep
  dsimp only
  split
  · exact (Solid.foldl_clear dir Report.generated hbuild).removeBare dir
  · exact hbuild

/-- The place is that of a report or, once it is empty, of the report directory, which does not hold
the root. -/
def IsReport (r : Run) (dir : String) (t : Tree) (l : Location) : Prop :=
  ¬ t.spot dir <+: t.spot r.root ∧
    ((∃ name ∈ Report.generated, t.spot dir ++ [name] <+: l) ∨ l = t.spot dir)

theorem IsReport.prefix (h : r.IsReport dir t l) : t.spot dir <+: l := by
  rcases h.2 with ⟨name, -, hl⟩ | rfl
  · exact (List.prefix_append _ _).trans hl
  · exact List.prefix_refl _

/-- Behind the directory of builds only reports are removed. -/
theorem sweep_remnant_clear (r : Run) (dir : String) (h : t.Solid) :
    Remnant (r.IsReport dir t) (t.clear r.root buildDir) (r.sweep dir t) := by
  have hbuild := h.clear r.root buildDir
  have hspot (path : String) : (t.clear r.root buildDir).spot path = t.spot path :=
    spot_congr (here_clear ..) path
  unfold sweep
  dsimp only
  split
  · next haway =>
    rw [Bool.and_eq_true, Bool.not_eq_true'] at haway
    obtain ⟨d, i, hd, hi, hnot⟩ := encloses_eq_false_iff.mp haway.2
    rw [eq_spot_of_find hbuild.linkFree hd, eq_spot_of_find hbuild.linkFree hi, hspot, hspot] at hnot
    have hnames := foldl_clear_remnant dir Report.generated (t.clear r.root buildDir)
    have hbare := removeBare_remnant (Solid.foldl_clear dir Report.generated hbuild).linkFree dir
    rw [spot_congr hnames.here, hspot] at hbare
    rw [hspot] at hnames
    exact (hnames.mono fun l hl => ⟨hnot, .inl hl⟩).trans (hbare.mono fun l hl => ⟨hnot, .inr hl⟩)
  · exact .refl _ _

/-- The root is not removed. -/
theorem get?_sweep_root (r : Run) (dir : String) (h : t.Solid) :
    (r.sweep dir t).get? (t.spot r.root) = t.get? (t.spot r.root) := by
  have hbuild : ¬ (t.has (Path.join r.root buildDir) = true ∧
      t.spot r.root ++ [buildDir] <+: t.spot r.root) := by
    rintro ⟨-, hprefix⟩
    have hlength := hprefix.length_le
    rw [List.length_append, List.length_singleton] at hlength
    omega
  rcases (sweep_remnant_clear r dir h).get (t.spot r.root) with heq | ⟨-, hreport⟩
  · rw [heq, get?_clear, if_neg hbuild]
  · exact absurd hreport.prefix hreport.1

/-- A name under which a place above the end of a longer one stands, and not above its front, is one
of the names behind the front. -/
theorem mem_of_prefix_below {d i : Location} {ns : List String} {name : String}
    (h : d ++ [name] <+: i ++ ns) (hnot : ¬ d <+: i) : name ∈ ns := by
  rcases List.prefix_or_prefix_of_prefix h (List.prefix_append i ns) with hle | ⟨ms, hms⟩
  · exact absurd ((List.prefix_append d [name]).trans hle) hnot
  · rw [← hms, List.prefix_append_right_inj] at h
    rcases List.eq_nil_or_concat ms with rfl | ⟨front, m, rfl⟩
    · rw [List.append_nil] at hms
      exact absurd (hms ▸ List.prefix_append d [name]) hnot
    · rw [List.concat_eq_append] at h hms
      rw [← List.append_assoc] at hms
      obtain ⟨-, hm⟩ := List.append_inj' hms rfl
      obtain rfl := (List.cons.inj hm).1
      exact h.subset (List.mem_append_right _ (List.mem_singleton.mpr rfl))

/-- What stands below the root, behind names that are none of output, is not removed, unless it is
the report directory. -/
theorem get?_sweep_of_plain (h : t.Solid) {ns : List String}
    (hns : ∀ n ∈ ns, n ≠ buildDir ∧ n ∉ Report.generated)
    (hne : t.spot r.root ++ ns ≠ t.spot dir) :
    (r.sweep dir t).get? (t.spot r.root ++ ns) = t.get? (t.spot r.root ++ ns) := by
  have hbuild : ¬ (t.has (Path.join r.root buildDir) = true ∧
      t.spot r.root ++ [buildDir] <+: t.spot r.root ++ ns) := by
    rintro ⟨-, hprefix⟩
    rw [List.prefix_append_right_inj] at hprefix
    exact (hns buildDir (List.IsPrefix.subset hprefix (List.mem_singleton.mpr rfl))).1 rfl
  rcases (sweep_remnant_clear r dir h).get (t.spot r.root ++ ns) with heq | ⟨-, hnot, hreport⟩
  · rw [heq, get?_clear, if_neg hbuild]
  · rcases hreport with ⟨name, hname, hprefix⟩ | heq
    · exact absurd hname (hns name (mem_of_prefix_below hprefix hnot)).2
    · exact absurd heq hne

/-! ## Removing again -/

/-- A directory that is still there when the directory of builds has been removed from the second
tree, with a way to the root, is not lost from the first one. -/
theorem get?_clear_of_isDir {i : Location} (h : t.LinkFree) (h' : t'.Solid) (hhere : t'.here = t.here)
    (hroot : (t'.clear r.root buildDir).find r.root = .ok i)
    (hl : (t'.clear r.root buildDir).get? l = some .dir) (hfirst : t.get? l = some .dir) :
    (t.clear r.root buildDir).get? l = some .dir := by
  obtain ⟨hplain, hname⟩ := isPlain_buildDir
  have hlater := (clear_remnant t' r.root buildDir).within
  rw [get?_clear]
  by_cases hgone : t.has (Path.join r.root buildDir) = true ∧ t.spot r.root ++ [buildDir] <+: l
  · -- the second tree would have lost it as well
    obtain ⟨hhas, hbelow⟩ := hgone
    obtain ⟨hsound, -, hshort, -⟩ := (has_join_iff h hplain hname).mp hhas
    have hplace := h'.closed.get?_ne_none_of_prefix hbelow (hlater.get?_ne_none (by rw [hl]; simp))
    rw [← spot_congr hhere] at hbelow hplace
    have hfind := hlater.find hroot
    have hdir := h'.closed.get?_dir (by simp) hplace
    rw [← eq_spot_of_find h'.linkFree hfind] at hdir
    have hopen := opens_of_isDir h'.linkFree (Tree.isDir_iff.mpr ⟨i, hfind, hdir⟩)
    have hhas' := (has_join_iff h'.linkFree hplain hname).mpr ⟨hsound, hopen, hshort, hplace⟩
    rw [get?_clear, if_pos ⟨hhas', hbelow⟩] at hl
    cases hl
  · rw [if_neg hgone]
    exact hfirst

section Again

variable (h : t.Solid) (h' : t'.Solid) (hwithin : (r.sweep dir t).Within t')
  (hroot : t.Grounded r.root)
include h h' hwithin hroot

/-- What stands behind the directory of builds is not removed with it from the second tree either.
-/
theorem sweep_within_clear : (r.sweep dir t).Within (t'.clear r.root buildDir) := by
  obtain ⟨hplain, hname⟩ := isPlain_buildDir
  have hclear := (sweep_remnant_clear r dir h).within
  have hhere : t'.here = t.here := hwithin.here.trans (hclear.here.symm.trans (here_clear ..))
  refine ⟨(here_clear t' r.root buildDir).trans hwithin.here, fun l s hs => ?_⟩
  have hget : (r.sweep dir t).get? l ≠ none := by
    intro hnone
    rw [shape?_eq_none_iff.mpr hnone] at hs
    cases hs
  have hfirst := hclear.get?_ne_none hget
  have hsecond := get?_clear t' r.root buildDir l
  rw [get?_clear] at hfirst
  rw [spot_congr hhere] at hsecond
  by_cases hgone : t'.has (Path.join r.root buildDir) = true ∧ t.spot r.root ++ [buildDir] <+: l
  · -- the first tree would have lost it as well
    obtain ⟨hhas, hbelow⟩ := hgone
    obtain ⟨hsound, hopen, hshort, -⟩ := (has_join_iff h'.linkFree hplain hname).mp hhas
    have hplace : t.get? (t.spot r.root ++ [buildDir]) ≠ none := by
      refine h.closed.get?_ne_none_of_prefix hbelow ?_
      split at hfirst
      · exact absurd rfl hfirst
      · exact hfirst
    have hopen' := h.closed.open_of_reach hopen.short (h.closed.get?_dir (by simp) hplace) hroot
    have hhas' := (has_join_iff h.linkFree hplain hname).mpr ⟨hsound, hopen', hshort, hplace⟩
    rw [if_pos ⟨hhas', hbelow⟩] at hfirst
    exact absurd rfl hfirst
  · rw [if_neg hgone] at hsecond
    unfold shape?
    rw [hsecond]
    exact hwithin.shape l s hs

variable (hstart : (r.sweep dir t).get? (t.start r.root) = some .dir)
  (hspot : (r.sweep dir t).get? (t.spot r.root) ≠ none)
include hstart hspot

/-- Where the second tree leads to the root, which has been left, the first one does. -/
theorem find_root_of_find {i : Location} (hfind : (t'.clear r.root buildDir).find r.root = .ok i) :
    (t.clear r.root buildDir).find r.root = .ok i := by
  have hfirst := (sweep_remnant_clear r dir h).within
  have hclear := sweep_within_clear h h' hwithin hroot
  have hsolid := h'.clear r.root buildDir
  have hhere : (t'.clear r.root buildDir).here = t.here :=
    hclear.here.trans (hfirst.here.symm.trans (here_clear ..))
  have hplace := hclear.get?_dir hstart
  rw [← hfind]
  refine find_congr_of_stops hsolid.linkFree (hfirst.here.trans hclear.here.symm) fun l hl => ?_
  rw [start_congr hhere] at hl
  rcases prefix_or_isLeft_of_mem_stops _ _ hl with hprefix | hleft
  · exact hfirst.shape?_eq hclear ((solid_sweep r dir h).closed.get?_ne_none_of_prefix hprefix hspot)
  · have hdir : (t'.clear r.root buildDir).get? l = some .dir := by
      refine hsolid.get?_of_isLeft_of_find r.root ?_ hfind ?_
      · rwa [start_congr hhere]
      · rwa [start_congr hhere]
    have hdir' := get?_clear_of_isDir h.linkFree h' ((here_clear ..).symm.trans hhere) hfind hdir
      (hroot l hleft)
    rw [shape?_eq_dir_iff.mpr hdir, shape?_eq_dir_iff.mpr hdir']

variable (hdir : t.Grounded dir)
  (hstart' : (r.sweep dir t).get? (t.start dir) = some .dir)
  (hu : (r.sweep dir t).get? (t.spot dir) = some .dir)
include hdir hstart' hu

/-- Where the report directory is removed from in the second tree, and has been left with the root
in the first one, it has been removed from there as well. -/
theorem away_of_away (haway : (t'.clear r.root buildDir).isDir dir = true)
    (hencloses : (t'.clear r.root buildDir).encloses dir r.root = false) :
    (∀ l, IsLeft (t.start dir) (Path.names dir) l →
        (t.clear r.root buildDir).get? l = some .dir) ∧
      (t.clear r.root buildDir).isDir dir = true ∧
      (t.clear r.root buildDir).encloses dir r.root = false := by
  have hfirst := (sweep_remnant_clear r dir h).within
  have hclear := sweep_within_clear h h' hwithin hroot
  have hsolid := h.clear r.root buildDir
  have hsolid' := h'.clear r.root buildDir
  have hhere : (t'.clear r.root buildDir).here = t.here :=
    hclear.here.trans (hfirst.here.symm.trans (here_clear ..))
  have hhere' : (t.clear r.root buildDir).here = t.here := here_clear ..
  obtain ⟨d, i, hd, hi, hnot⟩ := encloses_eq_false_iff.mp hencloses
  have hopen := opens_of_isDir hsolid'.linkFree haway
  unfold Opens at hopen
  rw [start_congr hhere] at hopen
  have hleft (l : Location) (hl : IsLeft (t.start dir) (Path.names dir) l) :
      (t.clear r.root buildDir).get? l = some .dir :=
    get?_clear_of_isDir h.linkFree h' ((here_clear ..).symm.trans hhere) hi
      (hsolid'.closed.get?_of_isLeft (hclear.get?_dir hstart') hopen hl) (hdir l hl)
  have hisDir : (t.clear r.root buildDir).isDir dir = true := by
    refine (hsolid.isDir_iff ?_).mpr ⟨(find_eq_ok_iff.mp hd).1, ?_⟩
    · rw [start_congr hhere']
      exact hfirst.get?_dir hstart'
    · unfold Opens
      rw [start_congr hhere']
      exact hsolid.closed.open_of_reach hopen.short (hfirst.get?_dir hu) hleft
  have hi' := find_root_of_find h h' hwithin hroot hstart hspot hi
  refine ⟨hleft, hisDir, encloses_eq_false_iff.mpr ⟨_, i, (hsolid.find_of_isDir hisDir).1, hi', ?_⟩⟩
  rwa [spot_congr hhere', ← spot_congr hhere, ← eq_spot_of_find hsolid'.linkFree hd]

end Again

/-- **What is left by a removal is left by the next one**, whatever has been put next to it. The
directories that the ways to the root and to the reports leave by `..` must have been there from the
start. -/
theorem sweep_keeps (h : t.Solid) (h' : t'.Solid) (hwithin : (r.sweep dir t).Within t')
    (hstart : (r.sweep dir t).get? (t.start r.root) = some .dir)
    (hstart' : (r.sweep dir t).get? (t.start dir) = some .dir)
    (hroot : t.Grounded r.root)
    (hdir : t.Grounded dir)
    (hnew : (r.sweep dir t).get? (t.spot dir) ≠ none → ¬ t.spot dir <+: t.spot r.root →
      t'.get? (t.spot r.root) ≠ none → (r.sweep dir t).get? (t.spot r.root) ≠ none) :
    (r.sweep dir t).Within (r.sweep dir t') := by
  have hfirst := sweep_remnant_clear r dir h
  have hclear := sweep_within_clear h h' hwithin hroot
  have hsolid := h.clear r.root buildDir
  have hsolid' := h'.clear r.root buildDir
  have hhere : (r.sweep dir t).here = t.here := hfirst.here.trans (here_clear t r.root buildDir)
  have hhere' : (t'.clear r.root buildDir).here = t.here := hclear.here.trans hhere
  by_cases hspot : (r.sweep dir t).get? (t.spot dir) = none
  · -- nothing has been left where the second removal goes on
    refine Within.of_remnant hclear (sweep_remnant_clear r dir h') fun l hreport => ?_
    have hl := hreport.prefix
    rw [spot_congr (hwithin.here.trans hhere)] at hl
    exact Classical.byContradiction fun hget =>
      (solid_sweep r dir h).closed.get?_ne_none_of_prefix hl hget hspot
  by_cases haway : ((t'.clear r.root buildDir).isDir dir &&
      !(t'.clear r.root buildDir).encloses dir r.root) = true
  · rw [Bool.and_eq_true, Bool.not_eq_true'] at haway
    obtain ⟨hisDir, hencloses⟩ := haway
    obtain ⟨d, i, hd, hi, hnot⟩ := encloses_eq_false_iff.mp hencloses
    obtain rfl := eq_spot_of_find hsolid'.linkFree hd
    obtain rfl := eq_spot_of_find hsolid'.linkFree hi
    rw [spot_congr hhere'] at hi
    rw [spot_congr hhere', spot_congr hhere'] at hnot
    have hu : (r.sweep dir t).get? (t.spot dir) = some .dir := by
      rw [← shape?_eq_dir_iff, Within.shape?_eq (.refl _) hclear hspot, shape?_eq_dir_iff,
        ← spot_congr hhere']
      exact (hsolid'.find_of_isDir hisDir).2
    have hplace : t'.get? (t.spot r.root) ≠ none := by
      refine (clear_remnant t' r.root buildDir).within.get?_ne_none ?_
      refine hsolid'.get?_ne_none_of_find r.root ?_ hi
      rw [start_congr hhere']
      exact hclear.get?_dir hstart
    obtain ⟨hleft, hisDir₀, hencloses₀⟩ := away_of_away h h' hwithin hroot hstart
      (hnew hspot hnot hplace) hdir hstart' hu hisDir hencloses
    have heq := sweep_of_away hisDir₀ hencloses₀
    have hpaired : Paired dir (r.sweep dir t) (t.clear r.root buildDir)
        (t'.clear r.root buildDir) := by
      refine ⟨hsolid, hsolid', hfirst.within, hclear, fun _ l hl => hleft l ?_⟩
      rwa [← start_congr hhere]
    rw [← spot_congr hhere] at hu
    have hnames := hpaired.foldl hu (by rwa [start_congr hhere]) Report.generated
      (fun _ => isPlain_of_mem_generated) (by
        rw [heq]
        exact (removeBare_remnant (Solid.foldl_clear dir _ hsolid).linkFree dir).within)
    rw [sweep_of_away hisDir hencloses]
    exact hnames.removeBare hu heq
  · have hkept : r.sweep dir t' = t'.clear r.root buildDir := by
      unfold sweep
      exact if_neg haway
    rw [hkept]
    exact hclear

end Run

end Testbench
