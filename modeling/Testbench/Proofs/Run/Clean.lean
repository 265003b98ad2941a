import Testbench.Proofs.Run.Phases
import Testbench.Proofs.Tree.Remnant

/-!
# What cleaning removes

Cleaning removes the directory of builds, and in the report directory what runs put there — unless
that directory holds the sources. Everything is named in the tree before the run: what has been
removed already never makes a path lead to another place. What may be removed is what the
specification allows (§4.7).

- `Run.IsOutput`: the places of earlier output.
- `Run.MayFree`: these, and the report directory where nothing else stands in it.
- `removeReports_remnant`, `swept_remnant`: what is left when output has been removed.
- `shape?_perform`: what a whole run leaves at all other places.
- `perform_keeps`: a whole run loses nothing else, and never the root of the sources.
-/

namespace Testbench

open Testbench.Tree

namespace Run

variable {P : Location → Prop} {t : Tree} {s : Session} {r : Run} {dir : String} {l : Location}

/-! ## Removing paths -/

theorem removePath_remnant (path : String) (s : Session) :
    Remnant (s.tree.Covers path) s.tree (removePath path s).tree := by
  unfold removePath
  split
  · dsimp only
    split
    · next t ht =>
      split at ht
      · exact remnant_of_removeAll ht
      · exact remnant_of_removeFile ht
    · exact .refl _ _
  · exact .refl _ _

/-- What is removed may be named in any tree that the present one is left of. -/
theorem removePath_of_remnant (h : Remnant P t s.tree) (path : String)
    (hP : ∀ l, t.Covers path l → P l) : Remnant P t (removePath path s).tree :=
  h.trans ((removePath_remnant path s).mono fun l hl => hP l (h.within.covers hl))

theorem removePaths_remnant : ∀ (paths : List String) (s : Session), Remnant P t s.tree →
    (∀ path ∈ paths, ∀ l, t.Covers path l → P l) →
    Remnant P t (paths.foldl (fun s path => removePath path s) s).tree
  | [], _, h, _ => h
  | path :: paths, s, h, hP => by
    obtain ⟨hpath, hpaths⟩ := List.forall_mem_cons.mp hP
    exact removePaths_remnant paths (removePath path s) (removePath_of_remnant h path hpath) hpaths

/-! ## Earlier output -/

/-- The report directory at `d` does not hold the sources, and neither is it their root. -/
def Apart (r : Run) (dir : String) (t : Tree) (d : Location) : Prop :=
  t.find dir = .ok d ∧ ∃ i, t.find r.root = .ok i ∧ ¬ d <+: i

/-- The place is one of earlier output: at or below the directory of builds, or at or below what
runs put into the report directory. -/
def IsOutput (r : Run) (dir : String) (t : Tree) (l : Location) : Prop :=
  t.Covers (r.resolve ".build") l ∨
    ∃ d, r.Apart dir t d ∧ ∃ name ∈ ["test-results", "coverage", "html", "summary.json",
      "summary.txt"], d ++ [name] <+: l

/-- These are the names that the removal goes by. -/
theorem generated_eq :
    Report.generated = ["test-results", "coverage", "html", "summary.json", "summary.txt"] := rfl

/-- The place may be freed: it is one of earlier output, or that of the report directory, and
nothing but earlier output stands below. -/
def MayFree (r : Run) (dir : String) (t : Tree) (l : Location) : Prop :=
  r.IsOutput dir t l ∨
    r.Apart dir t l ∧ ∀ l', l <+: l' → l' ≠ l → t.get? l' ≠ none → r.IsOutput dir t l'

theorem isPlain_of_mem_generated {name : String} (h : name ∈ Report.generated) :
    Path.IsPlain name ∧ Path.names name = [name] := by
  obtain ⟨hplain, hname, -⟩ := Report.isName_of_mem_generated name h
  exact ⟨hplain, hname⟩

/-- What runs put into a report directory stands right below the place that it leads to. -/
theorem isOutput_of_covers {d : Location} (h : r.Apart dir t d) :
    ∀ path ∈ Report.generated.map (Path.join dir), ∀ l, t.Covers path l → r.IsOutput dir t l := by
  intro path hpath l hl
  obtain ⟨name, hname, rfl⟩ := List.mem_map.mp hpath
  obtain ⟨base, n, hparting, hbelow⟩ := hl
  -- a plain name, so that no link at it is followed and nothing leads back
  obtain ⟨hplain, hnames⟩ := isPlain_of_mem_generated hname
  obtain ⟨rfl, rfl⟩ := parting_join_of_find hplain hnames h.1 hparting
  rw [generated_eq] at hname
  exact .inr ⟨base, h, n, hname, hbelow⟩

theorem removeIfEmpty_remnant (h : Remnant (r.IsOutput dir t) t s.tree)
    {d : Location} (hd : r.Apart dir t d) :
    Remnant (r.MayFree dir t) t (removeIfEmpty dir s).tree := by
  have hmono := h.mono (Q := r.MayFree dir t) fun _ => .inl
  unfold removeIfEmpty
  split
  · next u hu =>
    obtain ⟨l, hfind, hbare, hremnant⟩ := remnant_of_removeDir hu
    have hl : l = d := by
      have := (h.within.find hfind).symm.trans hd.1
      cases this
      rfl
    refine hmono.trans (hremnant.mono ?_)
    rintro _ rfl
    -- the directory was bare when it went: all that stood below it has been removed as output
    refine .inr ⟨by rwa [hl], fun l' hbelow hne hget => ?_⟩
    exact h.of_lost hget (hbare l' hbelow hne)
  · exact hmono

/-- Of the reports only earlier output is removed, and the report directory only if nothing else is
left in it. -/
theorem removeReports_remnant (h : Remnant (r.IsOutput dir t) t s.tree) :
    Remnant (r.MayFree dir t) t (r.removeReports dir s).tree := by
  have hmono := h.mono (Q := r.MayFree dir t) fun _ => .inl
  unfold removeReports
  split
  · split
    · exact hmono
    · next hencloses =>
      obtain ⟨d, hd⟩ : ∃ d, r.Apart dir t d := by
        unfold encloses at hencloses
        split at hencloses
        · next d i hd hi =>
          refine ⟨d, h.within.find hd, i, h.within.find hi, fun hprefix => hencloses ?_⟩
          exact List.isPrefixOf_iff_prefix.mpr hprefix
        · exact absurd rfl hencloses
      exact removeIfEmpty_remnant
        (removePaths_remnant _ s h (isOutput_of_covers hd)) hd
  · exact hmono

/-- Nothing is removed but what may be, and nothing without being asked for. -/
theorem swept_remnant (r : Run) (o : Options) (s : Session) :
    Remnant (fun l => o.clean = true ∧ r.MayFree (r.resolve o.reportPath) s.tree l) s.tree
      (r.swept o s).tree := by
  unfold swept
  split
  · next hclean =>
    have hbuild := removePath_of_remnant
      (.refl (r.IsOutput (r.resolve o.reportPath) s.tree) s.tree) (r.resolve buildDir) fun _ => .inl
    exact (removeReports_remnant hbuild).mono fun l hl => ⟨hclean, hl⟩
  · exact .refl _ _

/-! ## Whole runs -/

/-- Where commands leave the files as they are, a run loses nothing that removal has left. -/
theorem swept_within (r : Run) (o : Options) (s : Session) (hx : r.executor.Inert)
    {v : Version} (h : r.gate.judge (r.probe s) = .ok v) :
    (r.swept o s).tree.Within (r.perform o s).2.tree := by
  have hsetup := Report.setup_within (r.prepared o s).tree (r.resolve o.reportPath)
  rw [← tree_prepared r o s hx]
  cases hs : Report.setup (r.prepared o s).tree (r.resolve o.reportPath) with
  | mk answer t =>
    rw [hs] at hsetup
    cases answer with
    | error e =>
      rw [perform_of_setup_error h hs]
      exact hsetup
    | ok _ =>
      rw [perform_of_setup_ok h hs]
      have hrest := (carryOut_spec r o (r.resolve o.reportPath) v
        ((r.prepared o s).withTree t)).2
      rw [tested, hx] at hrest
      exact (hsetup.trans (staged_grown r o ((r.prepared o s).withTree t)).within).trans hrest

/-- The root of the sources is no earlier output, and may not be freed. -/
theorem not_mayFree_root {i : Location} (hi : t.find r.root = .ok i) : ¬ r.MayFree dir t i := by
  have hbelow {d : Location} (hd : r.Apart dir t d) : ¬ d <+: i := by
    obtain ⟨-, i', hi', hnot⟩ := hd
    rw [hi] at hi'
    cases hi'
    exact hnot
  rintro ((⟨base, n, hparting, hprefix⟩ | ⟨d, hd, name, -, hprefix⟩) | ⟨hd, -⟩)
  · obtain ⟨rfl, rfl⟩ := parting_join_of_find (by decide) (by decide) hi hparting
    have hlength := hprefix.length_le
    rw [List.length_append, List.length_singleton] at hlength
    omega
  · exact hbelow hd ((List.prefix_append d [name]).trans hprefix)
  · exact hbelow hd (List.prefix_refl i)

/-- What stands at a place that may not be freed keeps its shape. -/
theorem shape?_perform (r : Run) (o : Options) (s : Session) (hx : r.executor.Inert) {k : Shape}
    (hl : s.tree.shape? l = some k)
    (hkept : ¬ (o.clean = true ∧ r.MayFree (r.resolve o.reportPath) s.tree l)) :
    (r.perform o s).2.tree.shape? l = some k := by
  cases hjudge : r.gate.judge (r.probe s) with
  | error e => rwa [perform_of_judge_error hjudge, tree_probed, hx]
  | ok v =>
    -- what removal has left is never lost later on
    refine (swept_within r o s hx hjudge).shape l k ?_
    obtain heq | ⟨-, hfreed⟩ := (swept_remnant r o s).get l
    · rwa [shape?, heq]
    · exact absurd hfreed hkept

/-- **Cleaning removes nothing but earlier output.** Where commands leave the files as they are, a
place at which nothing stands any more after a run was one of earlier output, or that of a report
directory with nothing else in it, and the run was asked to clean. At all other places directories
stay directories, links stay the same links, and what is neither stays so. The root of the sources
is still there, however the run ended. -/
theorem perform_keeps (r : Run) (o : Options) (s : Session) (hx : r.executor.Inert) :
    (∀ l, s.tree.get? l ≠ none → (r.perform o s).2.tree.get? l = none →
      o.clean = true ∧ r.MayFree (r.resolve o.reportPath) s.tree l) ∧
    (∀ l k, s.tree.shape? l = some k →
      ¬ (o.clean = true ∧ r.MayFree (r.resolve o.reportPath) s.tree l) →
      (r.perform o s).2.tree.shape? l = some k) ∧
    ∀ i, s.tree.find r.root = .ok i → s.tree.get? i ≠ none →
      (r.perform o s).2.tree.get? i ≠ none := by
  have hlost (l : Location) (hl : s.tree.get? l ≠ none)
      (hgone : (r.perform o s).2.tree.get? l = none) :
      o.clean = true ∧ r.MayFree (r.resolve o.reportPath) s.tree l := by
    obtain ⟨k, hk⟩ := Option.ne_none_iff_exists'.mp (mt shape?_eq_none_iff.mp hl)
    refine Classical.byContradiction fun hkept => ?_
    have hshape := shape?_perform r o s hx hk hkept
    rw [shape?_eq_none_iff.mpr hgone] at hshape
    cases hshape
  refine ⟨hlost, fun l k => shape?_perform r o s hx, fun i hi hget hgone => ?_⟩
  exact not_mayFree_root hi (hlost i hget hgone).2

/-- A run in the current directory that is asked to clean. Output is in place, and among it a link
to other files: the link is removed, and what it leads to is not. -/
theorem perform_keeps_linked :
    let t : Tree := ⟨[(["pkg"], .dir), (["pkg", ".build"], .dir), (["pkg", "reports"], .dir),
      (["pkg", "reports", "html"], .link "../docs"), (["pkg", "docs"], .dir),
      (["pkg", "docs", "index"], .file .empty false)], ["pkg"]⟩
    let r : Run := ⟨.standard, ".", ⟨"linux", "Linux", "", fun _ => .zero⟩,
      .scripted [("--version", .exited 0 "Swift version 6.1" "")]⟩
    let o : Options := { clean := true }
    let after := (r.perform o { tree := t }).2.tree
    (∀ l, t.get? l ≠ none → after.get? l = none → r.MayFree (r.resolve o.reportPath) t l) ∧
      after.get? ["pkg"] ≠ none ∧ after.get? ["pkg", ".build"] = none ∧
      after.get? ["pkg", "reports", "html"] = some .dir ∧
      after.get? ["pkg", "docs", "index"] = some (.file .empty false) := by
  intro t r o after
  obtain ⟨hlost, -, hroot⟩ := perform_keeps r o { tree := t } (Executor.inert_scripted _)
  refine ⟨fun l hl hgone => (hlost l hl hgone).2, hroot ["pkg"] ?_ ?_, by decide +kernel,
    by decide +kernel, by decide +kernel⟩
  · show t.find "." = .ok ["pkg"]
    rfl
  · show t.get? ["pkg"] ≠ none
    decide

end Run

end Testbench
