import Testbench.Proofs.Run.Removal

/-!
# Removing all earlier output

A run that cleans is to find the same as if there had never been any output. Removal goes by paths,
one after the other, and only where they lead somewhere. So it removes all of the output, and
nothing else, as long as each entry leads somewhere, also where there is no other one, and the root
and the report directory are not reached by way of what is removed.

- `Run.stripped`: the tree without output, whatever that is.
- `Run.Sheds`: output that is removed entirely.
- `swept_stripped`: with or without output, the same is left.
-/

namespace Testbench

namespace Run

open Testbench.Tree

variable {r : Run} {o : Options} {s s' : Session} {t u : Tree} {dir : String} {b d l : Location}

/-! ## Output -/

/-- The place where the toolchain builds. -/
def built (r : Run) (t : Tree) : List Location :=
  match t.base? r.root with
  | some b => [b ++ [buildDir]]
  | none => []

/-- The places of what runs put into a report directory. -/
def reported (dir : String) (t : Tree) : List Location :=
  match t.base? dir with
  | some d => Report.generated.map (d ++ [·])
  | none => []

/-- The tree without earlier output, be it files, directories or links. -/
def stripped (r : Run) (dir : String) (t : Tree) : Tree :=
  t.pruneAll (r.built t ++ reported dir t)

/-- Places under some names in the directory from which the paths below a root are taken. -/
theorem mem_of_base {root : String} (names : List String) :
    l ∈ (match t.base? root with
      | some b => names.map (b ++ [·])
      | none => []) ↔ ∃ b, t.IsBase root b ∧ ∃ name ∈ names, l = b ++ [name] := by
  cases h : t.base? root with
  | some b =>
    have hbase := base?_eq_some_iff.mp h
    constructor
    · intro hmem
      obtain ⟨name, hname, rfl⟩ := List.mem_map.mp hmem
      exact ⟨b, hbase, name, hname, rfl⟩
    · rintro ⟨b', hbase', name, hname, rfl⟩
      rw [hbase.eq hbase']
      exact List.mem_map.mpr ⟨name, hname, rfl⟩
  | none =>
    constructor
    · intro hmem
      cases hmem
    · rintro ⟨b, hbase, -⟩
      rw [base?_eq_some_iff.mpr hbase] at h
      cases h

theorem mem_built : l ∈ r.built t ↔ ∃ b, t.IsBase r.root b ∧ l = b ++ [buildDir] := by
  refine (mem_of_base [buildDir]).trans ?_
  simp only [List.mem_singleton, exists_eq_left]

theorem mem_reported :
    l ∈ reported dir t ↔ ∃ d, t.IsBase dir d ∧ ∃ name ∈ Report.generated, l = d ++ [name] :=
  mem_of_base Report.generated

theorem ne_nil_of_mem_built : ∀ l ∈ r.built t, l ≠ [] := by
  intro l hl
  obtain ⟨b, -, rfl⟩ := mem_built.mp hl
  simp

theorem ne_nil_of_mem_reported : ∀ l ∈ reported dir t, l ≠ [] := by
  intro l hl
  obtain ⟨d, -, name, -, rfl⟩ := mem_reported.mp hl
  simp

theorem stripped_remnant (r : Run) (dir : String) (t : Tree) :
    Remnant (fun l' => ∃ l ∈ r.built t ++ reported dir t, l <+: l') t (r.stripped dir t) :=
  pruneAll_remnant t (List.forall_mem_append.mpr ⟨ne_nil_of_mem_built, ne_nil_of_mem_reported⟩)

theorem get?_stripped_of_mem (h : l ∈ r.built t ++ reported dir t) :
    (r.stripped dir t).get? l = none := by
  unfold stripped
  rw [get?_pruneAll _ _ (List.forall_mem_append.mpr ⟨ne_nil_of_mem_built, ne_nil_of_mem_reported⟩),
    if_pos ⟨l, h, List.prefix_refl l⟩]

/-- Output that is removed entirely: neither the root nor the report directory is reached by way of
it, unless the report directory is built as well, and each entry leads somewhere, even where there
is no other one. -/
structure Sheds (r : Run) (dir : String) (t : Tree) : Prop where
  rootBase : (r.stripped dir t).base? r.root = t.base? r.root
  dirBase : ∀ d, t.IsBase dir d →
    (r.stripped dir t).IsBase dir d ∨ ∃ b, t.IsBase r.root b ∧ b ++ [buildDir] <+: d
  builds : ∀ b e, t.IsBase r.root b → t.get? (b ++ [buildDir]) = some e →
    ((r.stripped dir t).set (b ++ [buildDir]) e).has (r.resolve buildDir) = true
  reports : ∀ d e, (r.stripped dir t).IsBase dir d → ∀ name ∈ Report.generated,
    t.get? (d ++ [name]) = some e →
    ((r.stripped dir t).set (d ++ [name]) e).has (Path.join dir name) = true

/-- Where the root and the report directory are found with and without output, only the entries are
to be looked at. -/
theorem sheds_of_bases (hroot : t.base? r.root = some b) (hdir : t.base? dir = some d)
    (hroot' : (r.stripped dir t).base? r.root = some b)
    (hdir' : (r.stripped dir t).base? dir = some d)
    (hbuilt : (t.get? (b ++ [buildDir])).all fun e =>
      ((r.stripped dir t).set (b ++ [buildDir]) e).has (r.resolve buildDir))
    (hreported : ∀ name ∈ Report.generated, (t.get? (d ++ [name])).all fun e =>
      ((r.stripped dir t).set (d ++ [name]) e).has (Path.join dir name)) : r.Sheds dir t := by
  have hd := base?_eq_some_iff.mp hdir
  have hd' := base?_eq_some_iff.mp hdir'
  constructor
  · rw [hroot, hroot']
  · intro d₁ hbase
    rw [hbase.eq hd]
    exact .inl hd'
  · intro b₁ e hbase he
    obtain rfl := hbase.eq (base?_eq_some_iff.mp hroot)
    rw [he] at hbuilt
    exact hbuilt
  · intro d₁ e hbase name hname he
    obtain rfl := hbase.eq hd'
    have hone := hreported name hname
    rw [he] at hone
    exact hone

/-! ## What is removed -/

section Removal

variable (h : r.Sheds dir t) (hclosed : t.Closed)
include h hclosed

/-- What the toolchain has built is removed, if anything. -/
theorem Sheds.tree_removeBuilt (hs : s.tree = t) :
    (removePath (r.resolve buildDir) s).tree = t.pruneAll (r.built t) := by
  subst hs
  by_cases hhas : s.tree.has (r.resolve buildDir) = true
  · obtain ⟨b, hbase, -, hremoved⟩ :=
      tree_removePath_of_has isPlain_buildDir.1 isPlain_buildDir.2 hhas
    unfold built
    rw [base?_eq_some_iff.mpr hbase]
    exact hremoved
  · rw [tree_removePath_of_not_has hhas, pruneAll_of_free hclosed]
    intro l hl
    obtain ⟨b, hbase, rfl⟩ := mem_built.mp hl
    refine Classical.byContradiction fun hget => hhas ?_
    obtain ⟨e, he⟩ := Option.ne_none_iff_exists'.mp hget
    have hwithin := (stripped_remnant r dir s.tree).within.set (by simp) he
    exact hwithin.has (h.builds b e hbase he)

omit hclosed in
/-- The names in the report directory are removed one after the other. -/
theorem Sheds.tree_removeNames (hbase : (r.stripped dir t).IsBase dir d) :
    ∀ (names : List String) {s : Session}, (∀ name ∈ names, name ∈ Report.generated) →
      Remnant (fun _ => True) t s.tree → s.tree.Closed →
      s.tree.pruneAll (names.map (d ++ [·])) = r.stripped dir t →
      ((names.map (Path.join dir)).foldl (fun s path => removePath path s) s).tree =
        r.stripped dir t
  | [], s, _, _, _, hrest => hrest
  | name :: names, s, hnames, hleft, hclosed, hrest => by
    obtain ⟨hname, hnames⟩ := List.forall_mem_cons.mp hnames
    obtain ⟨hplain, hsingle⟩ := isPlain_of_mem_generated hname
    have hne : ∀ l ∈ (name :: names).map (d ++ [·]), l ≠ [] := by
      intro l hl
      obtain ⟨name', -, rfl⟩ := List.mem_map.mp hl
      simp
    have hlower : (r.stripped dir t).Within s.tree := by
      rw [← hrest]
      exact (pruneAll_remnant _ hne).within
    -- whether anything stands under the name or not, it is free afterwards and nothing else is
    have hfirst : (removePath (Path.join dir name) s).tree = s.tree.prune (d ++ [name]) := by
      by_cases hhas : s.tree.has (Path.join dir name) = true
      · obtain ⟨d', hbase', -, hremoved⟩ := tree_removePath_of_has hplain hsingle hhas
        rwa [hbase'.eq (hlower.isBase hbase)] at hremoved
      · rw [tree_removePath_of_not_has hhas, prune_of_free hclosed]
        refine Classical.byContradiction fun hget => hhas ?_
        obtain ⟨e, he⟩ := Option.ne_none_iff_exists'.mp hget
        have hthere : t.get? (d ++ [name]) = some e := by
          rcases hleft.get (d ++ [name]) with heq | ⟨hnone, -⟩
          · rw [← heq, he]
          · exact absurd hnone hget
        exact (hlower.set (by simp) he).has (h.reports d e hbase name hname hthere)
    rw [List.map_cons, List.foldl_cons]
    refine Sheds.tree_removeNames hbase names hnames ?_ ?_ ?_
    · rw [hfirst]
      exact hleft.trans (.prune (by simp) fun _ _ => trivial)
    · rw [hfirst]
      exact hclosed.prune (by simp)
    · rw [hfirst]
      exact hrest

end Removal

/-! ## What is left -/

section Left

variable {path : String} (h : r.Sheds (r.resolve path) t)
  (habs : Path.isAbsolute path = false) (hne : Path.names path ≠ [])
include h habs hne

/-- Removal never makes the report directory hold the root. -/
theorem Sheds.encloses
    (hapart : t.isDir (r.resolve path) = true → t.encloses (r.resolve path) r.root = false)
    (hlower : (r.stripped (r.resolve path) t).Within u) (hupper : u.Within t)
    (hdir : u.isDir (r.resolve path) = true) : u.encloses (r.resolve path) r.root = false := by
  obtain ⟨d, i, hd, hi, hnot⟩ := encloses_eq_false_iff.mp (hapart (hupper.isDir hdir))
  obtain ⟨d', hd', -⟩ := Tree.isDir_iff.mp hdir
  have heq : d' = d := Except.ok.inj ((hupper.find hd').symm.trans hd)
  obtain ⟨b, hbase⟩ := exists_isBase_of_find habs hne hd
  obtain ⟨hsound, -⟩ := find_eq_ok_iff.mp hi
  have heq' : i = b := Except.ok.inj (hi.symm.trans (find_of_isBase hsound hbase))
  have hleft : (r.stripped (r.resolve path) t).IsBase r.root b := by
    rw [← base?_eq_some_iff, h.rootBase]
    exact base?_eq_some_iff.mpr hbase
  refine encloses_eq_false_iff.mpr ⟨d', b, hd', find_of_isBase hsound (hlower.isBase hleft), ?_⟩
  rwa [heq, ← heq']

variable (hclosed : t.Closed)
include hclosed

/-- Once what the toolchain has built is gone, nothing is left to be removed from a report directory
that is not found. -/
theorem Sheds.pruneAll_built
    (hdir : ¬ (t.pruneAll (r.built t)).isDir (r.resolve path) = true) :
    t.pruneAll (r.built t) = r.stripped (r.resolve path) t := by
  have hclosed' := Closed.pruneAll (r.built t) hclosed ne_nil_of_mem_built
  have hremnant := pruneAll_remnant t (ne_nil_of_mem_built (r := r) (t := t))
  unfold stripped
  rw [pruneAll_append, pruneAll_of_free hclosed']
  intro l hl
  obtain ⟨d, hbase, name, hname, rfl⟩ := mem_reported.mp hl
  refine Classical.byContradiction fun hget => ?_
  rcases h.dirBase d hbase with hbase' | ⟨b, hroot, hbelow⟩
  · -- an entry that is left would make the directory be found
    obtain ⟨e, he⟩ := Option.ne_none_iff_exists'.mp hget
    have hthere : t.get? (d ++ [name]) = some e := by
      rcases hremnant.get (d ++ [name]) with heq | ⟨hnone, -⟩
      · rw [← heq, he]
      · exact absurd hnone hget
    have hlower : (r.stripped (r.resolve path) t).Within (t.pruneAll (r.built t)) := by
      unfold stripped
      rw [pruneAll_append]
      exact (pruneAll_remnant _ ne_nil_of_mem_reported).within
    have hhas := (hlower.set (by simp) he).has (h.reports d e hbase' name hname hthere)
    refine hdir (Tree.isDir_iff.mpr ⟨d, find_of_isBase ?_ (hlower.isBase hbase'), ?_⟩)
    · obtain ⟨l, hfind, -⟩ := has_iff.mp hhas
      obtain ⟨hsound, -⟩ := find_eq_ok_iff.mp hfind
      refine pathFault?_of_join ?_ (isPlain_of_mem_generated hname).1 hsound
      intro hempty
      have hnames : Path.names (r.resolve path) = [] := by rw [hempty]; rfl
      unfold resolve at hnames
      rw [Path.names_join habs] at hnames
      exact hne (List.append_eq_nil_iff.mp hnames).2
    · exact hclosed'.get?_dir (List.cons_ne_nil name []) hget
  · rw [get?_pruneAll _ _ ne_nil_of_mem_built, if_pos] at hget
    · exact hget rfl
    · exact ⟨_, mem_built.mpr ⟨b, hroot, rfl⟩, hbelow.trans (List.prefix_append d [name])⟩

/-- What is left is the tree without output, and without the report directory once it is empty. -/
theorem Sheds.tree_swept
    (hapart : t.isDir (r.resolve path) = true → t.encloses (r.resolve path) r.root = false)
    (hs : s.tree = t) (hclean : o.clean = true) (hpath : o.reportPath = path) :
    (r.swept o s).tree = if (r.stripped (r.resolve path) t).isDir (r.resolve path) then
        (removeIfEmpty (r.resolve path) { tree := r.stripped (r.resolve path) t }).tree
      else r.stripped (r.resolve path) t := by
  have hbuilt := h.tree_removeBuilt hclosed hs
  have hclosed' := Closed.pruneAll (r.built t) hclosed ne_nil_of_mem_built
  have hremnant := pruneAll_remnant t (ne_nil_of_mem_built (r := r) (t := t))
  have hrest : (t.pruneAll (r.built t)).pruneAll (reported (r.resolve path) t) =
      r.stripped (r.resolve path) t := (pruneAll_append ..).symm
  have hlower : (r.stripped (r.resolve path) t).Within (t.pruneAll (r.built t)) := by
    rw [← hrest]
    exact (pruneAll_remnant _ ne_nil_of_mem_reported).within
  unfold swept
  rw [if_pos hclean, hpath]
  unfold removeReports
  rw [hbuilt]
  by_cases hdir : (t.pruneAll (r.built t)).isDir (r.resolve path) = true
  · rw [if_pos hdir, if_neg (by rw [h.encloses habs hne hapart hlower hremnant.within hdir]; simp)]
    -- the report directory is where it was, with or without output
    obtain ⟨d, hd, hget⟩ := Tree.isDir_iff.mp hdir
    have hbase := isBase_of_find hd hget
    have hbase' : (r.stripped (r.resolve path) t).IsBase (r.resolve path) d := by
      refine (h.dirBase d (hremnant.within.isBase hbase)).resolve_right ?_
      rintro ⟨b, hroot, hbelow⟩
      rw [get?_pruneAll _ _ ne_nil_of_mem_built,
        if_pos ⟨_, mem_built.mpr ⟨b, hroot, rfl⟩, hbelow⟩] at hget
      cases hget
    have hreported : reported (r.resolve path) t = Report.generated.map (d ++ [·]) := by
      unfold reported
      rw [base?_eq_some_iff.mpr (hremnant.within.isBase hbase)]
    have hget' : (r.stripped (r.resolve path) t).get? d = some .dir := by
      rw [← hrest, get?_pruneAll _ _ ne_nil_of_mem_reported, if_neg, hget]
      rintro ⟨l, hl, hprefix⟩
      rw [hreported] at hl
      obtain ⟨name, -, rfl⟩ := List.mem_map.mp hl
      have hlength := hprefix.length_le
      rw [List.length_append, List.length_singleton] at hlength
      omega
    have hdir' : (r.stripped (r.resolve path) t).isDir (r.resolve path) = true :=
      Tree.isDir_iff.mpr ⟨d, find_of_isBase (find_eq_ok_iff.mp hd).1 hbase', hget'⟩
    rw [if_pos hdir']
    refine tree_removeIfEmpty_congr _ (h.tree_removeNames hbase' Report.generated (fun _ => id) ?_ ?_ ?_)
    · rw [hbuilt]
      exact hremnant.mono fun _ _ => trivial
    · rwa [hbuilt]
    · rw [hbuilt, ← hreported]
      exact hrest
  · rw [if_neg hdir, hbuilt, h.pruneAll_built habs hne hclosed hdir, if_neg]
    rwa [h.pruneAll_built habs hne hclosed hdir] at hdir

end Left

/-! ## Without output -/

theorem get?_of_mem_stripped (hl : l ∈ r.built (r.stripped dir t) ++ reported dir (r.stripped dir t)) :
    (r.stripped dir t).get? l = none := by
  have hwithin := (stripped_remnant r dir t).within
  refine get?_stripped_of_mem (List.mem_append.mpr ((List.mem_append.mp hl).imp ?_ ?_))
  · intro hbuilt
    obtain ⟨b, hbase, rfl⟩ := mem_built.mp hbuilt
    exact mem_built.mpr ⟨b, hwithin.isBase hbase, rfl⟩
  · intro hreported
    obtain ⟨d, hbase, hname⟩ := mem_reported.mp hreported
    exact mem_reported.mpr ⟨d, hwithin.isBase hbase, hname⟩

theorem stripped_closed (r : Run) (dir : String) (hclosed : t.Closed) : (r.stripped dir t).Closed :=
  Closed.pruneAll _ hclosed
    (List.forall_mem_append.mpr ⟨ne_nil_of_mem_built, ne_nil_of_mem_reported⟩)

/-- A tree without output has none to be removed. -/
theorem stripped_stripped (r : Run) (dir : String) (hclosed : t.Closed) :
    r.stripped dir (r.stripped dir t) = r.stripped dir t :=
  pruneAll_of_free (stripped_closed r dir hclosed) fun _ hl => get?_of_mem_stripped hl

theorem sheds_stripped (r : Run) (dir : String) (hclosed : t.Closed) :
    r.Sheds dir (r.stripped dir t) := by
  constructor
  · rw [stripped_stripped r dir hclosed]
  · intro d hbase
    rw [stripped_stripped r dir hclosed]
    exact .inl hbase
  · intro b e hbase he
    rw [get?_of_mem_stripped (List.mem_append_left _ (mem_built.mpr ⟨b, hbase, rfl⟩))] at he
    cases he
  · intro d e hbase name hname he
    rw [stripped_stripped r dir hclosed] at hbase
    rw [get?_of_mem_stripped
      (List.mem_append_right _ (mem_reported.mpr ⟨d, hbase, name, hname, rfl⟩))] at he
    cases he

/-- **With or without earlier output, a run that cleans finds the same.** -/
theorem swept_stripped (h : r.Sheds (r.resolve o.reportPath) s.tree) (hclosed : s.tree.Closed)
    (hclean : o.clean = true) (habs : Path.isAbsolute o.reportPath = false)
    (hne : Path.names o.reportPath ≠ [])
    (hapart : s.tree.isDir (r.resolve o.reportPath) = true →
      s.tree.encloses (r.resolve o.reportPath) r.root = false)
    (hs' : s'.tree = r.stripped (r.resolve o.reportPath) s.tree) :
    (r.swept o s').tree = (r.swept o s).tree := by
  have hapart' := fun hdir => h.encloses habs hne hapart (.refl _)
    (stripped_remnant r (r.resolve o.reportPath) s.tree).within hdir
  have hclosed' := stripped_closed r (r.resolve o.reportPath) hclosed
  rw [h.tree_swept habs hne hclosed hapart rfl hclean rfl,
    (sheds_stripped r _ hclosed).tree_swept habs hne hclosed' hapart' hs' hclean rfl,
    stripped_stripped r _ hclosed]

end Run

end Testbench
