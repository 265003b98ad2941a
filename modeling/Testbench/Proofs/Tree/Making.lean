import Testbench.Proofs.Tree.Solid

/-!
# Making directories again

A directory is made with all that lead to it. What is made stands at the stops of the path, and
where the directory stands already nothing is made. When some of what was made has been removed, it
is made again: between the tree before and the tree after, making the directory never fails and
leads to a tree between the same two.

- `Made`: some free places have become directories.
- `makeDirs_of_isDir`, `isDir_of_makeDirs`: a directory that is there, and one that was made.
- `OnWay`, `Solid.makeDirs_made`: what is made stands at the stops of the path, and fronts of the
  path lead there.
- `makeDirs_between`: a directory is made again.
-/

namespace Testbench

namespace Tree

variable {t t' t'' u u' : Tree} {path parent : String} {l : Location} {P Q : Location → Prop}

/-! ## Made directories -/

/-- Some free places with a property have become directories. -/
structure Made (P : Location → Prop) (t t' : Tree) : Prop where
  here : t'.here = t.here
  get : ∀ l, t'.get? l = t.get? l ∨ P l ∧ t.get? l = none ∧ t'.get? l = some .dir

namespace Made

theorem refl (P : Location → Prop) (t : Tree) : Made P t t := ⟨rfl, fun _ => .inl rfl⟩

theorem mono (h : Made P t t') (hPQ : ∀ l, P l → Q l) : Made Q t t' :=
  ⟨h.here, fun l => (h.get l).imp_right fun hnew => ⟨hPQ l hnew.1, hnew.2⟩⟩

theorem trans (h : Made P t t') (h' : Made P t' t'') : Made P t t'' := by
  refine ⟨h'.here.trans h.here, fun l => ?_⟩
  rcases h'.get l with heq | ⟨hP, hnone, hdir⟩
  · rw [heq]
    exact h.get l
  · rcases h.get l with heq | ⟨-, -, hdir'⟩
    · exact .inr ⟨hP, heq ▸ hnone, hdir⟩
    · rw [hdir'] at hnone
      cases hnone

theorem set (hne : l ≠ []) (hP : P l) (hnone : t.get? l = none) : Made P t (t.set l .dir) := by
  refine ⟨rfl, fun l' => ?_⟩
  rw [get?_set t l l' _ hne]
  split
  · next heq =>
    subst heq
    exact .inr ⟨hP, hnone, rfl⟩
  · exact .inl rfl

end Made

/-! ## One directory -/

/-- The directories that lead to a path start where the path does. -/
theorem start_parent (t : Tree) (h : Path.parent? path = some parent) (hne : parent ≠ "") :
    t.start parent = t.start path := by
  obtain ⟨rest, -, rfl, -⟩ := Path.exists_of_parent? h hne
  unfold start
  rw [Path.isAbsolute_append hne]

theorem pathFault?_parent (h : Path.parent? path = some parent) (hne : parent ≠ "")
    (hsound : pathFault? path = none) : pathFault? parent = none := by
  obtain ⟨rest, -, rfl, -⟩ := Path.exists_of_parent? h hne
  exact pathFault?_of_append hne hsound

/-- The parent of a path to a directory leads to a directory. -/
theorem Solid.isDir_parent (h : t.Solid) (hstart : t.get? (t.start path) = some .dir)
    (hparent : Path.parent? path = some parent) (hne : parent ≠ "") (hdir : t.isDir path = true) :
    t.isDir parent = true := by
  obtain ⟨hsound, hopen⟩ := (h.isDir_iff hstart).mp hdir
  obtain ⟨-, more, -, hnames⟩ := Path.exists_of_parent? hparent hne
  unfold Opens at hopen
  rw [hnames, ← start_parent t hparent hne] at hopen
  rw [← start_parent t hparent hne] at hstart
  exact (h.isDir_iff hstart).mpr ⟨pathFault?_parent hparent hne hsound, (open_append.mp hopen).1⟩

/-- Where the last name of a path to a directory is looked up, the directory stands under it. -/
theorem get?_of_isDir_of_parting (h : t.LinkFree) {base : Location} {n : String}
    (hdir : t.isDir path = true) (hp : t.parting path = .ok (base, some n)) :
    t.get? (base ++ [n]) = some .dir := by
  obtain ⟨l, hfind, hl⟩ := Tree.isDir_iff.mp hdir
  rw [← spot_of_parting h hp, ← eq_spot_of_find h hfind]
  exact hl

theorem ensureDir_of_isDir (h : t.LinkFree) (hdir : t.isDir path = true) :
    t.ensureDir path = .ok t := by
  unfold ensureDir
  cases hmake : t.makeDir path with
  | ok t' =>
    obtain ⟨base, n, hp, hget, -⟩ := makeDir_cases hmake
    rw [get?_of_isDir_of_parting h hdir hp] at hget
    cases hget
  | error e => exact if_pos hdir

/-- A directory that is there is not made. -/
theorem makeDirs_of_isDir (h : t.LinkFree) (hdir : t.isDir path = true) :
    t.makeDirs path = (.ok (), t) := by
  unfold makeDirs
  cases hparent : Path.parent? path with
  | none => rfl
  | some parent =>
    dsimp only
    unfold makeDirsWithin
    rw [ensureDir_of_isDir h hdir]

/-- A directory that was ensured was there or has been made at a free place. -/
theorem ensureDir_cases (h : t.ensureDir path = .ok t') :
    (t' = t ∧ t.isDir path = true) ∨ t.makeDir path = .ok t' := by
  unfold ensureDir at h
  split at h
  · next t₁ hmake =>
    cases h
    exact .inr hmake
  · split at h
    · next hdir =>
      cases h
      exact .inl ⟨rfl, hdir⟩
    · cases h

theorem isDir_of_makeDir (h : t.makeDir path = .ok t') : t'.isDir path = true := by
  have hwithin := makeDir_within h
  obtain ⟨base, n, hp, -, rfl⟩ := makeDir_cases h
  have hget : (t.set (base ++ [n]) .dir).get? (base ++ [n]) = some .dir := by
    rw [get?_set _ _ _ _ (by simp), if_pos rfl]
  exact Tree.isDir_iff.mpr ⟨_, find_of_parting (hwithin.parting hp) hget, hget⟩

theorem isDir_of_ensureDir (h : t.ensureDir path = .ok t') : t'.isDir path = true := by
  rcases ensureDir_cases h with ⟨rfl, hdir⟩ | hmake
  · exact hdir
  · exact isDir_of_makeDir hmake

/-- A directory is made at once, or after the directories that lead to it. -/
theorem makeDirsWithin_cases {depth : Nat} (h : t.makeDirsWithin depth path = (.ok (), t')) :
    t.ensureDir path = .ok t' ∨ ∃ depth' parent t₁, depth = depth' + 1 ∧
      Path.parent? path = some parent ∧ parent ≠ "" ∧
      t.makeDirsWithin depth' parent = (.ok (), t₁) ∧ t₁.ensureDir path = .ok t' := by
  unfold makeDirsWithin at h
  split at h
  · next hmake =>
    cases h
    exact .inl hmake
  · split at h
    · next depth' parent hparent =>
      split at h
      · cases h
      · next hne =>
        split at h
        · cases h
        · next t₁ hrec =>
          split at h
          · next hmake =>
            cases h
            exact .inr ⟨depth', parent, t₁, rfl, hparent, hne, hrec, hmake⟩
          · cases h
    · cases h
  · cases h

theorem isDir_of_makeDirsWithin {depth : Nat} (h : t.makeDirsWithin depth path = (.ok (), t')) :
    t'.isDir path = true := by
  rcases makeDirsWithin_cases h with hmake | ⟨_, _, _, -, -, -, -, hmake⟩
  · exact isDir_of_ensureDir hmake
  · exact isDir_of_ensureDir hmake

/-- A directory that was made is there. -/
theorem isDir_of_makeDirs (hparent : Path.parent? path ≠ none)
    (h : t.makeDirs path = (.ok (), t')) : t'.isDir path = true := by
  unfold makeDirs at h
  split at h
  · next hnone => exact absurd hnone hparent
  · exact isDir_of_makeDirsWithin h

/-! ## What is made -/

/-- The place of a new directory is the last stop of its path. -/
theorem spot_mem_stops (h : t.LinkFree) {base : Location} {n : String}
    (hp : t.parting path = .ok (base, some n)) :
    t.spot path ∈ stops (t.start path) (Path.names path) := by
  have hspot := spot_of_parting h hp
  obtain ⟨-, ns, hnames, hdot, hback, -, -, rfl⟩ := (parting_iff_of_linkFree h).mp hp
  rw [hspot, hnames, stops_append, stops, if_neg hdot, if_neg hback]
  exact List.mem_append_right _ (List.mem_cons_self ..)

/-- The place is a stop of the path, and a front of the path leads there. -/
def OnWay (t : Tree) (path : String) (l : Location) : Prop :=
  l ∈ stops (t.start path) (Path.names path) ∧
    ∃ front, Path.IsFront front path ∧ t.find front = .ok l

theorem OnWay.within (hl : t.OnWay path l) (h : t.Within t') : t'.OnWay path l := by
  obtain ⟨hstop, front, hfront, hfind⟩ := hl
  refine ⟨?_, front, hfront, h.find hfind⟩
  rwa [h.start_eq]

theorem OnWay.of_parent (hl : t.OnWay parent l) (h : Path.parent? path = some parent)
    (hne : parent ≠ "") : t.OnWay path l := by
  obtain ⟨hstop, front, hfront, hfind⟩ := hl
  refine ⟨?_, front, hfront.trans (Path.isFront_of_parent? h hne), hfind⟩
  obtain ⟨-, more, -, hnames⟩ := Path.exists_of_parent? h hne
  rw [hnames, stops_append, ← start_parent t h hne]
  exact List.mem_append_left _ hstop

/-- What is made when a directory is ensured is the place that its path leads to. -/
theorem Solid.ensureDir_made (h : t.Solid) (hstart : t.get? (t.start path) = some .dir)
    (hensure : t.ensureDir path = .ok t') : t'.Solid ∧
      Made (fun l => l ∈ stops (t'.start path) (Path.names path) ∧ t'.find path = .ok l) t t' := by
  have hdir := isDir_of_ensureDir hensure
  rcases ensureDir_cases hensure with ⟨rfl, -⟩ | hmake
  · exact ⟨h, .refl _ t'⟩
  · obtain ⟨rfl, hne, hnone, hsolid⟩ := h.makeDir_ok hstart hmake
    obtain ⟨base, n, hp, -, -⟩ := makeDir_cases hmake
    have hfind := (hsolid.find_of_isDir hdir).1
    rw [spot_congr (here_set t _ _)] at hfind
    have hstop : t.spot path ∈ stops (t.start path) (Path.names path) := spot_mem_stops h.linkFree hp
    exact ⟨hsolid, .set hne ⟨hstop, hfind⟩ hnone⟩

theorem Solid.makeDirsWithin_made (h : t.Solid) (hstart : t.get? (t.start path) = some .dir)
    (depth : Nat) : (t.makeDirsWithin depth path).2.Solid ∧
      Made ((t.makeDirsWithin depth path).2.OnWay path) t (t.makeDirsWithin depth path).2 := by
  fun_induction makeDirsWithin t depth path with
  | case1 _ path t₁ hmake =>
    obtain ⟨hsolid, hmade⟩ := h.ensureDir_made hstart hmake
    exact ⟨hsolid, hmade.mono fun l hl => ⟨hl.1, path, .refl path, hl.2⟩⟩
  | case2 | case6 | case7 => exact ⟨h, .refl _ t⟩
  | case3 path hmissing depth parent hparent hne e t₁ hrec ih =>
    rw [start_parent t hparent hne] at ih
    obtain ⟨hsolid, hmade⟩ := ih hstart
    rw [hrec] at hsolid hmade
    exact ⟨hsolid, hmade.mono fun l hl => hl.of_parent hparent hne⟩
  -- the parents are made first, then the directory itself
  | case4 path hmissing depth parent hparent hne t₁ hrec t₂ hmake ih =>
    rw [start_parent t hparent hne] at ih
    obtain ⟨hsolid, hmade⟩ := ih hstart
    rw [hrec] at hsolid hmade
    have hwithin := makeDirsWithin_within t depth parent
    rw [hrec] at hwithin
    obtain ⟨hsolid₂, hmade₂⟩ := hsolid.ensureDir_made (hwithin.get?_start hstart) hmake
    refine ⟨hsolid₂, .trans (hmade.mono fun l hl => ?_) (hmade₂.mono fun l hl => ?_)⟩
    · exact (hl.of_parent hparent hne).within (ensureDir_within hmake)
    · exact ⟨hl.1, path, .refl path, hl.2⟩
  | case5 path hmissing depth parent hparent hne t₁ hrec e _ ih =>
    rw [start_parent t hparent hne] at ih
    obtain ⟨hsolid, hmade⟩ := ih hstart
    rw [hrec] at hsolid hmade
    exact ⟨hsolid, hmade.mono fun l hl => hl.of_parent hparent hne⟩

/-- What is made stands at the stops of the path, and fronts of the path lead there. -/
theorem Solid.makeDirs_made (h : t.Solid) (hstart : t.get? (t.start path) = some .dir) :
    (t.makeDirs path).2.Solid ∧
      Made ((t.makeDirs path).2.OnWay path) t (t.makeDirs path).2 := by
  unfold makeDirs
  split
  · exact ⟨h, .refl _ t⟩
  · exact h.makeDirsWithin_made hstart _

/-! ## Below a tree that has the directory -/

theorem Within.ensureDir (h : t.Within u) (hu : u.LinkFree) (hdir : u.isDir path = true)
    (hensure : t.ensureDir path = .ok t') : t'.Within u := by
  rcases ensureDir_cases hensure with ⟨rfl, -⟩ | hmake
  · exact h
  · obtain ⟨base, n, hp, -, rfl⟩ := makeDir_cases hmake
    exact h.set (by simp) (get?_of_isDir_of_parting hu hdir (h.parting hp))

/-- Where a larger tree has the directory, it has all that is made on the way to it. -/
theorem Within.makeDirsWithin (h : t.Within u) (hu : u.Solid)
    (hstart : u.get? (u.start path) = some .dir) (hdir : u.isDir path = true) (depth : Nat) :
    (t.makeDirsWithin depth path).2.Within u := by
  fun_induction Tree.makeDirsWithin t depth path with
  | case1 _ _ t₁ hmake => exact h.ensureDir hu.linkFree hdir hmake
  | case2 | case6 | case7 => exact h
  | case3 path _ depth parent hparent hne e t₁ hrec ih =>
    rw [start_parent u hparent hne] at ih
    have hwithin := ih hstart (hu.isDir_parent hstart hparent hne hdir)
    rwa [hrec] at hwithin
  | case4 path _ depth parent hparent hne t₁ hrec t₂ hmake ih =>
    rw [start_parent u hparent hne] at ih
    have hwithin := ih hstart (hu.isDir_parent hstart hparent hne hdir)
    rw [hrec] at hwithin
    exact hwithin.ensureDir hu.linkFree hdir hmake
  | case5 path _ depth parent hparent hne t₁ hrec e _ ih =>
    rw [start_parent u hparent hne] at ih
    have hwithin := ih hstart (hu.isDir_parent hstart hparent hne hdir)
    rwa [hrec] at hwithin

/-! ## Made again -/

/-- In what is left of a tree in which a way is open, a walk along it arrives or misses something.
-/
theorem Remnant.stroll_dot (h : Remnant P t u) : ∀ (base : Location) (ns : List String),
    t.Open base ns → u.Open base ns ∨ u.stroll true base (ns ++ ["."]) = .done (.error .missing)
  | base, [], _ => .inl (open_nil u base)
  | base, n :: ns, ho => by
    rw [List.cons_append, stroll_cons]
    by_cases hdot : n = "."
    · rw [if_pos hdot]
      rw [hdot, open_dot_cons] at ho ⊢
      exact h.stroll_dot base ns ho
    by_cases hback : n = ".."
    · rw [if_neg hdot, if_pos hback]
      rw [hback, open_back_cons] at ho ⊢
      exact h.stroll_dot base.dropLast ns ho
    obtain ⟨hshort, hdir, ho⟩ := (open_name_cons hdot hback).mp ho
    rw [if_neg hdot, if_neg hback, if_neg (Nat.not_lt.mpr hshort), open_name_cons hdot hback]
    rcases h.get (base ++ [n]) with heq | ⟨hnone, -⟩
    · rw [hdir] at heq
      rw [shape?_eq_dir_iff.mpr heq]
      rcases h.stroll_dot (base ++ [n]) ns ho with hopen | hmissing
      · exact .inl ⟨hshort, heq, hopen⟩
      · exact .inr hmissing
    · rw [shape?_eq_none_iff.mpr hnone]
      exact .inr (by simp)

/-- A step on the spot leads to no other stop. -/
theorem open_of_dropLast {base : Location} {ns : List String} (h : u.Open base ns.dropLast)
    (hlast : ∀ n, ns.getLast? = some n → n = "." ∨ n = "..") : u.Open base ns := by
  rcases List.eq_nil_or_concat ns with rfl | ⟨ms, n, rfl⟩
  · exact h
  · rw [List.concat_eq_append] at h hlast ⊢
    rw [List.dropLast_concat] at h
    refine open_append.mpr ⟨h, ?_⟩
    rcases hlast n List.getLast?_concat with rfl | rfl
    · exact open_dot_cons.mpr (open_nil u _)
    · exact open_back_cons.mpr (open_nil u _)

/-- In what is left of a tree a directory that stands in the tree can be made, or directories on the
way to it are missing. -/
theorem Remnant.ensureDir (h : Remnant P t u) (ht : t.LinkFree) (hu : u.Solid)
    (hstart : u.get? (u.start path) = some .dir) (hdir : t.isDir path = true) :
    (∃ u', u.ensureDir path = .ok u') ∨ u.ensureDir path = .error .missing := by
  by_cases hdir' : u.isDir path = true
  · exact .inl ⟨u, ensureDir_of_isDir hu.linkFree hdir'⟩
  have hsound : pathFault? path = none := by
    obtain ⟨l, hfind, -⟩ := Tree.isDir_iff.mp hdir
    exact (find_eq_ok_iff.mp hfind).1
  have hopen : t.Open (u.start path) (Path.names path) := by
    rw [start_congr h.here]
    exact opens_of_isDir ht hdir
  have hnot : ¬ u.Open (u.start path) (Path.names path) := fun ho =>
    hdir' ((hu.isDir_iff hstart).mpr ⟨hsound, ho⟩)
  -- the way to the last name is open, or it misses something
  obtain ⟨ns, n, hnames⟩ : ∃ ns n, Path.names path = ns ++ [n] := by
    rcases List.eq_nil_or_concat (Path.names path) with hnil | ⟨ns, n, hnames⟩
    · rw [hnil] at hnot
      exact absurd (open_nil u _) hnot
    · exact ⟨ns, n, by rw [hnames, List.concat_eq_append]⟩
  have hplain : n ≠ "." ∧ n ≠ ".." ∨ ¬ u.Open (u.start path) ns := by
    by_cases hspot : n = "." ∨ n = ".."
    · refine .inr fun ho => hnot (open_of_dropLast ?_ ?_)
      · rwa [hnames, List.dropLast_concat]
      · intro m hm
        rw [hnames, List.getLast?_concat] at hm
        cases hm
        exact hspot
    · exact .inl (not_or.mp hspot)
  rw [hnames] at hopen
  unfold Tree.ensureDir makeDir
  rcases h.stroll_dot _ ns (open_append.mp hopen).1 with ho | hmissing
  · obtain ⟨hdot, hback⟩ := hplain.resolve_right (not_not_intro ho)
    have hp : u.parting path = .ok (reach (u.start path) ns, some n) :=
      (parting_iff_of_linkFree hu.linkFree).mpr
        ⟨hsound, ns, hnames, hdot, hback, hopen.short n (by simp), ho, rfl⟩
    rw [hp]
    dsimp only
    cases hget : u.get? (reach (u.start path) ns ++ [n]) with
    | none => exact .inl ⟨_, rfl⟩
    | some e =>
      -- what stands there stands in the larger tree too
      have hsame := (h.get _).resolve_right fun hfree => by rw [hfree.1] at hget; cases hget
      rw [get?_of_isDir_of_parting ht hdir (h.within.parting hp)] at hsame
      exact absurd (Tree.isDir_iff.mpr ⟨_, find_of_parting hp hsame, hsame⟩) hdir'
  · have hp : u.parting path = .error .missing := by
      unfold parting partingFrom checked
      dsimp only
      rw [hsound, hnames, List.dropLast_concat, walk_of_done hmissing]
      rfl
    rw [hp]
    exact .inr (if_neg hdir')

/-- A place that has been freed may become the directory again that it was. -/
theorem Remnant.set_dir (h : Remnant P t u) (hne : l ≠ []) (hl : t.get? l = some .dir) :
    Remnant P t (u.set l .dir) := by
  refine ⟨h.here, fun l' => ?_⟩
  rw [get?_set u l l' _ hne]
  split
  · next heq =>
    rw [heq, hl]
    exact .inl rfl
  · exact h.get l'

theorem Remnant.ensureDir_ok (h : Remnant P t u) (ht : t.LinkFree) (hdir : t.isDir path = true)
    (hensure : u.ensureDir path = .ok u') : Remnant P t u' := by
  rcases ensureDir_cases hensure with ⟨rfl, -⟩ | hmake
  · exact h
  · obtain ⟨base, n, hp, -, rfl⟩ := makeDir_cases hmake
    exact h.set_dir (by simp) (get?_of_isDir_of_parting ht hdir (h.within.parting hp))

/-- Where a directory can be ensured, nothing on the way to it is missing in a larger tree. -/
theorem Within.ensureDir_ne_missing (h : t.Within u) (hensure : t.ensureDir path = .ok t') :
    u.ensureDir path ≠ .error .missing := by
  intro hmissing
  rcases ensureDir_cases hensure with ⟨-, hdir⟩ | hmake
  · have hdir' := h.isDir hdir
    unfold Tree.ensureDir at hmissing
    split at hmissing
    · cases hmissing
    · rw [if_pos hdir'] at hmissing
      cases hmissing
  · obtain ⟨base, n, hp, -, -⟩ := makeDir_cases hmake
    have hoccupied {e : FileError} (he : u.makeDir path = .error e) : e = .occupied := by
      unfold makeDir at he
      rw [h.parting hp] at he
      dsimp only at he
      split at he <;> cases he
      rfl
    unfold Tree.ensureDir at hmissing
    split at hmissing
    · cases hmissing
    · next he =>
      split at hmissing
      · cases hmissing
      · rw [hoccupied he] at hmissing
        cases hmissing

/-- A directory that can be ensured at once leads to a tree between the same two. -/
theorem ensureDir_between (ht : t.Solid) {t₀ t₁ : Tree} {depth : Nat} (hu : u.Solid)
    (hstart : u.get? (u.start path) = some .dir) (hlower : t₀.Within u) (hupper : Remnant P t u)
    (hmade : t₀.makeDirsWithin depth path = (.ok (), t₁)) (hdir : t.isDir path = true)
    (hensure : u.ensureDir path = .ok u') : u'.Solid ∧ t₁.Within u' ∧ Remnant P t u' := by
  have hwithin := ensureDir_within hensure
  have hsolid := (hu.ensureDir_made hstart hensure).1
  have hbelow := (hlower.trans hwithin).makeDirsWithin hsolid (hwithin.get?_start hstart)
    (isDir_of_ensureDir hensure) depth
  rw [hmade] at hbelow
  exact ⟨hsolid, hbelow, hupper.ensureDir_ok ht.linkFree hdir hensure⟩

theorem makeDirsWithin_between (ht : t.Solid) {t₀ : Tree} : ∀ (depth : Nat) {path : String}
    {t₁ u : Tree}, u.Solid → u.get? (u.start path) = some .dir → t₀.Within u → Remnant P t u →
    t₀.makeDirsWithin depth path = (.ok (), t₁) → t₁.Within t →
    ∃ u₁, u.makeDirsWithin depth path = (.ok (), u₁) ∧ u₁.Solid ∧ t₁.Within u₁ ∧
      Remnant P t u₁
  | depth, path, t₁, u, hu, hstart, hlower, hupper, hmade, hbound => by
    have hdir := hbound.isDir (isDir_of_makeDirsWithin hmade)
    rcases hupper.ensureDir ht.linkFree hu hstart hdir with ⟨u₁, hu₁⟩ | hmissing
    · refine ⟨u₁, ?_, ensureDir_between ht hu hstart hlower hupper hmade hdir hu₁⟩
      unfold Tree.makeDirsWithin
      rw [hu₁]
    rcases makeDirsWithin_cases hmade with hensure |
      ⟨depth, parent, t₂, rfl, hparent, hne, hrec, hensure⟩
    · exact absurd hmissing (hlower.ensureDir_ne_missing hensure)
    -- the parents are made again first, and then nothing on the way is missing
    have hstart₀ : u.get? (u.start parent) = some .dir := by rwa [start_parent u hparent hne]
    obtain ⟨u₂, hrec', hsolid₂, hlower₂, hupper₂⟩ := makeDirsWithin_between ht depth hu hstart₀
      hlower hupper hrec ((ensureDir_within hensure).trans hbound)
    have hgrown := makeDirsWithin_within u depth parent
    rw [hrec'] at hgrown
    have hstart₂ := hgrown.get?_start hstart
    obtain ⟨u₁, hu₁⟩ := (hupper₂.ensureDir ht.linkFree hsolid₂ hstart₂ hdir).resolve_right
      (hlower₂.ensureDir_ne_missing hensure)
    have hmade₂ : t₂.makeDirsWithin 0 path = (.ok (), t₁) := by
      unfold Tree.makeDirsWithin
      rw [hensure]
    refine ⟨u₁, ?_, ensureDir_between ht hsolid₂ hstart₂ hlower₂ hupper₂ hmade₂ hdir hu₁⟩
    unfold Tree.makeDirsWithin
    rw [hmissing]
    dsimp only
    rw [hparent]
    dsimp only
    rw [if_neg hne, hrec']
    dsimp only
    rw [hu₁]

/-- **A directory is made again.** One that was made from a tree on can be made from every tree
between it and a larger one that has all that was made, and what comes of it lies between the same
two. -/
theorem makeDirs_between (ht : t.Solid) {t₀ t₁ : Tree} (hu : u.Solid)
    (hstart : u.get? (u.start path) = some .dir) (hlower : t₀.Within u) (hupper : Remnant P t u)
    (hmade : t₀.makeDirs path = (.ok (), t₁)) (hbound : t₁.Within t) :
    ∃ u₁, u.makeDirs path = (.ok (), u₁) ∧ u₁.Solid ∧ t₁.Within u₁ ∧ Remnant P t u₁ := by
  unfold makeDirs at hmade ⊢
  split at hmade
  · next hnone =>
    cases hmade
    exact ⟨u, rfl, hu, hlower, hupper⟩
  · exact makeDirsWithin_between ht path.length hu hstart hlower hupper hmade hbound

end Tree

end Testbench
