import Testbench.Proofs.Tree.Solid

/-!
# Clearing a directory

Where no links stand, what is removed under a name in a directory stands right below the place of
the directory, and whether it is removed is told by the way to the directory. So what is left in one
tree is left in a larger one as well, as long as the way does not lead through what is removed
there.

- `Tree.clear`, `Tree.removeBare`: a name in a directory, and a directory that is empty.
- `clear_remnant`, `removeBare_remnant`: what they leave.
- `Paired`: two trees of which a third one is to be kept.
- `Paired.clear`, `Paired.foldl`, `Paired.removeBare`: removing from both.
-/

namespace Testbench

namespace Tree

variable {t u x y : Tree} {dir name : String} {l : Location}

/-- The tree without what stands under a name in a directory, if the path leads to something. -/
def clear (t : Tree) (dir name : String) : Tree :=
  if t.has (Path.join dir name) then t.prune (t.spot dir ++ [name]) else t

/-- The tree without a directory, if it is empty. -/
def removeBare (t : Tree) (dir : String) : Tree :=
  match t.removeDir dir with
  | .ok t => t
  | .error _ => t

theorem get?_clear (t : Tree) (dir name : String) (l : Location) :
    (t.clear dir name).get? l =
      if t.has (Path.join dir name) = true ∧ t.spot dir ++ [name] <+: l then none
      else t.get? l := by
  unfold clear
  by_cases hhas : t.has (Path.join dir name) = true
  · rw [if_pos hhas, get?_prune t _ l (by simp)]
    simp only [hhas, true_and]
  · rw [if_neg hhas, if_neg fun h => hhas h.1]

@[simp] theorem here_clear (t : Tree) (dir name : String) : (t.clear dir name).here = t.here := by
  unfold clear
  split <;> rfl

theorem Solid.clear (h : t.Solid) (dir name : String) : (t.clear dir name).Solid := by
  unfold Tree.clear
  split
  · exact h.prune (by simp)
  · exact h

theorem clear_remnant (t : Tree) (dir name : String) :
    Remnant (t.spot dir ++ [name] <+: ·) t (t.clear dir name) := by
  refine ⟨here_clear t dir name, fun l => ?_⟩
  rw [get?_clear]
  split
  · next h => exact .inr ⟨rfl, h.2⟩
  · exact .inl rfl

theorem foldl_clear_remnant (dir : String) : ∀ (names : List String) (t : Tree),
    Remnant (fun l => ∃ name ∈ names, t.spot dir ++ [name] <+: l) t
      (names.foldl (Tree.clear · dir) t)
  | [], t => .refl _ t
  | name :: names, t => by
    have hfirst := (clear_remnant t dir name).mono
      (Q := fun l => ∃ name' ∈ name :: names, t.spot dir ++ [name'] <+: l)
      fun l hl => ⟨name, List.mem_cons_self, hl⟩
    refine hfirst.trans ((foldl_clear_remnant dir names (t.clear dir name)).mono ?_)
    rintro l ⟨name', hname', hl⟩
    rw [spot_congr (here_clear t dir name)] at hl
    exact ⟨name', List.mem_cons_of_mem _ hname', hl⟩

theorem Solid.foldl_clear (dir : String) : ∀ (names : List String) {t : Tree}, t.Solid →
    (names.foldl (Tree.clear · dir) t).Solid
  | [], _, h => h
  | _ :: names, _, h => Solid.foldl_clear dir names (h.clear dir _)

theorem removeBare_remnant (h : t.LinkFree) (dir : String) :
    Remnant (· = t.spot dir) t (t.removeBare dir) := by
  unfold removeBare
  split
  · next t' hremove =>
    obtain ⟨l, hfind, -, hremnant⟩ := remnant_of_removeDir hremove
    refine hremnant.mono ?_
    rintro _ rfl
    exact eq_spot_of_find h hfind
  · exact .refl _ t

theorem Solid.removeBare (h : t.Solid) (dir : String) : (t.removeBare dir).Solid := by
  unfold Tree.removeBare
  split
  · next t' hremove =>
    obtain ⟨base, n, -, -, -, rfl⟩ := removeDir_cases hremove
    exact h.prune (by simp)
  · exact h

/-! ## Removing from two trees -/

/-- Two trees that both hold a third one. Where the second leads to a directory, the first has all
directories that its path leaves by `..`. -/
structure Paired (dir : String) (u x y : Tree) : Prop where
  left : x.Solid
  right : y.Solid
  lower : u.Within x
  upper : u.Within y
  grounded : y.Opens dir → ∀ l, IsLeft (u.start dir) (Path.names dir) l → x.get? l = some .dir

namespace Paired

variable (h : Paired dir u x y) (hu : u.get? (u.spot dir) = some .dir)
include h hu

/-- Where the second tree leads to a directory that the third one has, the first does too. -/
theorem opens (hy : y.Opens dir) : x.Opens dir := by
  have hspot := h.lower.get?_dir hu
  unfold Opens
  rw [h.lower.start_eq]
  exact h.left.closed.open_of_reach hy.short hspot (h.grounded hy)

/-- What stands below the directory in the third tree is not removed from the second one, if it is
not removed from the first one. -/
theorem clear_within (hplain : Path.IsPlain name) (hname : Path.names name = [name])
    (hkept : u.Within (x.clear dir name)) : u.Within (y.clear dir name) := by
  refine ⟨(here_clear y dir name).trans h.upper.here, fun l s hs => ?_⟩
  have hget : u.get? l ≠ none := by
    intro hnone
    rw [shape?_eq_none_iff.mpr hnone] at hs
    cases hs
  have hx := hkept.get?_ne_none hget
  rw [get?_clear, spot_congr h.lower.here] at hx
  have hy := get?_clear y dir name l
  rw [spot_congr h.upper.here] at hy
  by_cases hgone : y.has (Path.join dir name) = true ∧ u.spot dir ++ [name] <+: l
  · -- the first tree would have lost it as well
    obtain ⟨hhas, hbelow⟩ := hgone
    obtain ⟨hsound, hopen, hshort, -⟩ := (has_join_iff h.right.linkFree hplain hname).mp hhas
    have hplace := h.left.closed.get?_ne_none_of_prefix hbelow (h.lower.get?_ne_none hget)
    have hhas' : x.has (Path.join dir name) = true := by
      refine (has_join_iff h.left.linkFree hplain hname).mpr ⟨hsound, h.opens hu hopen, hshort, ?_⟩
      rwa [spot_congr h.lower.here]
    rw [if_pos ⟨hhas', hbelow⟩] at hx
    exact absurd rfl hx
  · rw [if_neg hgone] at hy
    unfold shape?
    rw [hy]
    exact h.upper.shape l s hs

theorem clear (hstart : u.get? (u.start dir) = some .dir) (hplain : Path.IsPlain name)
    (hname : Path.names name = [name]) (hkept : u.Within (x.clear dir name)) :
    Paired dir u (x.clear dir name) (y.clear dir name) := by
  have hupper := h.clear_within hu hplain hname hkept
  refine ⟨h.left.clear dir name, h.right.clear dir name, hkept, hupper, fun hopen l hl => ?_⟩
  unfold Opens at hopen
  rw [hupper.start_eq] at hopen
  have hopen' : y.Opens dir := by
    unfold Opens
    rw [h.upper.start_eq]
    exact (clear_remnant y dir name).within.open hopen
  have hget := h.grounded hopen' l hl
  rw [get?_clear, spot_congr h.lower.here]
  by_cases hgone : x.has (Path.join dir name) = true ∧ u.spot dir ++ [name] <+: l
  · -- the second tree would have lost it as well, and its path would not lead on
    obtain ⟨hhas, hbelow⟩ := hgone
    obtain ⟨hsound, -, hshort, -⟩ := (has_join_iff h.left.linkFree hplain hname).mp hhas
    have hlater := (h.right.clear dir name).closed.get?_of_isLeft (hupper.get?_dir hstart) hopen hl
    have hplace := h.right.closed.get?_ne_none_of_prefix hbelow
      ((clear_remnant y dir name).within.get?_ne_none (by rw [hlater]; simp))
    have hhas' : y.has (Path.join dir name) = true := by
      refine (has_join_iff h.right.linkFree hplain hname).mpr ⟨hsound, hopen', hshort, ?_⟩
      rwa [spot_congr h.upper.here]
    rw [get?_clear, spot_congr h.upper.here, if_pos ⟨hhas', hbelow⟩] at hlater
    cases hlater
  · rw [if_neg hgone]
    exact hget

end Paired

/-- Where a tree keeps all that the first tree has left of several names, it loses none of it when
they are removed from the second one. -/
theorem Paired.foldl (hu : u.get? (u.spot dir) = some .dir) (hstart : u.get? (u.start dir) = some .dir) :
    ∀ (names : List String) {x y : Tree}, Paired dir u x y →
      (∀ name ∈ names, Path.IsPlain name ∧ Path.names name = [name]) →
      u.Within (names.foldl (Tree.clear · dir) x) →
      Paired dir u (names.foldl (Tree.clear · dir) x) (names.foldl (Tree.clear · dir) y)
  | [], _, _, h, _, _ => h
  | name :: names, x, y, h, hnames, hkept => by
    obtain ⟨⟨hplain, hname⟩, hnames⟩ := List.forall_mem_cons.mp hnames
    have hnext : u.Within (x.clear dir name) :=
      hkept.trans (foldl_clear_remnant dir names (x.clear dir name)).within
    exact Paired.foldl hu hstart names (h.clear hu hstart hplain hname hnext) hnames hkept

/-- A directory that is kept in the first tree is not removed from the second one as an empty
one. -/
theorem Paired.removeBare (h : Paired dir u x y) (hu : u.get? (u.spot dir) = some .dir)
    (hux : u = x.removeBare dir) : u.Within (y.removeBare dir) := by
  unfold Tree.removeBare
  cases hy : y.removeDir dir with
  | error e => exact h.upper
  | ok y' =>
    exfalso
    obtain ⟨base, n, hp, hdir, hbare, -⟩ := removeDir_cases hy
    have hspot := spot_of_parting h.right.linkFree hp
    rw [spot_congr h.upper.here] at hspot
    have hfind := find_of_parting hp hdir
    have hopen := h.opens hu (opens_of_isDir h.right.linkFree (Tree.isDir_iff.mpr ⟨_, hfind, hdir⟩))
    -- the first tree has the directory at the same place
    obtain ⟨hsound, ns, hnames, hdot, hback, hshort, -, rfl⟩ :=
      (parting_iff_of_linkFree h.right.linkFree).mp hp
    rw [h.upper.start_eq] at hspot hdir hbare
    have hget := h.lower.get?_dir hu
    unfold Opens at hopen
    rw [hnames] at hopen
    have hp' : x.parting dir = .ok (reach (u.start dir) ns, some n) := by
      refine (parting_iff_of_linkFree h.left.linkFree).mpr
        ⟨hsound, ns, hnames, hdot, hback, hshort, (open_append.mp hopen).1, ?_⟩
      rw [h.lower.start_eq]
    rw [hspot] at hu hget
    have hremove := removeDir_eq_of_parting hp' hget
    unfold Tree.removeBare at hux
    rw [hremove] at hux
    by_cases hx : x.isBare (reach (u.start dir) ns ++ [n]) = true
    · rw [if_pos hx] at hux
      dsimp only at hux
      have hgone := congrArg (Tree.get? · (reach (u.start dir) ns ++ [n])) hux
      rw [hu, get?_prune _ _ _ (by simp), if_pos (List.prefix_refl _)] at hgone
      cases hgone
    · rw [if_neg hx] at hux
      dsimp only at hux
      obtain ⟨l, hbelow, hne, hl⟩ := exists_of_not_isBare hx
      rw [← hux] at hl
      exact h.upper.get?_ne_none hl (get?_of_isBare hbare hbelow hne)

end Tree

end Testbench
