import Testbench.Proofs.Run.Clean
import Testbench.Proofs.Tree.Freeing

/-!
# Removing by name

What a run removes it names by a directory and one name. Where such a path leads somewhere, what
stands under the name is gone afterwards, be it a file, a directory or a link; where it leads
nowhere, nothing is removed.

- `tree_removePath_of_has`: a path that leads somewhere.
- `tree_removePath_of_not_has`: a path that leads nowhere.
-/

namespace Testbench

namespace Run

open Testbench.Tree

variable {s : Session} {dir name : String}

theorem isPlain_buildDir : Path.IsPlain buildDir ∧ Path.names buildDir = [buildDir] := by decide

/-- What a path leads by that is joined from a directory and a name is removed. -/
theorem tree_removePath_of_has (hplain : Path.IsPlain name) (hname : Path.names name = [name])
    (hhas : s.tree.has (Path.join dir name) = true) :
    ∃ d, s.tree.IsBase dir d ∧ s.tree.get? (d ++ [name]) ≠ none ∧
      (removePath (Path.join dir name) s).tree = s.tree.prune (d ++ [name]) := by
  obtain ⟨l, hfind, -⟩ := has_iff.mp hhas
  obtain ⟨d, hbase, hp, hget, hend⟩ := name_of_find hplain hname hfind
  refine ⟨d, hbase, hget, ?_⟩
  rw [tree_removePath, if_pos hhas]
  -- a directory is removed as one, and everything else as a file, unless a link leads to a directory
  obtain ⟨e, he⟩ := Option.ne_none_iff_exists'.mp hget
  unfold removeAll removeFile
  rw [hp]
  dsimp only
  rw [he]
  by_cases hdir : s.tree.isDir (Path.join dir name) = true
  · rw [if_pos hdir]
    obtain ⟨l', hl', hget'⟩ := Tree.isDir_iff.mp hdir
    rw [hfind] at hl'
    cases hl'
    by_cases hlink : ∃ target, e = .link target
    · obtain ⟨target, rfl⟩ := hlink
      rfl
    · have heq := hend fun target htarget => hlink ⟨target, Option.some.inj (he.symm.trans htarget)⟩
      rw [← heq, hget'] at he
      cases he
      rfl
  · rw [if_neg hdir]
    cases e with
    | dir => exact absurd (Tree.isDir_iff.mpr ⟨_, find_of_parting hp he, he⟩) hdir
    | _ => rfl

theorem tree_removePath_of_not_has {path : String} (h : ¬ s.tree.has path = true) :
    (removePath path s).tree = s.tree := by
  rw [tree_removePath, if_neg h]

end Run

end Testbench
