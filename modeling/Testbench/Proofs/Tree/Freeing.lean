import Testbench.Proofs.Tree.Landing
import Testbench.Proofs.Tree.Remnant
import Testbench.Proofs.Tree.Solid

/-!
# Freeing places

What is pruned is gone, whether anything stood there or not. A path that is joined from a directory
and one name leads to what stands under the name in the directory from which the path is taken, and
removing by way of such a path prunes it, if it leads somewhere.

- `Tree.pruneAll`, `pruneAll_of_free`: several places, and places where nothing stands.
- `Tree.base?`: the directory from which the paths below a root are taken.
- `exists_isBase_of_find`, `find_of_isBase`, `isBase_of_find`: where a root leads, and its base.
- `name_of_find`: a path that is joined from a directory and a name.
-/

namespace Testbench

namespace Tree

variable {t u : Tree} {l : Location}

/-! ## Several places -/

/-- The tree without some places and all that stands below them. -/
def pruneAll (t : Tree) (ls : List Location) : Tree := ls.foldl Tree.prune t

theorem pruneAll_append (t : Tree) (ls ls' : List Location) :
    t.pruneAll (ls ++ ls') = (t.pruneAll ls).pruneAll ls' := List.foldl_append

theorem get?_pruneAll : ∀ (ls : List Location) (t : Tree), (∀ l ∈ ls, l ≠ []) → ∀ l',
    (t.pruneAll ls).get? l' = if ∃ l ∈ ls, l <+: l' then none else t.get? l'
  | [], t, _, l' => by simp [pruneAll]
  | l :: ls, t, h, l' => by
    obtain ⟨hl, hls⟩ := List.forall_mem_cons.mp h
    show ((t.prune l).pruneAll ls).get? l' = _
    rw [get?_pruneAll ls (t.prune l) hls, get?_prune t l l' hl]
    by_cases hbelow : l <+: l'
    · simp [hbelow]
    · simp [hbelow]

theorem pruneAll_remnant (t : Tree) {ls : List Location} (h : ∀ l ∈ ls, l ≠ []) :
    Remnant (fun l' => ∃ l ∈ ls, l <+: l') t (t.pruneAll ls) := by
  refine ⟨?_, fun l' => ?_⟩
  · induction ls generalizing t with
    | nil => rfl
    | cons l ls ih => exact ih (t.prune l) (List.forall_mem_cons.mp h).2
  · rw [get?_pruneAll ls t h]
    split
    · next hbelow => exact .inr ⟨rfl, hbelow⟩
    · exact .inl rfl

theorem Closed.pruneAll : ∀ (ls : List Location) {t : Tree}, t.Closed → (∀ l ∈ ls, l ≠ []) →
    (t.pruneAll ls).Closed
  | [], _, h, _ => h
  | l :: ls, t, h, hne => by
    obtain ⟨hl, hls⟩ := List.forall_mem_cons.mp hne
    show ((t.prune l).pruneAll ls).Closed
    exact Closed.pruneAll ls (h.prune hl) hls

/-- All that is listed stands somewhere. -/
theorem get?_ne_none_of_mem {x : Location × Entry} (h : x ∈ t.entries) : t.get? x.1 ≠ none := by
  unfold get?
  split
  · simp
  · intro hnone
    simpa using List.lookup_eq_none_iff.mp hnone x h

/-- Where nothing stands, nothing is pruned. -/
theorem prune_of_free (h : t.Closed) (hfree : t.get? l = none) : t.prune l = t := by
  unfold Tree.prune
  rw [List.filter_eq_self.mpr]
  intro x hx
  rw [Bool.not_eq_true', ← Bool.not_eq_true, List.isPrefixOf_iff_prefix]
  exact fun hbelow => h.get?_ne_none_of_prefix hbelow (get?_ne_none_of_mem hx) hfree

theorem pruneAll_of_free (h : t.Closed) : ∀ {ls : List Location}, (∀ l ∈ ls, t.get? l = none) →
    t.pruneAll ls = t
  | [], _ => rfl
  | l :: ls, hfree => by
    obtain ⟨hl, hls⟩ := List.forall_mem_cons.mp hfree
    show (t.prune l).pruneAll ls = t
    rw [prune_of_free h hl, pruneAll_of_free h hls]

/-! ## Larger trees -/

theorem Within.has (h : t.Within u) {path : String} (hhas : t.has path = true) :
    u.has path = true := by
  obtain ⟨l, hfind, hget⟩ := has_iff.mp hhas
  exact has_iff.mpr ⟨l, h.find hfind, h.get?_ne_none hget⟩

/-! ## Where paths are taken from -/

variable {root dir name : String} {b d : Location}

/-- The directory from which the paths below a root are taken, if the root leads to one. -/
def base? (t : Tree) (root : String) : Option Location :=
  match t.walk true linkLimit (t.start root) (Path.names root ++ ["."]) with
  | .ok (_, .found b) => some b
  | _ => none

theorem base?_eq_some_iff : t.base? root = some b ↔ t.IsBase root b := by
  unfold base? IsBase
  split
  · next k b' hwalk =>
    rw [hwalk]
    simp
  · next hnot =>
    constructor
    · rintro ⟨⟩
    · rintro ⟨k, hwalk⟩
      exact absurd hwalk (hnot k b)

theorem IsBase.eq (h : t.IsBase root b) (h' : t.IsBase root d) : b = d :=
  Option.some.inj ((base?_eq_some_iff.mpr h).symm.trans (base?_eq_some_iff.mpr h'))

/-- Where the text of a joined path is sound, so is that of its base. -/
theorem pathFault?_of_join {q : String} (hne : root ≠ "") (hq : Path.IsPlain q)
    (hsound : pathFault? (Path.join root q) = none) : pathFault? root = none := by
  rw [Path.join_eq_lead hq.isAbsolute_eq] at hsound
  unfold Path.lead at hsound
  split at hsound
  · exact pathFault?_of_append hne hsound
  · rw [String.append_assoc] at hsound
    exact pathFault?_of_append hne hsound

/-- A root whose text is sound leads to its base. -/
theorem find_of_isBase (hsound : pathFault? root = none) (h : t.IsBase root b) :
    t.find root = .ok b := by
  obtain ⟨k, hwalk⟩ := h
  refine find_eq_ok_iff.mpr ⟨hsound, k, ?_⟩
  unfold Path.steps
  split
  · exact hwalk
  · rw [List.append_nil]
    exact walk_of_walk_dot hwalk

/-- Where a relative path below a root leads somewhere, the root has a base. -/
theorem exists_isBase_of_find {q : String} (habs : Path.isAbsolute q = false)
    (hne : Path.names q ≠ []) (hfind : t.find (Path.join root q) = .ok l) : ∃ b, t.IsBase root b := by
  obtain ⟨-, k, hwalk⟩ := find_eq_ok_iff.mp hfind
  unfold Path.steps at hwalk
  rw [Path.names_join habs, List.append_assoc] at hwalk
  obtain ⟨k', b, hbase⟩ := exists_walk_of_append (by simp [hne]) hwalk
  unfold start at hbase
  rw [Path.isAbsolute_join habs] at hbase
  exact ⟨b, k', hbase⟩

/-- A walk that ends at a directory also ends there when it is asked for one. -/
theorem walk_dot_of_dir (hdir : t.get? l = some .dir) {k : Nat} :
    ∀ (links : Nat) (base : Location) (ns : List String),
      t.walk true links base ns = .ok (k, .found l) →
        t.walk true links base (ns ++ ["."]) = .ok (k, .found l)
  | links, base, ns, h => by
    have hlast : ([] : List String) ≠ [] ∨ true = true := .inr rfl
    rcases t.stroll_append true hlast base ns with
      ⟨d, hdot, hmore⟩ | ⟨e, -, -, r, hmore, hnot⟩ | ⟨base', target, left, hdot, hmore⟩
    · rw [List.append_nil] at hmore
      rw [walk_of_done hmore] at h
      rw [walk_of_done hdot]
      exact h
    · rw [List.append_nil] at hmore
      rw [walk_of_done hmore] at h
      cases r with
      | error e => cases h
      | ok p =>
        cases h
        exact absurd hdir (hnot l rfl)
    · rw [List.append_nil, List.append_nil] at hmore
      cases links with
      | zero =>
        rw [walk_zero_of_link hmore] at h
        cases h
      | succ links =>
        rw [walk_of_link hmore] at h
        rw [walk_of_link hdot]
        split at h
        · cases h
        · next htarget =>
          rw [if_neg htarget, ← List.append_assoc]
          exact walk_dot_of_dir hdir links _ _ h

/-- A path that leads to a directory has it as its base. -/
theorem isBase_of_find (hfind : t.find dir = .ok d) (hdir : t.get? d = some .dir) :
    t.IsBase dir d := by
  obtain ⟨-, k, hwalk⟩ := find_eq_ok_iff.mp hfind
  refine ⟨k, ?_⟩
  unfold Path.steps at hwalk
  split at hwalk
  · exact hwalk
  · rw [List.append_nil] at hwalk
    exact walk_dot_of_dir hdir _ _ _ hwalk

/-! ## A name in a directory -/

section Name

variable (hplain : Path.IsPlain name) (hname : Path.names name = [name])
include hplain hname

/-- A path that is joined from a directory and a name leads by way of what stands under the name.
What is no link is its end. -/
theorem name_of_find (hfind : t.find (Path.join dir name) = .ok l) :
    ∃ d, t.IsBase dir d ∧ t.parting (Path.join dir name) = .ok (d, some name) ∧
      t.get? (d ++ [name]) ≠ none ∧
      ((∀ target, t.get? (d ++ [name]) ≠ some (.link target)) → l = d ++ [name]) := by
  obtain ⟨hdot, hback⟩ := hplain.ne_of_mem_names (n := name) (by rw [hname]; simp)
  obtain ⟨hsound, k', hwalk⟩ := find_eq_ok_iff.mp hfind
  rw [start_join hplain, hplain.steps_join, hname] at hwalk
  obtain ⟨k, d, hbase⟩ := exists_walk_of_append (by simp) hwalk
  rw [walk_append (.inr rfl) hbase] at hwalk
  have hshort : name.utf8ByteSize ≤ nameLimit := by
    refine Nat.not_lt.mp fun hlong => ?_
    have hs := stroll_cons t true d name []
    rw [if_neg hdot, if_neg hback, if_pos hlong] at hs
    rw [walk_of_done hs] at hwalk
    cases hwalk
  refine ⟨d, ⟨k, hbase⟩, ?_, fun hnone => ?_, fun hlink => ?_⟩
  · refine parting_eq_some_iff.mpr ⟨k, partingFrom_eq_some_iff.mpr ⟨hsound, ?_, ?_, hdot, hback,
      hshort⟩⟩
    · rw [start_join hplain, Path.names_join hplain.isAbsolute_eq, hname, List.dropLast_concat]
      exact hbase
    · rw [Path.names_join hplain.isAbsolute_eq, hname, List.getLast?_concat]
  · have hlink : ∀ target, t.get? (d ++ [name]) ≠ some (.link target) := by
      rw [hnone]
      simp
    exact ((walk_single_iff hlink hdot hback).mp hwalk).2.2.2 hnone
  · exact ((walk_single_iff hlink hdot hback).mp hwalk).2.2.1

end Name

end Tree

end Testbench
