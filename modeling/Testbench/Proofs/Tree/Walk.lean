import Testbench.Proofs.Path
import Testbench.Proofs.Tree.Shape

/-!
# Walks along joined paths

What a path leads to, in terms of walks, and how the walk along a joined path goes on from where
its first part leads.

- `find_eq_ok_iff`, `parting_eq_some_iff`: when a path leads somewhere, and when its last name is
  to be looked up in a directory.
- `walk_append`, `exists_walk_of_append`: a walk along two lists of names is a walk along the
  first one up to a directory, and from there a walk along the second one. The links followed on
  both parts count together.
- `parting_join_of_find`: the entry under a name in the directory that a path leads to stands right
  below that directory.
- `Within.find`, `Within.parting`: what a path leads to in a tree it leads to in a larger one.
-/

namespace Testbench

namespace Tree

variable {t t' : Tree}

/-! ## Leading somewhere -/

theorem pathFault?_eq_none_iff {path : String} : pathFault? path = none ↔
    '\x00' ∉ path.toList ∧ path ≠ "" ∧ path.utf8ByteSize < pathLimit := by
  unfold pathFault?
  split
  · next hnul => simp [hnul]
  · next hnul =>
    split
    · next hempty => simp [hempty]
    · next hne =>
      split
      · next hlong => simp [Nat.not_lt.mpr hlong]
      · next hshort => simp [hnul, hne, Nat.not_le.mp hshort]

theorem pathFault?_ne_missing {path : String} (hne : path ≠ "") :
    pathFault? path ≠ some .missing := by
  unfold pathFault?
  rw [if_neg hne]
  split
  · simp
  · split <;> simp

/-- Where the text of a path is sound, so is what it starts with. -/
theorem pathFault?_of_append {path rest : String} (hne : path ≠ "")
    (hsound : pathFault? (path ++ rest) = none) : pathFault? path = none := by
  rw [pathFault?_eq_none_iff, String.toList_append, String.utf8ByteSize_append] at hsound
  obtain ⟨hnul, -, hshort⟩ := hsound
  exact pathFault?_eq_none_iff.mpr
    ⟨fun hmem => hnul (List.mem_append_left _ hmem), hne, by omega⟩

/-- A path leads to a place when its text is sound and the walk along it arrives there. -/
theorem find_eq_ok_iff {path : String} {l : Location} :
    t.find path = .ok l ↔
      pathFault? path = none ∧
        ∃ k, t.walk true linkLimit (t.start path) (Path.steps path) = .ok (k, .found l) := by
  unfold find checked
  cases pathFault? path with
  | some e => simp
  | none =>
    cases t.walk true linkLimit (t.start path) (Path.steps path) with
    | error e => simp
    | ok r =>
      obtain ⟨k, p⟩ := r
      cases p <;> simp

/-- The last name of a path is to be looked up in a directory when the text of the path is sound,
the walk along the other names ends in the directory, and the last name can be one of an entry. -/
theorem partingFrom_eq_some_iff {links k : Nat} {base dir : Location} {path n : String} :
    t.partingFrom links base path = .ok (k, dir, some n) ↔
      pathFault? path = none ∧
        t.walk true links base ((Path.names path).dropLast ++ ["."]) = .ok (k, .found dir) ∧
        (Path.names path).getLast? = some n ∧ n ≠ "." ∧ n ≠ ".." ∧
        n.utf8ByteSize ≤ nameLimit := by
  unfold partingFrom checked
  dsimp only
  cases pathFault? path with
  | some e => simp
  | none =>
    cases t.walk true links base ((Path.names path).dropLast ++ ["."]) with
    | error e => simp
    | ok r =>
      obtain ⟨k', p⟩ := r
      cases p with
      | vacant l => simp
      | found l =>
        cases hlast : (Path.names path).getLast? with
        | none => simp
        | some m =>
          dsimp only
          split
          · grind
          · split
            · grind
            · grind

theorem parting_eq_some_iff {path n : String} {dir : Location} :
    t.parting path = .ok (dir, some n) ↔
      ∃ k, t.partingFrom linkLimit (t.start path) path = .ok (k, dir, some n) := by
  unfold parting
  cases t.partingFrom linkLimit (t.start path) path with
  | error e => simp [Except.map]
  | ok r =>
    obtain ⟨k, r⟩ := r
    simp [Except.map]

theorem isDir_iff {path : String} :
    t.isDir path = true ↔ ∃ l, t.find path = .ok l ∧ t.get? l = some .dir := by
  unfold isDir entry?
  cases t.find path with
  | error e => simp
  | ok l =>
    cases h : t.get? l with
    | none => simp [h]
    | some e => cases e <;> simp [h, Entry.isDir]

theorem isFile_iff {path : String} :
    t.isFile path = true ↔
      ∃ l e, t.find path = .ok l ∧ t.get? l = some e ∧ e.isFile = true := by
  unfold isFile entry?
  cases t.find path with
  | error e => simp
  | ok l => simp [Option.any_eq_true]

theorem has_iff {path : String} :
    t.has path = true ↔ ∃ l, t.find path = .ok l ∧ t.get? l ≠ none := by
  unfold has entry?
  cases t.find path with
  | error e => simp
  | ok l => simp [Option.isSome_iff_ne_none]

/-! ## Walks in two parts -/

/-- A stroll along two lists of names strolls along the first one up to a directory and goes on
from there. The step `.` is what asks for a directory; where nothing follows, it is not asked
for, and the stroll may still succeed where the step fails, though not at a directory. -/
theorem stroll_append (t : Tree) (last : Bool) {ms : List String} (h : ms ≠ [] ∨ last = true) :
    ∀ (base : Location) (ns : List String),
      (∃ dir, t.stroll true base (ns ++ ["."]) = .done (.ok (.found dir)) ∧
        t.stroll last base (ns ++ ms) = t.stroll last dir ms) ∨
      (∃ e, t.stroll true base (ns ++ ["."]) = .done (.error e) ∧
        (ms ≠ [] → t.stroll last base (ns ++ ms) = .done (.error e)) ∧
        ∃ r, t.stroll last base (ns ++ ms) = .done r ∧
          ∀ l, r = .ok (.found l) → t.get? l ≠ some .dir) ∨
      ∃ base' target left, t.stroll true base (ns ++ ["."]) = .link base' target (left ++ ["."]) ∧
        t.stroll last base (ns ++ ms) = .link base' target (left ++ ms)
  | base, [] => .inl ⟨base, rfl, rfl⟩
  | base, n :: ns => by
    -- with names left, or where the last link counts, a link is followed in both strolls
    have hlink : ¬ (ns ++ ms = [] ∧ last = false) := by
      rintro ⟨hnil, hlast⟩
      rcases h with hms | htrue
      · exact hms (List.append_eq_nil_iff.mp hnil).2
      · rw [htrue] at hlast
        cases hlast
    rw [List.cons_append, List.cons_append, stroll_cons, stroll_cons]
    split
    · exact stroll_append t last h base ns
    split
    · exact stroll_append t last h base.dropLast ns
    split
    · exact .inr (.inl ⟨_, rfl, fun _ => rfl, _, rfl, by simp⟩)
    cases hs : t.shape? (base ++ [n]) with
    | none =>
      refine .inr (.inl ⟨.missing, by simp, fun hms => by simp [hms], ?_⟩)
      dsimp only
      split <;> exact ⟨_, rfl, by simp⟩
    | some s =>
      cases s with
      | dir => exact stroll_append t last h (base ++ [n]) ns
      | link target => exact .inr (.inr ⟨base, target, ns, by simp, rfl⟩)
      | leaf =>
        refine .inr (.inl ⟨.notDirectory, by simp, fun hms => by simp [hms], ?_⟩)
        dsimp only
        split
        · refine ⟨_, rfl, fun l hl hdir => ?_⟩
          cases hl
          rw [shape?_eq_dir_iff.mpr hdir] at hs
          cases hs
        · exact ⟨_, rfl, by simp⟩

/-- Where the walk along some names ends in a directory, a walk along more names goes on from
there, with the links that are left. -/
theorem walk_append {last : Bool} {ms : List String} (h : ms ≠ [] ∨ last = true)
    {links k : Nat} {base dir : Location} {ns : List String}
    (hdir : t.walk true links base (ns ++ ["."]) = .ok (k, .found dir)) :
    t.walk last links base (ns ++ ms) = t.walk last k dir ms := by
  rcases t.stroll_append last h base ns with
    ⟨dir', hdot, hmore⟩ | ⟨e, hdot, -, -⟩ | ⟨base', target, left, hdot, hmore⟩
  · rw [walk_of_done hdot] at hdir
    cases hdir
    unfold walk
    rw [hmore]
  · rw [walk_of_done hdot] at hdir
    cases hdir
  · cases links with
    | zero =>
      rw [walk_zero_of_link hdot] at hdir
      cases hdir
    | succ links =>
      rw [walk_of_link hdot] at hdir
      rw [walk_of_link hmore]
      split at hdir
      · cases hdir
      · next htarget =>
        rw [if_neg htarget, ← List.append_assoc]
        rw [← List.append_assoc] at hdir
        exact walk_append h hdir
termination_by links

/-- A walk along more names only arrives where the walk along the first of them ends in a
directory. -/
theorem exists_walk_of_append {last : Bool} {ms : List String} (h : ms ≠ [])
    {links k : Nat} {base l : Location} {ns : List String}
    (hw : t.walk last links base (ns ++ ms) = .ok (k, .found l)) :
    ∃ k' dir, t.walk true links base (ns ++ ["."]) = .ok (k', .found dir) := by
  rcases t.stroll_append last (.inl h) base ns with
    ⟨dir, hdot, -⟩ | ⟨e, -, hmore, -⟩ | ⟨base', target, left, hdot, hmore⟩
  · exact ⟨links, dir, by rw [walk_of_done hdot]; rfl⟩
  · rw [walk_of_done (hmore h)] at hw
    cases hw
  · cases links with
    | zero =>
      rw [walk_zero_of_link hmore] at hw
      cases hw
    | succ links =>
      rw [walk_of_link hmore] at hw
      rw [walk_of_link hdot]
      split at hw
      · cases hw
      · next htarget =>
        rw [if_neg htarget, ← List.append_assoc]
        rw [← List.append_assoc] at hw
        exact exists_walk_of_append h hw
termination_by links

/-- A walk that ends in a directory because it is asked to also ends there unasked. -/
theorem walk_of_walk_dot {links k : Nat} {base dir : Location} {ns : List String}
    (h : t.walk true links base (ns ++ ["."]) = .ok (k, .found dir)) :
    t.walk true links base ns = .ok (k, .found dir) := by
  have happend : t.walk true links base (ns ++ []) = t.walk true k dir [] :=
    walk_append (.inr rfl) h
  rw [List.append_nil] at happend
  rw [happend]
  unfold walk stroll
  rfl

/-- Walks along a plain path taken from a root start where those along the root start. -/
theorem start_join {root q : String} (hq : Path.IsPlain q) :
    t.start (Path.join root q) = t.start root := by
  unfold start
  rw [Path.isAbsolute_join hq.isAbsolute_eq]

/-- The entry under a name in the directory that a path leads to stands right below it. -/
theorem parting_join_of_find {dir name n : String} {l base : Location} (hplain : Path.IsPlain name)
    (hname : Path.names name = [name]) (hfind : t.find dir = .ok l)
    (hparting : t.parting (Path.join dir name) = .ok (base, some n)) : base = l ∧ n = name := by
  obtain ⟨k, hk⟩ := parting_eq_some_iff.mp hparting
  obtain ⟨-, hdot, hlast, -⟩ := partingFrom_eq_some_iff.mp hk
  obtain ⟨-, k', hwalk⟩ := find_eq_ok_iff.mp hfind
  rw [Path.names_join hplain.isAbsolute_eq, hname] at hdot hlast
  rw [List.dropLast_concat, start_join hplain] at hdot
  rw [List.getLast?_concat] at hlast
  refine ⟨?_, (Option.some.inj hlast).symm⟩
  -- whether the path ends in a slash or not, its walk ends where the one to the parent did
  rw [Path.steps] at hwalk
  split at hwalk
  · rw [hdot] at hwalk
    cases hwalk
    rfl
  · rw [List.append_nil, walk_of_walk_dot hdot] at hwalk
    cases hwalk
    rfl

/-! ## Larger trees -/

/-- Where a path leads in a tree it leads in every larger one. -/
theorem Within.find (h : t.Within t') {path : String} {l : Location} (hfind : t.find path = .ok l) :
    t'.find path = .ok l := by
  obtain ⟨hfault, k, hwalk⟩ := find_eq_ok_iff.mp hfind
  refine find_eq_ok_iff.mpr ⟨hfault, k, ?_⟩
  rw [h.start_eq]
  exact h.walk hwalk

theorem Within.isDir (h : t.Within t') {path : String} (hdir : t.isDir path = true) :
    t'.isDir path = true := by
  obtain ⟨l, hfind, hget⟩ := isDir_iff.mp hdir
  exact isDir_iff.mpr ⟨l, h.find hfind, h.get?_dir hget⟩

/-- Where the last name of a path is looked up in a tree it is looked up in every larger one. -/
theorem Within.parting (h : t.Within t') {path n : String} {dir : Location}
    (hparting : t.parting path = .ok (dir, some n)) : t'.parting path = .ok (dir, some n) := by
  obtain ⟨k, hk⟩ := parting_eq_some_iff.mp hparting
  obtain ⟨hfault, hwalk, hlast⟩ := partingFrom_eq_some_iff.mp hk
  refine parting_eq_some_iff.mpr ⟨k, partingFrom_eq_some_iff.mpr ⟨hfault, ?_, hlast⟩⟩
  rw [h.start_eq]
  exact h.walk hwalk

/-! ## Trees that are alike -/

theorem Alike.find (h : t.Alike t') (path : String) : t'.find path = t.find path := by
  unfold Tree.find
  rw [h.within.start_eq, h.walk]

theorem Alike.partingFrom (h : t.Alike t') (links : Nat) (base : Location) (path : String) :
    t'.partingFrom links base path = t.partingFrom links base path := by
  unfold Tree.partingFrom
  simp only [h.walk]

theorem Alike.parting (h : t.Alike t') (path : String) : t'.parting path = t.parting path := by
  unfold Tree.parting
  rw [h.within.start_eq, h.partingFrom]

theorem Alike.isDir (h : t.Alike t') (path : String) : t'.isDir path = t.isDir path := by
  rw [Bool.eq_iff_iff, isDir_iff, isDir_iff, h.find]
  simp only [h.get?_eq_dir_iff]

end Tree

end Testbench
