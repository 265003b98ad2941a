import Testbench.Proofs.Tree.Landing
import Testbench.Proofs.Tree.Lexical

/-!
# Operations without links

In a tree without links and gaps, whatever is done by way of a path happens at the place that its
names lead to, and leaves a tree without links and gaps.

- `Solid`: neither links nor gaps.
- `Solid.isDir_iff`, `Solid.has_join_iff`: directories, and names in a directory.
- `encloses_eq_false_iff`: when one directory does not hold another one.
- `Solid.makeDir_ok`, `write_eq_of_parting`, `removeDir_eq_of_parting`: what is added and removed,
  and where.
-/

namespace Testbench

namespace Tree

variable {t t' : Tree} {path dir name : String} {base l : Location}

/-- Neither links nor gaps. -/
structure Solid (t : Tree) : Prop where
  closed : t.Closed
  linkFree : t.LinkFree

/-- A tree is solid if what is listed are ordinary entries that stand in directories. -/
theorem solid_of_entries (hclosed : ∀ x ∈ t.entries, t.get? x.1.dropLast = some .dir)
    (hordinary : ∀ x ∈ t.entries, x.2.isOrdinary = true) : t.Solid := by
  refine ⟨closed_of_entries hclosed, fun l target hget => ?_⟩
  rcases mem_entries_of_get? hget with ⟨-, heq⟩ | hmem
  · cases heq
  · exact Bool.false_ne_true (hordinary _ hmem)

/-- An entry that is no link may be put into a directory if nothing is lost. -/
theorem Solid.set (h : t.Solid) {e : Entry} (hne : l ≠ [])
    (hparent : t.get? l.dropLast = some .dir) (hwithin : t.Within (t.set l e))
    (he : ∀ target, e ≠ .link target) : (t.set l e).Solid := by
  refine ⟨h.closed.set hne hparent hwithin, fun l' target hget => ?_⟩
  rw [get?_set t l l' e hne] at hget
  split at hget
  · exact he target (Option.some.inj hget)
  · exact h.linkFree l' target hget

theorem Closed.prune (h : t.Closed) (hne : l ≠ []) : (t.prune l).Closed := by
  intro l' e hget
  rw [get?_prune t l l' hne] at hget
  split at hget
  · cases hget
  · next hbelow =>
    have hparent : ¬ l <+: l'.dropLast := fun hp => hbelow (hp.trans (List.dropLast_prefix l'))
    rw [get?_prune t l _ hne, if_neg hparent]
    exact h l' e hget

theorem Solid.prune (h : t.Solid) (hne : l ≠ []) : (t.prune l).Solid := by
  refine ⟨h.closed.prune hne, fun l' target hget => ?_⟩
  rw [get?_prune t l l' hne] at hget
  split at hget
  · cases hget
  · exact h.linkFree l' target hget

/-! ## What stands where -/

/-- A stroll that arrives at a directory comes along an open way. -/
theorem open_of_stroll : ∀ (base : Location) (ns : List String),
    t.stroll true base ns = .done (.ok (.found l)) → t.get? l = some .dir → t.Open base ns
  | base, [], _, _ => open_nil t base
  | base, n :: ns, hs, hl => by
    rw [stroll_cons] at hs
    by_cases hdot : n = "."
    · rw [if_pos hdot] at hs
      rw [hdot, open_dot_cons]
      exact open_of_stroll base ns hs hl
    by_cases hback : n = ".."
    · rw [if_neg hdot, if_pos hback] at hs
      rw [hback, open_back_cons]
      exact open_of_stroll base.dropLast ns hs hl
    rw [if_neg hdot, if_neg hback] at hs
    split at hs
    · cases hs
    · next hshort =>
      split at hs
      · split at hs <;> cases hs
      · next hdir =>
        have hnext := open_of_stroll (base ++ [n]) ns hs hl
        exact (open_name_cons hdot hback).mpr
          ⟨Nat.not_lt.mp hshort, shape?_eq_dir_iff.mp hdir, hnext⟩
      · rw [if_neg (by simp)] at hs
        cases hs
      · next hleaf =>
        split at hs <;> cases hs
        rw [shape?_eq_dir_iff.mpr hl] at hleaf
        cases hleaf

theorem opens_of_isDir (h : t.LinkFree) (hdir : t.isDir path = true) : t.Opens path := by
  obtain ⟨l, hfind, hl⟩ := isDir_iff.mp hdir
  exact (open_append.mp (open_of_stroll _ _ (stroll_of_find h hfind) hl)).1

/-- A path leads to a directory when its text is sound and its way is open. -/
theorem Solid.isDir_iff (h : t.Solid) (hstart : t.get? (t.start path) = some .dir) :
    t.isDir path = true ↔ pathFault? path = none ∧ t.Opens path := by
  constructor
  · intro hdir
    obtain ⟨l, hfind, -⟩ := Tree.isDir_iff.mp hdir
    exact ⟨(find_eq_ok_iff.mp hfind).1, opens_of_isDir h.linkFree hdir⟩
  · rintro ⟨hsound, hopen⟩
    have hdot : t.walk true linkLimit (t.start path) (Path.names path ++ ["."]) =
        .ok (linkLimit, .found (t.spot path)) :=
      (walk_dot_iff h.linkFree).mpr ⟨rfl, hopen, rfl⟩
    refine Tree.isDir_iff.mpr ⟨t.spot path, find_eq_ok_iff.mpr ⟨hsound, linkLimit, ?_⟩,
      h.closed.get?_reach _ _ hstart hopen⟩
    unfold Path.steps
    split
    · exact hdot
    · rw [List.append_nil]
      exact walk_of_walk_dot hdot

/-- A path that leads to a directory leads to the place of its names. -/
theorem Solid.find_of_isDir (h : t.Solid) (hdir : t.isDir path = true) :
    t.find path = .ok (t.spot path) ∧ t.get? (t.spot path) = some .dir := by
  obtain ⟨l, hfind, hl⟩ := Tree.isDir_iff.mp hdir
  have hspot := eq_spot_of_find h.linkFree hfind
  rw [← hspot]
  exact ⟨hfind, hl⟩

/-- A plain name in a directory leads to whatever stands under it. -/
theorem find_join_iff (h : t.LinkFree) (hplain : Path.IsPlain name)
    (hname : Path.names name = [name]) :
    t.find (Path.join dir name) = .ok l ↔ pathFault? (Path.join dir name) = none ∧
      t.Opens dir ∧ name.utf8ByteSize ≤ nameLimit ∧ l = t.spot dir ++ [name] ∧
      t.get? (t.spot dir ++ [name]) ≠ none := by
  obtain ⟨hdot, hback⟩ := hplain.ne_of_mem_names (n := name) (by rw [hname]; simp)
  have hlast (links k : Nat) (d : Location) : t.walk true links d [name] = .ok (k, .found l) ↔
      k = links ∧ name.utf8ByteSize ≤ nameLimit ∧ l = d ++ [name] ∧ t.get? (d ++ [name]) ≠ none :=
    walk_single_iff (h (d ++ [name])) hdot hback
  rw [find_eq_ok_iff, start_join hplain, hplain.steps_join, hname]
  constructor
  · rintro ⟨hsound, k, hwalk⟩
    obtain ⟨k', d, hd⟩ := exists_walk_of_append (by simp) hwalk
    rw [walk_append (.inl (by simp)) hd] at hwalk
    obtain ⟨-, hopen, rfl⟩ := (walk_dot_iff h).mp hd
    obtain ⟨-, hshort, rfl, hget⟩ := (hlast k' k _).mp hwalk
    exact ⟨hsound, hopen, hshort, rfl, hget⟩
  · rintro ⟨hsound, hopen, hshort, rfl, hget⟩
    have hd : t.walk true linkLimit (t.start dir) (Path.names dir ++ ["."]) =
        .ok (linkLimit, .found (t.spot dir)) :=
      (walk_dot_iff h).mpr ⟨rfl, hopen, rfl⟩
    refine ⟨hsound, linkLimit, ?_⟩
    rw [walk_append (.inl (by simp)) hd]
    exact (hlast linkLimit linkLimit _).mpr ⟨rfl, hshort, rfl, hget⟩

/-- Where a path behind another one leads somewhere, the way along the other one is open. -/
theorem opens_of_find_join (h : t.LinkFree) {q : String} (hq : Path.IsPlain q)
    (hfind : t.find (Path.join dir q) = .ok l) : t.Opens dir := by
  obtain ⟨-, k, hwalk⟩ := find_eq_ok_iff.mp hfind
  rw [start_join hq, hq.steps_join] at hwalk
  obtain ⟨k', d, hd⟩ := exists_walk_of_append hq.names_ne_nil hwalk
  exact ((walk_dot_iff h).mp hd).2.1

theorem spot_join (hplain : Path.IsPlain name) (hname : Path.names name = [name]) :
    t.spot (Path.join dir name) = t.spot dir ++ [name] := by
  obtain ⟨hdot, hback⟩ := hplain.ne_of_mem_names (n := name) (by rw [hname]; simp)
  unfold spot
  rw [start_join hplain, Path.names_join hplain.isAbsolute_eq, hname, reach_append, reach,
    if_neg hdot, if_neg hback, reach]

theorem has_join_iff (h : t.LinkFree) (hplain : Path.IsPlain name)
    (hname : Path.names name = [name]) :
    t.has (Path.join dir name) = true ↔ pathFault? (Path.join dir name) = none ∧
      t.Opens dir ∧ name.utf8ByteSize ≤ nameLimit ∧ t.get? (t.spot dir ++ [name]) ≠ none := by
  unfold has entry?
  constructor
  · intro hhas
    cases hl : t.find (Path.join dir name) with
    | error e =>
      rw [hl] at hhas
      cases hhas
    | ok l =>
      obtain ⟨hsound, hopen, hshort, -, hget⟩ := (find_join_iff h hplain hname).mp hl
      exact ⟨hsound, hopen, hshort, hget⟩
  · rintro ⟨hsound, hopen, hshort, hget⟩
    rw [(find_join_iff h hplain hname).mpr ⟨hsound, hopen, hshort, rfl, hget⟩]
    exact Option.isSome_iff_ne_none.mpr hget

/-- Above a place at which something stands something stands. -/
theorem Closed.get?_ne_none_of_prefix (h : t.Closed) {l' : Location} (hl : l <+: l')
    (hget : t.get? l' ≠ none) : t.get? l ≠ none := by
  obtain ⟨rest, rfl⟩ := hl
  by_cases hrest : rest = []
  · rwa [hrest, List.append_nil] at hget
  · rw [h.get?_dir hrest hget]
    exact Option.some_ne_none _

/-- What stands in a tree looks alike in all larger ones. -/
theorem Within.shape?_eq {u : Tree} (h : u.Within t) (h' : u.Within t') (hget : u.get? l ≠ none) :
    t.shape? l = t'.shape? l := by
  obtain ⟨s, hs⟩ := Option.ne_none_iff_exists'.mp (mt shape?_eq_none_iff.mp hget)
  rw [h.shape l s hs, h'.shape l s hs]

/-- At the end of a walk that arrives something stands. -/
theorem Closed.get?_ne_none_of_stroll (h : t.Closed) : ∀ (base : Location) (ns : List String),
    t.get? base = some .dir → t.stroll true base ns = .done (.ok (.found l)) → t.get? l ≠ none
  | base, [], hbase, hs => by
    cases hs
    rw [hbase]
    exact Option.some_ne_none _
  | base, n :: ns, hbase, hs => by
    rw [stroll_cons] at hs
    split at hs
    · exact h.get?_ne_none_of_stroll base ns hbase hs
    · split at hs
      · exact h.get?_ne_none_of_stroll base.dropLast ns (h base _ hbase) hs
      · split at hs
        · cases hs
        · split at hs
          · split at hs <;> cases hs
          · next hdir =>
            exact h.get?_ne_none_of_stroll (base ++ [n]) ns (shape?_eq_dir_iff.mp hdir) hs
          · rw [if_neg (by simp)] at hs
            cases hs
          · next hleaf =>
            split at hs <;> cases hs
            intro hnone
            rw [shape?_eq_none_iff.mpr hnone] at hleaf
            cases hleaf

theorem Solid.get?_ne_none_of_find (h : t.Solid) (path : String)
    (hstart : t.get? (t.start path) = some .dir) (hfind : t.find path = .ok l) :
    t.get? l ≠ none :=
  h.closed.get?_ne_none_of_stroll _ _ hstart (stroll_of_find h.linkFree hfind)

/-- What is left by way of `..` on a way that leads somewhere is a directory. -/
theorem Solid.get?_of_isLeft_of_find (h : t.Solid) (path : String) {i : Location}
    (hstart : t.get? (t.start path) = some .dir) (hfind : t.find path = .ok i)
    (hl : IsLeft (t.start path) (Path.names path) l) : t.get? l = some .dir := by
  obtain ⟨as, bs, hnames, rfl⟩ := hl
  obtain ⟨-, k, hwalk⟩ := find_eq_ok_iff.mp hfind
  unfold Path.steps at hwalk
  rw [hnames, List.append_assoc] at hwalk
  obtain ⟨k', d, hd⟩ := exists_walk_of_append (by simp) hwalk
  obtain ⟨-, hopen, -⟩ := (Tree.walk_dot_iff h.linkFree).mp hd
  exact h.closed.get?_reach _ _ hstart hopen

/-- One directory does not enclose another one when both are found and the one is not above the
other. -/
theorem encloses_eq_false_iff {outer inner : String} :
    t.encloses outer inner = false ↔
      ∃ o i, t.find outer = .ok o ∧ t.find inner = .ok i ∧ ¬ o <+: i := by
  unfold encloses
  constructor
  · intro h
    split at h
    · next o i ho hi =>
      refine ⟨o, i, ho, hi, fun hprefix => ?_⟩
      rw [List.isPrefixOf_iff_prefix.mpr hprefix] at h
      cases h
    · cases h
  · rintro ⟨o, i, ho, hi, hnot⟩
    rw [ho, hi]
    dsimp only
    rw [← Bool.not_eq_true, List.isPrefixOf_iff_prefix]
    exact hnot

/-! ## Adding -/

/-- A new directory stands where the names of its path lead, in a directory. -/
theorem Solid.makeDir_ok (h : t.Solid) (hstart : t.get? (t.start path) = some .dir)
    (hm : t.makeDir path = .ok t') :
    t' = t.set (t.spot path) .dir ∧ t.spot path ≠ [] ∧ t.get? (t.spot path) = none ∧ t'.Solid := by
  have hwithin := makeDir_within hm
  obtain ⟨base, n, hp, hget, rfl⟩ := makeDir_cases hm
  obtain ⟨-, ns, -, -, -, -, hopen, rfl⟩ := (parting_iff_of_linkFree h.linkFree).mp hp
  have hbase := h.closed.get?_reach _ _ hstart hopen
  rw [spot_of_parting h.linkFree hp]
  refine ⟨rfl, by simp, hget, h.set (by simp) ?_ hwithin (by simp)⟩
  rwa [List.dropLast_concat]

/-- A write that has come to the last name of its path, without a link under it, acts on what stands
there. -/
theorem write_eq_of_parting (h : t.LinkFree) {n : String} (octets : ByteArray)
    (hp : t.parting path = .ok (base, some n)) (hslash : Path.endsInSlash path = false) :
    t.write path octets =
      match t.get? (base ++ [n]) with
      | none => .ok (t.set (base ++ [n]) (.file octets false))
      | some (.file _ x) => .ok (t.set (base ++ [n]) (.file octets x))
      | some .dir => .error .isDirectory
      | some .faulty => if octets.size = 0 then .ok t else .error .inputOutput
      | some .sink => .ok t
      | some .full => if octets.size = 0 then .ok t else .error .noSpace
      | _ => .error .missing := by
  obtain ⟨k, hk⟩ := parting_eq_some_iff.mp hp
  have hwritable : t.writable path = t.landing k k base n := by
    unfold writable
    rw [hk]
    dsimp only
    rw [if_neg (by rw [hslash]; decide)]
  rw [write, hwritable, landing.eq_def]
  dsimp only
  cases hget : t.get? (base ++ [n]) with
  | none => rfl
  | some e =>
    cases e with
    | link target => exact absurd hget (h _ _)
    | file | dir | utility | faulty | sink | full =>
      dsimp only
      rw [hget]

theorem exists_partingFrom {r : Location × Option String} (hp : t.parting path = .ok r) :
    ∃ k, t.partingFrom linkLimit (t.start path) path = .ok (k, r) := by
  unfold parting at hp
  cases hfrom : t.partingFrom linkLimit (t.start path) path with
  | error e =>
    rw [hfrom] at hp
    cases hp
  | ok r' =>
    rw [hfrom] at hp
    cases hp
    exact ⟨r'.1, rfl⟩

/-- Nothing is written where no last name is come to, or where only a directory can be meant. -/
theorem write_of_parting_error {e : FileError} (octets : ByteArray)
    (hp : t.parting path = .error e) : t.write path octets = .error e := by
  unfold parting at hp
  unfold write writable
  cases hfrom : t.partingFrom linkLimit (t.start path) path with
  | error e' =>
    rw [hfrom] at hp
    cases hp
    rfl
  | ok r =>
    rw [hfrom] at hp
    cases hp

theorem write_of_parting_dir {n : Option String} (octets : ByteArray)
    (hp : t.parting path = .ok (base, n)) (hdir : n = none ∨ Path.endsInSlash path = true) :
    t.write path octets = .error .isDirectory := by
  obtain ⟨k, hk⟩ := exists_partingFrom hp
  unfold write writable
  rw [hk]
  cases n with
  | none => rfl
  | some n =>
    dsimp only
    rw [if_pos (hdir.resolve_left (by simp))]

/-- What is written has a last name, and does not end in a slash. -/
theorem exists_parting_of_write {octets : ByteArray} (hw : t.write path octets = .ok t') :
    (∃ base n, t.parting path = .ok (base, some n)) ∧ Path.endsInSlash path = false := by
  unfold write at hw
  split at hw
  · cases hw
  all_goals
    next hwritable =>
      unfold writable at hwritable
      split at hwritable
      · cases hwritable
      · cases hwritable
      · next k base n hk =>
        split at hwritable
        · cases hwritable
        · next hslash =>
          exact ⟨⟨base, n, parting_eq_some_iff.mpr ⟨k, hk⟩⟩, by simpa using hslash⟩

/-! ## Removing -/

/-- What lies apart from all that was freed is not lost. -/
theorem Within.of_remnant {u : Tree} {P : Location → Prop} (h : u.Within t) (hr : Remnant P t t')
    (hP : ∀ l, P l → u.get? l = none) : u.Within t' := by
  refine ⟨hr.here.trans h.here, fun l s hs => ?_⟩
  rcases hr.get l with heq | ⟨-, hfree⟩
  · unfold shape?
    rw [heq]
    exact h.shape l s hs
  · rw [shape?_eq_none_iff.mpr (hP l hfree)] at hs
    cases hs

/-- Below a directory that is not empty something stands. -/
theorem exists_of_not_isBare (h : ¬ t.isBare l = true) :
    ∃ l', l <+: l' ∧ l' ≠ l ∧ t.get? l' ≠ none := by
  have hne : t.below l ≠ [] := by
    intro hnil
    rw [isBare, hnil] at h
    exact h rfl
  obtain ⟨⟨rest, e⟩, hmem⟩ := List.exists_mem_of_ne_nil _ hne
  obtain ⟨⟨place, e'⟩, hentry, hrest⟩ := List.mem_filterMap.mp hmem
  dsimp only at hrest
  split at hrest
  · cases hrest
  · next rest' hnil hprefix =>
    cases hrest
    have hplace := List.append_eq_of_isPrefixOf?_eq_some hprefix
    refine ⟨place, ⟨rest, hplace⟩, ?_, ?_⟩
    · intro heq
      rw [← hplace] at heq
      exact hnil (List.append_right_eq_self.mp heq)
    · rw [get?]
      split
      · simp
      · intro hnone
        exact absurd (List.lookup_eq_none_iff.mp hnone _ hentry) (by simp)
  · cases hrest

theorem removeDir_eq_of_parting {base : Location} {n : String}
    (hp : t.parting dir = .ok (base, some n)) (hget : t.get? (base ++ [n]) = some .dir) :
    t.removeDir dir =
      if t.isBare (base ++ [n]) then .ok (t.prune (base ++ [n])) else .error .notEmpty := by
  unfold removeDir
  rw [hp]
  dsimp only
  rw [hget]

end Tree

end Testbench
