import Testbench.Proofs.Tree.Operations

/-!
# What a write leaves

A write follows the links on the way to the last name of its path and those that lead on from
there. Afterwards the path leads to the place that was written. There stands a file with the octets,
unless it is a device that takes everything.

- `walk_of_landing`, `find_of_writable`: the path leads to the place that is written.
- `Leaves`, `write_leaves`: what stands there afterwards.
- `read_of_write`, `write_keeps`: a file that was written is read back, and the other files are as
  they were.
-/

namespace Testbench

namespace Tree

variable {t t' : Tree} {path : String} {l : Location}

/-! ## The place that is written -/

/-- What neither is a directory nor a link ends the walk to it. -/
theorem walk_of_leaf {links : Nat} {base : Location} {name : String}
    (hleaf : t.shape? (base ++ [name]) = some .leaf) (hdot : name ≠ ".") (hdots : name ≠ "..")
    (hshort : name.utf8ByteSize ≤ nameLimit) :
    t.walk true links base [name] = .ok (links, .found (base ++ [name])) := by
  have hstroll : t.stroll true base [name] = .done (.ok (.found (base ++ [name]))) := by
    rw [stroll_cons, if_neg hdot, if_neg hdots, if_neg (Nat.not_lt.mpr hshort), hleaf]
    rfl
  rw [walk_of_done hstroll]
  rfl

/-- The walk along a path goes on from the directory of its last name, in every larger tree. -/
theorem Within.walk_steps (h : t.Within t') {links k : Nat} {base dir : Location} {n : String}
    (hslash : Path.endsInSlash path = false)
    (hparting : t.partingFrom links base path = .ok (k, dir, some n)) :
    t'.walk true links base (Path.steps path) = t'.walk true k dir [n] := by
  obtain ⟨-, hwalk, hlast, -⟩ := partingFrom_eq_some_iff.mp hparting
  obtain ⟨ns, hnames⟩ := List.getLast?_eq_some_iff.mp hlast
  rw [hnames, List.dropLast_concat] at hwalk
  rw [Path.steps, hslash, hnames, if_neg Bool.false_ne_true, List.append_nil]
  exact walk_append (.inr rfl) (h.walk hwalk)

/-- Where a write lands the walk to its name ends, links followed, once something stands there that
neither is a directory nor a link. -/
theorem walk_of_landing (h : t.Within t') {fuel links : Nat} {base : Location} {name : String}
    {p : Place} (hlanding : t.landing fuel links base name = .ok p)
    (hp : p = .vacant l ∨ p = .found l) (hleaf : t'.shape? l = some .leaf) (hdot : name ≠ ".")
    (hdots : name ≠ "..") (hshort : name.utf8ByteSize ≤ nameLimit) :
    ∃ k, t'.walk true links base [name] = .ok (k, .found l) := by
  fun_induction t.landing fuel links base name with
  | case1 fuel links base name hget =>
    cases hlanding
    rcases hp with hp | hp <;> cases hp
    exact ⟨links, walk_of_leaf hleaf hdot hdots hshort⟩
  | case2 | case3 | case4 | case6 => cases hlanding
  | case5 base name target hget fuel links k base' name' hparting hslash ih =>
    obtain ⟨hfault, -, -, hdot', hdots', hshort'⟩ := partingFrom_eq_some_iff.mp hparting
    obtain ⟨k', hwalk⟩ := ih hlanding hdot' hdots' hshort'
    -- the walk follows the same link, and its target leads to the directory of the next name
    have hlink : t'.shape? (base ++ [name]) = some (.link target) :=
      h.shape _ _ (by rw [shape?, hget]; rfl)
    have hstroll : t'.stroll true base [name] = .link base target [] := by
      rw [stroll_cons, if_neg hdot, if_neg hdots, if_neg (Nat.not_lt.mpr hshort), hlink]
      rfl
    have htarget : target ≠ "" := by
      rintro rfl
      exact absurd hfault (by decide)
    refine ⟨k', ?_⟩
    rw [walk_of_link hstroll, if_neg htarget, List.append_nil,
      h.walk_steps (by simpa using hslash) hparting, hwalk]
  | case7 fuel links base name e hlink hget =>
    cases hlanding
    rcases hp with hp | hp <;> cases hp
    exact ⟨links, walk_of_leaf hleaf hdot hdots hshort⟩

/-- The path of a write leads to the place that is written, once something stands there that neither
is a directory nor a link. -/
theorem find_of_writable (h : t.Within t') {p : Place} (hwritable : t.writable path = .ok p)
    (hp : p = .vacant l ∨ p = .found l) (hleaf : t'.shape? l = some .leaf) :
    t'.find path = .ok l := by
  unfold writable at hwritable
  split at hwritable
  · cases hwritable
  · cases hwritable
  · next links base n hparting =>
    split at hwritable
    · cases hwritable
    · next hslash =>
      obtain ⟨hfault, -, -, hdot, hdots, hshort⟩ := partingFrom_eq_some_iff.mp hparting
      obtain ⟨k, hwalk⟩ := walk_of_landing h hwritable hp hleaf hdot hdots hshort
      refine find_eq_ok_iff.mpr ⟨hfault, k, ?_⟩
      rw [h.start_eq, h.walk_steps (by simpa using hslash) hparting, hwalk]

/-! ## What stands there -/

/-- What a write has left at the place that its path leads to afterwards: a file with the octets, or
a special file that has taken them without any change. -/
inductive Leaves (t t' : Tree) (octets : ByteArray) (l : Location) : Prop where
  | file (x : Bool) (below : l ≠ []) (changed : t' = t.set l (.file octets x))
  | special (e : Entry) (unchanged : t' = t) (stands : t.get? l = some e)
      (takes : e = .sink ∨ octets.size = 0)

/-- A write changes no other place. -/
theorem Leaves.get?_of_ne {octets : ByteArray} {l' : Location} (h : t.Leaves t' octets l)
    (hne : l' ≠ l) : t'.get? l' = t.get? l' := by
  cases h with
  | file x below changed => rw [changed, get?_set t l l' _ below, if_neg hne]
  | special e unchanged stands takes => rw [unchanged]

/-- Where a regular file stands after a write of some octets, it holds them. -/
theorem Leaves.get?_of_isFile {octets : ByteArray} {e : Entry} (h : t.Leaves t' octets l)
    (hsize : octets.size ≠ 0) (hget : t'.get? l = some e) (he : e.isFile = true) :
    ∃ x, e = .file octets x := by
  cases h with
  | file x below changed =>
    rw [changed, get?_set t l l _ below, if_pos rfl] at hget
    exact ⟨x, (Option.some.inj hget).symm⟩
  | special e' unchanged stands takes =>
    rw [unchanged, stands] at hget
    cases hget
    rcases takes with rfl | hzero
    · cases he
    · exact absurd hzero hsize

/-- After a write its path leads to the place that was written. -/
theorem write_leaves {octets : ByteArray} (h : t.write path octets = .ok t') :
    ∃ l, t'.find path = .ok l ∧ t.Leaves t' octets l := by
  have hwithin := write_within h
  unfold write at h
  cases hp : t.writable path with
  | error e =>
    rw [hp] at h
    cases h
  | ok p =>
    rw [hp] at h
    obtain ⟨dir, n, ⟨rfl, hget⟩ | ⟨rfl, -⟩⟩ := isLanding_of_writable hp
    · cases h
      refine ⟨dir ++ [n], find_of_writable hwithin hp (.inl rfl) ?_, .file false (by simp) rfl⟩
      simp [shape?_set, Entry.shape]
    · dsimp only at h
      have hleaf {e : Entry} (hget : t'.get? (dir ++ [n]) = some e) (he : e.shape = .leaf) :
          t'.find path = .ok (dir ++ [n]) :=
        find_of_writable hwithin hp (.inr rfl) (by rw [shape?, hget, Option.map_some, he])
      split at h
      · next old x hget =>
        cases h
        exact ⟨_, hleaf (e := .file octets x) (by simp [get?_set]) rfl, .file x (by simp) rfl⟩
      · cases h
      · next hget =>
        split at h <;> cases h
        next hsize => exact ⟨_, hleaf hget rfl, .special _ rfl hget (.inr hsize)⟩
      · next hget =>
        cases h
        exact ⟨_, hleaf hget rfl, .special _ rfl hget (.inl rfl)⟩
      · next hget =>
        split at h <;> cases h
        next hsize => exact ⟨_, hleaf hget rfl, .special _ rfl hget (.inr hsize)⟩
      · cases h

/-! ## Reading back -/

theorem read_of_file {octets : ByteArray} {x : Bool} (hfind : t.find path = .ok l)
    (hget : t.get? l = some (.file octets x)) : t.read path = .ok octets := by
  unfold Tree.read
  rw [hfind]
  dsimp only
  rw [hget]

/-- A regular file that was written is read back. -/
theorem read_of_write {octets : ByteArray} (h : t.write path octets = .ok t')
    (hsize : octets.size ≠ 0) (hfile : t'.isFile path = true) : t'.read path = .ok octets := by
  obtain ⟨l, hl, hleaves⟩ := write_leaves h
  obtain ⟨_, e, hfind, hget, he⟩ := isFile_iff.mp hfile
  cases hl.symm.trans hfind
  obtain ⟨x, rfl⟩ := hleaves.get?_of_isFile hsize hget he
  exact read_of_file hl hget

/-- A write leaves the other files as they are. -/
theorem write_keeps {path' : String} {octets : ByteArray} (h : t.write path' octets = .ok t')
    (hfind : t.find path = .ok l) (hne : t'.find path ≠ t'.find path') :
    t'.isFile path = t.isFile path ∧ t'.read path = t.read path := by
  obtain ⟨l', hl', hleaves⟩ := write_leaves h
  have hlater := (write_within h).find hfind
  have hplaces : l ≠ l' := by
    rintro rfl
    exact hne (hlater.trans hl'.symm)
  have hget := hleaves.get?_of_ne hplaces
  unfold isFile entry? Tree.read
  rw [hfind, hlater]
  dsimp only
  rw [hget]
  exact ⟨rfl, rfl⟩

end Tree

end Testbench
