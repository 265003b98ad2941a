import Testbench.Proofs.Tree.Solid

/-!
# Trees that agree along some paths

Without links, what is found, read, written or made by way of a path only depends on what stands on
the way and at its end. Two trees that agree there answer alike, and what is written to both of them
leaves two trees that agree again.

- `trail`: the places that a path depends on.
- `Agree`: two trees that agree on the trails of some paths.
- `Follows`: two such trees of which the first has come of another one by changes at the ends of the
  paths only.
- `Mirrors`: a relation between trees that are found, read, written and made alike.
- `mirrors_follows`, `mirrors_eq`: trees that agree along some paths, and equal trees.
-/

namespace Testbench

namespace Tree

variable {t t' t'' u u' u'' : Tree} {path : String} {paths : List String} {l : Location}

/-- The places that a path depends on: its start, its end, and the stops in between. -/
def trail (t : Tree) (path : String) : List Location :=
  t.start path :: t.spot path :: stops (t.start path) (Path.names path)

/-- Two trees without links and gaps that agree on the trails of some paths. -/
structure Agree (paths : List String) (t u : Tree) : Prop where
  left : t.Solid
  right : u.Solid
  here : u.here = t.here
  start : ∀ path ∈ paths, t.get? (t.start path) = some .dir
  get : ∀ path ∈ paths, ∀ l ∈ t.trail path, u.get? l = t.get? l

namespace Agree

theorem refl (h : t.Solid) (hstart : ∀ path ∈ paths, t.get? (t.start path) = some .dir) :
    Agree paths t t := ⟨h, h, rfl, hstart, fun _ _ _ _ => rfl⟩

variable (h : Agree paths t u) (hp : path ∈ paths)
include h hp

theorem get?_spot : u.get? (t.spot path) = t.get? (t.spot path) :=
  h.get path hp _ (by simp [trail])

theorem get?_start : u.get? (u.start path) = some .dir := by
  rw [start_congr h.here, h.get path hp _ (by simp [trail])]
  exact h.start path hp

theorem shape?_eq : ∀ l ∈ stops (t.start path) (Path.names path), u.shape? l = t.shape? l := by
  intro l hl
  unfold shape?
  rw [h.get path hp l (by simp [trail, hl])]

/-! ## Finding and reading -/

theorem find : u.find path = t.find path :=
  find_congr_of_stops h.left.linkFree h.here (h.shape?_eq hp)

theorem parting : u.parting path = t.parting path :=
  parting_congr_of_stops h.left.linkFree h.here (h.shape?_eq hp)

theorem entry? : u.entry? path = t.entry? path := by
  unfold Tree.entry?
  rw [h.find hp]
  cases hfind : t.find path with
  | error e => rfl
  | ok l =>
    rw [eq_spot_of_find h.left.linkFree hfind]
    exact h.get?_spot hp

theorem isDir : u.isDir path = t.isDir path := by
  unfold Tree.isDir
  rw [h.entry? hp]

theorem isFile : u.isFile path = t.isFile path := by
  unfold Tree.isFile
  rw [h.entry? hp]

theorem read : u.read path = t.read path := by
  unfold Tree.read
  rw [h.find hp]
  cases hfind : t.find path with
  | error e => rfl
  | ok l =>
    dsimp only
    rw [eq_spot_of_find h.left.linkFree hfind, h.get?_spot hp]

end Agree

/-! ## Writing -/

/-- What comes of the same change to two trees: it fails for the same reason, or leaves trees that
are related again. -/
def Ends (R : Tree → Tree → Prop) (a b : Except FileError Tree) : Prop :=
  (∃ e, a = .error e ∧ b = .error e) ∨ ∃ t' u', a = .ok t' ∧ b = .ok u' ∧ R t' u'

section Ends

variable {R : Tree → Tree → Prop}

theorem Ends.error (e : FileError) : Ends R (.error e) (.error e) := .inl ⟨e, rfl, rfl⟩

theorem Ends.ok (h : R t u) : Ends R (.ok t) (.ok u) := .inr ⟨t, u, rfl, rfl, h⟩

end Ends

/-- Related trees are found, read, written and made alike by way of some paths. -/
structure Mirrors (paths : List String) (R : Tree → Tree → Prop) : Prop where
  isDir : ∀ {t u path}, R t u → path ∈ paths → u.isDir path = t.isDir path
  isFile : ∀ {t u path}, R t u → path ∈ paths → u.isFile path = t.isFile path
  read : ∀ {t u path}, R t u → path ∈ paths → u.read path = t.read path
  write : ∀ {t u path} (octets : ByteArray), R t u → path ∈ paths →
    Ends R (t.write path octets) (u.write path octets)
  makeDir : ∀ {t u path}, R t u → path ∈ paths → Ends R (t.makeDir path) (u.makeDir path)

/-- Two trees that agree along some paths, the first of which has come of another one by changes at
the ends of these paths. -/
structure Follows (paths : List String) (t₀ t u : Tree) : Prop where
  agree : Agree paths t u
  here : t.here = t₀.here
  frame : ∀ l, (∀ path ∈ paths, l ≠ t₀.spot path) → t.get? l = t₀.get? l

theorem Agree.follows (h : Agree paths t u) : Follows paths t t u := ⟨h, rfl, fun _ _ => rfl⟩

namespace Follows

variable {t₀ : Tree} (h : Follows paths t₀ t u) (hp : path ∈ paths)
include h hp

/-- The same entry is put at the end of a path in both trees. -/
theorem set {base : Location} {n : String} {e : Entry} (hparting : t.parting path = .ok (base, some n))
    (hwithin : t.Within (t.set (base ++ [n]) e)) (hwithin' : u.Within (u.set (base ++ [n]) e))
    (he : ∀ target, e ≠ .link target) :
    Follows paths t₀ (t.set (base ++ [n]) e) (u.set (base ++ [n]) e) := by
  obtain ⟨hagree, hhere, hframe⟩ := h
  have hspot := spot_of_parting hagree.left.linkFree hparting
  rw [spot_congr hhere] at hspot
  have hparting' := (hagree.parting hp).trans hparting
  obtain ⟨-, ns, -, -, -, -, hopen, hbase⟩ := (parting_iff_of_linkFree hagree.left.linkFree).mp hparting
  obtain ⟨-, ns', -, -, -, -, hopen', hbase'⟩ :=
    (parting_iff_of_linkFree hagree.right.linkFree).mp hparting'
  have hdir : t.get? base = some .dir := by
    rw [hbase]
    exact hagree.left.closed.get?_reach _ _ (hagree.start path hp) hopen
  have hdir' : u.get? base = some .dir := by
    rw [hbase']
    exact hagree.right.closed.get?_reach _ _ (hagree.get?_start hp) hopen'
  refine ⟨⟨hagree.left.set (by simp) (by rwa [List.dropLast_concat]) hwithin he,
    hagree.right.set (by simp) (by rwa [List.dropLast_concat]) hwithin' he, hagree.here,
    fun path' hp' => hwithin.get?_dir (hagree.start path' hp'), fun path' hp' l hl => ?_⟩,
    hhere, fun l hl => ?_⟩
  · rw [get?_set _ _ _ _ (by simp), get?_set _ _ _ _ (by simp)]
    split
    · rfl
    · exact hagree.get path' hp' l hl
  · have hne := hl path hp
    rw [hspot] at hne
    rw [get?_set _ _ _ _ (by simp), if_neg hne]
    exact hframe l hl

/-- A write does the same to both trees. -/
theorem write (octets : ByteArray) :
    Ends (Follows paths t₀) (t.write path octets) (u.write path octets) := by
  have hp' := h.agree.parting hp
  cases hparting : t.parting path with
  | error e =>
    rw [write_of_parting_error _ hparting, write_of_parting_error _ (hp'.trans hparting)]
    exact .error e
  | ok r =>
    obtain ⟨base, n⟩ := r
    by_cases hdir : n = none ∨ Path.endsInSlash path = true
    · rw [write_of_parting_dir _ hparting hdir, write_of_parting_dir _ (hp'.trans hparting) hdir]
      exact .error _
    obtain ⟨hname, hslash⟩ := not_or.mp hdir
    obtain ⟨n, rfl⟩ := Option.ne_none_iff_exists'.mp hname
    rw [Bool.not_eq_true] at hslash
    have hget := h.agree.get?_spot hp
    rw [spot_of_parting h.agree.left.linkFree hparting] at hget
    rw [write_eq_of_parting h.agree.left.linkFree _ hparting hslash,
      write_eq_of_parting h.agree.right.linkFree _ (hp'.trans hparting) hslash, hget]
    cases hentry : t.get? (base ++ [n]) with
    | none =>
      have hfree := within_set_of_vacant (e := .file octets false) (by simp) hentry
      have hfree' := within_set_of_vacant (e := .file octets false) (by simp) (hget.trans hentry)
      exact .ok (h.set hp hparting hfree hfree' (by simp))
    | some e =>
      cases e with
      | file old x =>
        have hshape : t.shape? (base ++ [n]) = some .leaf := by rw [shape?, hentry]; rfl
        have hshape' : u.shape? (base ++ [n]) = some .leaf := by rw [shape?, hget, hentry]; rfl
        exact .ok (h.set hp hparting (alike_set (by simp) hshape).within
          (alike_set (by simp) hshape').within (by simp))
      | dir | link | utility => exact .error _
      | sink => exact .ok h
      | faulty | full =>
        dsimp only
        split
        · exact .ok h
        · exact .error _

/-- A directory is made in both trees, or for the same reason in none. -/
theorem makeDir : Ends (Follows paths t₀) (t.makeDir path) (u.makeDir path) := by
  have hget := h.agree.get?_spot hp
  unfold Tree.makeDir
  rw [h.agree.parting hp]
  cases hparting : t.parting path with
  | error e => exact .error e
  | ok r =>
    obtain ⟨base, n⟩ := r
    cases n with
    | none => exact .error _
    | some n =>
      rw [spot_of_parting h.agree.left.linkFree hparting] at hget
      dsimp only
      rw [hget]
      cases hentry : t.get? (base ++ [n]) with
      | some e => exact .error _
      | none =>
        have hfree := within_set_of_vacant (e := .dir) (by simp) hentry
        have hfree' := within_set_of_vacant (e := .dir) (by simp) (hget.trans hentry)
        exact .ok (h.set hp hparting hfree hfree' (by simp))

end Follows

/-- Trees that agree along some paths are treated alike by way of these. -/
theorem mirrors_follows (paths : List String) (t₀ : Tree) : Mirrors paths (Follows paths t₀) where
  isDir h hp := h.agree.isDir hp
  isFile h hp := h.agree.isFile hp
  read h hp := h.agree.read hp
  write octets h hp := h.write hp octets
  makeDir h hp := h.makeDir hp

/-- Equal trees are treated alike by way of all paths. -/
theorem mirrors_eq (paths : List String) : Mirrors paths Eq := by
  have hends (a : Except FileError Tree) : Ends Eq a a := by
    cases a with
    | error e => exact .error e
    | ok t => exact .ok rfl
  constructor
  · rintro t _ path rfl -
    rfl
  · rintro t _ path rfl -
    rfl
  · rintro t _ path rfl -
    rfl
  · rintro t _ path octets rfl -
    exact hends _
  · rintro t _ path rfl -
    exact hends _

/-- A write leaves a tree without links and gaps, and changes the place of its path only. -/
theorem Solid.write_ok (h : t.Solid) (hstart : t.get? (t.start path) = some .dir)
    {octets : ByteArray} (hw : t.write path octets = .ok t') :
    t'.Solid ∧ t'.here = t.here ∧ ∀ l, l ≠ t.spot path → t'.get? l = t.get? l := by
  have hagree : Agree [path] t t := .refl h (by simpa using hstart)
  rcases hagree.follows.write (List.mem_singleton.mpr rfl) octets with
    ⟨e, he, -⟩ | ⟨t₁, u₁, ht₁, -, hfollows⟩
  · rw [hw] at he
    cases he
  · rw [hw] at ht₁
    cases ht₁
    refine ⟨hfollows.agree.left, hfollows.here, fun l hl => hfollows.frame l ?_⟩
    simpa using hl

end Tree

end Testbench
