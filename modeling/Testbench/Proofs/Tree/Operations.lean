import Mathlib.Data.List.Infix
import Testbench.Proofs.Tree.Walk
import Testbench.Tree.Operations

/-!
# What operations do to a tree

Every operation on files comes down to one entry that is put somewhere or one place that is pruned.

- `write_cases`, `makeDir_cases`: what a successful write and a new directory have put, and where.
- `write_within`, `makeDirs_within`: writing and making directories lose nothing.
- `removeFile_cases`, `removeAll_cases`, `removeDir_cases`: removing prunes the place under the last
  name of the path. A link that stands there is not followed.
-/

namespace Testbench

namespace Tree

variable {t t' : Tree} {path : String}

/-! ## Writing -/

/-- A place that is written stands right below some directory; either it is free or something
stands there. -/
def IsLanding (t : Tree) (p : Place) : Prop :=
  ∃ dir n, (p = .vacant (dir ++ [n]) ∧ t.get? (dir ++ [n]) = none) ∨
    (p = .found (dir ++ [n]) ∧ t.get? (dir ++ [n]) ≠ none)

theorem isLanding_of_landing {fuel links : Nat} {base : Location} {name : String} {p : Place}
    (h : t.landing fuel links base name = .ok p) : t.IsLanding p := by
  fun_induction t.landing fuel links base name with
  | case1 fuel links base name hget =>
    cases h
    exact ⟨base, name, .inl ⟨rfl, hget⟩⟩
  | case2 | case3 | case4 | case6 => cases h
  | case5 _ _ _ _ _ _ _ _ _ _ _ ih => exact ih h
  | case7 fuel links base name e hlink hget =>
    cases h
    exact ⟨base, name, .inr ⟨rfl, by rw [hget]; simp⟩⟩

theorem isLanding_of_writable {p : Place} (h : t.writable path = .ok p) : t.IsLanding p := by
  unfold writable at h
  split at h
  · cases h
  · cases h
  · split at h
    · cases h
    · exact isLanding_of_landing h

/-- A write that succeeds puts a file at a free place or gives a file new octets; only devices take
octets without any change. -/
theorem write_cases {octets : ByteArray} (h : t.write path octets = .ok t') :
    t' = t ∨ ∃ dir n x, t' = t.set (dir ++ [n]) (.file octets x) ∧
      (t.get? (dir ++ [n]) = none ∨ ∃ old, t.get? (dir ++ [n]) = some (.file old x)) := by
  unfold write at h
  cases hp : t.writable path with
  | error e =>
    rw [hp] at h
    cases h
  | ok p =>
    rw [hp] at h
    -- a free place, or an entry; of the entries only files are changed
    obtain ⟨dir, n, ⟨rfl, hget⟩ | ⟨rfl, -⟩⟩ := isLanding_of_writable hp
    · cases h
      exact .inr ⟨dir, n, false, rfl, .inl hget⟩
    · dsimp only at h
      split at h
      · next old x hget =>
        cases h
        exact .inr ⟨dir, n, x, rfl, .inr ⟨old, hget⟩⟩
      · cases h
      · split at h <;> cases h
        exact .inl rfl
      · cases h
        exact .inl rfl
      · split at h <;> cases h
        exact .inl rfl
      · cases h

/-- Writing loses nothing. -/
theorem write_within {octets : ByteArray} (h : t.write path octets = .ok t') : t.Within t' := by
  rcases write_cases h with rfl | ⟨dir, n, x, rfl, hget | ⟨old, hget⟩⟩
  · exact .refl t'
  · exact within_set_of_vacant (by simp) hget
  · refine (alike_set (by simp) ?_).within
    unfold shape?
    rw [hget]
    rfl

/-! ## Reading -/

/-- A text that was written is read back. -/
theorem readText_of_read {text : String} (h : t.read path = .ok text.toUTF8) :
    t.readText path = .ok text := by
  have hvalid : String.fromUTF8? text.toUTF8 = some text := dif_pos text.isValidUTF8
  unfold readText
  rw [h]
  dsimp only
  rw [hvalid]

/-- Paths that lead to one place hold one text. -/
theorem readText_of_find_eq {path' : String} (h : t.find path = t.find path') :
    t.readText path = t.readText path' := by
  unfold readText read
  rw [h]

/-! ## Making directories -/

/-- A new directory stands at a free place under the last name of the path. -/
theorem makeDir_cases (h : t.makeDir path = .ok t') :
    ∃ dir n, t.parting path = .ok (dir, some n) ∧ t.get? (dir ++ [n]) = none ∧
      t' = t.set (dir ++ [n]) .dir := by
  unfold makeDir at h
  split at h
  · cases h
  · cases h
  · next dir n hparting =>
    split at h
    · cases h
    · next hget =>
      cases h
      exact ⟨dir, n, hparting, hget, rfl⟩

theorem makeDir_within (h : t.makeDir path = .ok t') : t.Within t' := by
  obtain ⟨dir, n, -, hget, rfl⟩ := makeDir_cases h
  exact within_set_of_vacant (by simp) hget

/-- In trees that are alike a directory that cannot be made cannot be made for the same reason. -/
theorem Alike.makeDir_error (h : t.Alike t') {e : FileError} (hm : t.makeDir path = .error e) :
    t'.makeDir path = .error e := by
  unfold makeDir at hm ⊢
  rw [h.parting]
  split at hm
  · exact hm
  · exact hm
  · next dir n _ =>
    cases hget : t.get? (dir ++ [n]) with
    | none =>
      rw [hget] at hm
      cases hm
    | some e' =>
      rw [hget] at hm
      obtain ⟨e'', hget'⟩ := Option.ne_none_iff_exists'.mp
        (mt h.get?_eq_none_iff.mp (by rw [hget]; simp))
      rw [hget']
      exact hm

theorem ensureDir_within (h : t.ensureDir path = .ok t') : t.Within t' := by
  unfold ensureDir at h
  split at h
  · next t₁ hmake =>
    cases h
    exact makeDir_within hmake
  · split at h <;> cases h
    exact .refl t

theorem makeDirsWithin_within (t : Tree) (depth : Nat) (path : String) :
    t.Within (t.makeDirsWithin depth path).2 := by
  fun_induction makeDirsWithin t depth path with
  | case1 _ _ t₁ hmake => exact ensureDir_within hmake
  | case2 | case6 | case7 => exact .refl t
  | case3 _ _ _ _ _ _ _ t₁ hrec ih =>
    rw [hrec] at ih
    exact ih
  -- the parents were made first, then the directory itself
  | case4 _ _ _ _ _ _ t₁ hrec t₂ hmake ih =>
    rw [hrec] at ih
    exact ih.trans (ensureDir_within hmake)
  | case5 _ _ _ _ _ _ t₁ hrec _ _ ih =>
    rw [hrec] at ih
    exact ih

/-- Making a directory with all that lead to it loses nothing, whether it succeeds or fails. -/
theorem makeDirs_within (t : Tree) (path : String) : t.Within (t.makeDirs path).2 := by
  unfold makeDirs
  split
  · exact .refl t
  · exact makeDirsWithin_within t path.length path

/-! ## Removal -/

/-- The tree after removal is the tree before it without the place under the path's last name. -/
theorem removeFile_cases (h : t.removeFile path = .ok t') :
    ∃ dir n, t.parting path = .ok (dir, some n) ∧ t' = t.prune (dir ++ [n]) := by
  unfold removeFile at h
  split at h
  · cases h
  · cases h
  · next dir n hparting =>
    split at h
    · cases h
    · cases h
    · cases h
      exact ⟨dir, n, hparting, rfl⟩

theorem removeAll_cases (h : t.removeAll path = .ok t') :
    ∃ dir n, t.parting path = .ok (dir, some n) ∧ t' = t.prune (dir ++ [n]) := by
  unfold removeAll at h
  split at h
  · cases h
  · cases h
  · next dir n hparting =>
    split at h
    · cases h
    · cases h
      exact ⟨dir, n, hparting, rfl⟩
    · cases h
      exact ⟨dir, n, hparting, rfl⟩
    · cases h

/-- Only a directory in which nothing stands is removed as such. -/
theorem removeDir_cases (h : t.removeDir path = .ok t') :
    ∃ dir n, t.parting path = .ok (dir, some n) ∧ t.get? (dir ++ [n]) = some .dir ∧
      t.isBare (dir ++ [n]) = true ∧ t' = t.prune (dir ++ [n]) := by
  unfold removeDir at h
  split at h
  · cases h
  · cases h
  · next dir n hparting =>
    split at h
    · cases h
    · next hget =>
      split at h
      · next hbare =>
        cases h
        exact ⟨dir, n, hparting, hget, hbare, rfl⟩
      · cases h
    · cases h

/-- Nothing stands below a bare place. -/
theorem get?_of_isBare {l l' : Location} (h : t.isBare l = true) (hl : l <+: l') (hne : l' ≠ l) :
    t.get? l' = none := by
  obtain ⟨rest, rfl⟩ := hl
  have hrest : rest ≠ [] := by
    rintro rfl
    exact hne (List.append_nil l)
  cases he : t.get? (l ++ rest) with
  | none => rfl
  | some e =>
    rw [get?, if_neg (by simp [hrest])] at he
    obtain ⟨before, after, hentries, -⟩ := List.lookup_eq_some_iff.mp he
    have hmem : (rest, e) ∈ t.below l := by
      refine List.mem_filterMap.mpr ⟨(l ++ rest, e), by simp [hentries], ?_⟩
      dsimp only
      rw [List.isPrefixOf?_eq_some_iff_append_eq.mpr rfl]
      cases rest with
      | nil => exact absurd rfl hrest
      | cons n rest => rfl
    rw [isBare, List.isEmpty_iff] at h
    rw [h] at hmem
    cases hmem

end Tree

end Testbench
