import Testbench.Proofs.Tree.Operations

/-!
# What removal leaves

Removal frees places and changes nothing else. A tree that is left of another one is described by
the places that may have been freed, which are named in the tree before: a path that still leads
somewhere leads where it led before.

- `Covers`: the places at or below the entry under the last name of a path. A link that stands there
  is not followed.
- `Remnant`: a tree that is left of another one when only some places were freed.
- `remnant_of_removeAll`, `remnant_of_removeFile`, `remnant_of_removeDir`: what each way of removing
  leaves.
-/

namespace Testbench

namespace Tree

variable {t t' t'' : Tree} {P Q : Location → Prop}

/-- The place lies at or below the entry under the last name of the path. -/
def Covers (t : Tree) (path : String) (l : Location) : Prop :=
  ∃ base n, t.parting path = .ok (base, some n) ∧ base ++ [n] <+: l

/-- What a path covers in a tree it covers in every larger one. -/
theorem Within.covers (h : t.Within t') {path : String} {l : Location} (hl : t.Covers path l) :
    t'.Covers path l := by
  obtain ⟨base, n, hparting, hbelow⟩ := hl
  exact ⟨base, n, h.parting hparting, hbelow⟩

/-- What is left of a tree when only places with a property were freed. -/
structure Remnant (P : Location → Prop) (t t' : Tree) : Prop where
  here : t'.here = t.here
  get : ∀ l, t'.get? l = t.get? l ∨ (t'.get? l = none ∧ P l)

namespace Remnant

theorem refl (P : Location → Prop) (t : Tree) : Remnant P t t := ⟨rfl, fun _ => .inl rfl⟩

theorem trans (h : Remnant P t t') (h' : Remnant P t' t'') : Remnant P t t'' := by
  refine ⟨h'.here.trans h.here, fun l => ?_⟩
  rcases h'.get l with heq | hfree
  · rw [heq]
    exact h.get l
  · exact .inr hfree

theorem mono (h : Remnant P t t') (hPQ : ∀ l, P l → Q l) : Remnant Q t t' :=
  ⟨h.here, fun l => (h.get l).imp_right fun hfree => ⟨hfree.1, hPQ l hfree.2⟩⟩

/-- What is left of a tree is within it. -/
theorem within (h : Remnant P t t') : t'.Within t := by
  refine ⟨h.here.symm, fun l s hs => ?_⟩
  rcases h.get l with heq | ⟨hnone, -⟩
  · unfold shape? at hs ⊢
    rwa [← heq]
  · rw [shape?_eq_none_iff.mpr hnone] at hs
    cases hs

/-- A place at which nothing is left was free or has been freed. -/
theorem of_lost (h : Remnant P t t') {l : Location} (hl : t.get? l ≠ none)
    (hlost : t'.get? l = none) : P l := by
  rcases h.get l with heq | ⟨-, hP⟩
  · rw [heq] at hlost
    exact absurd hlost hl
  · exact hP

theorem prune {l : Location} (hne : l ≠ []) (hP : ∀ l', l <+: l' → P l') :
    Remnant P t (t.prune l) := by
  refine ⟨rfl, fun l' => ?_⟩
  rw [get?_prune t l l' hne]
  split
  · next hbelow => exact .inr ⟨rfl, hP l' hbelow⟩
  · exact .inl rfl

end Remnant

theorem remnant_of_removeAll {path : String} (h : t.removeAll path = .ok t') :
    Remnant (t.Covers path) t t' := by
  obtain ⟨dir, n, hparting, rfl⟩ := removeAll_cases h
  exact .prune (by simp) fun l hbelow => ⟨dir, n, hparting, hbelow⟩

theorem remnant_of_removeFile {path : String} (h : t.removeFile path = .ok t') :
    Remnant (t.Covers path) t t' := by
  obtain ⟨dir, n, hparting, rfl⟩ := removeFile_cases h
  exact .prune (by simp) fun l hbelow => ⟨dir, n, hparting, hbelow⟩

/-- Where the entry under the last name of a path is a directory, the path leads to it. -/
theorem find_of_parting {path n : String} {base : Location}
    (hparting : t.parting path = .ok (base, some n)) (hdir : t.get? (base ++ [n]) = some .dir) :
    t.find path = .ok (base ++ [n]) := by
  obtain ⟨k, hk⟩ := parting_eq_some_iff.mp hparting
  obtain ⟨hsound, hdot, hlast, hpoint, hback, hshort⟩ := partingFrom_eq_some_iff.mp hk
  obtain ⟨ns, hnames⟩ := List.getLast?_eq_some_iff.mp hlast
  rw [hnames, List.dropLast_concat] at hdot
  -- the last name leads into the directory, with or without a slash behind it
  have hstroll (ms : List String) :
      t.stroll true base (n :: ms) = t.stroll true (base ++ [n]) ms := by
    rw [stroll_cons, if_neg hpoint, if_neg hback, if_neg (Nat.not_lt.mpr hshort),
      shape?_eq_dir_iff.mpr hdir]
  refine find_eq_ok_iff.mpr ⟨hsound, k, ?_⟩
  rw [Path.steps, hnames, List.append_assoc, walk_append (.inr rfl) hdot, List.cons_append,
    List.nil_append]
  split
  · exact walk_of_done ((hstroll ["."]).trans rfl)
  · exact walk_of_done ((hstroll []).trans rfl)

/-- Of a directory that is removed when nothing stands in it, only its own place is freed. -/
theorem remnant_of_removeDir {path : String} (h : t.removeDir path = .ok t') :
    ∃ l, t.find path = .ok l ∧ (∀ l', l <+: l' → l' ≠ l → t.get? l' = none) ∧
      Remnant (· = l) t t' := by
  obtain ⟨base, n, hparting, hdir, hbare, rfl⟩ := removeDir_cases h
  refine ⟨base ++ [n], find_of_parting hparting hdir, fun l' => get?_of_isBare hbare,
    rfl, fun l' => ?_⟩
  rw [get?_prune t _ l' (by simp)]
  split
  · next hbelow =>
    by_cases heq : l' = base ++ [n]
    · exact .inr ⟨rfl, heq⟩
    · exact .inl (get?_of_isBare hbare hbelow heq).symm
  · exact .inl rfl

end Tree

end Testbench
