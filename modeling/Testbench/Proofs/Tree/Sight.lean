import Testbench.Proofs.Tree.Operations

/-!
# What a walk looks at

A walk along a path looks at some places of a tree, one after the other, and all that comes of it is
told by what stands there. Trees that agree on these places are therefore walked alike, whatever
else they hold.

- `Tree.sights`: the places that a path is led by, the one that it leads to included.
- `Tree.Passes`: the path is led by something at or below a place.
- `Agrees`: two trees that differ at and below one place only.
- `find_congr`, `Agrees.find`: where a path leads only depends on what it is led by.
- `Agrees.isFile`, `Agrees.read`: so do the files that are found and read.
-/

namespace Testbench

namespace Tree

variable {t t' : Tree} {path : String} {u : Location}

/-- The places that a stroll looks at, the one where it ends included. -/
def strollSights (t : Tree) : Location → List String → List Location
  | base, [] => [base]
  | base, n :: ns =>
    if n = "." then strollSights t base ns
    else if n = ".." then strollSights t base.dropLast ns
    else if nameLimit < n.utf8ByteSize then []
    else (base ++ [n]) ::
      match t.get? (base ++ [n]) with
      | some .dir => strollSights t (base ++ [n]) ns
      | _ => []

/-- The places that a walk looks at when it may follow `links` more links. -/
def walkSights (t : Tree) : (links : Nat) → Location → List String → List Location
  | links, base, ns => strollSights t base ns ++
    match stroll t true base ns, links with
    | .link base' target left, links + 1 =>
      if target = "" then []
      else walkSights t links (if Path.isAbsolute target then [] else base')
        (Path.steps target ++ left)
    | _, _ => []

/-- The places that a path is led by. -/
def sights (t : Tree) (path : String) : List Location :=
  t.walkSights linkLimit (t.start path) (Path.steps path)

/-- The path is led by something at or below the place. -/
def Passes (t : Tree) (path : String) (l : Location) : Prop := ∃ l' ∈ t.sights path, l <+: l'

instance (t : Tree) (path : String) (l : Location) : Decidable (t.Passes path l) :=
  inferInstanceAs (Decidable (∃ l' ∈ t.sights path, l <+: l'))

/-! ## Agreement on the sights -/

/-- A stroll only depends on the places that it looks at. -/
theorem stroll_congr : ∀ (base : Location) (ns : List String),
    (∀ l ∈ t.strollSights base ns, t'.get? l = t.get? l) →
    t'.stroll true base ns = t.stroll true base ns
  | base, [], _ => rfl
  | base, n :: ns, h => by
    unfold strollSights at h
    unfold stroll
    split
    · next hdot =>
      rw [if_pos hdot] at h
      exact stroll_congr base ns h
    · next hdot =>
      rw [if_neg hdot] at h
      split
      · next hback =>
        rw [if_pos hback] at h
        exact stroll_congr base.dropLast ns h
      · next hback =>
        rw [if_neg hback] at h
        split
        · rfl
        · next hshort =>
          rw [if_neg hshort] at h
          obtain ⟨hhere, hnext⟩ := List.forall_mem_cons.mp h
          rw [hhere]
          cases hget : t.get? (base ++ [n]) with
          | none => rfl
          | some e =>
            rw [hget] at hnext
            cases e with
            | dir => exact stroll_congr (base ++ [n]) ns hnext
            | _ => rfl

/-- A walk only depends on the places that it looks at. -/
theorem walk_congr : ∀ (links : Nat) (base : Location) (ns : List String),
    (∀ l ∈ t.walkSights links base ns, t'.get? l = t.get? l) →
    t'.walk true links base ns = t.walk true links base ns
  | links, base, ns, h => by
    unfold walkSights at h
    obtain ⟨hfirst, hmore⟩ := List.forall_mem_append.mp h
    have hstroll := stroll_congr base ns hfirst
    unfold walk
    rw [hstroll]
    cases hs : t.stroll true base ns with
    | done r => rfl
    | link base' target left =>
      cases links with
      | zero => rfl
      | succ links =>
        rw [hs] at hmore
        dsimp only at hmore ⊢
        split
        · rfl
        · next htarget =>
          rw [if_neg htarget] at hmore
          exact walk_congr links _ _ hmore

/-- A stroll looks at the place where it ends. -/
theorem mem_strollSights_of_found {l : Location} : ∀ (base : Location) (ns : List String),
    t.stroll true base ns = .done (.ok (.found l)) → l ∈ t.strollSights base ns
  | base, [], h => by
    cases h
    exact List.mem_singleton.mpr rfl
  | base, n :: ns, h => by
    unfold stroll at h
    unfold strollSights
    split at h
    · next hdot =>
      rw [if_pos hdot]
      exact mem_strollSights_of_found base ns h
    · next hdot =>
      rw [if_neg hdot]
      split at h
      · next hback =>
        rw [if_pos hback]
        exact mem_strollSights_of_found base.dropLast ns h
      · next hback =>
        rw [if_neg hback]
        split at h
        · cases h
        · next hshort =>
          rw [if_neg hshort]
          split at h
          · split at h <;> cases h
          · next hdir =>
            rw [hdir]
            exact List.mem_cons_of_mem _ (mem_strollSights_of_found (base ++ [n]) ns h)
          · next target _ =>
            rw [if_neg (by simp)] at h
            cases h
          · split at h <;> cases h
            exact List.mem_cons_self

/-- A walk looks at the place where it ends. -/
theorem mem_walkSights_of_found {l : Location} {k : Nat} :
    ∀ (links : Nat) (base : Location) (ns : List String),
      t.walk true links base ns = .ok (k, .found l) → l ∈ t.walkSights links base ns
  | links, base, ns, h => by
    unfold walkSights
    rcases walk_found_cases h with ⟨hs, -⟩ | ⟨links', base', target, left, rfl, hs, htarget, hw⟩
    · exact List.mem_append_left _ (mem_strollSights_of_found base ns hs)
    · refine List.mem_append_right _ ?_
      rw [hs]
      dsimp only
      rw [if_neg htarget]
      exact mem_walkSights_of_found links' _ _ hw

/-- Where a path leads only depends on the places that it is led by. -/
theorem find_congr (hhere : t'.here = t.here) (h : ∀ l ∈ t.sights path, t'.get? l = t.get? l) :
    t'.find path = t.find path := by
  have hstart : t'.start path = t.start path := by
    unfold start
    rw [hhere]
  unfold find
  rw [hstart, walk_congr linkLimit _ _ h]

/-- A path is led by the place that it leads to. -/
theorem mem_sights_of_find {l : Location} (h : t.find path = .ok l) : l ∈ t.sights path := by
  obtain ⟨-, k, hwalk⟩ := find_eq_ok_iff.mp h
  exact mem_walkSights_of_found linkLimit _ _ hwalk

/-! ## Agreement besides one place -/

/-- The two trees only differ at and below one place. -/
structure Agrees (u : Location) (t t' : Tree) : Prop where
  here : t'.here = t.here
  get : ∀ l, ¬ u <+: l → t'.get? l = t.get? l

namespace Agrees

/-- What stands at a place and below can be taken away. -/
theorem prune (hu : u ≠ []) : Agrees u t (t.prune u) := by
  refine ⟨rfl, fun l hl => ?_⟩
  rw [get?_prune t u l hu, if_neg hl]

variable (h : Agrees u t t') (hp : ¬ t.Passes path u)
include h hp

theorem get_sights : ∀ l ∈ t.sights path, t'.get? l = t.get? l := by
  intro l hl
  exact h.get l fun hu => hp ⟨l, hl, hu⟩

theorem find : t'.find path = t.find path := find_congr h.here (h.get_sights hp)

theorem entry? : t'.entry? path = t.entry? path := by
  unfold Tree.entry?
  rw [h.find hp]
  cases hfind : t.find path with
  | error e => rfl
  | ok l => exact h.get_sights hp l (mem_sights_of_find hfind)

theorem isFile : t'.isFile path = t.isFile path := by
  unfold Tree.isFile
  rw [h.entry? hp]

theorem read : t'.read path = t.read path := by
  unfold Tree.read
  rw [h.find hp]
  cases hfind : t.find path with
  | error e => rfl
  | ok l =>
    dsimp only
    rw [h.get_sights hp l (mem_sights_of_find hfind)]

end Agrees

end Tree

end Testbench
