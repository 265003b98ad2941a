import Testbench.Tree.Walk

/-!
# The shape of a tree

A walk does not see what a file holds: all it asks of an entry is whether it is a directory, a
link, or something where the walk must end. Trees that agree in this are walked alike.

- `Entry.shape`, `Tree.shape?`: what a walk sees of an entry, and of a place.
- `Tree.Within`: whatever stands in one tree stands in the other, with its shape. Removing makes a
  tree smaller in this order; writing and making directories make it larger.
- `Tree.Alike`: the same shape everywhere.
- `Within.walk`, `Alike.walk`: a walk that arrives still arrives in a larger tree, and in trees
  that are alike every walk ends alike — also those that fail.
-/

namespace Testbench

/-- What a walk sees of an entry. -/
inductive Shape where
  | dir
  | link (target : String)
  /-- A walk must end here. -/
  | leaf
  deriving DecidableEq

/-- What a walk sees of an entry. -/
def Entry.shape : Entry → Shape
  | dir => .dir
  | link target => .link target
  | _ => .leaf

namespace Tree

variable {t t' t'' : Tree} {l : Location}

/-- What a walk sees at a place. -/
def shape? (t : Tree) (l : Location) : Option Shape := (t.get? l).map Entry.shape

theorem shape?_eq_dir_iff : t.shape? l = some .dir ↔ t.get? l = some .dir := by
  unfold shape?
  cases h : t.get? l with
  | none => simp
  | some e => cases e <;> simp [Entry.shape]

theorem shape?_eq_none_iff : t.shape? l = none ↔ t.get? l = none := by
  unfold shape?
  rw [Option.map_eq_none_iff]

/-! ## Larger trees -/

/-- Whatever stands in the first tree stands in the second one, with the same shape. -/
structure Within (t t' : Tree) : Prop where
  here : t'.here = t.here
  shape : ∀ l s, t.shape? l = some s → t'.shape? l = some s

namespace Within

theorem refl (t : Tree) : t.Within t := ⟨rfl, fun _ _ h => h⟩

theorem trans (h : t.Within t') (h' : t'.Within t'') : t.Within t'' :=
  ⟨h'.here.trans h.here, fun l s hs => h'.shape l s (h.shape l s hs)⟩

/-- Nothing is lost on the way to a larger tree. -/
theorem get?_ne_none (h : t.Within t') (hl : t.get? l ≠ none) : t'.get? l ≠ none := by
  obtain ⟨s, hs⟩ := Option.ne_none_iff_exists'.mp (mt shape?_eq_none_iff.mp hl)
  intro hnone
  have := h.shape l s hs
  rw [shape?_eq_none_iff.mpr hnone] at this
  cases this

theorem get?_dir (h : t.Within t') (hl : t.get? l = some .dir) : t'.get? l = some .dir :=
  shape?_eq_dir_iff.mp (h.shape l _ (shape?_eq_dir_iff.mpr hl))

theorem start_eq (h : t.Within t') (path : String) : t'.start path = t.start path := by
  unfold start
  rw [h.here]

/-- Walks that start in a directory do so in every larger tree. -/
theorem get?_start (h : t.Within t') {path : String} (hstart : t.get? (t.start path) = some .dir) :
    t'.get? (t'.start path) = some .dir := by
  rw [h.start_eq]
  exact h.get?_dir hstart

end Within

theorem shape?_set {e : Entry} (h : l ≠ []) (l' : Location) :
    (t.set l e).shape? l' = if l' = l then some e.shape else t.shape? l' := by
  unfold shape?
  rw [get?_set t l l' e h]
  split <;> rfl

/-- An entry put at a free place makes the tree larger. -/
theorem within_set_of_vacant {e : Entry} (h : l ≠ []) (hl : t.get? l = none) :
    t.Within (t.set l e) := by
  refine ⟨rfl, fun l' s hs => ?_⟩
  rw [shape?_set h]
  split
  · next heq =>
    rw [heq, shape?_eq_none_iff.mpr hl] at hs
    cases hs
  · exact hs

/-- What stands in the larger tree may be put into the smaller one. -/
theorem Within.set (h : t.Within t') {e : Entry} (hne : l ≠ []) (hget : t'.get? l = some e) :
    (t.set l e).Within t' := by
  refine ⟨h.here, fun l' s hs => ?_⟩
  rw [shape?_set hne] at hs
  split at hs
  · next heq =>
    rw [heq, shape?, hget]
    exact hs
  · exact h.shape l' s hs

/-! ## Trees that are alike -/

/-- The same shape everywhere. -/
structure Alike (t t' : Tree) : Prop where
  here : t'.here = t.here
  shape : ∀ l, t'.shape? l = t.shape? l

namespace Alike

theorem refl (t : Tree) : t.Alike t := ⟨rfl, fun _ => rfl⟩

theorem trans (h : t.Alike t') (h' : t'.Alike t'') : t.Alike t'' :=
  ⟨h'.here.trans h.here, fun l => (h'.shape l).trans (h.shape l)⟩

theorem within (h : t.Alike t') : t.Within t' :=
  ⟨h.here, fun l _ hs => (h.shape l).trans hs⟩

theorem get?_eq_none_iff (h : t.Alike t') : t'.get? l = none ↔ t.get? l = none := by
  rw [← shape?_eq_none_iff, ← shape?_eq_none_iff, h.shape l]

theorem get?_eq_dir_iff (h : t.Alike t') : t'.get? l = some .dir ↔ t.get? l = some .dir := by
  rw [← shape?_eq_dir_iff, ← shape?_eq_dir_iff, h.shape l]

end Alike

/-- An entry put in place of one of the same shape leaves the tree alike. -/
theorem alike_set {e : Entry} (h : l ≠ []) (hl : t.shape? l = some e.shape) :
    t.Alike (t.set l e) := by
  refine ⟨rfl, fun l' => ?_⟩
  rw [shape?_set h]
  split
  · next heq => rw [heq, hl]
  · rfl

/-! ## Walks -/

/-- The stroll past one name, by the shape of what stands there. -/
theorem stroll_cons (t : Tree) (last : Bool) (base : Location) (n : String) (ns : List String) :
    t.stroll last base (n :: ns) =
      if n = "." then t.stroll last base ns
      else if n = ".." then t.stroll last base.dropLast ns
      else if nameLimit < n.utf8ByteSize then .done (.error .nameTooLong)
      else match t.shape? (base ++ [n]) with
        | none => .done (if ns = [] then .ok (.vacant (base ++ [n])) else .error .missing)
        | some .dir => t.stroll last (base ++ [n]) ns
        | some (.link target) =>
          if ns = [] ∧ last = false then .done (.ok (.found (base ++ [n])))
          else .link base target ns
        | some .leaf =>
          .done (if ns = [] then .ok (.found (base ++ [n])) else .error .notDirectory) := by
  rw [stroll]
  unfold shape?
  cases h : t.get? (base ++ [n]) with
  | none => rfl
  | some e => cases e <;> rfl

/-- A stroll that comes to a link or arrives does so in every larger tree; only strolls that
arrive nowhere may end differently there. -/
theorem Within.stroll (h : t.Within t') (last : Bool) :
    ∀ (base : Location) (ns : List String),
      t'.stroll last base ns = t.stroll last base ns ∨
        ∃ r, t.stroll last base ns = .done r ∧ ∀ l, r ≠ .ok (.found l)
  | base, [] => .inl rfl
  | base, n :: ns => by
    rw [stroll_cons, stroll_cons]
    split
    · exact h.stroll last base ns
    split
    · exact h.stroll last base.dropLast ns
    split
    · exact .inl rfl
    cases hs : t.shape? (base ++ [n]) with
    | none =>
      refine .inr ⟨_, rfl, fun l => ?_⟩
      split <;> simp
    | some s =>
      rw [h.shape _ s hs]
      cases s with
      | dir => exact h.stroll last (base ++ [n]) ns
      | link target => exact .inl rfl
      | leaf => exact .inl rfl

theorem walk_of_done {last : Bool} {links : Nat} {base : Location} {ns : List String}
    {r : Except FileError Place} (h : t.stroll last base ns = .done r) :
    t.walk last links base ns = r.map (links, ·) := by
  unfold walk
  rw [h]

theorem walk_of_link {last : Bool} {links : Nat} {base base' : Location} {ns left : List String}
    {target : String} (h : t.stroll last base ns = .link base' target left) :
    t.walk last (links + 1) base ns =
      if target = "" then .error .missing
      else t.walk last links (if Path.isAbsolute target then [] else base')
        (Path.steps target ++ left) := by
  rw [walk, h]

theorem walk_zero_of_link {last : Bool} {base base' : Location} {ns left : List String}
    {target : String} (h : t.stroll last base ns = .link base' target left) :
    t.walk last 0 base ns = .error .tooManyLinks := by
  rw [walk, h]

/-- A walk arrives either without following a link or behind the first link that it follows. -/
theorem walk_found_cases {last : Bool} {links k : Nat} {base l : Location} {ns : List String}
    (h : t.walk last links base ns = .ok (k, .found l)) :
    (t.stroll last base ns = .done (.ok (.found l)) ∧ k = links) ∨
      ∃ links' base' target left, links = links' + 1 ∧
        t.stroll last base ns = .link base' target left ∧ target ≠ "" ∧
        t.walk last links' (if Path.isAbsolute target then [] else base')
          (Path.steps target ++ left) = .ok (k, .found l) := by
  cases hs : t.stroll last base ns with
  | done r =>
    rw [walk_of_done hs] at h
    cases r with
    | error e => cases h
    | ok p =>
      cases h
      exact .inl ⟨rfl, rfl⟩
  | link base' target left =>
    cases links with
    | zero =>
      rw [walk_zero_of_link hs] at h
      cases h
    | succ links =>
      rw [walk_of_link hs] at h
      split at h
      · cases h
      · next htarget => exact .inr ⟨links, base', target, left, rfl, rfl, htarget, h⟩

/-- A walk that arrives at an entry arrives there in every larger tree. -/
theorem Within.walk (h : t.Within t') {last : Bool} {links k : Nat} {base l : Location}
    {ns : List String} (hw : t.walk last links base ns = .ok (k, .found l)) :
    t'.walk last links base ns = .ok (k, .found l) := by
  -- a walk that arrives only depends on strolls that do not fail, and these are kept
  rcases walk_found_cases hw with ⟨hs, rfl⟩ | ⟨links', base', target, left, rfl, hs, htarget, hw⟩
  · rcases h.stroll last base ns with heq | ⟨r, hr, hne⟩
    · rw [walk_of_done (heq.trans hs)]
      rfl
    · rw [hs] at hr
      cases hr
      exact absurd rfl (hne l)
  · rcases h.stroll last base ns with heq | ⟨r, hr, -⟩
    · rw [walk_of_link (heq.trans hs), if_neg htarget]
      exact h.walk hw
    · rw [hs] at hr
      cases hr
termination_by links

/-- In trees that are alike every stroll ends alike. -/
theorem Alike.stroll (h : t.Alike t') (last : Bool) :
    ∀ (base : Location) (ns : List String), t'.stroll last base ns = t.stroll last base ns
  | base, [] => rfl
  | base, n :: ns => by
    rw [stroll_cons, stroll_cons, h.shape, h.stroll last base ns, h.stroll last base.dropLast ns,
      h.stroll last (base ++ [n]) ns]

/-- In trees that are alike every walk ends alike. -/
theorem Alike.walk (h : t.Alike t') (last : Bool) :
    ∀ (links : Nat) (base : Location) (ns : List String),
      t'.walk last links base ns = t.walk last links base ns := by
  intro links
  induction links with
  | zero =>
    intro base ns
    unfold Tree.walk
    rw [h.stroll]
  | succ links ih =>
    intro base ns
    unfold Tree.walk
    rw [h.stroll]
    cases t.stroll last base ns with
    | done r => rfl
    | link base target left =>
      dsimp only
      rw [ih]

end Tree

end Testbench
