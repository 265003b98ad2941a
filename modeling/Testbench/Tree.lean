import Testbench.Path

/-!
# File trees

The files that a run sees: what stands at every place below the root, and the directory that
relative paths start from.

- `Location`: a place, as the names that lead there from the root.
- `Entry`: a directory, a file, a link, or one of the special files that are no plain data.
- `Tree`: entries at their places.
- `Tree.get?`: the entry at a place; the view that all operations are described by.
- `Tree.set`, `Tree.prune`: the two changes everything else is made of.
- `Tree.LinkFree`, `Tree.Closed`: no links, and no gaps on the way from the root.
-/

namespace Testbench

/-- A place in a tree: the names that lead there from the root. -/
abbrev Location := List String

/-- Octets are compared as arrays. -/
instance Octets.decidableEq : DecidableEq ByteArray := fun a b =>
  decidable_of_iff (a.data = b.data) ByteArray.ext_iff.symm

/-- What stands at a place. -/
inductive Entry where
  | dir
  | file (octets : ByteArray) (executable : Bool)
  /-- A symbolic link and the path it holds. -/
  | link (target : String)
  /-- A file that opens but can be neither read nor written. -/
  | faulty
  /-- A device that reads as empty and takes everything. -/
  | sink
  /-- A device that has no room for anything. -/
  | full
  /-- A program that comes with the host. -/
  | utility (name : String)
  deriving DecidableEq

namespace Entry

/-- The entry is a directory. -/
def isDir : Entry → Bool
  | dir => true
  | _ => false

/-- The entry is a regular file. -/
def isFile : Entry → Bool
  | file _ _ => true
  | faulty => true
  | utility _ => true
  | _ => false

end Entry

/-- Entries at their places, and the directory that relative paths start from. -/
structure Tree where
  entries : List (Location × Entry)
  here : Location

namespace Tree

/-- The tree without entries, seen from the root. -/
def empty : Tree := ⟨[], []⟩

instance : Inhabited Tree := ⟨empty⟩

/-- The entry at a place. The root is always a directory. -/
def get? (t : Tree) (l : Location) : Option Entry :=
  if l = [] then some .dir else t.entries.lookup l

/-- The tree with an entry put at a place. -/
def set (t : Tree) (l : Location) (e : Entry) : Tree :=
  { t with entries := (l, e) :: t.entries.filter (·.1 ≠ l) }

/-- The tree without a place and all that stands below it. -/
def prune (t : Tree) (l : Location) : Tree :=
  { t with entries := t.entries.filter fun e => !l.isPrefixOf e.1 }

/-- The entries below a place, each with the names that lead to it from there. -/
def below (t : Tree) (l : Location) : List (Location × Entry) :=
  t.entries.filterMap fun (at', e) =>
    match l.isPrefixOf? at' with
    | some [] => none
    | some rest => some (rest, e)
    | none => none

/-- Nothing stands below the place. -/
def isBare (t : Tree) (l : Location) : Bool := (t.below l).isEmpty

/-- No link stands anywhere in the tree. -/
def LinkFree (t : Tree) : Prop := ∀ l target, t.get? l ≠ some (.link target)

/-- Whatever stands somewhere stands in a directory. -/
def Closed (t : Tree) : Prop := ∀ l e, t.get? l = some e → t.get? l.dropLast = some .dir

/-! ## The view -/

@[simp] theorem get?_root (t : Tree) : t.get? [] = some .dir := by simp [get?]

@[simp] theorem here_set (t : Tree) (l : Location) (e : Entry) : (t.set l e).here = t.here := rfl

theorem lookup_filter_of_pos {es : List (Location × Entry)} {keep : Location × Entry → Bool}
    {l : Location} (h : ∀ e, keep (l, e) = true) : (es.filter keep).lookup l = es.lookup l := by
  induction es with
  | nil => rfl
  | cons x es ih =>
    obtain ⟨k, e⟩ := x
    by_cases hk : l = k
    · subst hk; simp [h]
    · have : (l == k) = false := by simpa using hk
      by_cases hx : keep (k, e) = true
      · simp [hx, List.lookup_cons, this, ih]
      · simp [hx, List.lookup_cons, this, ih]

theorem lookup_filter_of_neg {es : List (Location × Entry)} {keep : Location × Entry → Bool}
    {l : Location} (h : ∀ e, keep (l, e) = false) : (es.filter keep).lookup l = none := by
  induction es with
  | nil => rfl
  | cons x es ih =>
    obtain ⟨k, e⟩ := x
    by_cases hk : l = k
    · subst hk; simp [h, ih]
    · have : (l == k) = false := by simpa using hk
      by_cases hx : keep (k, e) = true
      · simp [hx, List.lookup_cons, this, ih]
      · simp [hx, ih]

/-- After an entry is put at a place, it stands there and nothing else has changed. -/
theorem get?_set (t : Tree) (l l' : Location) (e : Entry) (h : l ≠ []) :
    (t.set l e).get? l' = if l' = l then some e else t.get? l' := by
  unfold get? set
  by_cases hl : l' = []
  · subst hl; simp [Ne.symm h]
  · by_cases he : l' = l
    · subst he; simp [hl]
    · have : (l' == l) = false := by simpa using he
      simp [hl, he, List.lookup_cons, this]
      exact lookup_filter_of_pos (by simp [he])

/-- After a place is pruned, nothing stands at it or below, and nothing else has changed. -/
theorem get?_prune (t : Tree) (l l' : Location) (h : l ≠ []) :
    (t.prune l).get? l' = if l <+: l' then none else t.get? l' := by
  unfold get? prune
  by_cases hl : l' = []
  · subst hl; simp [h]
  · by_cases he : l <+: l'
    · simp only [hl, he, if_true, if_false]
      exact lookup_filter_of_neg fun _ => by simpa using he
    · simp only [hl, he, if_false]
      exact lookup_filter_of_pos fun _ => by simpa [← List.isPrefixOf_iff_prefix] using he

end Tree

end Testbench
