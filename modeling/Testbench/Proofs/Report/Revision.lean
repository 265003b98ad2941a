import Testbench.Proofs.Report.Directory
import Testbench.Proofs.Tree.Landing

/-!
# Other reports written in their place

Where a write lands is told by the shapes of the entries, and whether it succeeds by the kind of the
file, but never by what is written. So the reports on other results are written to the same files,
or fail for the same reason, also where links lead there.

- `Tree.Revised`: two trees that hold the same, up to octets that are paired.
- `Revised.write`: one file that is written to both.
- `Report.write_revised`: the reports.
-/

namespace Testbench

namespace Tree

variable {t u : Tree} {path : String} {octets octets' : ByteArray}
  {pairs : List (ByteArray × ByteArray)}

/-! ## Where a write lands -/

/-- Where a write lands, by the shape of what stands under the name. -/
theorem landing_eq (t : Tree) (fuel links : Nat) (base : Location) (name : String) :
    t.landing fuel links base name =
      match t.shape? (base ++ [name]) with
      | none => .ok (.vacant (base ++ [name]))
      | some (.link target) =>
        match fuel, links with
        | fuel + 1, links + 1 =>
          match t.partingFrom links (if Path.isAbsolute target then [] else base) target with
          | .error e => .error e
          | .ok (_, _, none) => .error .isDirectory
          | .ok (links, base, some name) =>
            if Path.endsInSlash target then .error .isDirectory
            else t.landing fuel links base name
        | _, _ => .error .tooManyLinks
      | some _ => .ok (.found (base ++ [name])) := by
  rw [landing.eq_def]
  dsimp only
  unfold shape?
  cases t.get? (base ++ [name]) with
  | none => rfl
  | some e => cases e <;> rfl

/-- In trees that are alike a write lands at the same place. -/
theorem Alike.landing (h : t.Alike u) : ∀ (fuel links : Nat) (base : Location) (name : String),
    u.landing fuel links base name = t.landing fuel links base name := by
  intro fuel
  induction fuel with
  | zero =>
    intro links base name
    rw [landing_eq, landing_eq, h.shape]
  | succ fuel ih =>
    intro links base name
    rw [landing_eq, landing_eq, h.shape]
    split
    · rfl
    · cases links with
      | zero => rfl
      | succ links =>
        dsimp only
        simp only [h.partingFrom, ih]
    · rfl

theorem Alike.writable (h : t.Alike u) (path : String) : u.writable path = t.writable path := by
  unfold Tree.writable
  rw [h.within.start_eq, h.partingFrom]
  simp only [h.landing]

/-! ## Trees up to some octets -/

/-- The trees hold the same, but for files that hold the first octets of a pair in the one and the
second ones in the other. -/
structure Revised (pairs : List (ByteArray × ByteArray)) (t u : Tree) : Prop where
  here : u.here = t.here
  get : ∀ l, u.get? l = t.get? l ∨
    ∃ p ∈ pairs, ∃ x, t.get? l = some (.file p.1 x) ∧ u.get? l = some (.file p.2 x)

namespace Revised

theorem refl (pairs : List (ByteArray × ByteArray)) (t : Tree) : Revised pairs t t :=
  ⟨rfl, fun _ => .inl rfl⟩

theorem alike (h : Revised pairs t u) : t.Alike u := by
  refine ⟨h.here, fun l => ?_⟩
  unfold shape?
  rcases h.get l with heq | ⟨p, -, x, hfile, hfile'⟩
  · rw [heq]
  · rw [hfile, hfile']
    rfl

/-- Files are found with the same mode, and all other entries as they are. -/
theorem cases_get (h : Revised pairs t u) (l : Location) :
    (∃ old old' x, t.get? l = some (.file old x) ∧ u.get? l = some (.file old' x)) ∨
      u.get? l = t.get? l ∧ ∀ old x, t.get? l ≠ some (.file old x) := by
  rcases h.get l with heq | ⟨p, -, x, hfile, hfile'⟩
  · by_cases hfile : ∃ old x, t.get? l = some (.file old x)
    · obtain ⟨old, x, hfile⟩ := hfile
      exact .inl ⟨old, old, x, hfile, heq.trans hfile⟩
    · exact .inr ⟨heq, fun old x hget => hfile ⟨old, x, hget⟩⟩
  · exact .inl ⟨p.1, p.2, x, hfile, hfile'⟩

/-- A file with these octets in the one tree and with those in the other. -/
theorem set (h : Revised pairs t u) {l : Location} (hl : l ≠ []) (octets octets' : ByteArray)
    (x : Bool) : Revised ((octets, octets') :: pairs) (t.set l (.file octets x))
      (u.set l (.file octets' x)) := by
  refine ⟨h.here, fun l' => ?_⟩
  rw [get?_set _ _ _ _ hl, get?_set _ _ _ _ hl]
  split
  · exact .inr ⟨_, List.mem_cons_self, x, rfl, rfl⟩
  · exact (h.get l').imp_right fun ⟨p, hp, hx⟩ => ⟨p, List.mem_cons_of_mem _ hp, hx⟩

theorem cons (h : Revised pairs t u) (p : ByteArray × ByteArray) : Revised (p :: pairs) t u :=
  ⟨h.here, fun l => (h.get l).imp_right fun ⟨p', hp, hx⟩ => ⟨p', List.mem_cons_of_mem _ hp, hx⟩⟩

/-- Some octets are written to the one tree, and others by the same path to the other one: both
fail, for the same reason, or both succeed. -/
theorem write (h : Revised pairs t u) (path : String) (hsize : octets.size ≠ 0)
    (hsize' : octets'.size ≠ 0) :
    (∃ e, t.write path octets = .error e ∧ u.write path octets' = .error e) ∨
      ∃ t' u', t.write path octets = .ok t' ∧ u.write path octets' = .ok u' ∧
        Revised ((octets, octets') :: pairs) t' u' := by
  unfold Tree.write
  rw [h.alike.writable]
  cases hp : t.writable path with
  | error e => exact .inl ⟨e, rfl, rfl⟩
  | ok p =>
    obtain ⟨dir, n, ⟨rfl, -⟩ | ⟨rfl, -⟩⟩ := isLanding_of_writable hp
    · exact .inr ⟨_, _, rfl, rfl, h.set (by simp) octets octets' false⟩
    · dsimp only
      rcases h.cases_get (dir ++ [n]) with ⟨old, old', x, hfile, hfile'⟩ | ⟨heq, hnot⟩
      · rw [hfile, hfile']
        exact .inr ⟨_, _, rfl, rfl, h.set (by simp) octets octets' x⟩
      · rw [heq]
        cases hget : t.get? (dir ++ [n]) with
        | none => exact .inl ⟨_, rfl, rfl⟩
        | some e =>
          cases e with
          | file old x => exact absurd hget (hnot old x)
          | sink => exact .inr ⟨t, u, rfl, rfl, h.cons _⟩
          | faulty | full =>
            dsimp only
            rw [if_neg hsize, if_neg hsize']
            exact .inl ⟨_, rfl, rfl⟩
          | dir | link | utility => exact .inl ⟨_, rfl, rfl⟩

end Revised

end Tree

namespace Report

open Testbench.Tree

/-- What is written of some results, paired with what is written of others. -/
def revisions (issues : KnownIssues) (results results' : ResultSet) (c c' : Context) :
    List (ByteArray × ByteArray) :=
  [((text results c).toUTF8, (text results' c').toUTF8),
    ((json results issues c).toUTF8, (json results' issues c').toUTF8)]

/-- The reports on some results and on others are written to the same files of a tree, or neither
can be, for the same reason. -/
theorem write_revised (t : Tree) (dir : String) (issues : KnownIssues) (results results' : ResultSet)
    (c c' : Context) :
    (write t dir results' issues c').1 = (write t dir results issues c).1 ∧
      Revised (revisions issues results results' c c') (write t dir results issues c).2
        (write t dir results' issues c').2 := by
  have hjson := (Revised.refl [] t).write (Paths.under dir).json
    (size_toUTF8_ne_zero (json_ne_empty results issues c))
    (size_toUTF8_ne_zero (json_ne_empty results' issues c'))
  unfold write
  dsimp only
  rcases hjson with ⟨e, he, he'⟩ | ⟨t₁, u₁, hw, hw', hrevised⟩
  · rw [he, he']
    exact ⟨rfl, .refl _ t⟩
  · rw [hw, hw']
    dsimp only
    have htext := hrevised.write (Paths.under dir).text
      (size_toUTF8_ne_zero (text_ne_empty results c)) (size_toUTF8_ne_zero (text_ne_empty results' c'))
    rcases htext with ⟨e, he, he'⟩ | ⟨t₂, u₂, hw, hw', hrevised'⟩
    · rw [he, he']
      exact ⟨rfl, hrevised.cons _⟩
    · rw [hw, hw']
      exact ⟨rfl, hrevised'⟩

end Report

end Testbench
