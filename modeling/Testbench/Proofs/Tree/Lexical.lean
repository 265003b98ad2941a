import Testbench.Proofs.Path.Parent
import Testbench.Proofs.Tree.Remnant
import Testbench.Proofs.Tree.Site

/-!
# Walks without links

Where no link stands anywhere, the names of a path tell where it leads, and the tree only tells
whether it leads there: at every stop on the way a directory has to stand. A stop that the walk does
not leave by `..` stands above the place where the walk ends, so that it is a directory whenever
something stands at this place.

- `reach`, `stops`: where names lead, and the places that they name on the way.
- `prefix_or_isLeft_of_mem_stops`: a stop is above the end of the walk or is left by `..`.
- `Tree.Open`: a directory stands at every stop.
- `walk_dot_iff`, `parting_iff_of_linkFree`: when paths lead somewhere.
- `find_congr_of_stops`, `parting_congr_of_stops`: trees that agree at all stops.
-/

namespace Testbench

namespace Tree

variable {t t' : Tree} {path : String} {base q l : Location} {ns : List String}

/-! ## Where names lead -/

/-- The place that names lead to from another one. -/
def reach : Location → List String → Location
  | base, [] => base
  | base, n :: ns =>
    if n = "." then reach base ns
    else if n = ".." then reach base.dropLast ns
    else reach (base ++ [n]) ns

/-- The places that names stand for on their way. -/
def stops : Location → List String → List Location
  | _, [] => []
  | base, n :: ns =>
    if n = "." then stops base ns
    else if n = ".." then stops base.dropLast ns
    else (base ++ [n]) :: stops (base ++ [n]) ns

theorem reach_append (ms : List String) : ∀ (base : Location) (ns : List String),
    reach base (ns ++ ms) = reach (reach base ns) ms
  | _, [] => rfl
  | base, n :: ns => by
    rw [List.cons_append, reach, reach]
    split
    · exact reach_append ms base ns
    · split
      · exact reach_append ms base.dropLast ns
      · exact reach_append ms (base ++ [n]) ns

theorem stops_append (ms : List String) : ∀ (base : Location) (ns : List String),
    stops base (ns ++ ms) = stops base ns ++ stops (reach base ns) ms
  | _, [] => rfl
  | base, n :: ns => by
    rw [List.cons_append, stops, stops, reach]
    split
    · exact stops_append ms base ns
    · split
      · exact stops_append ms base.dropLast ns
      · rw [stops_append ms (base ++ [n]) ns, List.cons_append]

/-- Plain names lead down, one after the other. -/
theorem reach_of_plain : ∀ (base : Location) {ns : List String}, (∀ n ∈ ns, n ≠ "." ∧ n ≠ "..") →
    reach base ns = base ++ ns
  | base, [], _ => (List.append_nil base).symm
  | base, n :: ns, h => by
    obtain ⟨⟨hdot, hback⟩, hplain⟩ := List.forall_mem_cons.mp h
    rw [reach, if_neg hdot, if_neg hback, reach_of_plain _ hplain, List.append_assoc,
      List.singleton_append]

/-- All that plain names stand for on their way lies below the start. -/
theorem exists_of_mem_stops_of_plain : ∀ (base : Location) {ns : List String},
    (∀ n ∈ ns, n ≠ "." ∧ n ≠ "..") → l ∈ stops base ns → ∃ ms, ms ≠ [] ∧ ms <+: ns ∧ l = base ++ ms
  | _, [], _, hl => by cases hl
  | base, n :: ns, h, hl => by
    obtain ⟨⟨hdot, hback⟩, hplain⟩ := List.forall_mem_cons.mp h
    rw [stops, if_neg hdot, if_neg hback] at hl
    rcases List.mem_cons.mp hl with rfl | hl
    · exact ⟨[n], by simp, ⟨ns, rfl⟩, rfl⟩
    · obtain ⟨ms, -, hprefix, rfl⟩ := exists_of_mem_stops_of_plain (base ++ [n]) hplain hl
      exact ⟨n :: ms, by simp, List.cons_prefix_cons.mpr ⟨rfl, hprefix⟩, by simp⟩

/-- A place is left by `..` on the way. -/
def IsLeft (base : Location) (ns : List String) (l : Location) : Prop :=
  ∃ as bs, ns = as ++ ".." :: bs ∧ reach base as = l

theorem IsLeft.cons {n : String} (h : IsLeft (reach base [n]) ns l) : IsLeft base (n :: ns) l := by
  obtain ⟨as, bs, rfl, hreach⟩ := h
  refine ⟨n :: as, bs, rfl, ?_⟩
  rw [← List.singleton_append, reach_append, hreach]

/-- A walk that starts below a place ends below it or leaves it by `..`. -/
theorem prefix_or_isLeft : ∀ (base : Location) (ns : List String), q <+: base →
    q <+: reach base ns ∨ IsLeft base ns q
  | _, [], h => .inl h
  | base, n :: ns, h => by
    have hstep : q <+: reach base [n] → q <+: reach base (n :: ns) ∨ IsLeft base (n :: ns) q := by
      intro hbelow
      have happend : reach base (n :: ns) = reach (reach base [n]) ns := reach_append ns base [n]
      rw [happend]
      exact (prefix_or_isLeft (reach base [n]) ns hbelow).imp_right IsLeft.cons
    by_cases hdot : n = "."
    · exact hstep (by rwa [reach, if_pos hdot])
    by_cases hback : n = ".."
    · subst hback
      by_cases heq : q = base
      · exact .inr ⟨[], ns, rfl, heq.symm⟩
      · refine hstep ?_
        rw [reach, if_neg (by decide), if_pos rfl]
        obtain ⟨rest, rfl⟩ := h
        have hrest : rest ≠ [] := fun hnil => heq (by rw [hnil, List.append_nil])
        rw [reach, List.dropLast_append_of_ne_nil hrest]
        exact List.prefix_append _ _
    · refine hstep ?_
      rw [reach, if_neg hdot, if_neg hback]
      exact h.trans (List.prefix_append _ _)

/-- A stop is above the end of the walk or is left by `..`. -/
theorem prefix_or_isLeft_of_mem_stops : ∀ (base : Location) (ns : List String), l ∈ stops base ns →
    l <+: reach base ns ∨ IsLeft base ns l
  | _, [], h => by cases h
  | base, n :: ns, h => by
    have happend : reach base (n :: ns) = reach (reach base [n]) ns := reach_append ns base [n]
    have hstep : l <+: reach (reach base [n]) ns ∨ IsLeft (reach base [n]) ns l →
        l <+: reach base (n :: ns) ∨ IsLeft base (n :: ns) l := by
      rw [happend]
      exact Or.imp_right IsLeft.cons
    by_cases hdot : n = "."
    · rw [stops, if_pos hdot] at h
      refine hstep ?_
      rw [reach, if_pos hdot]
      exact prefix_or_isLeft_of_mem_stops base ns h
    by_cases hback : n = ".."
    · rw [stops, if_neg hdot, if_pos hback] at h
      refine hstep ?_
      rw [reach, if_neg hdot, if_pos hback]
      exact prefix_or_isLeft_of_mem_stops base.dropLast ns h
    · rw [stops, if_neg hdot, if_neg hback] at h
      refine hstep ?_
      rw [reach, if_neg hdot, if_neg hback]
      rcases List.mem_cons.mp h with rfl | h
      · exact prefix_or_isLeft (base ++ [n]) ns (List.prefix_refl _)
      · exact prefix_or_isLeft_of_mem_stops (base ++ [n]) ns h

/-! ## Open ways -/

/-- Names can be walked along through directories: none is too long, and a directory stands at every
stop. -/
structure Open (t : Tree) (base : Location) (ns : List String) : Prop where
  short : ∀ n ∈ ns, n.utf8ByteSize ≤ nameLimit
  dirs : ∀ l ∈ stops base ns, t.get? l = some .dir

theorem open_nil (t : Tree) (base : Location) : t.Open base [] := ⟨by simp, by simp [stops]⟩

theorem open_append {ms : List String} :
    t.Open base (ns ++ ms) ↔ t.Open base ns ∧ t.Open (reach base ns) ms := by
  constructor
  · rintro ⟨hshort, hdirs⟩
    rw [stops_append] at hdirs
    obtain ⟨hshort, hshort'⟩ := List.forall_mem_append.mp hshort
    obtain ⟨hdirs, hdirs'⟩ := List.forall_mem_append.mp hdirs
    exact ⟨⟨hshort, hdirs⟩, ⟨hshort', hdirs'⟩⟩
  · rintro ⟨⟨hshort, hdirs⟩, ⟨hshort', hdirs'⟩⟩
    refine ⟨List.forall_mem_append.mpr ⟨hshort, hshort'⟩, ?_⟩
    rw [stops_append]
    exact List.forall_mem_append.mpr ⟨hdirs, hdirs'⟩

/-- A name that adds no stop makes no difference to whether the way is open. -/
theorem open_cons_of_stops {n : String} {base' : Location} (hshort : n.utf8ByteSize ≤ nameLimit)
    (hstops : stops base (n :: ns) = stops base' ns) :
    t.Open base (n :: ns) ↔ t.Open base' ns := by
  constructor
  · rintro ⟨hall, hdirs⟩
    exact ⟨(List.forall_mem_cons.mp hall).2, hstops ▸ hdirs⟩
  · rintro ⟨hall, hdirs⟩
    exact ⟨List.forall_mem_cons.mpr ⟨hshort, hall⟩, hstops ▸ hdirs⟩

theorem open_dot_cons : t.Open base ("." :: ns) ↔ t.Open base ns :=
  open_cons_of_stops (by decide) rfl

/-- Names that stand for the place already reached lead nowhere else. -/
theorem open_of_dots (t : Tree) (base : Location) : ∀ {ns : List String}, (∀ n ∈ ns, n = ".") →
    t.Open base ns
  | [], _ => open_nil t base
  | n :: ns, h => by
    obtain ⟨rfl, hdots⟩ := List.forall_mem_cons.mp h
    exact open_dot_cons.mpr (open_of_dots t base hdots)

theorem open_back_cons : t.Open base (".." :: ns) ↔ t.Open base.dropLast ns :=
  open_cons_of_stops (by decide) rfl

theorem open_name_cons {n : String} (hdot : n ≠ ".") (hback : n ≠ "..") :
    t.Open base (n :: ns) ↔
      n.utf8ByteSize ≤ nameLimit ∧ t.get? (base ++ [n]) = some .dir ∧ t.Open (base ++ [n]) ns := by
  have hstops : stops base (n :: ns) = (base ++ [n]) :: stops (base ++ [n]) ns := by
    rw [stops, if_neg hdot, if_neg hback]
  constructor
  · rintro ⟨hshort, hdirs⟩
    rw [hstops] at hdirs
    obtain ⟨hn, hshort⟩ := List.forall_mem_cons.mp hshort
    obtain ⟨hdir, hdirs⟩ := List.forall_mem_cons.mp hdirs
    exact ⟨hn, hdir, hshort, hdirs⟩
  · rintro ⟨hn, hdir, hshort, hdirs⟩
    refine ⟨List.forall_mem_cons.mpr ⟨hn, hshort⟩, ?_⟩
    rw [hstops]
    exact List.forall_mem_cons.mpr ⟨hdir, hdirs⟩

/-- What is open stays open in a larger tree. -/
theorem Within.open (h : t.Within t') (ho : t.Open base ns) : t'.Open base ns :=
  ⟨ho.short, fun l hl => h.get?_dir (ho.dirs l hl)⟩

/-- An open way ends at a directory. -/
theorem Closed.get?_reach (h : t.Closed) : ∀ (base : Location) (ns : List String),
    t.get? base = some .dir → t.Open base ns → t.get? (reach base ns) = some .dir
  | _, [], hbase, _ => hbase
  | base, n :: ns, hbase, ho => by
    rw [reach]
    split
    · next hdot =>
      rw [hdot, open_dot_cons] at ho
      exact h.get?_reach base ns hbase ho
    · split
      · next hback =>
        rw [hback, open_back_cons] at ho
        exact h.get?_reach base.dropLast ns (h base _ hbase) ho
      · next hdot hback =>
        obtain ⟨-, hdir, ho⟩ := (open_name_cons hdot hback).mp ho
        exact h.get?_reach (base ++ [n]) ns hdir ho

/-- What is left by `..` on an open way is a directory. -/
theorem Closed.get?_of_isLeft (h : t.Closed) (hbase : t.get? base = some .dir)
    (ho : t.Open base ns) (hl : IsLeft base ns l) : t.get? l = some .dir := by
  obtain ⟨as, bs, rfl, rfl⟩ := hl
  exact h.get?_reach base as hbase (open_append.mp ho).1

/-- A way is open whose end is a directory and on which only directories are left by `..`. -/
theorem Closed.open_of_reach (h : t.Closed) (hshort : ∀ n ∈ ns, n.utf8ByteSize ≤ nameLimit)
    (hreach : t.get? (reach base ns) = some .dir)
    (hleft : ∀ l, IsLeft base ns l → t.get? l = some .dir) : t.Open base ns := by
  refine ⟨hshort, fun l hl => ?_⟩
  rcases prefix_or_isLeft_of_mem_stops base ns hl with ⟨rest, hrest⟩ | hgone
  · by_cases hnil : rest = []
    · rw [hnil, List.append_nil] at hrest
      rwa [hrest]
    · exact h.get?_dir hnil (by rw [hrest, hreach]; simp)
  · exact hleft l hgone

/-! ## Walks -/

/-- Without links, a stroll that asks for a directory arrives where its names lead if the way is
open, and nowhere else. -/
theorem stroll_dot_iff (h : t.LinkFree) {d : Location} : ∀ (base : Location) (ns : List String),
    t.stroll true base (ns ++ ["."]) = .done (.ok (.found d)) ↔
      t.Open base ns ∧ d = reach base ns
  | base, [] => by
    constructor
    · intro hs
      cases hs
      exact ⟨open_nil t _, rfl⟩
    · rintro ⟨-, rfl⟩
      rfl
  | base, n :: ns => by
    rw [List.cons_append, stroll_cons, reach]
    by_cases hdot : n = "."
    · rw [if_pos hdot, if_pos hdot, hdot, open_dot_cons]
      exact stroll_dot_iff h base ns
    by_cases hback : n = ".."
    · rw [if_neg hdot, if_neg hdot, if_pos hback, if_pos hback, hback, open_back_cons]
      exact stroll_dot_iff h base.dropLast ns
    rw [if_neg hdot, if_neg hdot, if_neg hback, if_neg hback, open_name_cons hdot hback]
    by_cases hlong : nameLimit < n.utf8ByteSize
    · have hnot : ¬ n.utf8ByteSize ≤ nameLimit := Nat.not_le.mpr hlong
      simp [hlong, hnot]
    · rw [if_neg hlong]
      by_cases hdir : t.get? (base ++ [n]) = some .dir
      · rw [shape?_eq_dir_iff.mpr hdir]
        dsimp only
        rw [stroll_dot_iff h (base ++ [n]) ns]
        simp [hdir, Nat.not_lt.mp hlong]
      · simp only [hdir, false_and, and_false, iff_false]
        by_cases hnone : t.get? (base ++ [n]) = none
        · rw [shape?_eq_none_iff.mpr hnone]
          simp
        · rw [shape?_eq_leaf hnone hdir (h _)]
          simp

/-- Without links no stroll ends at a link. -/
theorem exists_stroll_done (h : t.LinkFree) (last : Bool) : ∀ (base : Location) (ns : List String),
    ∃ r, t.stroll last base ns = .done r
  | base, [] => ⟨_, rfl⟩
  | base, n :: ns => by
    rw [stroll_cons]
    split
    · exact exists_stroll_done h last base ns
    split
    · exact exists_stroll_done h last base.dropLast ns
    split
    · exact ⟨_, rfl⟩
    cases hs : t.shape? (base ++ [n]) with
    | none => exact ⟨_, rfl⟩
    | some s =>
      cases s with
      | dir => exact exists_stroll_done h last (base ++ [n]) ns
      | leaf => exact ⟨_, rfl⟩
      | link target =>
        obtain ⟨e, he, hshape⟩ := Option.map_eq_some_iff.mp hs
        cases e with
        | link target' => exact absurd he (h _ _)
        | _ => cases hshape

theorem walk_dot_iff (h : t.LinkFree) {links k : Nat} {d : Location} :
    t.walk true links base (ns ++ ["."]) = .ok (k, .found d) ↔
      k = links ∧ t.Open base ns ∧ d = reach base ns := by
  rw [← stroll_dot_iff h]
  obtain ⟨r, hr⟩ := exists_stroll_done h true base (ns ++ ["."])
  rw [walk_of_done hr, hr]
  cases r with
  | error e => simp [Except.map]
  | ok p => simp [Except.map, eq_comm]

/-- A stroll that arrives at an entry without a link arrives where its names lead. -/
theorem reach_of_stroll : ∀ (base : Location) (ns : List String),
    t.stroll true base ns = .done (.ok (.found l)) → l = reach base ns
  | base, [], h => by
    cases h
    rfl
  | base, n :: ns, h => by
    rw [stroll_cons] at h
    rw [reach]
    split
    · next hdot =>
      rw [if_pos hdot] at h
      exact reach_of_stroll base ns h
    · next hdot =>
      rw [if_neg hdot] at h
      split
      · next hback =>
        rw [if_pos hback] at h
        exact reach_of_stroll base.dropLast ns h
      · next hback =>
        rw [if_neg hback] at h
        split at h
        · cases h
        · split at h
          · split at h <;> cases h
          · exact reach_of_stroll (base ++ [n]) ns h
          · rw [if_neg (by simp)] at h
            cases h
          · split at h
            · next hnil =>
              cases h
              rw [hnil]
              rfl
            · cases h

/-! ## Paths -/

/-- The place that the names of a path lead to. -/
def spot (t : Tree) (path : String) : Location := reach (t.start path) (Path.names path)

/-- The way along a path is open. -/
def Opens (t : Tree) (path : String) : Prop := t.Open (t.start path) (Path.names path)

theorem Within.opens (h : t.Within t') (ho : t.Opens path) : t'.Opens path := by
  unfold Opens
  rw [h.start_eq]
  exact h.open ho

/-- All that a path leaves by `..` are directories. -/
def Grounded (t : Tree) (path : String) : Prop :=
  ∀ l, IsLeft (t.start path) (Path.names path) l → t.get? l = some .dir

theorem grounded_of_take (h : ∀ k < (Path.names path).length, (Path.names path)[k]? = some ".." →
    t.get? (reach (t.start path) ((Path.names path).take k)) = some .dir) : t.Grounded path := by
  rintro l ⟨as, bs, hnames, rfl⟩
  have hk := h as.length
  rw [hnames, List.take_left'] at hk
  · exact hk (by simp) (by simp)
  · rfl

/-- A `.` behind the names makes no difference to where they lead. -/
theorem reach_steps (base : Location) (path : String) :
    reach base (Path.steps path) = reach base (Path.names path) := by
  unfold Path.steps
  rw [reach_append]
  split <;> rfl

theorem stops_steps (base : Location) (path : String) :
    stops base (Path.steps path) = stops base (Path.names path) := by
  unfold Path.steps
  rw [stops_append]
  split
  · exact List.append_nil _
  · exact List.append_nil _

/-- Without links a path leads somewhere in a single stroll. -/
theorem stroll_of_find (h : t.LinkFree) (hfind : t.find path = .ok l) :
    t.stroll true (t.start path) (Path.steps path) = .done (.ok (.found l)) := by
  obtain ⟨-, k, hwalk⟩ := find_eq_ok_iff.mp hfind
  obtain ⟨r, hr⟩ := exists_stroll_done h true (t.start path) (Path.steps path)
  rw [walk_of_done hr] at hwalk
  cases r with
  | error e => cases hwalk
  | ok p =>
    cases hwalk
    exact hr

theorem eq_spot_of_find (h : t.LinkFree) (hfind : t.find path = .ok l) : l = t.spot path := by
  rw [reach_of_stroll _ _ (stroll_of_find h hfind), reach_steps, spot]

theorem parting_iff_of_linkFree (h : t.LinkFree) {n : String} :
    t.parting path = .ok (base, some n) ↔ pathFault? path = none ∧
      ∃ ns, Path.names path = ns ++ [n] ∧ n ≠ "." ∧ n ≠ ".." ∧ n.utf8ByteSize ≤ nameLimit ∧
        t.Open (t.start path) ns ∧ base = reach (t.start path) ns := by
  simp only [parting_eq_some_iff, partingFrom_eq_some_iff, walk_dot_iff h]
  constructor
  · rintro ⟨k, hsound, ⟨-, hopen, hbase⟩, hlast, hdot, hback, hshort⟩
    obtain ⟨ns, hnames⟩ := List.getLast?_eq_some_iff.mp hlast
    rw [hnames, List.dropLast_concat] at hopen hbase
    exact ⟨hsound, ns, hnames, hdot, hback, hshort, hopen, hbase⟩
  · rintro ⟨hsound, ns, hnames, hdot, hback, hshort, hopen, hbase⟩
    rw [hnames, List.dropLast_concat, List.getLast?_concat]
    exact ⟨linkLimit, hsound, ⟨rfl, hopen, hbase⟩, rfl, hdot, hback, hshort⟩

/-- The entry under the last name of a path stands where the names of the path lead. -/
theorem spot_of_parting (h : t.LinkFree) {n : String} (hp : t.parting path = .ok (base, some n)) :
    t.spot path = base ++ [n] := by
  obtain ⟨-, ns, hnames, hdot, hback, -, -, rfl⟩ := (parting_iff_of_linkFree h).mp hp
  rw [spot, hnames, reach_append, reach, if_neg hdot, if_neg hback, reach]

/-! ## Agreement at all stops -/

/-- A stroll only depends on what stands at the stops. -/
theorem stroll_congr_of_stops (last : Bool) : ∀ (base : Location) (ns : List String),
    (∀ l ∈ stops base ns, t'.shape? l = t.shape? l) →
    t'.stroll last base ns = t.stroll last base ns
  | _, [], _ => rfl
  | base, n :: ns, h => by
    rw [stops] at h
    rw [stroll_cons, stroll_cons]
    split
    · next hdot =>
      rw [if_pos hdot] at h
      exact stroll_congr_of_stops last base ns h
    · next hdot =>
      rw [if_neg hdot] at h
      split
      · next hback =>
        rw [if_pos hback] at h
        exact stroll_congr_of_stops last base.dropLast ns h
      · next hback =>
        rw [if_neg hback] at h
        obtain ⟨hhere, hnext⟩ := List.forall_mem_cons.mp h
        rw [hhere, stroll_congr_of_stops last (base ++ [n]) ns hnext]

theorem walk_congr_of_stops (h : t.LinkFree) {last : Bool} (links : Nat)
    (hstops : ∀ l ∈ stops base ns, t'.shape? l = t.shape? l) :
    t'.walk last links base ns = t.walk last links base ns := by
  obtain ⟨r, hr⟩ := exists_stroll_done h last base ns
  rw [walk_of_done hr, walk_of_done ((stroll_congr_of_stops last base ns hstops).trans hr)]

theorem start_congr (hhere : t'.here = t.here) (path : String) : t'.start path = t.start path := by
  unfold start
  rw [hhere]

theorem spot_congr (hhere : t'.here = t.here) (path : String) : t'.spot path = t.spot path := by
  unfold spot
  rw [start_congr hhere]

/-- Trees that agree at all stops of a path are walked alike along it. -/
theorem find_congr_of_stops (h : t.LinkFree) (hhere : t'.here = t.here)
    (hstops : ∀ l ∈ stops (t.start path) (Path.names path), t'.shape? l = t.shape? l) :
    t'.find path = t.find path := by
  rw [← stops_steps] at hstops
  unfold find
  rw [start_congr hhere, walk_congr_of_stops h linkLimit hstops]

/-- The last name of a path is looked up in the same directory, or for the same reason in none. -/
theorem parting_congr_of_stops (h : t.LinkFree) (hhere : t'.here = t.here)
    (hstops : ∀ l ∈ stops (t.start path) (Path.names path), t'.shape? l = t.shape? l) :
    t'.parting path = t.parting path := by
  have hfront : ∀ l ∈ stops (t.start path) ((Path.names path).dropLast ++ ["."]),
      t'.shape? l = t.shape? l := by
    intro l hl
    refine hstops l ?_
    rcases List.eq_nil_or_concat (Path.names path) with hnil | ⟨ns, n, hnames⟩
    · rw [hnil] at hl
      cases hl
    · rw [hnames, List.concat_eq_append, List.dropLast_concat, stops_append] at hl
      rw [hnames, List.concat_eq_append, stops_append]
      rcases List.mem_append.mp hl with hl | hl
      · exact List.mem_append_left _ hl
      · cases hl
  unfold parting partingFrom
  dsimp only
  rw [start_congr hhere, walk_congr_of_stops h linkLimit hfront]

end Tree

end Testbench
