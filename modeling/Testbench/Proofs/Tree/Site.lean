import Testbench.Proofs.Tree.Operations

/-!
# Plain paths below a root

Where neither links nor special files stand below a root, a plain path that is taken from it leads
to the place that its names spell out, and a file there holds what was last written to it.

- `Entry.isOrdinary`, `Tree.OrdinaryBelow`: what trees of sources are made of.
- `Tree.Site`: a root that leads to a directory of ordinary entries.
- `Tree.Fits`: the text of a path can be one of an entry, whatever the tree holds.
- `Site.find_iff`, `Site.parting_iff`: plain paths lead where their names say.
- `Site.write_eq`: what a write does, by what stands at that place.
- `Site.set`: a site stays one when a file is written or a directory is made in it.
-/

namespace Testbench

/-- A directory, or a file that keeps what is written to it: no link, and no special file of the
host. -/
def Entry.isOrdinary : Entry → Bool
  | dir => true
  | file _ _ => true
  | utility _ => true
  | _ => false

namespace Tree

variable {t t' : Tree} {root q : String} {b l : Location}

/-- The paths below a root are taken from the directory at a place. -/
def IsBase (t : Tree) (root : String) (b : Location) : Prop :=
  ∃ k, t.walk true linkLimit (t.start root) (Path.names root ++ ["."]) = .ok (k, .found b)

theorem Within.isBase (h : t.Within t') (hbase : t.IsBase root b) : t'.IsBase root b := by
  obtain ⟨k, hwalk⟩ := hbase
  refine ⟨k, ?_⟩
  rw [h.start_eq]
  exact h.walk hwalk

/-- Neither links nor special files stand below the root. -/
def OrdinaryBelow (t : Tree) (root : String) : Prop :=
  ∀ b, t.IsBase root b → ∀ l e, b <+: l → t.get? l = some e → e.isOrdinary = true

/-- The root leads to the directory at a place, and only ordinary entries stand below. -/
structure Site (t : Tree) (root : String) (b : Location) : Prop where
  base : t.IsBase root b
  dir : t.get? b = some .dir
  closed : t.Closed
  ordinary : ∀ l e, b <+: l → t.get? l = some e → e.isOrdinary = true

/-- Only the entries that are listed, and the root, stand anywhere. -/
theorem mem_entries_of_get? {e : Entry} (h : t.get? l = some e) :
    (l = [] ∧ e = .dir) ∨ (l, e) ∈ t.entries := by
  unfold get? at h
  split at h
  · next hl =>
    cases h
    exact .inl ⟨hl, rfl⟩
  · obtain ⟨before, after, hentries, -⟩ := List.lookup_eq_some_iff.mp h
    refine .inr ?_
    rw [hentries]
    simp

/-- A tree has no gaps if what is listed stands in directories. -/
theorem closed_of_entries (h : ∀ x ∈ t.entries, t.get? x.1.dropLast = some .dir) : t.Closed := by
  intro l e he
  rcases mem_entries_of_get? he with ⟨rfl, -⟩ | hmem
  · exact get?_root t
  · exact h _ hmem

/-- An entry that is put into a directory leaves no gap if nothing is lost. -/
theorem Closed.set (h : t.Closed) {e : Entry} (hne : l ≠ [])
    (hparent : t.get? l.dropLast = some .dir) (hwithin : t.Within (t.set l e)) :
    (t.set l e).Closed := by
  intro l' e' hget
  apply hwithin.get?_dir
  rw [get?_set t l l' e hne] at hget
  split at hget
  · next heq => rwa [heq]
  · exact h l' e' hget

theorem ordinaryBelow_of_entries (h : ∀ x ∈ t.entries, x.2.isOrdinary = true) (root : String) :
    t.OrdinaryBelow root := by
  intro b _ l e _ he
  rcases mem_entries_of_get? he with ⟨-, rfl⟩ | hmem
  · rfl
  · exact h _ hmem

/-- The path `q` below the root can lead to an entry: its text is sound, and its names are not too
long. -/
structure Fits (root q : String) : Prop where
  sound : pathFault? (Path.join root q) = none
  short : ∀ n ∈ Path.names q, n.utf8ByteSize ≤ nameLimit

theorem fits_iff {ms : List String} {m : String} (h : Path.names q = ms ++ [m]) :
    Fits root q ↔ pathFault? (Path.join root q) = none ∧
      (∀ n ∈ ms, n.utf8ByteSize ≤ nameLimit) ∧ m.utf8ByteSize ≤ nameLimit := by
  have hall : (∀ n ∈ Path.names q, n.utf8ByteSize ≤ nameLimit) ↔
      (∀ n ∈ ms, n.utf8ByteSize ≤ nameLimit) ∧ m.utf8ByteSize ≤ nameLimit := by
    rw [h, List.forall_mem_append, List.forall_mem_singleton]
  constructor
  · rintro ⟨hsound, hshort⟩
    exact ⟨hsound, hall.mp hshort⟩
  · rintro ⟨hsound, hshort⟩
    exact ⟨hsound, hall.mpr hshort⟩

/-- The file that stands at a place; directories do not count. -/
def file? (t : Tree) (l : Location) : Option Entry := (t.get? l).filter Entry.isFile

theorem file?_eq_some_iff {e : Entry} :
    t.file? l = some e ↔ t.get? l = some e ∧ e.isFile = true := Option.filter_eq_some_iff

/-- Where the same file stands, the same entry does. -/
theorem get?_eq_of_file?_eq {e : Entry} (h : t'.file? l = t.file? l) (he : t.file? l = some e) :
    t'.get? l = t.get? l := by
  rw [(file?_eq_some_iff.mp he).1, (file?_eq_some_iff.mp (h.trans he)).1]

theorem file?_congr (h : t'.get? l = t.get? l) : t'.file? l = t.file? l := by
  unfold file?
  rw [h]

/-- What a write makes of an ordinary entry or of a free place. -/
def rewritten : Option Entry → (octets : ByteArray) → Except FileError Entry
  | none, octets => .ok (.file octets false)
  | some (.file _ x), octets => .ok (.file octets x)
  | some .dir, _ => .error .isDirectory
  | some _, _ => .error .missing

/-- Whatever stands below a place stands below a directory. -/
theorem Closed.get?_dir (h : t.Closed) {ms : List String} (hms : ms ≠ [])
    (hl : t.get? (l ++ ms) ≠ none) : t.get? l = some .dir := by
  obtain ⟨e, he⟩ := Option.ne_none_iff_exists'.mp hl
  have hdir := h _ e he
  rw [List.dropLast_append_of_ne_nil hms] at hdir
  by_cases hnil : ms.dropLast = []
  · rwa [hnil, List.append_nil] at hdir
  · exact h.get?_dir hnil (by rw [hdir]; simp)
termination_by ms.length
decreasing_by
  have := List.length_pos_iff.mpr hms
  rw [List.length_dropLast]
  omega

/-- The entry at a place that is not free is a directory or no place to walk on from. -/
theorem shape?_eq_leaf (hnone : t.get? l ≠ none) (hdir : t.get? l ≠ some .dir)
    (hlink : ∀ target, t.get? l ≠ some (.link target)) : t.shape? l = some .leaf := by
  unfold shape?
  cases h : t.get? l with
  | none => exact absurd h hnone
  | some e =>
    cases e with
    | dir => exact absurd h hdir
    | link target => exact absurd h (hlink target)
    | _ => rfl

/-- One name leads to whatever stands under it, if that is no link. -/
theorem walk_single_iff {links k : Nat} {d : Location} {n : String}
    (hlink : ∀ target, t.get? (d ++ [n]) ≠ some (.link target)) (hdot : n ≠ ".") (hback : n ≠ "..") :
    t.walk true links d [n] = .ok (k, .found l) ↔
      k = links ∧ n.utf8ByteSize ≤ nameLimit ∧ l = d ++ [n] ∧ t.get? (d ++ [n]) ≠ none := by
  have hs := stroll_cons t true d n []
  rw [if_neg hdot, if_neg hback] at hs
  by_cases hlong : nameLimit < n.utf8ByteSize
  · rw [if_pos hlong] at hs
    rw [walk_of_done hs]
    constructor
    · intro heq
      cases heq
    · rintro ⟨-, hshort, -⟩
      omega
  · rw [if_neg hlong] at hs
    by_cases hnone : t.get? (d ++ [n]) = none
    · rw [shape?_eq_none_iff.mpr hnone] at hs
      rw [walk_of_done hs]
      simp [hnone, Except.map]
    · have hfound : t.stroll true d [n] = .done (.ok (.found (d ++ [n]))) := by
        by_cases hdir : t.get? (d ++ [n]) = some .dir
        · rwa [shape?_eq_dir_iff.mpr hdir, stroll] at hs
        · rwa [shape?_eq_leaf hnone hdir hlink,
            if_pos rfl] at hs
      rw [walk_of_done hfound]
      constructor
      · intro heq
        cases heq
        exact ⟨rfl, Nat.not_lt.mp hlong, rfl, hnone⟩
      · rintro ⟨rfl, -, rfl, -⟩
        rfl

namespace Site

theorem not_link (h : t.Site root b) (hl : b <+: l) (target : String) :
    t.get? l ≠ some (.link target) := by
  intro hget
  have := h.ordinary l _ hl hget
  cases this

/-! ## Walks -/

/-- A stroll that asks for a directory arrives at the one that its names spell out, or nowhere. -/
theorem stroll_dot (h : t.Site root b) :
    ∀ (base : Location) (ns : List String), b <+: base → t.get? base = some .dir →
      (∀ n ∈ ns, n ≠ "." ∧ n ≠ "..") →
      (t.stroll true base (ns ++ ["."]) = .done (.ok (.found (base ++ ns))) ∧
        (∀ n ∈ ns, n.utf8ByteSize ≤ nameLimit) ∧ t.get? (base ++ ns) = some .dir) ∨
      (∃ e, t.stroll true base (ns ++ ["."]) = .done (.error e)) ∧
        ¬ ((∀ n ∈ ns, n.utf8ByteSize ≤ nameLimit) ∧ t.get? (base ++ ns) = some .dir)
  | base, [], _, hdir, _ => by
    rw [List.append_nil]
    exact .inl ⟨rfl, by simp, hdir⟩
  | base, n :: ns, hbase, hdir, hplain => by
    obtain ⟨⟨hdot, hback⟩, hplain⟩ := List.forall_mem_cons.mp hplain
    have hbelow : b <+: base ++ [n] := hbase.trans (List.prefix_append _ _)
    have happend : base ++ n :: ns = base ++ [n] ++ ns := by simp
    rw [happend, List.cons_append, stroll_cons, if_neg hdot, if_neg hback]
    -- names that are too long end the stroll, whatever stands under them
    by_cases hlong : nameLimit < n.utf8ByteSize
    · rw [if_pos hlong]
      refine .inr ⟨⟨_, rfl⟩, fun hall => ?_⟩
      have := hall.1 n List.mem_cons_self
      omega
    · rw [if_neg hlong]
      by_cases hnext : t.get? (base ++ [n]) = some .dir
      · rw [shape?_eq_dir_iff.mpr hnext]
        simp only [List.forall_mem_cons, Nat.not_lt.mp hlong, true_and]
        exact h.stroll_dot (base ++ [n]) ns hbelow hnext hplain
      · have hnot : ¬ t.get? (base ++ [n] ++ ns) = some .dir := by
          intro hget
          by_cases hns : ns = []
          · rw [hns, List.append_nil] at hget
            exact hnext hget
          · exact hnext (h.closed.get?_dir hns (by rw [hget]; simp))
        refine .inr ⟨?_, fun hall => hnot hall.2⟩
        by_cases hnone : t.get? (base ++ [n]) = none
        · rw [shape?_eq_none_iff.mpr hnone]
          exact ⟨.missing, by simp⟩
        · rw [shape?_eq_leaf hnone hnext (h.not_link hbelow)]
          exact ⟨.notDirectory, by simp⟩

/-- Below the root, a walk that asks for a directory arrives at the one that its names spell out,
or nowhere. -/
theorem walk_dot_iff (h : t.Site root b) {ns : List String}
    (hplain : ∀ n ∈ ns, n ≠ "." ∧ n ≠ "..") {d : Location} :
    (∃ k, t.walk true linkLimit (t.start root) (Path.names root ++ ns ++ ["."]) =
        .ok (k, .found d)) ↔
      (∀ n ∈ ns, n.utf8ByteSize ≤ nameLimit) ∧ d = b ++ ns ∧ t.get? (b ++ ns) = some .dir := by
  obtain ⟨k, hbase⟩ := h.base
  rw [List.append_assoc, walk_append (.inr rfl) hbase]
  rcases h.stroll_dot b ns (List.prefix_refl b) h.dir hplain with ⟨hs, hshort, hdir⟩ | ⟨⟨e, hs⟩, hnot⟩
  · rw [walk_of_done hs]
    constructor
    · rintro ⟨k', hk'⟩
      cases hk'
      exact ⟨hshort, rfl, hdir⟩
    · rintro ⟨-, rfl, -⟩
      exact ⟨k, rfl⟩
  · rw [walk_of_done hs]
    constructor
    · rintro ⟨k', hk'⟩
      cases hk'
    · rintro ⟨hshort, -, hdir⟩
      exact absurd ⟨hshort, hdir⟩ hnot

/-- One more name below the root leads to whatever stands under it. -/
theorem walk_name_iff (h : t.Site root b) {links k : Nat} {d : Location} {n : String}
    (hd : b <+: d) (hdot : n ≠ ".") (hback : n ≠ "..") :
    t.walk true links d [n] = .ok (k, .found l) ↔
      k = links ∧ n.utf8ByteSize ≤ nameLimit ∧ l = d ++ [n] ∧ t.get? (d ++ [n]) ≠ none :=
  walk_single_iff (h.not_link (hd.trans (List.prefix_append _ _))) hdot hback

/-! ## Where plain paths lead -/

/-- The last name of a plain path is looked up right above the place that its names spell out. -/
theorem parting_iff (h : t.Site root b) (hq : Path.IsPlain q) {d : Location} {n : String} :
    t.parting (Path.join root q) = .ok (d, some n) ↔
      Fits root q ∧ d ++ [n] = b ++ Path.names q ∧ t.get? d = some .dir := by
  obtain ⟨ms, m, hnames, hplain, hm, hm'⟩ := hq.exists_names_eq
  have hdot := h.walk_dot_iff hplain (d := d)
  simp only [parting_eq_some_iff, partingFrom_eq_some_iff, Path.names_join hq.isAbsolute_eq,
    fits_iff hnames, start_join hq]
  simp only [hnames, ← List.append_assoc, List.dropLast_concat, List.getLast?_concat,
    Option.some.injEq]
  constructor
  · rintro ⟨k, hsound, hwalk, rfl, -, -, hshort⟩
    obtain ⟨hall, rfl, hdir⟩ := hdot.mp ⟨k, hwalk⟩
    exact ⟨⟨hsound, hall, hshort⟩, rfl, hdir⟩
  · rintro ⟨⟨hsound, hall, hshort⟩, heq, hdir⟩
    obtain ⟨rfl, hn⟩ := List.append_inj' heq rfl
    cases hn
    obtain ⟨k, hwalk⟩ := hdot.mpr ⟨hall, rfl, hdir⟩
    exact ⟨k, hsound, hwalk, rfl, hm, hm', hshort⟩

/-- A plain path leads to the place that its names spell out, if something stands there. -/
theorem find_iff (h : t.Site root b) (hq : Path.IsPlain q) :
    t.find (Path.join root q) = .ok l ↔
      Fits root q ∧ l = b ++ Path.names q ∧ t.get? (b ++ Path.names q) ≠ none := by
  obtain ⟨ms, m, hnames, hplain, hm, hm'⟩ := hq.exists_names_eq
  have hlast (links k : Nat) : t.walk true links (b ++ ms) [m] = .ok (k, .found l) ↔ _ :=
    h.walk_name_iff (List.prefix_append b ms) hm hm'
  rw [find_eq_ok_iff, fits_iff hnames, start_join hq, hq.steps_join, hnames, ← List.append_assoc,
    ← List.append_assoc b]
  constructor
  · rintro ⟨hsound, k, hwalk⟩
    -- only a directory is walked through, so that the names in front lead to one
    obtain ⟨k', d, hd⟩ := exists_walk_of_append (by simp) hwalk
    obtain ⟨hall, rfl, -⟩ := (h.walk_dot_iff hplain).mp ⟨k', hd⟩
    rw [walk_append (.inl (by simp)) hd] at hwalk
    obtain ⟨-, hshort, rfl, hget⟩ := (hlast k' k).mp hwalk
    exact ⟨⟨hsound, hall, hshort⟩, rfl, hget⟩
  · rintro ⟨⟨hsound, hall, hshort⟩, rfl, hget⟩
    have hdir : t.get? (b ++ ms) = some .dir := h.closed.get?_dir (by simp) hget
    obtain ⟨k, hd⟩ := (h.walk_dot_iff hplain).mpr ⟨hall, rfl, hdir⟩
    refine ⟨hsound, k, ?_⟩
    rw [walk_append (.inl (by simp)) hd]
    exact (hlast k k).mpr ⟨rfl, hshort, rfl, hget⟩

theorem entry?_eq_some_iff (h : t.Site root b) (hq : Path.IsPlain q) {e : Entry} :
    t.entry? (Path.join root q) = some e ↔
      Fits root q ∧ t.get? (b ++ Path.names q) = some e := by
  unfold entry?
  constructor
  · intro he
    split at he
    · next l hl =>
      obtain ⟨hfits, rfl, -⟩ := (h.find_iff hq).mp hl
      exact ⟨hfits, he⟩
    · cases he
  · rintro ⟨hfits, he⟩
    have hl := (h.find_iff hq).mpr ⟨hfits, rfl, by rw [he]; simp⟩
    rw [hl]
    exact he

theorem isDir_iff (h : t.Site root b) (hq : Path.IsPlain q) :
    t.isDir (Path.join root q) = true ↔
      Fits root q ∧ t.get? (b ++ Path.names q) = some .dir := by
  unfold isDir
  rw [Option.any_eq_true, ← h.entry?_eq_some_iff hq]
  constructor
  · rintro ⟨e, he, hdir⟩
    cases e <;> first | exact he | cases hdir
  · intro he
    exact ⟨.dir, he, rfl⟩

theorem isFile_iff (h : t.Site root b) (hq : Path.IsPlain q) :
    t.isFile (Path.join root q) = true ↔
      Fits root q ∧ ∃ e, t.file? (b ++ Path.names q) = some e := by
  unfold isFile
  rw [Option.any_eq_true]
  simp only [h.entry?_eq_some_iff hq, file?_eq_some_iff]
  constructor
  · rintro ⟨e, ⟨hfits, he⟩, hfile⟩
    exact ⟨hfits, e, he, hfile⟩
  · rintro ⟨hfits, e, he, hfile⟩
    exact ⟨e, ⟨hfits, he⟩, hfile⟩

/-- Whether a path leads to a file only depends on the file that stands at its place. -/
theorem isFile_congr (h : t.Site root b) (h' : t'.Site root b) (hq : Path.IsPlain q)
    (heq : t'.file? (b ++ Path.names q) = t.file? (b ++ Path.names q)) :
    t'.isFile (Path.join root q) = t.isFile (Path.join root q) := by
  rw [Bool.eq_iff_iff, h.isFile_iff hq, h'.isFile_iff hq, heq]

/-- The octets below a plain path are those of the file that stands where its names say. -/
theorem read_eq_ok_iff (h : t.Site root b) (hq : Path.IsPlain q) {octets : ByteArray} :
    t.read (Path.join root q) = .ok octets ↔
      Fits root q ∧ ∃ x, t.get? (b ++ Path.names q) = some (.file octets x) := by
  unfold read
  cases hfind : t.find (Path.join root q) with
  | error e =>
    constructor
    · intro hread
      cases hread
    · rintro ⟨hfits, x, hget⟩
      rw [(h.find_iff hq).mpr ⟨hfits, rfl, by rw [hget]; simp⟩] at hfind
      cases hfind
  | ok l =>
    obtain ⟨hfits, rfl, -⟩ := (h.find_iff hq).mp hfind
    dsimp only
    cases hget : t.get? (b ++ Path.names q) with
    | none => simp
    | some e =>
      have hordinary := h.ordinary _ e (List.prefix_append _ _) hget
      cases e with
      | file o x => simp [hfits]
      | dir | utility => simp
      | link | faulty | sink | full => cases hordinary

/-! ## Writing -/

/-- Where something stands at the place, the last name of the path is looked up right above it. -/
theorem exists_parting (h : t.Site root b) (hq : Path.IsPlain q) (hfits : Fits root q)
    (hget : t.get? (b ++ Path.names q) ≠ none) :
    ∃ d n, t.parting (Path.join root q) = .ok (d, some n) := by
  obtain ⟨ms, m, hnames, -⟩ := hq.exists_names_eq
  rw [hnames, ← List.append_assoc] at hget
  refine ⟨b ++ ms, m, (h.parting_iff hq).mpr ⟨hfits, ?_, h.closed.get?_dir (by simp) hget⟩⟩
  rw [hnames, List.append_assoc]

/-- A plain path does have a last name. -/
theorem exists_name_of_partingFrom (hq : Path.IsPlain q) {links k : Nat} {base d : Location}
    {name : Option String}
    (hp : t.partingFrom links base (Path.join root q) = .ok (k, d, name)) :
    ∃ n, name = some n := by
  obtain ⟨ms, m, hnames, -, hdot, hback⟩ := hq.exists_names_eq
  have hlast : (Path.names (Path.join root q)).getLast? = some m := by
    rw [Path.names_join hq.isAbsolute_eq, hnames, ← List.append_assoc, List.getLast?_concat]
  cases name with
  | some n => exact ⟨n, rfl⟩
  | none =>
    unfold partingFrom checked at hp
    dsimp only at hp
    rw [hlast] at hp
    split at hp
    · cases hp
    split at hp
    · dsimp only at hp
      rw [if_neg (not_or.mpr ⟨hdot, hback⟩)] at hp
      split at hp <;> cases hp
    · cases hp
    · cases hp

theorem exists_name_of_parting (hq : Path.IsPlain q) {d : Location} {name : Option String}
    (hp : t.parting (Path.join root q) = .ok (d, name)) : ∃ n, name = some n := by
  unfold parting at hp
  cases hfrom : t.partingFrom linkLimit (t.start (Path.join root q)) (Path.join root q) with
  | error e =>
    rw [hfrom] at hp
    cases hp
  | ok r =>
    obtain ⟨k, d', name'⟩ := r
    rw [hfrom] at hp
    cases hp
    exact exists_name_of_partingFrom hq hfrom

/-- Below the root a path is written by what stands where its names say: a file keeps its mode, a
free place gets a new file. -/
theorem write_eq (h : t.Site root b) (hq : Path.IsPlain q) (octets : ByteArray) :
    t.write (Path.join root q) octets =
      match t.parting (Path.join root q) with
      | .error e => .error e
      | .ok _ => (rewritten (t.get? (b ++ Path.names q)) octets).map
          (t.set (b ++ Path.names q)) := by
  cases hp : t.partingFrom linkLimit (t.start (Path.join root q)) (Path.join root q) with
  | error e => simp [write, writable, parting, hp, Except.map]
  | ok r =>
    obtain ⟨k, d, name⟩ := r
    obtain ⟨n, rfl⟩ := exists_name_of_partingFrom hq hp
    have hparting := parting_eq_some_iff.mpr ⟨k, hp⟩
    obtain ⟨-, hl, -⟩ := (h.parting_iff hq).mp hparting
    have hwritable : t.writable (Path.join root q) = t.landing k k d n := by
      unfold writable
      rw [hp]
      dsimp only
      rw [if_neg (by rw [hq.endsInSlash_join]; decide)]
    -- no link has to be followed from the last name on
    rw [write, hwritable, hparting, landing.eq_def]
    dsimp only
    rw [hl]
    cases hget : t.get? (b ++ Path.names q) with
    | none => rfl
    | some e =>
      have hordinary := h.ordinary _ e (List.prefix_append _ _) hget
      cases e with
      | file | dir | utility => simp [hget, rewritten, Except.map]
      | link | faulty | sink | full => cases hordinary

/-- A write fails as it failed before where the same entry still stands at the place, and the place
can be reached no better. -/
theorem write_error (h : t.Site root b) (h' : t'.Site root b) (hwithin : t.Within t')
    (hq : Path.IsPlain q) (hget : t'.get? (b ++ Path.names q) = t.get? (b ++ Path.names q))
    (hparting : ∀ e, t.parting (Path.join root q) = .error e →
      t'.parting (Path.join root q) = .error e)
    {octets : ByteArray} {e : FileError} (hw : t.write (Path.join root q) octets = .error e) :
    t'.write (Path.join root q) octets = .error e := by
  rw [h.write_eq hq] at hw
  rw [h'.write_eq hq, hget]
  cases hp : t.parting (Path.join root q) with
  | error e' =>
    rw [hp] at hw
    rw [hparting e' hp]
    exact hw
  | ok r =>
    obtain ⟨d, name⟩ := r
    rw [hp] at hw
    obtain ⟨n, rfl⟩ := exists_name_of_parting hq hp
    rw [hwithin.parting hp]
    dsimp only at hw ⊢
    cases hr : rewritten (t.get? (b ++ Path.names q)) octets with
    | error e' =>
      rw [hr] at hw
      exact hw
    | ok entry =>
      rw [hr] at hw
      cases hw

/-- A site stays one when an ordinary entry is put into a directory and nothing is lost. -/
theorem set (h : t.Site root b) {e : Entry} (hne : l ≠ [])
    (hparent : t.get? l.dropLast = some .dir) (hwithin : t.Within (t.set l e))
    (he : e.isOrdinary = true) : (t.set l e).Site root b := by
  refine ⟨hwithin.isBase h.base, hwithin.get?_dir h.dir, h.closed.set hne hparent hwithin,
    fun l' e' hbelow hget => ?_⟩
  rw [get?_set t l l' e hne] at hget
  split at hget
  · cases hget
    exact he
  · exact h.ordinary l' e' hbelow hget

/-- Where the names of a plain path end there is no root. -/
theorem place_ne_nil (hq : Path.IsPlain q) : b ++ Path.names q ≠ [] := by
  simp [hq.names_ne_nil]

/-- Where a last name can be looked up, the place that a path's names spell out stands in a
directory. -/
theorem get?_dropLast_of_parting (h : t.Site root b) (hq : Path.IsPlain q) {d : Location}
    {name : Option String} (hp : t.parting (Path.join root q) = .ok (d, name)) :
    Fits root q ∧ t.get? (b ++ Path.names q).dropLast = some .dir := by
  obtain ⟨n, rfl⟩ := exists_name_of_parting hq hp
  obtain ⟨hfits, hl, hdir⟩ := (h.parting_iff hq).mp hp
  rw [← hl, List.dropLast_concat]
  exact ⟨hfits, hdir⟩

/-- What a successful write leaves: the file with the new octets where it was or where nothing
was. -/
theorem write_ok (h : t.Site root b) (hq : Path.IsPlain q) {octets : ByteArray}
    (hw : t.write (Path.join root q) octets = .ok t') :
    Fits root q ∧ t'.Site root b ∧ ∃ x, t' = t.set (b ++ Path.names q) (.file octets x) ∧
      (t.get? (b ++ Path.names q) = none ∨
        ∃ old, t.get? (b ++ Path.names q) = some (.file old x)) := by
  have hwithin := write_within hw
  rw [h.write_eq hq] at hw
  split at hw
  · cases hw
  · next r hp =>
    obtain ⟨hfits, hdir⟩ := h.get?_dropLast_of_parting hq hp
    have hset (x : Bool) (ht' : t' = t.set (b ++ Path.names q) (.file octets x)) :
        t'.Site root b := by
      rw [ht'] at hwithin ⊢
      exact h.set (place_ne_nil hq) hdir hwithin rfl
    cases hget : t.get? (b ++ Path.names q) with
    | none =>
      rw [hget] at hw
      cases hw
      exact ⟨hfits, hset false rfl, false, rfl, .inl rfl⟩
    | some e =>
      rw [hget] at hw
      cases e with
      | file old x =>
        cases hw
        exact ⟨hfits, hset x rfl, x, rfl, .inr ⟨old, rfl⟩⟩
      | dir | link | faulty | sink | full | utility => cases hw

/-- What a new directory leaves: it stands where nothing was. -/
theorem makeDir_ok (h : t.Site root b) (hq : Path.IsPlain q)
    (hm : t.makeDir (Path.join root q) = .ok t') :
    Fits root q ∧ t'.Site root b ∧ t' = t.set (b ++ Path.names q) .dir ∧
      t.get? (b ++ Path.names q) = none := by
  have hwithin := makeDir_within hm
  obtain ⟨d, n, hp, hget, rfl⟩ := makeDir_cases hm
  obtain ⟨hfits, hdir⟩ := h.get?_dropLast_of_parting hq hp
  obtain ⟨-, hl, -⟩ := (h.parting_iff hq).mp hp
  rw [hl] at hwithin hget ⊢
  exact ⟨hfits, h.set (place_ne_nil hq) hdir hwithin rfl, rfl, hget⟩

end Site

theorem exists_find_of_isFile {path : String} (h : t.isFile path = true) :
    ∃ l, t.find path = .ok l := by
  obtain ⟨l, e, hfind, -, -⟩ := isFile_iff.mp h
  exact ⟨l, hfind⟩

/-- Where a plain path below a root leads to an entry, the root leads to a directory. -/
theorem exists_site (hclosed : t.Closed) (hordinary : t.OrdinaryBelow root)
    (hq : Path.IsPlain q) (hfind : t.find (Path.join root q) = .ok l) : ∃ b, t.Site root b := by
  obtain ⟨-, k, hwalk⟩ := find_eq_ok_iff.mp hfind
  rw [start_join hq, hq.steps_join] at hwalk
  obtain ⟨k', b, hbase⟩ := exists_walk_of_append hq.names_ne_nil hwalk
  refine ⟨b, ⟨k', hbase⟩, ?_, hclosed, hordinary b ⟨k', hbase⟩⟩
  -- nothing stands below a place that is no directory, so that the walk would end there
  refine Classical.byContradiction fun hdir => ?_
  obtain ⟨n, ns, hnames⟩ := List.exists_cons_of_ne_nil hq.names_ne_nil
  obtain ⟨hdot, hback⟩ := hq.ne_of_mem_names (n := n) (by simp [hnames])
  have hnone : t.get? (b ++ [n]) = none := Classical.byContradiction fun hget =>
    hdir (hclosed.get?_dir (by simp) hget)
  rw [walk_append (.inr rfl) hbase, hnames] at hwalk
  have hs := stroll_cons t true b n ns
  rw [if_neg hdot, if_neg hback, shape?_eq_none_iff.mpr hnone] at hs
  split at hs
  · rw [walk_of_done hs] at hwalk
    cases hwalk
  · rw [walk_of_done hs] at hwalk
    split at hwalk <;> cases hwalk

end Tree

end Testbench
