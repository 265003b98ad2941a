import Mathlib.Data.List.Nodup
import Testbench.Proofs.Patch.Steady

/-!
# Deeds of patching

Each action in a report stands for a deed: an entry that was put somewhere, or nothing where all was
found patched.

- `Tree.putAll`: entries put at some places.
- `Doing`: an action with its place and what it puts there.
- `get?_putAll_of_doing`: what stands at the places of some doings in the end.
- `Job.Deed`: what the actions of a job stand for on the files before.
-/

namespace Testbench

namespace Tree

variable {l : Location}

/-! ## Entries put at some places -/

/-- The tree after entries are put at some places, one after the other. -/
def putAll (t : Tree) (cs : List (Location × Entry)) : Tree :=
  cs.foldl (fun t c => t.set c.1 c.2) t

theorem putAll_append (t : Tree) (cs cs' : List (Location × Entry)) :
    t.putAll (cs ++ cs') = (t.putAll cs).putAll cs' := List.foldl_append

/-- Where nothing is put all stays as it is. -/
theorem get?_putAll_of_notMem : ∀ {cs : List (Location × Entry)} (t : Tree),
    (∀ c ∈ cs, c.1 ≠ []) → l ∉ cs.map Prod.fst → (t.putAll cs).get? l = t.get? l
  | [], _, _, _ => rfl
  | c :: cs, t, hroot, hl => by
    obtain ⟨hc, hcs⟩ := List.forall_mem_cons.mp hroot
    rw [List.map_cons, List.mem_cons, not_or] at hl
    show ((t.set c.1 c.2).putAll cs).get? l = t.get? l
    rw [get?_putAll_of_notMem _ hcs hl.2, get?_set _ _ _ _ hc, if_neg hl.1]

/-- Where one entry is put it stands. -/
theorem get?_putAll_of_mem {e : Entry} : ∀ {cs : List (Location × Entry)} (t : Tree),
    (∀ c ∈ cs, c.1 ≠ []) → (cs.map Prod.fst).Nodup → (l, e) ∈ cs →
    (t.putAll cs).get? l = some e
  | c :: cs, t, hroot, hnodup, hmem => by
    obtain ⟨hc, hcs⟩ := List.forall_mem_cons.mp hroot
    obtain ⟨hfresh, hnodup⟩ := List.nodup_cons.mp hnodup
    show ((t.set c.1 c.2).putAll cs).get? l = some e
    rcases List.mem_cons.mp hmem with rfl | hmem
    · rw [get?_putAll_of_notMem _ hcs hfresh, get?_set _ _ _ _ hc, if_pos rfl]
    · exact get?_putAll_of_mem _ hcs hnodup hmem

/-- Entries put in place of others of the same shape leave the tree alike. -/
theorem alike_putAll : ∀ {cs : List (Location × Entry)} {t : Tree},
    (∀ c ∈ cs, c.1 ≠ [] ∧ t.shape? c.1 = some c.2.shape) → t.Alike (t.putAll cs)
  | [], t, _ => .refl t
  | c :: cs, t, h => by
    obtain ⟨⟨hroot, hshape⟩, hcs⟩ := List.forall_mem_cons.mp h
    have hfirst := alike_set hroot hshape
    refine hfirst.trans (alike_putAll fun c' hc' => ⟨(hcs c' hc').1, ?_⟩)
    rw [hfirst.shape]
    exact (hcs c' hc').2

/-- A write that succeeds puts the same file in place wherever the same entry stood and the place
can be reached. -/
theorem Site.write_follows {t u t' : Tree} {root q : String} {b : Location} (h : t.Site root b)
    (h' : u.Site root b) (hwithin : t.Within u) (hq : Path.IsPlain q)
    (hget : u.get? (b ++ Path.names q) = t.get? (b ++ Path.names q)) {octets : ByteArray}
    (hw : t.write (Path.join root q) octets = .ok t') :
    ∃ e, t' = t.set (b ++ Path.names q) e ∧
      u.write (Path.join root q) octets = .ok (u.set (b ++ Path.names q) e) := by
  -- what is written only depends on the way to the place and on what stands there
  rw [h.write_eq hq] at hw
  rw [h'.write_eq hq, hget]
  cases hp : t.parting (Path.join root q) with
  | error e =>
    rw [hp] at hw
    cases hw
  | ok r =>
    obtain ⟨d, name⟩ := r
    obtain ⟨n, rfl⟩ := exists_name_of_parting hq hp
    rw [hp] at hw
    rw [hwithin.parting hp]
    dsimp only at hw ⊢
    cases hnew : rewritten (t.get? (b ++ Path.names q)) octets with
    | error e =>
      rw [hnew] at hw
      cases hw
    | ok e =>
      rw [hnew] at hw
      cases hw
      exact ⟨e, rfl, rfl⟩

/-- A directory that can be made can be made in trees that are alike. -/
theorem Alike.makeDir_ok {t u t' : Tree} {path : String} (h : t.Alike u)
    (hm : t.makeDir path = .ok t') : ∃ u', u.makeDir path = .ok u' := by
  obtain ⟨d, n, hparting, hget, -⟩ := makeDir_cases hm
  refine ⟨u.set (d ++ [n]) .dir, ?_⟩
  unfold makeDir
  rw [h.parting, hparting]
  dsimp only
  rw [h.get?_eq_none_iff.mpr hget]

/-- Nothing is found where nothing stands. -/
theorem Site.has_eq_false {t : Tree} {root q : String} {b : Location} (h : t.Site root b)
    (hq : Path.IsPlain q) (hget : t.get? (b ++ Path.names q) = none) :
    t.has (Path.join root q) = false := by
  unfold Tree.has
  cases he : t.entry? (Path.join root q) with
  | none => rfl
  | some e =>
    rw [((h.entry?_eq_some_iff hq).mp he).2] at hget
    cases hget

/-- A path leads to the same entry in two trees if the same stands at its place. -/
theorem Site.entry?_congr {t t' : Tree} {root q : String} {b : Location} (h : t.Site root b)
    (h' : t'.Site root b) (hq : Path.IsPlain q)
    (hget : t'.get? (b ++ Path.names q) = t.get? (b ++ Path.names q)) :
    t'.entry? (Path.join root q) = t.entry? (Path.join root q) := by
  refine Option.ext fun e => ?_
  rw [h'.entry?_eq_some_iff hq, h.entry?_eq_some_iff hq, hget]

/-- The octets of a text that was read are those of the text. -/
theorem read_of_readText {t : Tree} {path text : String} (h : t.readText path = .ok text) :
    t.read path = .ok text.toUTF8 := by
  unfold readText at h
  cases hread : t.read path with
  | error e =>
    rw [hread] at h
    cases h
  | ok octets =>
    rw [hread] at h
    dsimp only at h
    unfold String.fromUTF8? at h
    split at h
    · next heq =>
      split at heq
      · cases heq
        cases h
        rfl
      · cases heq
    · cases h

end Tree

namespace Patch

open Testbench.Tree

variable {t u : Tree} {b : Location}

/-! ## Deeds -/

namespace Layout

/-- The files that are copied, each with the one it is copied over, from the root. -/
def copies (l : Layout) : List (String × String) :=
  [(l.graphicsSource, l.graphicsTarget), (l.labelSource, l.labelTarget)]

/-- The files that are amended, each with its amendment, from the root. -/
def amendments (l : Layout) : List (String × (List Char → Option (List Char))) :=
  [(l.snapshotTarget, Amendment.routeLabels), (l.graphicsTarget, Amendment.guardGraphics)]

/-- The replacement files, from the root. -/
def sources (l : Layout) : List String := [l.graphicsSource, l.labelSource]

/-- The files that are written, from the root. -/
def targets (l : Layout) : List String := [l.graphicsTarget, l.snapshotTarget, l.labelTarget]

theorem files_eq_append (l : Layout) : l.files = l.sources ++ l.targets := rfl

theorem copies_targets (l : Layout) : ∀ c ∈ l.copies, c.2 ∈ l.targets := by
  simp [copies, targets]

theorem amendments_targets (l : Layout) : ∀ a ∈ l.amendments, a.1 ∈ l.targets := by
  simp [amendments, targets]

namespace IsPlain

variable {l : Layout} (h : l.IsPlain)
include h

theorem copies : ∀ c ∈ l.copies, Path.IsPlain c.1 ∧ Path.IsPlain c.2 := by
  simp only [Layout.copies, List.forall_mem_cons]
  exact ⟨⟨h.graphicsSource, h.graphicsTarget⟩, ⟨h.labelSource, h.labelTarget⟩, by simp⟩

theorem amendments : ∀ a ∈ l.amendments, Path.IsPlain a.1 := by
  simp only [Layout.amendments, List.forall_mem_cons]
  exact ⟨h.snapshotTarget, h.graphicsTarget, by simp⟩

theorem sources : ∀ q ∈ l.sources, Path.IsPlain q := fun q hq =>
  h.files q (List.mem_append_left l.targets hq)

theorem targets : ∀ q ∈ l.targets, Path.IsPlain q := fun q hq =>
  h.files q (List.mem_append_right l.sources hq)

end IsPlain

end Layout

/-- The path of what an action changed, if anything. -/
def Action.changed? : Action → Option String
  | .copied _ target => some target
  | .createdDir path => some path
  | .amended path => some path
  | .alreadyPatched _ => none

/-- An action, the place that it is about, and the entry that it puts there, if any. -/
structure Doing where
  action : Action
  place : Location
  entry? : Option Entry

/-- The entries that are put somewhere, with their places. -/
def changes (ds : List Doing) : List (Location × Entry) :=
  ds.filterMap fun d => d.entry?.map (d.place, ·)

theorem changes_append (ds ds' : List Doing) : changes (ds ++ ds') = changes ds ++ changes ds' :=
  List.filterMap_append

theorem mem_changes {ds : List Doing} {l : Location} {e : Entry} :
    (l, e) ∈ changes ds ↔ ∃ d ∈ ds, d.place = l ∧ d.entry? = some e := by
  unfold changes
  simp only [List.mem_filterMap, Option.map_eq_some_iff, Prod.mk.injEq]
  constructor
  · rintro ⟨d, hd, e', he, hl, rfl⟩
    exact ⟨d, hd, hl, he⟩
  · rintro ⟨d, hd, hl, he⟩
    exact ⟨d, hd, e, he, hl, rfl⟩

/-- Only the places that the actions are about are changed. -/
theorem places_changes_subset (ds : List Doing) :
    (changes ds).map Prod.fst ⊆ ds.map Doing.place := by
  intro l hl
  obtain ⟨⟨_, e⟩, hmem, rfl⟩ := List.mem_map.mp hl
  obtain ⟨d, hd, hplace, -⟩ := mem_changes.mp hmem
  exact List.mem_map.mpr ⟨d, hd, hplace⟩

theorem places_changes_nodup : ∀ {ds : List Doing}, (ds.map Doing.place).Nodup →
    ((changes ds).map Prod.fst).Nodup
  | [], _ => List.nodup_nil
  | d :: ds, h => by
    obtain ⟨hfresh, h⟩ := List.nodup_cons.mp h
    have hds := places_changes_nodup h
    unfold changes at hds ⊢
    rw [List.filterMap_cons]
    cases d.entry? with
    | none => exact hds
    | some e => exact List.nodup_cons.mpr ⟨fun hmem => hfresh (places_changes_subset ds hmem), hds⟩

/-- At the place of an action stands what it put there, or what stood there if it put nothing. -/
theorem get?_putAll_of_doing {ds : List Doing} (t : Tree) (hroot : ∀ d ∈ ds, d.place ≠ [])
    (hnodup : (ds.map Doing.place).Nodup) {d : Doing} (hd : d ∈ ds) :
    (t.putAll (changes ds)).get? d.place = d.entry?.or (t.get? d.place) := by
  have hroot' : ∀ c ∈ changes ds, c.1 ≠ [] := by
    rintro ⟨l, e⟩ hc
    obtain ⟨d', hd', rfl, -⟩ := mem_changes.mp hc
    exact hroot d' hd'
  cases he : d.entry? with
  | some e =>
    exact get?_putAll_of_mem t hroot' (places_changes_nodup hnodup)
      (mem_changes.mpr ⟨d, hd, rfl, he⟩)
  | none =>
    refine get?_putAll_of_notMem t hroot' fun hmem => ?_
    obtain ⟨⟨_, e⟩, hc, hplace⟩ := List.mem_map.mp hmem
    obtain ⟨d', hd', rfl, he'⟩ := mem_changes.mp hc
    -- no other action is about this place
    rw [List.inj_on_of_nodup_map hnodup hd' hd hplace, he] at he'
    cases he'

/-- Where no action is about a place all stays as it is. -/
theorem get?_putAll_of_notMem_places {ds : List Doing} {l : Location} (t : Tree)
    (hroot : ∀ d ∈ ds, d.place ≠ []) (hl : l ∉ ds.map Doing.place) :
    (t.putAll (changes ds)).get? l = t.get? l := by
  refine get?_putAll_of_notMem t ?_ fun hmem => hl (places_changes_subset ds hmem)
  rintro ⟨l, e⟩ hc
  obtain ⟨d', hd', rfl, -⟩ := mem_changes.mp hc
  exact hroot d' hd'

/-- What an action of the job stands for on the files `t`, whose root leads to `b`. -/
inductive Job.Deed (j : Job) (t : Tree) (b : Location) : Doing → Prop
  | copied {q r : String} {octets : ByteArray} {x y : Bool} (pair : (q, r) ∈ j.layout.copies)
      (fitsSource : Fits j.root q) (fits : Fits j.root r)
      (source : t.get? (b ++ Path.names q) = some (.file octets y))
      (old : (t.get? (b ++ Path.names r) = none) ∨
        ∃ old, t.get? (b ++ Path.names r) = some (.file old x) ∧ old ≠ octets) :
      Deed j t b ⟨.copied (Path.join j.root q) (Path.join j.root r), b ++ Path.names r,
        some (.file octets x)⟩
  | createdDir (fits : Fits j.root j.layout.labelDir)
      (old : t.get? (b ++ Path.names j.layout.labelDir) = none) :
      Deed j t b ⟨.createdDir (Path.join j.root j.layout.labelDir),
        b ++ Path.names j.layout.labelDir, some .dir⟩
  | amended {q : String} {amend : List Char → Option (List Char)} {source : String}
      {patched : List Char} {x : Bool} (pair : (q, amend) ∈ j.layout.amendments)
      (fits : Fits j.root q) (old : t.get? (b ++ Path.names q) = some (.file source.toUTF8 x))
      (new : amend source.toList = some patched) (other : patched ≠ source.toList) :
      Deed j t b ⟨.amended (Path.join j.root q), b ++ Path.names q,
        some (.file (String.ofList patched).toUTF8 x)⟩
  | alreadyPatched {q : String} {octets : ByteArray} {x : Bool} (target : q ∈ j.layout.targets)
      (fits : Fits j.root q) (old : t.get? (b ++ Path.names q) = some (.file octets x)) :
      Deed j t b ⟨.alreadyPatched (Path.join j.root q), b ++ Path.names q, none⟩

namespace Job.Deed

variable {j : Job} {d : Doing}

/-- A deed is about a place below the root, and its action names the path there just if something is
put in place. -/
theorem exists_path (hl : j.layout.IsPlain) (h : j.Deed t b d) : ∃ q, Path.IsPlain q ∧
    Fits j.root q ∧ d.place = b ++ Path.names q ∧
    d.action.changed? = d.entry?.map fun _ => Path.join j.root q := by
  cases h with
  | copied pair _ fits => exact ⟨_, (hl.copies _ pair).2, fits, rfl, rfl⟩
  | createdDir fits => exact ⟨_, hl.labelDir, fits, rfl, rfl⟩
  | amended pair fits => exact ⟨_, hl.amendments _ pair, fits, rfl, rfl⟩
  | alreadyPatched target fits => exact ⟨_, hl.targets _ target, fits, rfl, rfl⟩

theorem place_ne_nil (hl : j.layout.IsPlain) (h : j.Deed t b d) : d.place ≠ [] := by
  obtain ⟨q, hq, -, hplace, -⟩ := h.exists_path hl
  rw [hplace]
  exact Site.place_ne_nil hq

/-- What a deed puts in place is another entry than stood there. -/
theorem get?_ne {e : Entry} (h : j.Deed t b d) (he : d.entry? = some e) :
    t.get? d.place ≠ some e := by
  cases h with
  | copied _ _ _ _ old =>
    cases he
    rcases old with hnone | ⟨old, hold, hne⟩
    · rw [hnone]
      simp
    · rw [hold]
      simp [hne]
  | createdDir _ old =>
    rw [old]
    simp
  | amended _ _ old _ other =>
    cases he
    rw [old]
    intro heq
    injection heq with heq
    injection heq with heq
    -- different texts have different octets
    rw [String.toUTF8_eq_toByteArray, String.toUTF8_eq_toByteArray, String.toByteArray_inj] at heq
    rw [heq, String.toList_ofList] at other
    exact other rfl
  | alreadyPatched => cases he

/-- Where something stood already the shape is kept. -/
theorem shape?_eq {e : Entry} (h : j.Deed t b d) (he : d.entry? = some e)
    (hstands : t.get? d.place ≠ none) : t.shape? d.place = some e.shape := by
  unfold shape?
  cases h with
  | copied _ _ _ _ old =>
    cases he
    obtain ⟨old, hold, -⟩ := old.resolve_left hstands
    rw [hold]
    rfl
  | createdDir _ old => exact absurd old hstands
  | amended _ _ old =>
    cases he
    rw [old]
    rfl
  | alreadyPatched => cases he

/-- What stands for a deed once a directory was made stood for it before. -/
theorem of_made {t₁ : Tree} (h : j.Deed t₁ b d)
    (hframe : ∀ l, t₁.get? l ≠ some .dir → t.get? l = t₁.get? l) : j.Deed t b d := by
  -- what a deed asks for is a file or a vacant place, and neither is a directory that was made
  have hfile {l : Location} {octets : ByteArray} {x : Bool}
      (hget : t₁.get? l = some (.file octets x)) : t.get? l = some (.file octets x) := by
    rw [hframe l (by rw [hget]; simp), hget]
  have hnone {l : Location} (hget : t₁.get? l = none) : t.get? l = none := by
    rw [hframe l (by rw [hget]; simp), hget]
  cases h with
  | copied pair fitsSource fits source old =>
    exact .copied pair fitsSource fits (hfile source)
      (old.imp hnone fun ⟨octets, hold, hne⟩ => ⟨octets, hfile hold, hne⟩)
  | createdDir fits old => exact .createdDir fits (hnone old)
  | amended pair fits old new other => exact .amended pair fits (hfile old) new other
  | alreadyPatched target fits old => exact .alreadyPatched target fits (hfile old)

end Job.Deed

end Patch

end Testbench
