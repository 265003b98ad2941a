import Mathlib.Data.List.Nodup
import Testbench.Toml.Reader

/-!
# Keys in TOML

No table of a document holds a key twice: whatever a statement adds is refused where the key is in
use for something else.

- `Toml.Distinct`, `Toml.Node.Distinct`: all keys of all tables are different.
- `distinct_alter`, `distinct_within`: what the statements are made of keeps keys different.
- `distinct_of_read`: the tables that a text spells.
- `Reader.KeepsKeysApart`: what is asked of any reader.
-/

namespace Testbench

namespace Toml

/-! ## Different keys -/

/-- In all tables within a value, different members have different keys. -/
inductive Distinct : Toml → Prop
  | string (s : String) : Distinct (.string s)
  | integer (n : Int) : Distinct (.integer n)
  | boolean (b : Bool) : Distinct (.boolean b)
  | number (s : String) : Distinct (.number s)
  | moment (s : String) : Distinct (.moment s)
  | array {items : List Toml} (inner : ∀ v ∈ items, Distinct v) : Distinct (.array items)
  | table {ms : Members} (keys : (ms.map Prod.fst).Nodup) (inner : ∀ m ∈ ms, Distinct m.2) :
      Distinct (.table ms)

/-- In all tables within a part of a document, different members have different keys. -/
inductive Node.Distinct : Node → Prop
  | value {v : Toml} (inner : v.Distinct) : Node.Distinct (.value v)
  | table {origin : Origin} {ns : Nodes} (keys : (ns.map Prod.fst).Nodup)
      (inner : ∀ m ∈ ns, Node.Distinct m.2) : Node.Distinct (.table origin ns)
  | tables {es : List Nodes} (keys : ∀ ns ∈ es, (ns.map Prod.fst).Nodup)
      (inner : ∀ ns ∈ es, ∀ m ∈ ns, Node.Distinct m.2) : Node.Distinct (.tables es)

/-- Different members have different keys, also within them. -/
structure DistinctNodes (ns : Nodes) : Prop where
  keys : (ns.map Prod.fst).Nodup
  inner : ∀ m ∈ ns, m.2.Distinct

theorem distinctNodes_nil : DistinctNodes [] := ⟨List.nodup_nil, by simp⟩

theorem Node.distinct_table_iff {origin : Origin} {ns : Nodes} :
    (Node.table origin ns).Distinct ↔ DistinctNodes ns := by
  constructor
  · rintro (_ | ⟨keys, inner⟩)
    exact ⟨keys, inner⟩
  · rintro ⟨keys, inner⟩
    exact .table keys inner

theorem Node.distinct_tables_iff {es : List Nodes} :
    (Node.tables es).Distinct ↔ ∀ ns ∈ es, DistinctNodes ns := by
  constructor
  · rintro (_ | _ | ⟨keys, inner⟩) ns hns
    exact ⟨keys ns hns, inner ns hns⟩
  · intro h
    exact .tables (fun ns hns => (h ns hns).keys) fun ns hns => (h ns hns).inner

/-! ## Finished values -/

theorem finishMembers_eq_map : ∀ ns : Nodes,
    finishMembers ns = ns.map fun m => (m.1, m.2.finish)
  | [] => by simp [finishMembers]
  | (key, n) :: ns => by simp [finishMembers, finishMembers_eq_map ns]

theorem finishElements_eq_map : ∀ es : List Nodes,
    finishElements es = es.map fun ns => .table (finishMembers ns)
  | [] => by simp [finishElements]
  | ns :: es => by simp [finishElements, finishElements_eq_map es]

theorem Node.Distinct.finish {n : Node} (h : n.Distinct) : n.finish.Distinct := by
  induction h with
  | value inner =>
    rw [Node.finish]
    exact inner
  -- finishing leaves the keys as they are
  | table keys _ ih =>
    rw [Node.finish, finishMembers_eq_map]
    exact .table (by simpa [Function.comp_def] using keys) (List.forall_mem_map.mpr ih)
  | tables keys _ ih =>
    rw [Node.finish, finishElements_eq_map]
    refine .array ?_
    simp only [List.mem_reverse, List.forall_mem_map, finishMembers_eq_map]
    intro ns hns
    exact .table (by simpa [Function.comp_def] using keys ns hns)
      (List.forall_mem_map.mpr (ih ns hns))

theorem DistinctNodes.finish {ns : Nodes} (h : DistinctNodes ns) :
    (Toml.table (finishMembers ns)).Distinct := by
  have hnode : (Node.table .header ns).Distinct := Node.distinct_table_iff.mpr h
  have hfinish := hnode.finish
  rwa [Node.finish] at hfinish

/-! ## Statements -/

section Statements

variable {key : String} {ns ns' : Nodes}

/-- A change makes parts of documents of such parts. -/
def Keeps (change : Option Node → Option Node) : Prop :=
  ∀ o n, (∀ n' ∈ o, n'.Distinct) → change o = some n → n.Distinct

/-- Only one key can come in, behind all others. -/
theorem keys_alter {change : Option Node → Option Node} (h : alter key change ns = some ns') :
    ns'.map Prod.fst = ns.map Prod.fst ∨
      key ∉ ns.map Prod.fst ∧ ns'.map Prod.fst = ns.map Prod.fst ++ [key] := by
  induction ns generalizing ns' with
  | nil =>
    rw [alter, Option.map_eq_some_iff] at h
    obtain ⟨n, -, rfl⟩ := h
    exact .inr ⟨by simp, rfl⟩
  | cons m ns ih =>
    obtain ⟨k, n⟩ := m
    rw [alter] at h
    split at h
    · obtain ⟨n', -, rfl⟩ := Option.map_eq_some_iff.mp h
      exact .inl rfl
    · next hne =>
      obtain ⟨rest, hrest, rfl⟩ := Option.map_eq_some_iff.mp h
      rcases ih hrest with heq | ⟨hnew, heq⟩
      · exact .inl (congrArg (k :: ·) heq)
      · refine .inr ⟨?_, congrArg (k :: ·) heq⟩
        rw [List.map_cons, List.mem_cons, not_or]
        exact ⟨Ne.symm hne, hnew⟩

theorem inner_alter {change : Option Node → Option Node} (hchange : Keeps change)
    (hns : ∀ m ∈ ns, m.2.Distinct) (h : alter key change ns = some ns') :
    ∀ m ∈ ns', m.2.Distinct := by
  induction ns generalizing ns' with
  | nil =>
    rw [alter, Option.map_eq_some_iff] at h
    obtain ⟨n, hn, rfl⟩ := h
    simpa using hchange none n (by simp) hn
  | cons m ns ih =>
    obtain ⟨k, n⟩ := m
    obtain ⟨hm, hns⟩ := List.forall_mem_cons.mp hns
    rw [alter] at h
    split at h
    · obtain ⟨n', hn', rfl⟩ := Option.map_eq_some_iff.mp h
      exact List.forall_mem_cons.mpr ⟨hchange (some n) n' (by simpa using hm) hn', hns⟩
    · obtain ⟨rest, hrest, rfl⟩ := Option.map_eq_some_iff.mp h
      exact List.forall_mem_cons.mpr ⟨hm, ih hns hrest⟩

/-- A change under one key keeps keys different. -/
theorem distinct_alter {change : Option Node → Option Node} (hchange : Keeps change)
    (hns : DistinctNodes ns) (h : alter key change ns = some ns') : DistinctNodes ns' := by
  refine ⟨?_, inner_alter hchange hns.inner h⟩
  rcases keys_alter h with heq | ⟨hnew, heq⟩
  · rw [heq]
    exact hns.keys
  · rw [heq]
    exact List.nodup_append.mpr ⟨hns.keys, List.nodup_singleton key, by
      rintro k hk _ hkey rfl
      exact hnew (List.mem_singleton.mp hkey ▸ hk)⟩

/-- A change at the end of a path keeps keys different. -/
theorem distinct_within {dotted : Bool} {change : Nodes → Option Nodes}
    (hchange : ∀ ns ns', DistinctNodes ns → change ns = some ns' → DistinctNodes ns')
    (path : List String) (hns : DistinctNodes ns) (h : within dotted change path ns = some ns') :
    DistinctNodes ns' := by
  induction path generalizing ns ns' with
  | nil => exact hchange ns ns' hns h
  | cons key path ih =>
    -- the change is made in a new table, in one that stands there, or in the last of an array
    refine distinct_alter (fun o n ho hn => ?_) hns h
    split at hn
    · obtain ⟨ms, hms, rfl⟩ := Option.map_eq_some_iff.mp hn
      exact Node.distinct_table_iff.mpr (ih distinctNodes_nil hms)
    · next origin ms =>
      split at hn
      · cases hn
      · obtain ⟨ms', hms', rfl⟩ := Option.map_eq_some_iff.mp hn
        have hms := Node.distinct_table_iff.mp (ho _ rfl)
        exact Node.distinct_table_iff.mpr (ih hms hms')
    · next last earlier =>
      split at hn
      · cases hn
      · obtain ⟨ms', hms', rfl⟩ := Option.map_eq_some_iff.mp hn
        obtain ⟨hlast, hearlier⟩ := List.forall_mem_cons.mp (Node.distinct_tables_iff.mp (ho _ rfl))
        exact Node.distinct_tables_iff.mpr (List.forall_mem_cons.mpr ⟨ih hlast hms', hearlier⟩)
    · cases hn

theorem distinct_addValue {headerPath keyPath : List String} {v : Toml} (hv : v.Distinct)
    (hns : DistinctNodes ns) (h : addValue headerPath keyPath key v ns = some ns') :
    DistinctNodes ns' := by
  refine distinct_within (fun ns ns' hns h => ?_) headerPath hns h
  refine distinct_within (fun ns ns' hns h => ?_) keyPath hns h
  refine distinct_alter (fun o n _ hn => ?_) hns h
  split at hn
  · cases hn
    exact .value hv
  · cases hn

theorem distinct_openTable {path : List String} (hns : DistinctNodes ns)
    (h : openTable path key ns = some ns') : DistinctNodes ns' := by
  refine distinct_within (fun ns ns' hns h => ?_) path hns h
  refine distinct_alter (fun o n ho hn => ?_) hns h
  split at hn
  · cases hn
    exact Node.distinct_table_iff.mpr distinctNodes_nil
  · cases hn
    exact Node.distinct_table_iff.mpr (Node.distinct_table_iff.mp (ho _ rfl))
  · cases hn

theorem distinct_openElement {path : List String} (hns : DistinctNodes ns)
    (h : openElement path key ns = some ns') : DistinctNodes ns' := by
  refine distinct_within (fun ns ns' hns h => ?_) path hns h
  refine distinct_alter (fun o n ho hn => ?_) hns h
  split at hn
  · cases hn
    simpa [Node.distinct_tables_iff] using distinctNodes_nil
  · cases hn
    have helements := Node.distinct_tables_iff.mp (ho _ rfl)
    exact Node.distinct_tables_iff.mpr (List.forall_mem_cons.mpr ⟨distinctNodes_nil, helements⟩)
  · cases hn

end Statements

/-! ## Reading -/

/-- A bare word spells no table. -/
theorem distinct_ofWord {s : List Char} {v : Toml} (h : ofWord? s = some v) : v.Distinct := by
  unfold ofWord? at h
  split at h
  · cases h
    exact .boolean true
  · split at h
    · cases h
      exact .boolean false
    · split at h
      · cases h
        exact .integer _
      · split at h
        · cases h
          exact .number _
        · split at h
          · cases h
            exact .moment _
          · cases h

theorem distinct_readScalar {s rest : List Char} {v : Toml} (h : readScalar s = some (v, rest)) :
    v.Distinct := by
  have hword {w r : List Char} (h : (ofWord? w).map (·, r) = some (v, rest)) : v.Distinct := by
    obtain ⟨v', hv', heq⟩ := Option.map_eq_some_iff.mp h
    cases heq
    exact distinct_ofWord hv'
  unfold readScalar at h
  dsimp only at h
  split at h
  · split at h
    · exact hword h
    · exact hword h
  · exact hword h

/-- What the readers of values give back with some fuel has different keys. -/
structure ReadsDistinct (fuel : Nat) : Prop where
  value : ∀ {room s v rest}, readValue fuel room s = some (v, rest) → v.Distinct
  items : ∀ {room read s items rest}, (∀ v ∈ read, Distinct v) →
    readItems fuel room read s = some (items, rest) → ∀ v ∈ items, Distinct v
  members : ∀ {room read s ns rest}, DistinctNodes read →
    readMembers fuel room read s = some (ns, rest) → DistinctNodes ns
  member : ∀ {room read s ns rest}, DistinctNodes read →
    readMember fuel room read s = some (ns, rest) → DistinctNodes ns

theorem readsDistinct_zero : ReadsDistinct 0 where
  value h := by simp [readValue] at h
  items _ h := by simp [readItems] at h
  members _ h := by simp [readMembers] at h
  member _ h := by simp [readMember] at h

section Readers

variable {fuel room : Nat} {s rest : List Char} (ih : ReadsDistinct fuel)
include ih

theorem distinct_readValue {v : Toml} (h : readValue (fuel + 1) room s = some (v, rest)) :
    v.Distinct := by
  have htext {r : Option (String × List Char)}
      (h : (r.map fun p => (Toml.string p.1, p.2)) = some (v, rest)) : v.Distinct := by
    obtain ⟨p, -, heq⟩ := Option.map_eq_some_iff.mp h
    cases heq
    exact .string p.1
  unfold readValue at h
  split at h
  · exact htext h
  · exact htext h
  · obtain ⟨⟨items, rest'⟩, hitems, heq⟩ := Option.map_eq_some_iff.mp h
    cases heq
    exact .array (ih.items (by simp) hitems)
  · obtain ⟨⟨ns, rest'⟩, hns, heq⟩ := Option.map_eq_some_iff.mp h
    cases heq
    exact (ih.members distinctNodes_nil hns).finish
  · exact distinct_readScalar h

theorem distinct_readItems {read items : List Toml} (hread : ∀ v ∈ read, Distinct v)
    (h : readItems (fuel + 1) room read s = some (items, rest)) : ∀ v ∈ items, Distinct v := by
  rw [readItems] at h
  split at h
  · cases h
  · cases h
    simpa using hread
  · split at h
    · cases h
    · next hv =>
      have hread' := List.forall_mem_cons.mpr ⟨ih.value hv, hread⟩
      split at h
      · exact ih.items hread' h
      · cases h
        exact fun v hv => hread' v (List.mem_reverse.mp hv)
      · cases h

theorem distinct_readMembers {read ns : Nodes} (hread : DistinctNodes read)
    (h : readMembers (fuel + 1) room read s = some (ns, rest)) : DistinctNodes ns := by
  rw [readMembers] at h
  split at h
  · cases h
  · cases h
    exact hread
  · split at h
    · cases h
    · next hmember =>
      have hread' := ih.member hread hmember
      split at h
      · exact ih.members hread' h
      · cases h
        exact hread'
      · cases h

theorem distinct_readMember {read ns : Nodes} (hread : DistinctNodes read)
    (h : readMember (fuel + 1) room read s = some (ns, rest)) : DistinctNodes ns := by
  rw [readMember] at h
  split at h
  · cases h
  · split at h
    · split at h
      · cases h
      · split at h
        · cases h
        · next hv =>
          obtain ⟨ns', hadd, heq⟩ := Option.map_eq_some_iff.mp h
          cases heq
          exact distinct_addValue (ih.value hv) hread hadd
    · cases h

end Readers

/-- The readers call each other with less fuel, so that all of them are taken together. -/
theorem readsDistinct : ∀ fuel, ReadsDistinct fuel
  | 0 => readsDistinct_zero
  | fuel + 1 =>
    have ih := readsDistinct fuel
    ⟨distinct_readValue ih, distinct_readItems ih, distinct_readMembers ih, distinct_readMember ih⟩

/-- Every statement keeps keys different. -/
theorem distinct_readDocument {fuel : Nat} {path : List String} {ns ns' : Nodes} {s : List Char}
    (hns : DistinctNodes ns) (h : readDocument fuel path ns s = some ns') : DistinctNodes ns' := by
  induction fuel generalizing path ns s with
  | zero => simp [readDocument] at h
  | succ fuel ih =>
    rw [readDocument] at h
    split at h
    · cases h
    · cases h
      exact hns
    · split at h
      · split at h
        · next hopen _ => exact ih (distinct_openElement hns hopen) h
        · cases h
      · cases h
    · split at h
      · split at h
        · next hopen _ => exact ih (distinct_openTable hns hopen) h
        · cases h
      · cases h
    · split at h
      · split at h
        · cases h
        · next hv =>
          split at h
          · next hadd _ => exact ih (distinct_addValue ((readsDistinct fuel).value hv) hns hadd) h
          · cases h
      · cases h

/-- **No table of a document holds a key twice.** -/
theorem distinct_of_read {text : String} {v : Toml} (h : read text = some v) : v.Distinct := by
  obtain ⟨ns, hns, rfl⟩ := Option.map_eq_some_iff.mp h
  exact (distinct_readDocument distinctNodes_nil hns).finish

/-! ## Readers -/

/-- A document that is read has no table that holds a key twice. -/
def Reader.KeepsKeysApart (reader : Reader) : Prop :=
  ∀ (text : String) (doc : Toml), reader.read text = some doc → doc.Distinct

theorem Reader.keepsKeysApart_direct : Reader.direct.KeepsKeysApart :=
  fun _ _ h => distinct_of_read h

end Toml

end Testbench
