import Mathlib.Data.List.Nodup
import Testbench.Proofs.Toml.Distinct

/-!
# Values under keys

Where a value stands in a document is told by the keys that lead to it, from table to table.

- `Toml.Has`: a value stands under some keys.
- `has_concat_iff`: the last key leads out of a table.
- `Distinct.has_unique`: under the same keys stands one value only.
- `Toml.members`, `has_singleton_iff`, `has_pair_iff`: what stands under one key, or under two.
-/

namespace Testbench

namespace Toml

variable {ms : Members} {key : String} {v w : Toml}

/-- The value `v` stands under some keys; each of them leads into a table. -/
inductive At (v : Toml) : Toml → List String → Prop
  | here : At v v []
  | member {ms : Members} {key : String} {path : List String} {w : Toml} (entry : (key, w) ∈ ms)
      (rest : At v w path) : At v (.table ms) (key :: path)

/-- The value stands in the document under these keys. -/
abbrev Has (doc : Toml) (path : List String) (v : Toml) : Prop := At v doc path

theorem has_nil_iff : w.Has [] v ↔ w = v := by
  constructor
  · rintro ⟨⟩
    rfl
  · rintro rfl
    exact .here

theorem has_cons_iff {path : List String} : w.Has (key :: path) v ↔
    ∃ ms, w = .table ms ∧ ∃ w', (key, w') ∈ ms ∧ w'.Has path v := by
  constructor
  · rintro (_ | ⟨entry, rest⟩)
    exact ⟨_, rfl, _, entry, rest⟩
  · rintro ⟨ms, rfl, w', entry, rest⟩
    exact .member entry rest

/-- Among different keys the first one that fits is the only one. -/
theorem lookup_eq_some_iff_mem (hkeys : (ms.map Prod.fst).Nodup) :
    ms.lookup key = some v ↔ (key, v) ∈ ms := by
  constructor
  · intro h
    obtain ⟨before, after, rfl, -⟩ := List.lookup_eq_some_iff.mp h
    simp
  · intro hmem
    cases h : ms.lookup key with
    | none => exact absurd (List.lookup_eq_none_iff.mp h _ hmem) (by simp)
    | some w =>
      obtain ⟨before, after, hms, -⟩ := List.lookup_eq_some_iff.mp h
      -- what is found stands under the same key, and only one member does
      have heq := List.inj_on_of_nodup_map hkeys (show (key, w) ∈ ms by simp [hms]) hmem rfl
      cases heq
      rfl

theorem lookup_eq_none_iff_notMem : ms.lookup key = none ↔ ∀ v, (key, v) ∉ ms := by
  rw [List.lookup_eq_none_iff]
  constructor
  · intro h v hmem
    simpa using h _ hmem
  · intro h m hmem
    rw [bne_iff_ne]
    rintro rfl
    exact h m.2 hmem

/-- The last key leads out of a table. -/
theorem has_concat_iff : ∀ {path : List String} {w : Toml},
    w.Has (path ++ [key]) v ↔ ∃ ms, w.Has path (.table ms) ∧ (key, v) ∈ ms
  | [], w => by simp [has_cons_iff, has_nil_iff]
  | k :: path, w => by
    rw [List.cons_append]
    simp only [has_cons_iff, has_concat_iff]
    constructor
    · rintro ⟨ms', rfl, w', hw', ms, hms, hv⟩
      exact ⟨ms, ⟨ms', rfl, w', hw', hms⟩, hv⟩
    · rintro ⟨ms, ⟨ms', rfl, w', hw', hms⟩, hv⟩
      exact ⟨ms', rfl, w', hw', ms, hms, hv⟩

/-- Under the same keys stands one value only. -/
theorem Distinct.has_unique : ∀ {path : List String} {u v w : Toml}, u.Distinct → u.Has path v →
    u.Has path w → v = w
  | [], _, _, _, _, hv, hw => (has_nil_iff.mp hv).symm.trans (has_nil_iff.mp hw)
  | _ :: _, _, _, _, h, hv, hw => by
    obtain ⟨ms, rfl, v', hv', hv⟩ := has_cons_iff.mp hv
    obtain ⟨_, heq, w', hw', hw⟩ := has_cons_iff.mp hw
    cases heq
    cases h with
    | table keys inner =>
      cases List.inj_on_of_nodup_map keys hv' hw' rfl
      exact (inner _ hv').has_unique hv hw

/-- The members of a table; other values have none. -/
def members : Toml → Members
  | .table ms => ms
  | _ => []

/-- What stands under one key is a member. -/
theorem has_singleton_iff : w.Has [key] v ↔ (key, v) ∈ w.members := by
  simp only [has_cons_iff, has_nil_iff, exists_eq_right]
  cases w <;> simp [members]

/-- What stands under two keys is a member of a member. -/
theorem has_pair_iff {key' : String} :
    w.Has [key, key'] v ↔ ∃ w', (key, w') ∈ w.members ∧ (key', v) ∈ w'.members := by
  rw [has_cons_iff]
  simp only [has_singleton_iff]
  cases w <;> simp [members]

theorem Distinct.members_nodup (h : v.Distinct) : (v.members.map Prod.fst).Nodup := by
  cases h with
  | table keys => exact keys
  | _ => exact List.nodup_nil

theorem Distinct.of_mem_members (h : w.Distinct) (hmem : (key, v) ∈ w.members) : v.Distinct := by
  cases h with
  | table _ inner => exact inner _ hmem
  | _ => cases hmem

end Toml

end Testbench
