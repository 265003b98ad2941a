import Testbench.Path

/-!
# Names along joined paths

A walk only sees the names of a path. This module says which names a joined path has, and what is
special about the relative paths of plain names that layouts are made of.

- `names_join`: joining two paths puts their names one behind the other.
- `isAbsolute_join`: a joined path starts where its first part does.
- `IsPlain.join`, `join_join`: plain paths are closed under joining, and joining is associative on
  them.
- `IsPlain.eq_of_names_eq`: a plain path is determined by its names — different plain paths
  therefore never lead to one place of a tree without links.
-/

namespace Testbench

namespace Path

/-! ## Joining -/

theorem pieces_append (a b : List Char) : pieces (a ++ '/' :: b) = pieces a ++ pieces b :=
  List.splitOn_append_cons_self a b

/-- The names of a text with a slash in it are those before and those behind the slash. -/
theorem names_append_slash (a b : String) : names (a ++ "/" ++ b) = names a ++ names b := by
  have h : (a ++ "/" ++ b).toList = a.toList ++ '/' :: b.toList := by simp
  unfold names
  rw [h, pieces_append, List.filter_append, List.map_append]

@[simp] theorem names_empty : names "" = [] := rfl

/-- A path that ends in a slash is some text with that slash behind it. -/
theorem exists_of_endsInSlash {p : String} (h : endsInSlash p = true) : ∃ q, p = q ++ "/" := by
  have hlast : p.toList.getLast? = some '/' := by simpa [endsInSlash] using h
  obtain ⟨cs, hcs⟩ := List.getLast?_eq_some_iff.mp hlast
  refine ⟨String.ofList cs, String.toList_injective ?_⟩
  rw [hcs, String.toList_append, String.toList_ofList]
  rfl

/-- What stands in front of a relative path that is taken from a base. -/
def lead (base : String) : String :=
  if base = "" || endsInSlash base then base else base ++ "/"

theorem join_eq_lead {base p : String} (h : isAbsolute p = false) : join base p = lead base ++ p := by
  unfold join lead
  rw [h]
  split
  · contradiction
  · split <;> rfl

/-- The names in front of a relative path are those of its base, whatever follows. -/
theorem names_lead_append (base p : String) : names (lead base ++ p) = names base ++ names p := by
  unfold lead
  by_cases hbase : base = ""
  · simp [hbase]
  · by_cases hslash : endsInSlash base = true
    · obtain ⟨q, rfl⟩ := exists_of_endsInSlash hslash
      have hq : names (q ++ "/") = names q := by
        simpa using names_append_slash q ""
      simp [hslash, hq, names_append_slash]
    · simp [hbase, hslash, names_append_slash]

/-- Joining puts the names of the two paths one behind the other. -/
theorem names_join {base p : String} (h : isAbsolute p = false) :
    names (join base p) = names base ++ names p := by
  rw [join_eq_lead h, names_lead_append]

/-- A text starts with a slash when its first part does, unless there is none. -/
theorem isAbsolute_append {a b : String} (ha : a ≠ "") : isAbsolute (a ++ b) = isAbsolute a := by
  obtain ⟨c, cs, hcs⟩ := List.exists_cons_of_ne_nil (l := a.toList) (by simpa using ha)
  unfold isAbsolute
  rw [String.toList_append, hcs]
  rfl

/-- A relative path that is taken from a base starts where the base does. -/
theorem isAbsolute_join {base p : String} (h : isAbsolute p = false) :
    isAbsolute (join base p) = isAbsolute base := by
  rw [join_eq_lead h]
  unfold lead
  by_cases hbase : base = ""
  · rw [hbase]
    show isAbsolute ("" ++ p) = false
    rw [String.empty_append, h]
  · by_cases hslash : endsInSlash base = true
    · rw [hslash, Bool.or_true, if_pos rfl, isAbsolute_append hbase]
    · rw [Bool.not_eq_true] at hslash
      have hneither : ¬ (decide (base = "") || endsInSlash base) = true := by simp [hbase, hslash]
      rw [if_neg hneither, String.append_assoc, isAbsolute_append hbase]

/-! ## Plain paths -/

instance (p : String) : Decidable (IsPlain p) :=
  inferInstanceAs (Decidable (∀ piece ∈ pieces p.toList, _ ∧ _ ∧ _))

namespace IsPlain

variable {p q root : String}

/-- The names of a plain path are its pieces: none is left out. -/
theorem names_eq (h : IsPlain p) : names p = (pieces p.toList).map String.ofList := by
  unfold names
  rw [List.filter_eq_self.mpr]
  intro piece hpiece
  simpa using (h piece hpiece).1

theorem names_ne_nil (h : IsPlain p) : names p ≠ [] := by
  rw [h.names_eq]
  intro hnil
  exact List.splitOn_ne_nil '/' p.toList (List.map_eq_nil_iff.mp hnil)

/-- No name of a plain path stands for the place already reached, and none leads back. -/
theorem ne_of_mem_names (h : IsPlain p) {n : String} (hn : n ∈ names p) : n ≠ "." ∧ n ≠ ".." := by
  rw [h.names_eq] at hn
  obtain ⟨piece, hpiece, rfl⟩ := List.mem_map.mp hn
  obtain ⟨-, hdot, hback⟩ := h piece hpiece
  constructor
  · intro heq
    exact hdot (by simpa using congrArg String.toList heq)
  · intro heq
    exact hback (by simpa using congrArg String.toList heq)

/-- A plain path has a last name, and plain names in front of it. -/
theorem exists_names_eq (h : IsPlain p) : ∃ ms m, names p = ms ++ [m] ∧
    (∀ n ∈ ms, n ≠ "." ∧ n ≠ "..") ∧ m ≠ "." ∧ m ≠ ".." := by
  obtain ⟨ms, m, hnames⟩ := (List.eq_nil_or_concat (names p)).resolve_left h.names_ne_nil
  rw [List.concat_eq_append] at hnames
  refine ⟨ms, m, hnames, fun n hn => h.ne_of_mem_names ?_, h.ne_of_mem_names ?_⟩
  · rw [hnames]
    exact List.mem_append_left _ hn
  · rw [hnames]
    exact List.mem_append_right _ (List.mem_singleton.mpr rfl)

theorem isAbsolute_eq (h : IsPlain p) : isAbsolute p = false := by
  refine Bool.eq_false_iff.mpr fun habs => ?_
  have hhead : p.toList.head? = some '/' := by simpa [isAbsolute] using habs
  obtain ⟨cs, hcs⟩ := List.head?_eq_some_iff.mp hhead
  -- in front of the first slash stands an empty piece
  have hnil : [] ∈ pieces p.toList := by
    rw [hcs, ← List.nil_append ('/' :: cs), pieces_append]
    exact List.mem_append_left _ (List.mem_singleton.mpr rfl)
  exact (h [] hnil).1 rfl

theorem endsInSlash_eq (h : IsPlain p) : endsInSlash p = false := by
  refine Bool.eq_false_iff.mpr fun hslash => ?_
  obtain ⟨q, rfl⟩ := exists_of_endsInSlash hslash
  have hnil : [] ∈ pieces (q ++ "/").toList := by
    rw [String.toList_append]
    show [] ∈ pieces (q.toList ++ '/' :: [])
    rw [pieces_append]
    exact List.mem_append_right _ (List.mem_singleton.mpr rfl)
  exact (h [] hnil).1 rfl

theorem ne_empty (h : IsPlain p) : p ≠ "" := by
  rintro rfl
  exact h.names_ne_nil rfl

/-- A plain path is determined by its names. -/
theorem eq_of_names_eq (hp : IsPlain p) (hq : IsPlain q) (h : names p = names q) : p = q := by
  rw [hp.names_eq, hq.names_eq] at h
  have hpieces : pieces p.toList = pieces q.toList :=
    List.map_inj_right (fun a b hab => by simpa using congrArg String.toList hab) |>.mp h
  apply String.toList_injective
  rw [← intercalate_pieces p.toList, hpieces, intercalate_pieces]

/-- Behind a plain path a slash is put before anything else follows. -/
theorem lead_eq (hp : IsPlain p) (s : String) : lead (s ++ p) = s ++ p ++ "/" := by
  have hne : p.toList ≠ [] := by simpa using hp.ne_empty
  have hlast : p.toList.getLast? ≠ some '/' := by simpa [endsInSlash] using hp.endsInSlash_eq
  have hempty : s ++ p ≠ "" := fun h => hne (by
    have := congrArg String.toList h
    rw [String.toList_append] at this
    exact (List.append_eq_nil_iff.mp this).2)
  have hslash : endsInSlash (s ++ p) = false := by
    simpa [endsInSlash, List.getLast?_append, List.getLast?_eq_none_iff, hne] using hlast
  unfold lead
  rw [hslash]
  simp [hempty]

theorem join (hp : IsPlain p) (hq : IsPlain q) : IsPlain (Path.join p q) := by
  have hlead := hp.lead_eq ""
  have h : (p ++ "/" ++ q).toList = p.toList ++ '/' :: q.toList := by simp
  rw [String.empty_append] at hlead
  rw [join_eq_lead hq.isAbsolute_eq, hlead]
  intro piece hpiece
  rw [h, pieces_append] at hpiece
  rcases List.mem_append.mp hpiece with hpiece | hpiece
  · exact hp piece hpiece
  · exact hq piece hpiece

theorem endsInSlash_join (hp : IsPlain p) : endsInSlash (Path.join root p) = false := by
  have hlead := hp.lead_eq (Path.lead root)
  rw [join_eq_lead hp.isAbsolute_eq]
  refine Bool.eq_false_iff.mpr fun hslash => ?_
  rw [Path.lead, hslash, Bool.or_true, if_pos rfl] at hlead
  -- the same text would be one slash longer than itself
  have := congrArg String.length hlead
  simp at this

/-- A walk along a plain path taken from a root takes no step besides the names. -/
theorem steps_join (hp : IsPlain p) : steps (Path.join root p) = names root ++ names p := by
  rw [steps, hp.endsInSlash_join, names_join hp.isAbsolute_eq]
  simp

end IsPlain

/-- Joining is associative on plain paths. -/
theorem join_join {root p q : String} (hp : IsPlain p) (hq : IsPlain q) :
    join (join root p) q = join root (join p q) := by
  have hlead := hp.lead_eq ""
  rw [String.empty_append] at hlead
  calc
    join (join root p) q = lead (lead root ++ p) ++ q := by
      rw [join_eq_lead hq.isAbsolute_eq, join_eq_lead hp.isAbsolute_eq]
    _ = lead root ++ (p ++ "/" ++ q) := by
      rw [hp.lead_eq]
      simp only [String.append_assoc]
    _ = join root (join p q) := by
      rw [join_eq_lead (hp.join hq).isAbsolute_eq, join_eq_lead hq.isAbsolute_eq, hlead]

end Path

end Testbench
