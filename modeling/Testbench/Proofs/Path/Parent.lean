import Testbench.Proofs.Path

/-!
# Parents of paths

The path without its last name is the front of the path as it is written, so that a walk along it is
the front of the walk along the path.

- `exists_of_parent?`: a path goes on from its parent.
- `IsFront`, `isFront_of_parent?`: what is in front of some names of a path, such as its parent.
- `eq_dot_of_parent?_eq_none`: a path without a parent leads nowhere else.
- `parent?_join_ne_none`: a plain path behind another one has a parent.
-/

namespace Testbench

namespace Path

/-! ## Parents -/

/-- Pieces in two parts are put together with a slash between the parts. -/
theorem intercalate_append {ms : List (List Char)} (hms : ms ≠ []) :
    ∀ {ks : List (List Char)}, ks ≠ [] →
      ['/'].intercalate (ks ++ ms) = ['/'].intercalate ks ++ '/' :: ['/'].intercalate ms
  | [k], _ => by
    rw [List.singleton_append, List.intercalate_cons_of_ne_nil hms]
    simp
  | k :: k' :: ks, _ => by
    have hrest : ['/'].intercalate (k' :: ks ++ ms) =
        ['/'].intercalate (k' :: ks) ++ '/' :: ['/'].intercalate ms :=
      intercalate_append hms (by simp)
    rw [List.cons_append, List.intercalate_cons_of_ne_nil (by simp), hrest,
      List.intercalate_cons_cons]
    simp

/-- Only pieces in front are left out. -/
theorem dropIdle_suffix (rooted : Bool) : ∀ pieces : List (List Char),
    dropIdle rooted pieces <:+ pieces
  | [] => List.suffix_refl []
  | piece :: rest => by
    unfold dropIdle
    split
    · exact (dropIdle_suffix rooted rest).trans (List.suffix_cons piece rest)
    · exact List.suffix_refl _

/-- The pieces of a path without its last name are those in front of some others. -/
theorem exists_pieces_of_dropIdle {rooted : Bool} {body before : List (List Char)}
    {piece : List Char} (h : dropIdle rooted body.reverse = piece :: before) :
    ∃ ms, ms ≠ [] ∧ body = (dropIdle rooted before).reverse ++ ms := by
  obtain ⟨idle, hidle⟩ := dropIdle_suffix rooted body.reverse
  obtain ⟨idle', hidle'⟩ := dropIdle_suffix rooted before
  rw [h] at hidle
  refine ⟨idle'.reverse ++ [piece] ++ idle.reverse, by simp, ?_⟩
  have hbody := congrArg List.reverse hidle
  have hbefore := congrArg List.reverse hidle'
  rw [List.reverse_reverse] at hbody
  rw [List.reverse_append] at hbefore
  rw [← hbody, List.reverse_append, List.reverse_cons, ← hbefore]
  simp only [List.append_assoc]

/-- A path that starts at the root is a slash with some text behind it. -/
theorem exists_of_isAbsolute {p : String} (h : isAbsolute p = true) :
    ∃ cs, p.toList = '/' :: cs ∧ (pieces p.toList).drop 1 = pieces cs := by
  have hhead : p.toList.head? = some '/' := by simpa [isAbsolute] using h
  obtain ⟨cs, hcs⟩ := List.head?_eq_some_iff.mp hhead
  refine ⟨cs, hcs, ?_⟩
  rw [hcs, ← List.nil_append ('/' :: cs), pieces_append]
  rfl

/-- A path goes on from the one that its first pieces make up. -/
theorem exists_of_pieces (front : String) {kept ms : List (List Char)} (hms : ms ≠ [])
    (hkept : kept ≠ []) {p parent : String}
    (hp : p = front ++ String.ofList (['/'].intercalate (kept ++ ms)))
    (hparent : parent = front ++ String.ofList (['/'].intercalate kept)) :
    ∃ rest more, p = parent ++ rest ∧ names p = names parent ++ names more := by
  have htext : p = parent ++ "/" ++ String.ofList (['/'].intercalate ms) := by
    apply String.toList_injective
    rw [hp, hparent, intercalate_append hms hkept]
    simp
  refine ⟨"/" ++ String.ofList (['/'].intercalate ms), String.ofList (['/'].intercalate ms), ?_, ?_⟩
  · rw [htext, String.append_assoc]
  · rw [htext]
    exact names_append_slash _ _

/-- A path goes on from its parent: its text does, and so do its names. -/
theorem exists_of_parent? {p parent : String} (h : parent? p = some parent) (hne : parent ≠ "") :
    ∃ rest more, p = parent ++ rest ∧ names p = names parent ++ names more := by
  unfold parent? at h
  dsimp only at h
  by_cases habs : isAbsolute p = true
  · obtain ⟨cs, hcs, hdrop⟩ := exists_of_isAbsolute habs
    rw [habs, if_pos rfl, hdrop] at h
    cases hidle : dropIdle true (pieces cs).reverse with
    | nil =>
      rw [hidle] at h
      cases h
    | cons piece before =>
      rw [hidle] at h
      obtain ⟨ms, hms, hpieces⟩ := exists_pieces_of_dropIdle hidle
      have hp : p = "/" ++ String.ofList cs := by
        apply String.toList_injective
        rw [hcs]
        simp
      rw [← intercalate_pieces cs, hpieces] at hp
      by_cases hkept : (dropIdle true before).reverse = []
      · -- the parent is the root
        rw [hkept, List.nil_append] at hp
        have hparent : parent = "/" := by
          rw [← Option.some.inj h, hkept]
          rfl
        refine ⟨_, String.ofList (['/'].intercalate ms), by rw [hparent]; exact hp, ?_⟩
        have hnames := names_append_slash "" (String.ofList (['/'].intercalate ms))
        rw [String.empty_append] at hnames
        rw [hp, hnames, hparent]
        rfl
      · refine exists_of_pieces "/" hms hkept hp ?_
        apply String.toList_injective
        rw [← Option.some.inj h]
        simp
  · rw [Bool.not_eq_true] at habs
    rw [habs, if_neg Bool.false_ne_true] at h
    cases hidle : dropIdle false (pieces p.toList).reverse with
    | nil =>
      rw [hidle] at h
      cases h
    | cons piece before =>
      rw [hidle] at h
      obtain ⟨ms, hms, hpieces⟩ := exists_pieces_of_dropIdle hidle
      have hparent : parent = String.ofList (['/'].intercalate (dropIdle false before).reverse) := by
        rw [← Option.some.inj h]
        rfl
      have hkept : (dropIdle false before).reverse ≠ [] := by
        intro hnil
        rw [hnil] at hparent
        exact hne hparent
      refine exists_of_pieces "" hms hkept ?_ ?_
      · rw [String.empty_append, ← hpieces, intercalate_pieces, String.ofList_toList]
      · rw [String.empty_append]
        exact hparent

/-- The one path is what the other one is in front of some of its names. -/
def IsFront (front p : String) : Prop := (∃ rest, p = front ++ rest) ∧ names front <+: names p

theorem IsFront.refl (p : String) : IsFront p p :=
  ⟨⟨"", String.append_empty.symm⟩, List.prefix_refl _⟩

theorem IsFront.trans {p q r : String} (h : IsFront p q) (h' : IsFront q r) : IsFront p r := by
  obtain ⟨⟨rest, rfl⟩, hnames⟩ := h
  obtain ⟨⟨rest', rfl⟩, hnames'⟩ := h'
  exact ⟨⟨rest ++ rest', String.append_assoc⟩, hnames.trans hnames'⟩

theorem isFront_of_parent? {p parent : String} (h : parent? p = some parent) (hne : parent ≠ "") :
    IsFront parent p := by
  obtain ⟨rest, more, htext, hnames⟩ := exists_of_parent? h hne
  exact ⟨⟨rest, htext⟩, ⟨names more, hnames.symm⟩⟩

theorem idle_of_dropIdle_eq_nil {rooted : Bool} : ∀ {pieces : List (List Char)},
    dropIdle rooted pieces = [] → ∀ piece ∈ pieces, piece = [] ∨ piece = ['.']
  | [], _, _, hmem => by cases hmem
  | first :: rest, h, piece, hmem => by
    unfold dropIdle at h
    split at h
    · next hidle =>
      rcases List.mem_cons.mp hmem with rfl | hmem
      · simp only [isIdle, Bool.or_eq_true, Bool.and_eq_true, decide_eq_true_eq] at hidle
        exact hidle.imp_right And.left
      · exact idle_of_dropIdle_eq_nil h piece hmem
    · cases h

/-- A path without a parent has no names but those that stand for the place already reached. -/
theorem eq_dot_of_parent?_eq_none {p : String} (h : parent? p = none) : ∀ n ∈ names p, n = "." := by
  have hall : ∀ piece ∈ pieces p.toList, piece = [] ∨ piece = ['.'] := by
    unfold parent? at h
    dsimp only at h
    split at h
    · next hidle =>
      have hbody := idle_of_dropIdle_eq_nil hidle
      split at hbody
      · next habs =>
        obtain ⟨cs, hcs, hdrop⟩ := exists_of_isAbsolute habs
        rw [hdrop] at hbody
        intro piece hpiece
        rw [hcs, ← List.nil_append ('/' :: cs), pieces_append] at hpiece
        rcases List.mem_append.mp hpiece with hnil | hmem
        · exact .inl (List.mem_singleton.mp hnil)
        · exact hbody piece (List.mem_reverse.mpr hmem)
      · intro piece hpiece
        exact hbody piece (List.mem_reverse.mpr hpiece)
    · cases h
  intro n hn
  obtain ⟨piece, hpiece, rfl⟩ := List.mem_map.mp hn
  obtain ⟨hmem, hne⟩ := List.mem_filter.mp hpiece
  rcases hall piece hmem with rfl | rfl
  · exact absurd rfl (of_decide_eq_true hne)
  · rfl

/-- A plain path that is taken from a base has a parent. -/
theorem parent?_join_ne_none {base p : String} (hp : IsPlain p) : parent? (join base p) ≠ none := by
  intro hnone
  obtain ⟨n, hn⟩ := List.exists_mem_of_ne_nil _ hp.names_ne_nil
  have hmem : n ∈ names (join base p) := by
    rw [names_join hp.isAbsolute_eq]
    exact List.mem_append_right _ hn
  exact (hp.ne_of_mem_names hn).1 (eq_dot_of_parent?_eq_none hnone n hmem)

end Path

end Testbench
