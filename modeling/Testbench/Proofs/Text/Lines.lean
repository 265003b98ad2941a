import Testbench.Proofs.Text.Replace
import Testbench.Text.Lines

/-!
# Texts line by line

A phrase without line ends stands within one line, so that replacing it is done line by line.

- `lines_append`, `lines_unlines`, `lines_closed`: the lines of texts that are put together.
- `lineEnd_notMem`: no line holds a line end.
- `suffix_of_lines_eq_append`, `suffix_of_texts_eq_append`: a text ends with its last line.
- `IsOneLine`, `isOneLine_repr`: texts without line ends.
- `endedLines`, `endedLines_join`: the lines of a text in which every line is ended.
- `infix_iff_exists_line`: a phrase occurs on one line.
- `replaceAll_unlines`, `lines_replaceAll`: replacing line by line.
-/

namespace Testbench

namespace Text

variable {old new s l : List Char} {ls : List (List Char)}

/-! ## Lines of texts that are put together -/

/-- A line end parts the lines before it from those behind it. -/
theorem lines_append (a b : List Char) : lines (a ++ '\n' :: b) = lines a ++ lines b :=
  List.splitOn_append_cons_self a b

theorem lines_of_notMem (h : '\n' ∉ s) : lines s = [s] := List.splitOn_eq_singleton h

/-- No line holds a line end. -/
theorem lineEnd_notMem (s : List Char) : ∀ l ∈ lines s, '\n' ∉ l := by
  -- from one line end to the next, by the length of the text
  by_cases hs : '\n' ∈ s
  · obtain ⟨a, b, hab⟩ := List.append_of_mem hs
    have hlen : s.length = a.length + (b.length + 1) := by
      rw [hab, List.length_append, List.length_cons]
    rw [hab, lines_append]
    intro l h
    rcases List.mem_append.mp h with h | h
    · exact lineEnd_notMem a l h
    · exact lineEnd_notMem b l h
  · rw [lines_of_notMem hs]
    intro l h
    rwa [List.mem_singleton.mp h]
termination_by s.length
decreasing_by all_goals omega

theorem unlines_singleton (l : List Char) : unlines [l] = l := List.intercalate_singleton

theorem unlines_cons (l : List Char) (h : ls ≠ []) :
    unlines (l :: ls) = l ++ '\n' :: unlines ls := by
  obtain ⟨l', ls, rfl⟩ := List.exists_cons_of_ne_nil h
  rw [unlines, List.intercalate_cons_cons, List.append_assoc]
  rfl

/-- The lines of texts with line ends between them are the lines of these texts. -/
theorem lines_unlines : ∀ {ls : List (List Char)}, ls ≠ [] → lines (unlines ls) = ls.flatMap lines
  | [l], _ => by simp [unlines_singleton]
  | l :: l' :: ls, _ => by
    have hne : l' :: ls ≠ [] := List.cons_ne_nil l' ls
    rw [unlines_cons l hne, lines_append, lines_unlines hne]
    exact List.flatMap_cons.symm

/-- Behind the last of some texts with line ends behind them stands a line without characters. -/
theorem lines_closed : ∀ ls : List (List Char),
    lines (ls.flatMap (· ++ ['\n'])) = ls.flatMap lines ++ [[]]
  | [] => lines_of_notMem (by simp)
  | l :: ls => by
    rw [List.flatMap_cons, List.append_assoc, List.singleton_append, lines_append, lines_closed ls,
      List.flatMap_cons, List.append_assoc]

/-- Lines end with the last of them. -/
theorem suffix_unlines (l : List Char) : ∀ ls : List (List Char), l <:+ unlines (ls ++ [l])
  | [] => by simp [unlines_singleton]
  | l' :: ls => by
    rw [List.cons_append, unlines_cons l' (by simp)]
    exact (suffix_unlines l ls).trans
      ((List.suffix_cons '\n' _).trans (List.suffix_append l' _))

/-- The last line of a text stands at its end. -/
theorem suffix_of_lines_eq_append (h : lines s = ls ++ [l]) : l <:+ s := by
  rw [← unlines_lines s, h]
  exact suffix_unlines l ls

/-! ## Texts of one line -/

/-- The text has no line end. -/
def IsOneLine (s : String) : Prop := '\n' ∉ s.toList

instance (s : String) : Decidable (IsOneLine s) := inferInstanceAs (Decidable ('\n' ∉ s.toList))

@[simp] theorem isOneLine_append (s t : String) :
    IsOneLine (s ++ t) ↔ IsOneLine s ∧ IsOneLine t := by
  simp [IsOneLine]

theorem isOneLine_ofList {s : List Char} : IsOneLine (String.ofList s) ↔ '\n' ∉ s := by
  simp [IsOneLine]

/-- Digits stand on one line. -/
theorem lineEnd_notMem_toDigits (n : Nat) : '\n' ∉ Nat.toDigits 10 n := fun h => by
  have := Nat.isDigit_of_mem_toDigits (by decide) (by decide) h
  revert this
  decide

theorem isOneLine_repr (n : Nat) : IsOneLine n.repr :=
  isOneLine_ofList.mpr (lineEnd_notMem_toDigits n)

/-- The lines of a text as texts. -/
def texts (s : String) : List String := (lines s.toList).map String.ofList

theorem texts_of_isOneLine {s : String} (h : IsOneLine s) : texts s = [s] := by
  rw [texts, lines_of_notMem h]
  simp

theorem isOneLine_of_mem_texts {s l : String} (h : l ∈ texts s) : IsOneLine l := by
  obtain ⟨l, hl, rfl⟩ := List.mem_map.mp h
  exact isOneLine_ofList.mpr (lineEnd_notMem _ l hl)

/-- A text ends with its last line. -/
theorem suffix_of_texts_eq_append {s l : String} {ls : List String} (h : texts s = ls ++ [l]) :
    l.toList <:+ s.toList := by
  obtain ⟨ls', last, hlines, -, hlast⟩ := List.map_eq_append_iff.mp h
  obtain ⟨l', rfl, rfl⟩ := List.map_eq_singleton_iff.mp hlast
  rw [String.toList_ofList]
  exact suffix_of_lines_eq_append hlines

/-- The lines of a text in which every line is ended. -/
def endedLines (s : String) : List String := (texts s).dropLast

theorem isOneLine_of_mem_endedLines {s l : String} (h : l ∈ endedLines s) : IsOneLine l :=
  isOneLine_of_mem_texts (List.dropLast_subset _ h)

/-- The lines of texts that are ended are the lines of these texts. -/
theorem endedLines_join (ls : List String) :
    endedLines (String.join (ls.map (· ++ "\n"))) = ls.flatMap texts := by
  have htext : (String.join (ls.map (· ++ "\n"))).toList =
      (ls.map String.toList).flatMap (· ++ ['\n']) := by
    induction ls with
    | nil => rfl
    | cons l ls ih => simp [ih]
  rw [endedLines, texts, htext, lines_closed, List.map_append, List.map_singleton,
    List.dropLast_concat, List.flatMap_map, List.map_flatMap]
  rfl

/-! ## Phrases without line ends -/

/-- A phrase that does not hold a character cannot reach beyond it. -/
theorem prefix_of_prefix_append {c : Char} {a b : List Char} (h : c ∉ old)
    (hold : old <+: a ++ c :: b) : old <+: a := by
  rcases List.prefix_or_prefix_of_prefix hold (List.prefix_append a (c :: b)) with h' | ⟨t, rfl⟩
  · exact h'
  · have ht : t <+: c :: b := (List.prefix_append_right_inj a).mp hold
    cases t with
    | nil => simp
    | cons d t =>
      rw [(List.cons_prefix_cons.mp ht).1] at h
      simp at h

/-- A phrase that does not hold a character occurs in front of it or behind it. -/
theorem infix_append_cons_of_notMem {c : Char} (h : c ∉ old) (b : List Char) :
    ∀ a : List Char, old <:+: a ++ c :: b → old <:+: a ∨ old <:+: b
  | [], hold => by
    rcases List.infix_cons_iff.mp hold with hold | hold
    · exact .inl (prefix_of_prefix_append (a := []) h hold).isInfix
    · exact .inr hold
  | d :: a, hold => by
    rcases List.infix_cons_iff.mp hold with hold | hold
    · exact .inl (prefix_of_prefix_append (a := d :: a) h hold).isInfix
    · exact (infix_append_cons_of_notMem h b a hold).imp
        (fun h => h.trans (List.suffix_cons d a).isInfix) id

/-- A phrase without line ends that occurs in lines occurs on one of them. -/
theorem exists_infix_of_unlines (h : '\n' ∉ old) : ∀ {ls : List (List Char)}, ls ≠ [] →
    old <:+: unlines ls → ∃ l ∈ ls, old <:+: l
  | [l], _, hold => ⟨l, List.mem_cons_self, unlines_singleton l ▸ hold⟩
  | l :: l' :: ls, _, hold => by
    rw [unlines_cons l (List.cons_ne_nil l' ls)] at hold
    rcases infix_append_cons_of_notMem h _ l hold with hold | hold
    · exact ⟨l, List.mem_cons_self, hold⟩
    · obtain ⟨k, hk, hold⟩ := exists_infix_of_unlines h (List.cons_ne_nil l' ls) hold
      exact ⟨k, List.mem_cons_of_mem l hk, hold⟩

theorem infix_unlines_of_mem : ∀ {ls : List (List Char)}, l ∈ ls → l <:+: unlines ls
  | [k], hl => ⟨[], [], by simp [unlines_singleton, List.mem_singleton.mp hl]⟩
  | k :: k' :: ls, hl => by
    rw [unlines_cons k (List.cons_ne_nil k' ls)]
    rcases List.mem_cons.mp hl with rfl | hl
    · exact (List.prefix_append l _).isInfix
    · exact (infix_unlines_of_mem hl).trans
        ((List.suffix_cons '\n' _).trans (List.suffix_append k _)).isInfix

/-- A phrase without line ends occurs in a text when it occurs on one of its lines. -/
theorem infix_iff_exists_line (h : '\n' ∉ old) : old <:+: s ↔ ∃ l ∈ lines s, old <:+: l := by
  constructor
  · intro hold
    rw [← unlines_lines s] at hold
    exact exists_infix_of_unlines h (lines_ne_nil s) hold
  · rintro ⟨l, hl, hold⟩
    rw [← unlines_lines s]
    exact hold.trans (infix_unlines_of_mem hl)

/-! ## Replacing -/

/-- Replacing a phrase without line ends goes on afresh behind each line end. -/
theorem replaceAll_append_lineEnd (hne : old ≠ []) (h : '\n' ∉ old) (a b : List Char) :
    replaceAll old new (a ++ '\n' :: b) = replaceAll old new a ++ '\n' :: replaceAll old new b := by
  induction a using replace_induction hne with
  -- no occurrence reaches over the line end, so that those before it are the same
  | nil =>
    rw [List.nil_append, replaceAll_nil, List.nil_append, replaceAll_cons]
    exact fun hold => hne (List.prefix_nil.mp (prefix_of_prefix_append (a := []) h hold))
  | occurrence rest ih => rw [List.append_assoc, replaceAll_append hne, replaceAll_append hne, ih,
      List.append_assoc]
  | other c cs hold ih =>
    rw [List.cons_append, replaceAll_cons new, replaceAll_cons new hold, ih, List.cons_append]
    exact fun hold' => hold (prefix_of_prefix_append (a := c :: cs) h hold')

/-- A phrase without line ends is replaced line by line. -/
theorem replaceAll_unlines (hne : old ≠ []) (h : '\n' ∉ old) :
    ∀ ls : List (List Char), replaceAll old new (unlines ls) = unlines (ls.map (replaceAll old new))
  | [] => replaceAll_nil
  | [l] => by simp [unlines_singleton]
  | l :: l' :: ls => by
    rw [unlines_cons l (List.cons_ne_nil l' ls), replaceAll_append_lineEnd hne h,
      replaceAll_unlines hne h, List.map_cons (l := l' :: ls), unlines_cons _ (by simp)]

/-- A line that is the phrase is replaced as a whole. -/
theorem replaceAll_self (hne : old ≠ []) : replaceAll old new old = new := by
  have h : replaceAll old new (old ++ []) = new ++ replaceAll old new [] := replaceAll_append hne []
  rwa [List.append_nil, replaceAll_nil, List.append_nil] at h

end Text

end Testbench
