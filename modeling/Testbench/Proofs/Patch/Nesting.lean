import Testbench.Patch.Conditional
import Testbench.Proofs.Patch.Amendment
import Testbench.Proofs.Text.Lines

/-!
# Guarded sources where there are no graphics

The guard around the class of graphics tests ends with the line that opens the class. Where there
are no graphics an empty class takes the place of that line, while the body of the class and the
brace behind it stay. The braces of what is left are therefore only those of the source, and
balanced, where there is no such class; every class leaves one brace that closes nothing. An empty
class, which the specification wants there (§4.2), would leave none.

- `Text.StandsAlone`: a phrase fills every line on which it occurs.
- `Conditional.braces`, `isBalanced_congr`: whether a source is balanced only depends on its braces.
- `Conditional.count_of_isBalanced`: as many braces are closed as are opened.
- `Amendment.guardGraphics_eq_unlines`: a guarded source, line by line.
- `Amendment.without_guardGraphics`: what is left of it where there are no graphics.
- `Amendment.guardGraphics_nesting`: when that is balanced, and how many braces are too many.
-/

namespace Testbench

open Text

/-- Every line on which the phrase occurs is the phrase and nothing else. -/
def Text.StandsAlone (phrase source : List Char) : Prop :=
  ∀ l ∈ lines source, phrase <:+: l → l = phrase

instance (phrase source : List Char) : Decidable (StandsAlone phrase source) :=
  inferInstanceAs (Decidable (∀ l ∈ _, _))

/-! ## Braces -/

namespace Conditional

/-- The character is a brace. -/
def isBrace (c : Char) : Bool := c == '\x7b' || c == '\x7d'

/-- The braces of a source. -/
def braces (s : List Char) : List Char := s.filter isBrace

theorem isBrace_eq_false_iff {c : Char} : isBrace c = false ↔ c ≠ '\x7b' ∧ c ≠ '\x7d' := by
  simp [isBrace]

/-- A character that no case for a brace takes: a closing brace has one case at depth zero and one
at every other depth. -/
theorem isBrace_eq_false {depth : Nat} {c : Char} (hopen : c = '\x7b' → False)
    (hfirst : depth = 0 → c = '\x7d' → False) (hclose : ∀ d, depth = d + 1 → c = '\x7d' → False) :
    isBrace c = false := by
  refine isBrace_eq_false_iff.mpr ⟨hopen, fun hc => ?_⟩
  cases depth with
  | zero => exact hfirst rfl hc
  | succ d => exact hclose d rfl hc

theorem isBalancedFrom_braces (depth : Nat) (s : List Char) :
    isBalancedFrom depth (braces s) = isBalancedFrom depth s := by
  unfold braces
  fun_induction isBalancedFrom depth s with
  | case1 depth => rfl
  | case2 depth s ih => rw [List.filter_cons_of_pos (by decide), isBalancedFrom, ih]
  | case3 s => rw [List.filter_cons_of_pos (by decide), isBalancedFrom]
  | case4 depth s ih => rw [List.filter_cons_of_pos (by decide), isBalancedFrom, ih]
  | case5 depth c s hopen hfirst hclose ih =>
    have hc : isBrace c = false := isBrace_eq_false hopen hfirst hclose
    rw [List.filter_cons_of_neg (by simp [hc]), ih]

/-- Whether a source is balanced only depends on its braces. -/
theorem isBalanced_congr {s t : List Char} (h : braces s = braces t) :
    isBalanced s = isBalanced t := by
  rw [isBalanced, ← isBalancedFrom_braces, h, isBalancedFrom_braces]
  rfl

theorem count_of_isBalancedFrom {depth : Nat} {s : List Char} (h : isBalancedFrom depth s = true) :
    s.count '\x7d' = s.count '\x7b' + depth := by
  fun_induction isBalancedFrom depth s with
  | case1 depth => simpa using (beq_iff_eq.mp h).symm
  | case2 depth s ih =>
    have := ih h
    simp
    omega
  | case3 s => cases h
  | case4 depth s ih =>
    have := ih h
    simp
    omega
  | case5 depth c s hopen hfirst hclose ih =>
    obtain ⟨hopen', hclose'⟩ := isBrace_eq_false_iff.mp (isBrace_eq_false hopen hfirst hclose)
    rw [List.count_cons_of_ne hopen', List.count_cons_of_ne hclose', ih h]

/-- Where a source is balanced, as many braces are closed as are opened. -/
theorem count_of_isBalanced {s : List Char} (h : isBalanced s = true) :
    s.count '\x7d' = s.count '\x7b' := count_of_isBalancedFrom h

theorem braces_append (s t : List Char) : braces (s ++ t) = braces s ++ braces t :=
  List.filter_append ..

/-- Line ends are no braces. -/
theorem braces_unlines (ls : List (List Char)) : braces (unlines ls) = ls.flatMap braces := by
  induction ls with
  | nil => rfl
  | cons l ls ih =>
    cases ls with
    | nil => simp [unlines_singleton]
    | cons l' ls =>
      have hend : braces ('\n' :: unlines (l' :: ls)) = braces (unlines (l' :: ls)) := rfl
      rw [unlines_cons l (List.cons_ne_nil l' ls), braces_append, hend, ih]
      exact List.flatMap_cons.symm

theorem count_braces {c : Char} (h : isBrace c = true) (s : List Char) :
    (braces s).count c = s.count c := List.count_filter h

end Conditional

namespace Amendment

open Conditional

variable {source amended : List Char}

/-! ## Guarded sources line by line -/

/-- What becomes of a line when a source is guarded. -/
def guardedLine (l : List Char) : List Char :=
  if l = graphicsImport then guardedImport else if l = classOpener then guardedOpener else l

/-- What guards the import is not taken for the opener of the class. -/
theorem classOpener_absent : ¬ classOpener <:+: guardedImport := by
  have hopener : classOpener = _ := String.toList_ofList
  have himport : guardedImport = _ := String.toList_ofList
  rw [hopener, himport]
  decide

theorem replaceAll_of_standsAlone (new : List Char) {old l : List Char} (hne : old ≠ [])
    (h : old <:+: l → l = old) : replaceAll old new l = if l = old then new else l := by
  split
  · next heq => rw [heq, replaceAll_self hne]
  · next hne' => exact replaceAll_of_absent fun hold => hne' (h hold)

/-- A source in which the import and the opener fill their lines is guarded line by line. -/
theorem guardGraphics_eq_unlines (himport : StandsAlone graphicsImport source)
    (hopener : StandsAlone classOpener source) (h : guardGraphics source = some amended) :
    amended = unlines ((lines source).map guardedLine) := by
  obtain ⟨-, rfl⟩ := guardGraphics_eq_some h
  conv =>
    lhs
    rw [← unlines_lines source]
  rw [replaceAll_unlines (by decide) (by decide), replaceAll_unlines (by decide) (by decide),
    List.map_map]
  congr 1
  refine List.map_congr_left fun l hl => ?_
  have hfirst := replaceAll_of_standsAlone guardedImport (by decide) (himport l hl)
  have hsecond := replaceAll_of_standsAlone guardedOpener (by decide) (hopener l hl)
  rw [Function.comp_apply, hfirst, guardedLine]
  split
  · exact replaceAll_of_absent classOpener_absent
  · exact hsecond

/-! ## Without graphics -/

/-- The lines of the empty class that takes the place of the class of graphics tests. -/
def emptyClass : List (List Char) :=
  ["// CGFloat tests are skipped on Linux".toList, "class CGFloatTests \x7b\x7d".toList]

/-- What is left of a line where there are no graphics. -/
def leftLine (l : List Char) : List (List Char) :=
  if l = graphicsImport then [] else if l = classOpener then emptyClass else [l]

theorem lines_guardedImport : lines guardedImport = [graphicsMarker, graphicsImport, endLine] := by
  decide +kernel

theorem lines_guardedOpener :
    lines guardedOpener = [graphicsMarker, classOpener, elseLine] ++ emptyClass ++ [endLine] := by
  have hopener : guardedOpener = _ := toList_ofList_append
  rw [hopener]
  decide +kernel

theorem withoutFrom_guardedImport (ls : List (List Char)) :
    withoutFrom graphicsMarker .free (lines guardedImport ++ ls) =
      withoutFrom graphicsMarker .free ls := by
  rw [lines_guardedImport]
  rfl

theorem withoutFrom_guardedOpener (ls : List (List Char)) :
    withoutFrom graphicsMarker .free (lines guardedOpener ++ ls) =
      emptyClass ++ withoutFrom graphicsMarker .free ls := by
  rw [lines_guardedOpener]
  rfl

/-- Guards around lines without the sign of a guard are read away one after the other. -/
theorem withoutFrom_guardedLines : ∀ {ls : List (List Char)}, (∀ l ∈ ls, '#' ∉ l ∧ '\n' ∉ l) →
    withoutFrom graphicsMarker .free (ls.flatMap fun l => lines (guardedLine l)) =
      ls.flatMap leftLine
  | [], _ => rfl
  | l :: ls, h => by
    obtain ⟨⟨hguard, hend⟩, h⟩ := List.forall_mem_cons.mp h
    rw [List.flatMap_cons, List.flatMap_cons, guardedLine, leftLine,
      ← withoutFrom_guardedLines h]
    split
    · rw [withoutFrom_guardedImport, List.nil_append]
    · split
      · rw [withoutFrom_guardedOpener]
      · -- any other line starts no guard, since it has no sign of one
        have hne : l ≠ graphicsMarker := by
          rintro rfl
          revert hguard
          decide
        rw [lines_of_notMem hend, List.singleton_append, withoutFrom, if_neg hne,
          List.singleton_append]

section Nesting

variable (hplain : '#' ∉ source) (himport : StandsAlone graphicsImport source)
  (hopener : StandsAlone classOpener source) (h : guardGraphics source = some amended)

include hplain himport hopener h

/-- Where there are no graphics, a guarded source reads without the import and with an empty class
in the place of every line that opens the class of graphics tests. -/
theorem without_guardGraphics :
    without graphicsMarker amended = unlines ((lines source).flatMap leftLine) := by
  have hlines : lines amended = (lines source).flatMap fun l => lines (guardedLine l) := by
    rw [guardGraphics_eq_unlines himport hopener h,
      lines_unlines (by simpa using lines_ne_nil source), List.flatMap_map]
  rw [without, hlines, withoutFrom_guardedLines]
  intro l hl
  have hline : l <:+: source := unlines_lines source ▸ infix_unlines_of_mem hl
  exact ⟨fun hguard => hplain (hline.subset hguard), lineEnd_notMem source l hl⟩

end Nesting

/-- What is left of a line has a closing brace more than the line if this opens the class. -/
theorem count_leftLine (l : List Char) :
    ((leftLine l).flatMap braces).count '\x7b' = (braces l).count '\x7b' ∧
      ((leftLine l).flatMap braces).count '\x7d' =
        (braces l).count '\x7d' + if l = classOpener then 1 else 0 := by
  unfold leftLine
  split
  · next himport =>
    subst himport
    decide +kernel
  · split
    · next hopener =>
      subst hopener
      decide +kernel
    · simp

theorem count_leftLines (ls : List (List Char)) :
    ((ls.flatMap leftLine).flatMap braces).count '\x7b' = (ls.flatMap braces).count '\x7b' ∧
      ((ls.flatMap leftLine).flatMap braces).count '\x7d' =
        (ls.flatMap braces).count '\x7d' + ls.count classOpener := by
  induction ls with
  | nil => exact ⟨rfl, rfl⟩
  | cons l ls ih =>
    obtain ⟨hopen, hclose⟩ := count_leftLine l
    simp only [List.flatMap_cons, List.flatMap_append, List.count_append, hopen, hclose, ih,
      List.count_cons, beq_iff_eq, true_and]
    omega

/-- Where no line opens the class, the same braces are left. -/
theorem braces_leftLines {ls : List (List Char)} (h : classOpener ∉ ls) :
    (ls.flatMap leftLine).flatMap braces = ls.flatMap braces := by
  induction ls with
  | nil => rfl
  | cons l ls ih =>
    rw [List.mem_cons, not_or] at h
    rw [List.flatMap_cons, List.flatMap_append, ih h.2, List.flatMap_cons]
    congr 1
    unfold leftLine
    split
    · next himport =>
      subst himport
      decide +kernel
    · rw [if_neg (Ne.symm h.1), List.flatMap_singleton]

/-- **Guarded sources where there are no graphics.** Where the source is balanced, what is left of
it has one closing brace too many for each line that opens the class of graphics tests, and is
balanced exactly if there is no such line. -/
theorem guardGraphics_nesting (hplain : '#' ∉ source) (hbalanced : isBalanced source = true)
    (himport : StandsAlone graphicsImport source) (hopener : StandsAlone classOpener source)
    (h : guardGraphics source = some amended) :
    let left := without graphicsMarker amended
    left.count '\x7d' = left.count '\x7b' + (lines source).count classOpener ∧
      (isBalanced left = true ↔ ¬ classOpener <:+: source) := by
  intro left
  have hleft : braces left = ((lines source).flatMap leftLine).flatMap braces := by
    rw [← braces_unlines, ← without_guardGraphics hplain himport hopener h]
  have hsource : braces source = (lines source).flatMap braces := by
    rw [← braces_unlines, unlines_lines]
  obtain ⟨hopen, hclose⟩ := count_leftLines (lines source)
  rw [← hleft, ← hsource, count_braces rfl, count_braces rfl] at hopen hclose
  have hcount := count_of_isBalanced hbalanced
  refine ⟨by omega, fun hbalanced' => ?_, fun habsent => ?_⟩
  · have hcount' := count_of_isBalanced hbalanced'
    intro hopens
    obtain ⟨l, hl, hopens⟩ := (infix_iff_exists_line (by decide)).mp hopens
    have hpos : 0 < (lines source).count classOpener :=
      List.count_pos_iff.mpr (hopener l hl hopens ▸ hl)
    omega
  · have hnot : classOpener ∉ lines source := fun hl =>
      habsent ((infix_iff_exists_line (by decide)).mpr ⟨_, hl, List.infix_refl _⟩)
    rw [isBalanced_congr (hleft.trans ((braces_leftLines hnot).trans hsource.symm)), hbalanced]

/-- A source that imports graphics without the class of graphics tests. -/
theorem guardGraphics_nesting_import :
    let source := "import CoreGraphics\nfunc area() -> CGFloat \x7b 0 \x7d\n".toList
    ∃ amended, guardGraphics source = some amended ∧
      isBalanced (without graphicsMarker amended) = true := by
  intro source
  have hguarded : (guardGraphics source).isSome = true := by decide +kernel
  obtain ⟨amended, h⟩ := Option.isSome_iff_exists.mp hguarded
  have hnesting := guardGraphics_nesting (by decide +kernel) (by decide +kernel)
    (by decide +kernel) (by decide +kernel) h
  exact ⟨amended, h, hnesting.2.mpr (by decide +kernel)⟩

/-- A source with the class of graphics tests: what is left of it closes a brace that nothing
opens. -/
theorem guardGraphics_nesting_class :
    let source := ("import CoreGraphics\nimport XCTest\n" ++
      "class CGFloatTests: GRDBTestCase \x7b\n  func a() \x7b \x7d\n\x7d\n").toList
    '#' ∉ source ∧ isBalanced source = true ∧ StandsAlone graphicsImport source ∧
      StandsAlone classOpener source ∧ ∃ amended, guardGraphics source = some amended ∧
        isBalanced (without graphicsMarker amended) = false := by
  intro source
  refine ⟨by decide +kernel, by decide +kernel, by decide +kernel, by decide +kernel, ?_⟩
  have hleft : (guardGraphics source).map (fun amended =>
      isBalanced (without graphicsMarker amended)) = some false := by decide +kernel
  exact Option.map_eq_some_iff.mp hleft

end Amendment

end Testbench
