import Testbench.Proofs.Patch.Amendment
import Testbench.Proofs.Text.Count

/-!
# Sources whose graphics are guarded

Both guards hold the very phrase that they are put around, and both begin with the marker. That a
source is guarded can therefore be seen from the marker alone, and no phrase is lost. Since neither
guard can begin within another text and end in it, those in a guarded source are the ones that were
put there, and taking them away again gives the source back.

- `clear_phrase`, `clear_guards`: what is replaced and what is put in its place never straddle.
- `count_phrase_guarded`: both phrases are there as often as before.
- `guardGraphics_sentinel`: when a source is left alone, and what any other one keeps.
- `guardGraphics_restores`: guarding can be undone.
-/

namespace Testbench

namespace Amendment

open Text

variable {source amended : List Char}

/-! ## Phrases counted -/

/-- The phrases that are put behind a guard. -/
def phrases : List (List Char) := [graphicsImport, classOpener]

set_option maxRecDepth 4000 in
/-- Neither phrase overlaps itself or lies across the border of what is replaced or put in its
place. -/
theorem clear_phrase : ∀ phrase ∈ phrases, Unbordered phrase ∧
    Clear phrase graphicsImport ∧ Clear phrase guardedImport ∧
      Clear phrase classOpener ∧ Clear phrase guardedOpener := by
  have himport : graphicsImport = _ := String.toList_ofList
  have himport' : guardedImport = _ := String.toList_ofList
  have hopener : classOpener = _ := String.toList_ofList
  have hopener' : guardedOpener = _ := toList_ofList_append
  rw [phrases, himport, himport', hopener, hopener']
  decide

/-- A guard holds each phrase as often as what it is put around. -/
theorem count_phrase_guards : ∀ phrase ∈ phrases,
    count phrase guardedImport = count phrase graphicsImport ∧
      count phrase guardedOpener = count phrase classOpener := by
  have himport : graphicsImport = _ := String.toList_ofList
  have himport' : guardedImport = _ := String.toList_ofList
  have hopener : classOpener = _ := String.toList_ofList
  have hopener' : guardedOpener = _ := toList_ofList_append
  rw [phrases, himport, himport', hopener, hopener', List.forall_mem_cons, List.forall_mem_singleton]
  refine ⟨⟨?_, ?_⟩, ?_, ?_⟩ <;> cbv

/-- Both phrases are there as often as before. -/
theorem count_phrase_guarded {phrase : List Char} (h : phrase ∈ phrases) (source : List Char) :
    count phrase
        (replaceAll classOpener guardedOpener (replaceAll graphicsImport guardedImport source)) =
      count phrase source := by
  obtain ⟨hphrase, himport, hguarded, hopener, hguarded'⟩ := clear_phrase phrase h
  obtain ⟨hcount, hcount'⟩ := count_phrase_guards phrase h
  rw [count_replaceAll_of_eq hphrase classOpener_ne_nil hopener hguarded' hcount',
    count_replaceAll_of_eq hphrase graphicsImport_ne_nil himport hguarded hcount]

/-- A guard holds all of what it is put around. -/
theorem sublist_guards :
    graphicsImport.Sublist guardedImport ∧ classOpener.Sublist guardedOpener := by
  have himport : graphicsImport = _ := String.toList_ofList
  have himport' : guardedImport = _ := String.toList_ofList
  have hopener : classOpener = _ := String.toList_ofList
  have hopener' : guardedOpener = _ := toList_ofList_append
  rw [himport, himport', hopener, hopener']
  decide

/-- Nothing is taken from a source when it is guarded. -/
theorem sublist_guarded (source : List Char) : source.Sublist
    (replaceAll classOpener guardedOpener (replaceAll graphicsImport guardedImport source)) :=
  (sublist_replaceAll graphicsImport_ne_nil sublist_guards.1 source).trans
    (sublist_replaceAll classOpener_ne_nil sublist_guards.2 _)

/-! ## Amended sources -/

/-- **When graphics are guarded.** A source is left alone if and only if the marker is there or
neither phrase is. Any other source gets the marker, keeps all that it holds and each phrase as
often as before, and is left alone the next time. -/
theorem guardGraphics_sentinel (source : List Char) :
    (guardGraphics source = none ↔
      graphicsMarker <:+: source ∨ (¬ graphicsImport <:+: source ∧ ¬ classOpener <:+: source)) ∧
    ∀ amended, guardGraphics source = some amended →
      graphicsMarker <:+: amended ∧ source.Sublist amended ∧
      count graphicsImport amended = count graphicsImport source ∧
      count classOpener amended = count classOpener source ∧
      guardGraphics amended = none := by
  refine ⟨guardGraphics_eq_none_iff, fun amended h => ?_⟩
  have hmarked := marked_of_guardGraphics h
  have hagain := guardGraphics_of_guardGraphics h
  obtain ⟨-, rfl⟩ := guardGraphics_eq_some h
  exact ⟨hmarked, sublist_guarded source, count_phrase_guarded (by decide) source,
    count_phrase_guarded (by decide) source, hagain⟩

/-- A source with the import twice and the class once. -/
theorem guardGraphics_sentinel_twice :
    let source := ("import CoreGraphics\nimport CoreGraphics\n" ++
      "class CGFloatTests: GRDBTestCase \x7b\n\x7d\n").toList
    ∃ amended, guardGraphics source = some amended ∧ graphicsMarker <:+: amended ∧
      count graphicsImport amended = 2 ∧ count classOpener amended = 1 ∧
      guardGraphics amended = none := by
  intro source
  have hsome : (guardGraphics source).isSome = true := by decide +kernel
  obtain ⟨amended, h⟩ := Option.isSome_iff_exists.mp hsome
  obtain ⟨hmarked, -, himport, hopener, hagain⟩ := (guardGraphics_sentinel source).2 amended h
  have himports : count graphicsImport source = 2 := by decide +kernel
  have hopeners : count classOpener source = 1 := by decide +kernel
  exact ⟨amended, h, hmarked, himport.trans himports, hopener.trans hopeners, hagain⟩

/-! ## Guards taken away -/

set_option maxRecDepth 4000 in
/-- No guard overlaps itself, and no guarded opener lies across the border of an import or of a
guarded one. -/
theorem clear_guards : Unbordered guardedImport ∧ Unbordered guardedOpener ∧
    Clear guardedOpener graphicsImport ∧ Clear guardedOpener guardedImport := by
  have himport : graphicsImport = _ := String.toList_ofList
  have himport' : guardedImport = _ := String.toList_ofList
  have hopener : guardedOpener = _ := toList_ofList_append
  rw [himport, himport', hopener]
  decide

/-- Neither the import nor the guarded one holds a guarded opener. -/
theorem count_guardedOpener :
    count guardedOpener graphicsImport = 0 ∧ count guardedOpener guardedImport = 0 := by
  have himport : graphicsImport = _ := String.toList_ofList
  have himport' : guardedImport = _ := String.toList_ofList
  have hopener : guardedOpener = _ := toList_ofList_append
  rw [himport, himport', hopener]
  refine ⟨?_, ?_⟩ <;> cbv

theorem guardedImport_absent (h : ¬ graphicsMarker <:+: source) : ¬ guardedImport <:+: source :=
  fun hguarded => h (guardedImport_marked.trans hguarded)

theorem guardedOpener_absent (h : ¬ graphicsMarker <:+: source) : ¬ guardedOpener <:+: source :=
  fun hguarded => h (guardedOpener_marked.trans hguarded)

/-- Guarding the import makes no guarded opener, although its marker is one that such an opener
begins with. -/
theorem guardedOpener_absent_of_import (h : ¬ graphicsMarker <:+: source) :
    ¬ guardedOpener <:+: replaceAll graphicsImport guardedImport source := by
  obtain ⟨-, hopener, himport, hguarded⟩ := clear_guards
  obtain ⟨hzero, hzero'⟩ := count_guardedOpener
  have hcount := count_replaceAll_of_eq hopener graphicsImport_ne_nil himport hguarded
    (hzero'.trans hzero.symm) source
  rw [← count_eq_zero_iff hopener.1, hcount, count_eq_zero_iff hopener.1]
  exact guardedOpener_absent h

/-- What guarding made of a source without guards gives the source back. -/
theorem restored (h : ¬ graphicsMarker <:+: source) :
    replaceAll guardedImport graphicsImport (replaceAll guardedOpener classOpener
      (replaceAll classOpener guardedOpener (replaceAll graphicsImport guardedImport source))) =
      source := by
  obtain ⟨himport, hopener, -, -⟩ := clear_guards
  rw [replaceAll_restores classOpener_ne_nil hopener (guardedOpener_absent_of_import h),
    replaceAll_restores graphicsImport_ne_nil himport (guardedImport_absent h)]

/-- **Guarding can be undone.** When every guarded opener is replaced by the opener, and then every
guarded import by the import, the source is given back. So no two sources are guarded alike. -/
theorem guardGraphics_restores (h : guardGraphics source = some amended) :
    replaceAll guardedImport graphicsImport (replaceAll guardedOpener classOpener amended) =
        source ∧
      ∀ other, guardGraphics other = some amended → other = source := by
  have hback : ∀ {other}, guardGraphics other = some amended →
      replaceAll guardedImport graphicsImport (replaceAll guardedOpener classOpener amended) =
        other := by
    intro other hother
    rw [(guardGraphics_eq_some hother).2]
    exact restored (unmarked_of_guardGraphics hother)
  exact ⟨hback h, fun other hother => (hback hother).symm.trans (hback h)⟩

/-- A source in which parts of a guard stand around the import already. -/
theorem guardGraphics_restores_torn :
    let source := "#if canImport(CoreGraphics\nimport CoreGraphics\n#endif\n#endif".toList
    ∃ amended, guardGraphics source = some amended ∧ amended ≠ source ∧
      replaceAll guardedImport graphicsImport (replaceAll guardedOpener classOpener amended) =
        source := by
  intro source
  have hsome : (guardGraphics source).isSome = true := by decide +kernel
  obtain ⟨amended, h⟩ := Option.isSome_iff_exists.mp hsome
  exact ⟨amended, h, (guardGraphics_eq_some h).1, (guardGraphics_restores h).1⟩

end Amendment

end Testbench
