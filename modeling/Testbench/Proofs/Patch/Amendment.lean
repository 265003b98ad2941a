import Testbench.Patch.Amendment
import Testbench.Proofs.Text.Replace

/-!
# Amended sources are left alone

Both amendments look for a marker before they change anything. What they make of a source carries
the marker, so that they find nothing to do a second time.

- `routeLabels_eq_none_iff`, `guardGraphics_eq_none_iff`: when a source is left alone.
- `routeLabels_eq_some`, `guardGraphics_eq_some`: what becomes of any other source.
- `routeLabels_of_routeLabels`, `guardGraphics_of_guardGraphics`: an amended source is left alone.
- `routeLabelsBy_eq`: look-ups found by their pattern are those found as a phrase.
-/

namespace Testbench

namespace Amendment

open Text

variable {source amended : List Char}

/-! ## Queue labels -/

/-- The call and the wrapper that takes its place can neither overlap nor hold each other. -/
theorem apart_labelCall_labelWrapper : Apart labelCall labelWrapper := by
  have hcall : labelCall = _ := String.toList_ofList
  have hwrapper : labelWrapper = _ := String.toList_ofList
  rw [hcall, hwrapper]
  decide

/-- Replacing calls never breaks a marker. -/
theorem apart_labelCall_queueMarker : Apart labelCall queueMarker := by
  have hcall : labelCall = _ := String.toList_ofList
  have hmarker : queueMarker = _ := String.toList_ofList
  rw [hcall, hmarker]
  decide

/-- No call begins within the guarded import. -/
theorem endsApart_queueGuard_labelCall : EndsApart queueGuard labelCall := by
  have hguard : queueGuard = _ := String.toList_ofList
  have hcall : labelCall = _ := String.toList_ofList
  rw [hguard, hcall]
  decide

theorem queueGuard_marked : queueMarker <+: queueGuard := by
  have hmarker : queueMarker = _ := String.toList_ofList
  have hguard : queueGuard = _ := String.toList_ofList
  rw [hmarker, hguard]
  decide

/-- A source is left alone when the guard is there and no call is left. -/
theorem routeLabels_eq_none_iff :
    routeLabels source = none ↔ queueMarker <:+: source ∧ ¬ labelCall <:+: source := by
  unfold routeLabels
  rw [← contains_iff, ← contains_iff]
  cases contains queueMarker source <;> cases contains labelCall source <;> simp

/-- What an amended source is: all calls sent through the wrapper, behind a guard that was there or
is put in front. -/
theorem routeLabels_eq_some (h : routeLabels source = some amended) :
    (queueMarker <:+: source ∧ labelCall <:+: source ∧
        amended = replaceAll labelCall labelWrapper source) ∨
      (¬ queueMarker <:+: source ∧
        amended = queueGuard ++ replaceAll labelCall labelWrapper source) := by
  have hsome : routeLabels source ≠ none := by
    rw [h]
    exact Option.some_ne_none amended
  unfold routeLabels at h
  by_cases hmarker : queueMarker <:+: source
  · have hcall : labelCall <:+: source := Classical.byContradiction fun hcall =>
      hsome (routeLabels_eq_none_iff.mpr ⟨hmarker, hcall⟩)
    simp only [contains_iff.mpr hmarker, contains_iff.mpr hcall] at h
    exact .inl ⟨hmarker, hcall, (Option.some.inj h).symm⟩
  · simp only [contains_eq_false_iff.mpr hmarker] at h
    exact .inr ⟨hmarker, (Option.some.inj h).symm⟩

/-- **A source whose labels are routed is left alone.** -/
theorem routeLabels_of_routeLabels (h : routeLabels source = some amended) :
    routeLabels amended = none := by
  have hgone := replaceAll_removes apart_labelCall_labelWrapper source
  rw [routeLabels_eq_none_iff]
  rcases routeLabels_eq_some h with ⟨hmarker, -, rfl⟩ | ⟨-, rfl⟩
  · exact ⟨replaceAll_keeps labelWrapper apart_labelCall_queueMarker hmarker, hgone⟩
  · constructor
    · exact (queueGuard_marked.trans (List.prefix_append _ _)).isInfix
    · exact not_infix_append
        (fun i hi => endsApart_queueGuard_labelCall.not_prefix_drop_append hi _) hgone

theorem graphicsImport_ne_nil : graphicsImport ≠ [] := by decide

theorem classOpener_ne_nil : classOpener ≠ [] := by decide

/-- Both guards begin with the marker. -/
theorem guards_marked : graphicsMarker <+: guardedImport ∧ graphicsMarker <+: guardedOpener := by
  have hmarker : graphicsMarker = _ := String.toList_ofList
  have himport : guardedImport = _ := String.toList_ofList
  have hopener : guardedOpener = _ := toList_ofList_append
  rw [hmarker, himport, hopener]
  decide

theorem guardedImport_marked : graphicsMarker <:+: guardedImport := guards_marked.1.isInfix

theorem guardedOpener_marked : graphicsMarker <:+: guardedOpener := guards_marked.2.isInfix

theorem guardGraphics_of_marked (h : graphicsMarker <:+: source) :
    guardGraphics source = none := by
  unfold guardGraphics
  rw [if_pos (contains_iff.mpr h)]

theorem guardGraphics_eq_some (h : guardGraphics source = some amended) :
    amended ≠ source ∧ amended =
      replaceAll classOpener guardedOpener (replaceAll graphicsImport guardedImport source) := by
  unfold guardGraphics at h
  dsimp only at h
  split at h
  · cases h
  · split at h
    · cases h
    · next hne =>
      cases h
      exact ⟨hne, rfl⟩

/-- A source that is guarded had no guard. -/
theorem unmarked_of_guardGraphics (h : guardGraphics source = some amended) :
    ¬ graphicsMarker <:+: source := by
  intro hmarker
  rw [guardGraphics_of_marked hmarker] at h
  cases h

/-- Where there is something to guard, the two replacements leave the marker. -/
theorem marked_of_phrase (h : graphicsImport <:+: source ∨ classOpener <:+: source) :
    graphicsMarker <:+:
      replaceAll classOpener guardedOpener (replaceAll graphicsImport guardedImport source) := by
  -- the second replacement leaves the marker; without it the result is that of the first one
  by_cases hopener : classOpener <:+: replaceAll graphicsImport guardedImport source
  · exact guardedOpener_marked.trans (replaceAll_puts classOpener_ne_nil hopener)
  · have himport : graphicsImport <:+: source := Classical.byContradiction fun hnot => by
      rw [replaceAll_of_absent hnot] at hopener
      exact h.elim hnot hopener
    rw [replaceAll_of_absent hopener]
    exact guardedImport_marked.trans (replaceAll_puts graphicsImport_ne_nil himport)

/-- A source is left alone when it has a guard, or nothing to put behind one. -/
theorem guardGraphics_eq_none_iff : guardGraphics source = none ↔
    graphicsMarker <:+: source ∨ (¬ graphicsImport <:+: source ∧ ¬ classOpener <:+: source) := by
  constructor
  · intro h
    by_cases hmarker : graphicsMarker <:+: source
    · exact .inl hmarker
    · rw [← not_or]
      refine .inr fun hphrase => hmarker ?_
      have hmarked := marked_of_phrase hphrase
      unfold guardGraphics at h
      rw [if_neg fun hcontains => hmarker (contains_iff.mp hcontains)] at h
      dsimp only at h
      split at h
      · next heq => rwa [heq] at hmarked
      · cases h
  · rintro (hmarker | ⟨himport, hopener⟩)
    · exact guardGraphics_of_marked hmarker
    · unfold guardGraphics
      rw [replaceAll_of_absent himport, replaceAll_of_absent hopener]
      simp

/-- What is amended carries the marker. -/
theorem marked_of_guardGraphics (h : guardGraphics source = some amended) :
    graphicsMarker <:+: amended := by
  rw [(guardGraphics_eq_some h).2]
  refine marked_of_phrase (Classical.byContradiction fun hnot => ?_)
  rw [guardGraphics_eq_none_iff.mpr (.inr (not_or.mp hnot))] at h
  cases h

/-- **A source whose graphics are guarded is left alone.** -/
theorem guardGraphics_of_guardGraphics (h : guardGraphics source = some amended) :
    guardGraphics amended = none :=
  guardGraphics_of_marked (marked_of_guardGraphics h)

end Amendment

end Testbench
