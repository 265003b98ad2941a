import Testbench.Proofs.Report.Directory
import Testbench.Proofs.Run.Growth
import Testbench.Proofs.Tree.Making

/-!
# The report directory again

A report directory that was made stands there with its subdirectories. It is not made again where it
still stands, and where some of it has been removed it is made as it was.

- `makeAll_again`, `makeAll_between`: directories that are still there, and those of which some are.
- `makeAll_made`: what is made.
- `setup_at_stops`, `opens_of_setup`: what is made for the reports; their directory is there.
-/

namespace Testbench

namespace Report

open Testbench.Tree

variable {t t' u : Tree} {dir : String} {P : Location → Prop}

/-! ## Directories one after the other -/

/-- Where all directories are made, each of them is. -/
theorem makeAll_cons {dirs : List String} (h : makeAll t (dir :: dirs) = (.ok (), t')) :
    ∃ t₁, t.makeDirs dir = (.ok (), t₁) ∧ makeAll t₁ dirs = (.ok (), t') := by
  unfold makeAll at h
  split at h
  · next t₁ hmake => exact ⟨t₁, hmake, h⟩
  · cases h

/-- A tree that has all that was made is left as it is. -/
theorem makeAll_again (hu : u.LinkFree) : ∀ (dirs : List String) {t : Tree},
    makeAll t dirs = (.ok (), t') → t'.Within u → makeAll u dirs = (.ok (), u)
  | [], _, _, _ => rfl
  | dir :: dirs, t, h, hwithin => by
    obtain ⟨t₁, hmake, hrest⟩ := makeAll_cons h
    have hgrown := makeAll_within t₁ dirs
    rw [hrest] at hgrown
    have hagain : u.makeDirs dir = (.ok (), u) := by
      by_cases hparent : Path.parent? dir = none
      · unfold makeDirs
        rw [hparent]
      · have hdir := (hgrown.trans hwithin).isDir (isDir_of_makeDirs hparent hmake)
        exact makeDirs_of_isDir hu hdir
    unfold makeAll
    rw [hagain]
    exact makeAll_again hu dirs hrest hwithin

/-- The directories stand at the stops of their paths. -/
theorem makeAll_made : ∀ (dirs : List String) {t : Tree}, t.Solid →
    (∀ dir ∈ dirs, t.get? (t.start dir) = some .dir) →
    (makeAll t dirs).2.Solid ∧
      Made (fun l => ∃ dir ∈ dirs, l ∈ stops (t.start dir) (Path.names dir)) t (makeAll t dirs).2
  | [], t, h, _ => ⟨h, .refl _ t⟩
  | dir :: dirs, t, h, hstart => by
    obtain ⟨hhere, hdirs⟩ := List.forall_mem_cons.mp hstart
    obtain ⟨hsolid, hmade⟩ := h.makeDirs_made hhere
    have hwithin := makeDirs_within t dir
    have hmade' := hmade.mono (Q := fun l =>
      ∃ dir' ∈ dir :: dirs, l ∈ stops (t.start dir') (Path.names dir'))
      fun l hl => ⟨dir, List.mem_cons_self .., start_congr hmade.here dir ▸ hl.1⟩
    unfold makeAll
    split
    · next t₁ hmake =>
      rw [hmake] at hsolid hmade hmade' hwithin
      have hstart₁ : ∀ dir ∈ dirs, t₁.get? (t₁.start dir) = some .dir :=
        fun dir' hdir' => hwithin.get?_start (hdirs dir' hdir')
      obtain ⟨hsolid₁, hmade₁⟩ := makeAll_made dirs hsolid hstart₁
      refine ⟨hsolid₁, hmade'.trans (hmade₁.mono ?_)⟩
      rintro l ⟨dir', hdir', hl⟩
      rw [start_congr hmade.here] at hl
      exact ⟨dir', List.mem_cons_of_mem _ hdir', hl⟩
    · next t₁ hmake =>
      rw [hmake] at hsolid hmade'
      exact ⟨hsolid, hmade'⟩

/-- Directories that were made can be made again where some of what was made has been removed. -/
theorem makeAll_between (ht : t.Solid) : ∀ (dirs : List String) {t₀ t₁ u : Tree}, u.Solid →
    (∀ dir ∈ dirs, u.get? (u.start dir) = some .dir) → t₀.Within u → Remnant P t u →
    makeAll t₀ dirs = (.ok (), t₁) → t₁.Within t →
    ∃ u₁, makeAll u dirs = (.ok (), u₁) ∧ u₁.Solid ∧ t₁.Within u₁ ∧ Remnant P t u₁
  | [], t₀, t₁, u, hu, _, hlower, hupper, h, _ => by
    cases h
    exact ⟨u, rfl, hu, hlower, hupper⟩
  | dir :: dirs, t₀, t₁, u, hu, hstart, hlower, hupper, h, hbound => by
    obtain ⟨hhere, hdirs⟩ := List.forall_mem_cons.mp hstart
    obtain ⟨t₂, hmake, hrest⟩ := makeAll_cons h
    have hgrown := makeAll_within t₂ dirs
    rw [hrest] at hgrown
    obtain ⟨u₂, hmake₂, hsolid₂, hlower₂, hupper₂⟩ :=
      makeDirs_between ht hu hhere hlower hupper hmake (hgrown.trans hbound)
    have hwithin := makeDirs_within u dir
    rw [hmake₂] at hwithin
    have hstart₂ : ∀ dir ∈ dirs, u₂.get? (u₂.start dir) = some .dir :=
      fun dir' hdir' => hwithin.get?_start (hdirs dir' hdir')
    obtain ⟨u₁, hall, hsolid₁, hlower₁, hupper₁⟩ :=
      makeAll_between ht dirs hsolid₂ hstart₂ hlower₂ hupper₂ hrest hbound
    refine ⟨u₁, ?_, hsolid₁, hlower₁, hupper₁⟩
    unfold makeAll
    rw [hmake₂]
    exact hall

/-! ## The directory of the reports -/

/-- The report directory and its subdirectories start where its path does. -/
theorem start_of_mem_setup {p : String} (t : Tree) (hp : p ∈ dir :: subdirs.map (Path.join dir)) :
    t.start p = t.start dir := by
  rcases List.mem_cons.mp hp with rfl | hp
  · rfl
  · obtain ⟨name, hname, rfl⟩ := List.mem_map.mp hp
    have hplain : ∀ name ∈ subdirs, Path.IsPlain name := by decide
    exact start_join (hplain name hname)

/-- What is made for the reports stands at the stops of the paths of the directories. -/
theorem setup_at_stops (ht : t.Solid) (hstart : t.get? (t.start dir) = some .dir) :
    (setup t dir).2.Solid ∧ Made (fun l => ∃ p ∈ dir :: subdirs.map (Path.join dir),
      l ∈ stops (t.start p) (Path.names p)) t (setup t dir).2 :=
  makeAll_made _ ht fun p hp => by rwa [start_of_mem_setup t hp]

/-- Where a directory has been made the way to it is open. -/
theorem opens_of_makeDirs (ht : t.Solid) (hstart : t.get? (t.start dir) = some .dir)
    (h : t.makeDirs dir = (.ok (), t')) : t'.Opens dir := by
  cases hparent : Path.parent? dir with
  | none => exact open_of_dots t' _ (Path.eq_dot_of_parent?_eq_none hparent)
  | some parent =>
    have hsolid := (ht.makeDirs_made hstart).1
    rw [h] at hsolid
    exact opens_of_isDir hsolid.linkFree (isDir_of_makeDirs (by simp [hparent]) h)

/-- Once the report directory is made, the way to it is open and its place is a directory. -/
theorem opens_of_setup (ht : t.Solid) (hstart : t.get? (t.start dir) = some .dir)
    (h : setup t dir = (.ok (), t')) : t'.Opens dir ∧ t'.get? (t'.spot dir) = some .dir := by
  have hsolid := (setup_at_stops ht hstart).1
  have hwithin := setup_within t dir
  rw [h] at hsolid hwithin
  obtain ⟨t₁, hmake, hsubdirs⟩ := makeAll_cons h
  have hgrown := makeAll_within t₁ (subdirs.map (Path.join dir))
  rw [hsubdirs] at hgrown
  have hopens := hgrown.opens (opens_of_makeDirs ht hstart hmake)
  exact ⟨hopens, hsolid.closed.get?_reach _ _ (hwithin.get?_start hstart) hopens⟩

end Report

end Testbench
