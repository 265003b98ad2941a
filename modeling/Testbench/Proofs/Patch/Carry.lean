import Testbench.Proofs.Patch.Deed

/-!
# Steps that do deeds

What a step of patching does is told by its deeds alone, and these only depend on what stood at the
places of its own files before anything was patched: on all files that agree there it does the same.

- `Carries`: a step does some deeds on some files.
- `Job.Outcome`: what the deeds of one step are like.
- `exists_copyGraphics`, `exists_installSupport`, `exists_amendSnapshots`, `exists_guardGraphics`:
  the deeds of each step.
-/

namespace Testbench

namespace Patch

open Testbench.Tree

variable {t u : Tree} {b : Location}

/-! ## Steps that do deeds -/

/-- On the files `u` a step does these deeds and warns of what failed; nothing is lost. -/
structure Carries (root : String) (b : Location) (f : Progress → Progress) (u : Tree)
    (ds : List Doing) (ws : List String) : Prop where
  does : Does f u (u.putAll (changes ds)) (ds.map Doing.action) ws
  site : (u.putAll (changes ds)).Site root b
  within : u.Within (u.putAll (changes ds))

namespace Carries

variable {root : String} {f g : Progress → Progress} {ds : List Doing} {ws : List String}

theorem nothing (h : u.Site root b) (hdoes : Does f u u [] ws) : Carries root b f u [] ws :=
  ⟨hdoes, h, .refl u⟩

theorem congr (h : Carries root b f u ds ws) (hg : ∀ p : Progress, p.tree = u → g p = f p) :
    Carries root b g u ds ws := ⟨h.does.congr hg, h.site, h.within⟩

/-- One step after the other. -/
theorem comp {ds' : List Doing} {ws' : List String} (hf : Carries root b f u ds ws)
    (hg : Carries root b g (u.putAll (changes ds)) ds' ws') :
    Carries root b (fun p => g (f p)) u (ds ++ ds') (ws ++ ws') := by
  obtain ⟨hdoes, hsite, hwithin⟩ := hg
  rw [← putAll_append, ← changes_append] at hdoes hsite hwithin
  refine ⟨?_, hsite, hf.within.trans hwithin⟩
  rw [List.map_append]
  exact hf.does.comp hdoes

theorem say (h : Carries root b f u ds ws) (tag : Tag) (m : String) :
    Carries root b (fun p => f (p.say tag m)) u ds ws := ⟨h.does.say tag m, h.site, h.within⟩

end Carries

/-- What the deeds of one step are like: they stand for its actions, they are about different places
out of some, and there is at most one warning. A step that warns has written no file. -/
structure Job.Outcome (j : Job) (t : Tree) (b : Location) (places : List Location)
    (ds : List Doing) (ws : List String) : Prop where
  deeds : ∀ d ∈ ds, j.Deed t b d
  places : (ds.map Doing.place).Sublist places
  once : ws.length ≤ 1
  failed : ws ≠ [] → ∀ d ∈ ds, ∃ path, d.action = .createdDir path

namespace Job

variable {j : Job} {places : List Location} {ds : List Doing} {ws : List String}

theorem Outcome.nothing (h : ws.length ≤ 1) : j.Outcome t b places [] ws :=
  ⟨by simp, List.nil_sublist _, h, by simp⟩

theorem Outcome.place_eq {l : Location} {d : Doing} (h : j.Outcome t b [l] ds ws) (hd : d ∈ ds) :
    d.place = l := List.mem_singleton.mp (h.places.subset (List.mem_map_of_mem hd))

/-- Deeds where something stood already leave the tree alike. -/
theorem Outcome.alike (h : j.Outcome t b places ds ws) (hl : j.layout.IsPlain)
    (hstands : ∀ d ∈ ds, t.get? d.place ≠ none) : t.Alike (t.putAll (changes ds)) := by
  refine alike_putAll ?_
  rintro ⟨l, e⟩ hc
  obtain ⟨d, hd, rfl, he⟩ := mem_changes.mp hc
  have hdeed := h.deeds d hd
  exact ⟨hdeed.place_ne_nil hl, hdeed.shape?_eq he (hstands d hd)⟩

/-! ## Copying -/

section Copying

variable {q r : String} (h : t.Site j.root b) (hr : Path.IsPlain r)
include h hr

/-- Nothing is copied over a file with the same octets. -/
theorem deed_of_copyOver_eq_none (htarget : r ∈ j.layout.targets)
    (hcopy : copyOver t (Path.join j.root q) (Path.join j.root r) = .ok none) :
    j.Deed t b ⟨.alreadyPatched (Path.join j.root r), b ++ Path.names r, none⟩ := by
  cases hsource : t.read (Path.join j.root q) with
  | error e =>
    rw [copyOver_of_read_error hsource] at hcopy
    cases hcopy
  | ok octets =>
    by_cases hsame : t.read (Path.join j.root r) = .ok octets
    · obtain ⟨hfits, x, hget⟩ := (h.read_eq_ok_iff hr).mp hsame
      exact .alreadyPatched htarget hfits hget
    · rw [copyOver_of_other hsource hsame] at hcopy
      cases hwrite : t.write (Path.join j.root r) octets with
      | error e =>
        rw [hwrite] at hcopy
        cases hcopy
      | ok t' =>
        rw [hwrite] at hcopy
        cases hcopy

variable (hq : Path.IsPlain q)
include hq

/-- What is copied replaces nothing or other octets, and is copied alike on all files that keep the
two files and the way to the second. -/
theorem deed_of_copyOver_eq_some {t' : Tree} (hpair : (q, r) ∈ j.layout.copies)
    (hfile : t.isFile (Path.join j.root q) = true)
    (hcopy : copyOver t (Path.join j.root q) (Path.join j.root r) = .ok (some t')) :
    ∃ e, j.Deed t b ⟨.copied (Path.join j.root q) (Path.join j.root r), b ++ Path.names r, some e⟩ ∧
      ∀ u, Keeps t u j.root b q r →
      copyOver u (Path.join j.root q) (Path.join j.root r) =
        .ok (some (u.set (b ++ Path.names r) e)) ∧
      (u.set (b ++ Path.names r) e).Site j.root b ∧ u.Within (u.set (b ++ Path.names r) e) := by
  obtain ⟨octets, hsource, hwrite⟩ := of_copyOver_eq_some hcopy
  have hother : t.read (Path.join j.root r) ≠ .ok octets := by
    intro hsame
    rw [copyOver_of_same hsource hsame] at hcopy
    cases hcopy
  obtain ⟨hfitsSource, y, hgetSource⟩ := (h.read_eq_ok_iff hq).mp hsource
  obtain ⟨hfits, -, x, ht', hold⟩ := h.write_ok hr hwrite
  refine ⟨.file octets x, .copied hpair hfitsSource hfits hgetSource ?_, fun u hu => ?_⟩
  · refine hold.imp_right fun ⟨old, hget⟩ => ⟨old, hget, ?_⟩
    rintro rfl
    exact hother ((h.read_eq_ok_iff hr).mpr ⟨hfits, x, hget⟩)
  · obtain ⟨e, he, hwrite'⟩ := h.write_follows hu.site hu.within hr hu.target hwrite
    -- both writes put the same file in place
    have hnew := congrArg (Tree.get? · (b ++ Path.names r)) (ht'.symm.trans he)
    simp only [get?_set _ _ _ _ (Site.place_ne_nil hr), if_true, Option.some.injEq] at hnew
    rw [← hnew] at hwrite'
    obtain ⟨-, hsite, -⟩ := hu.site.write_ok hr hwrite'
    refine ⟨?_, hsite, write_within hwrite'⟩
    rw [copyOver_of_other ((hu.read_source h hq hfile).trans hsource)
      (mt (hu.read_target_iff h hr).mp hother), hwrite']
    rfl

/-- The deed of a copy, on all files that keep both of its files and the way to the second. -/
theorem exists_copyStep (done : String) (hpair : (q, r) ∈ j.layout.copies)
    (htarget : r ∈ j.layout.targets) (hfile : t.isFile (Path.join j.root q) = true) :
    ∃ ds ws, j.Outcome t b [b ++ Path.names r] ds ws ∧ ∀ u, Keeps t u j.root b q r →
      Carries j.root b (copyStep · (Path.join j.root q) (Path.join j.root r) done) u ds ws := by
  -- a copy that fails or has nothing to do is told by the two files and the way, on all trees alike
  cases hcopy : copyOver t (Path.join j.root q) (Path.join j.root r) with
  | error e =>
    refine ⟨[], ["copy " ++ Path.join j.root r ++ " failed: " ++ e.message], .nothing (by simp),
      fun u hu => .nothing hu.site (does_copyStep_of_error done ?_)⟩
    exact (hu.copyOver_eq h hq hr hfile fun t' => by rw [hcopy]; nofun).trans hcopy
  | ok wrote =>
    cases wrote with
    | none =>
      refine ⟨[⟨.alreadyPatched (Path.join j.root r), b ++ Path.names r, none⟩], [], ⟨?_, by simp,
        by simp, by simp⟩, fun u hu => ⟨does_copyStep_of_same done ?_, hu.site, .refl u⟩⟩
      · simpa using deed_of_copyOver_eq_none h hr htarget hcopy
      · exact (hu.copyOver_eq h hq hr hfile fun t' => by rw [hcopy]; nofun).trans hcopy
    | some t' =>
      obtain ⟨e, hdeed, hcopies⟩ := deed_of_copyOver_eq_some h hr hq hpair hfile hcopy
      refine ⟨[⟨.copied (Path.join j.root q) (Path.join j.root r), b ++ Path.names r, some e⟩],
        [], ⟨by simpa using hdeed, by simp, by simp, by simp⟩, fun u hu => ?_⟩
      obtain ⟨hcopy', hsite, hwithin⟩ := hcopies u hu
      exact ⟨does_copyStep done hcopy', hsite, hwithin⟩

end Copying

/-- The deed of the step that copies the tests of graphics numbers. Only a file is copied over. -/
theorem exists_copyGraphics (h : t.Site j.root b) (hl : j.layout.IsPlain) :
    ∃ ds ws, j.Outcome t b [b ++ Path.names j.layout.graphicsTarget] ds ws ∧
      (∀ d ∈ ds, t.get? d.place ≠ none) ∧ Carries j.root b j.copyGraphics t ds ws := by
  by_cases hboth : (t.isFile (Path.join j.root j.layout.graphicsSource) &&
      t.isFile (Path.join j.root j.layout.graphicsTarget)) = true
  · obtain ⟨hsource, htarget⟩ := Bool.and_eq_true_iff.mp hboth
    obtain ⟨ds, ws, hout, hcarries⟩ := exists_copyStep h hl.graphicsTarget hl.graphicsSource
      "Patched" (by simp [Layout.copies]) (by simp [Layout.targets]) hsource
    have hsame := hcarries t (.of_alike h (.refl t) rfl rfl)
    refine ⟨ds, ws, hout, fun d hd => ?_,
      (hsame.say _ _).congr fun p hp => copyGraphics_of_files hl ?_⟩
    · obtain ⟨-, e, he⟩ := (h.isFile_iff hl.graphicsTarget).mp htarget
      rw [hout.place_eq hd, (file?_eq_some_iff.mp he).1]
      simp
    · rw [hp, hboth]
  · refine ⟨[], [], .nothing (by simp), by simp,
      .nothing h (does_of_eq fun p hp => copyGraphics_of_missing hl ?_)⟩
    rwa [hp]

/-- The deed of the step that copies the support file. -/
theorem exists_copySupport (h : t.Site j.root b) (hl : j.layout.IsPlain) :
    ∃ ds ws, j.Outcome t b [b ++ Path.names j.layout.labelTarget] ds ws ∧
      ∀ u, Keeps t u j.root b j.layout.labelSource j.layout.labelTarget →
        Carries j.root b j.copySupport u ds ws := by
  have hfile {u : Tree} (hu : Keeps t u j.root b j.layout.labelSource j.layout.labelTarget) :=
    h.isFile_congr hu.site hl.labelSource (file?_congr hu.source)
  by_cases hsource : t.isFile (Path.join j.root j.layout.labelSource) = true
  · obtain ⟨ds, ws, hout, hcarries⟩ := exists_copyStep h hl.labelTarget hl.labelSource
      "Added" (by simp [Layout.copies]) (by simp [Layout.targets]) hsource
    refine ⟨ds, ws, hout, fun u hu => ((hcarries u hu).say _ _).congr fun p hp =>
      copySupport_of_file hl ?_⟩
    rw [hp, hfile hu, hsource]
  · refine ⟨[], [], .nothing (by simp), fun u hu => .nothing hu.site
      (does_of_eq fun p hp => copySupport_of_missing hl ?_)⟩
    rwa [hp, hfile hu]

/-! ## The support directory -/

/-- The deeds of the step that installs the support file. The directory is only made where nothing
stood. -/
theorem exists_installSupport (h : t.Site j.root b) (hl : j.layout.IsPlain) :
    ∃ ds ws, j.Outcome t b [b ++ Path.names j.layout.labelDir, b ++ Path.names j.layout.labelTarget]
        ds ws ∧
      (∀ d ∈ ds, d.place = b ++ Path.names j.layout.labelTarget ∨
        t.get? d.place = none ∧ d.entry? = some .dir) ∧
      ∀ u, t.Alike u → Keeps t u j.root b j.layout.labelSource j.layout.labelTarget →
        Carries j.root b j.installSupport u ds ws := by
  have hd := hl.labelDir
  have hdir (p : Progress) (hp : p.tree.isDir j.supportDir = true) :
      j.installSupport p = j.copySupport p := if_pos hp
  -- where the directory stands the step only copies; otherwise it copies into a new one
  by_cases hfound : t.isDir j.supportDir = true
  · obtain ⟨ds, ws, hout, hcarries⟩ := exists_copySupport h hl
    exact ⟨ds, ws, ⟨hout.deeds, hout.places.trans (List.sublist_cons_self _ _), hout.once,
      hout.failed⟩, fun d hd => .inl (hout.place_eq hd), fun u halike hu =>
        (hcarries u hu).congr fun p hp => hdir p (by rw [hp, halike.isDir, hfound])⟩
  · cases hmake : t.makeDir j.supportDir with
    | error e =>
      refine ⟨[], ["create " ++ j.supportDir ++ " failed: " ++ e.message], .nothing (by simp),
        by simp, fun u halike hu => .nothing hu.site ?_⟩
      exact does_installSupport_of_error (by rwa [halike.isDir]) (halike.makeDir_error hmake)
    | ok t₁ =>
      obtain ⟨hfits, hsite₁, rfl, hvacant⟩ := supportDir_made h hl hmake
      have hget (u : Tree) (l : Location) := get?_set u (b ++ Path.names j.layout.labelDir) l .dir
        (Site.place_ne_nil hd)
      obtain ⟨ds, ws, hout, hcarries⟩ := exists_copySupport hsite₁ hl
      refine ⟨⟨.createdDir j.supportDir, b ++ Path.names j.layout.labelDir, some .dir⟩ :: ds, ws,
        ⟨?_, ?_, hout.once, ?_⟩, ?_, fun u halike hu => ?_⟩
      · rw [List.forall_mem_cons]
        refine ⟨?_, fun d hd => (hout.deeds d hd).of_made fun l hl => ?_⟩
        · rw [supportDir_eq hl]
          exact .createdDir hfits hvacant
        · rw [hget] at hl ⊢
          split at hl
          · exact absurd rfl hl
          · next hne => rw [if_neg hne]
      · exact hout.places.cons_cons _
      · intro hws
        rw [List.forall_mem_cons]
        exact ⟨⟨_, rfl⟩, hout.failed hws⟩
      · rw [List.forall_mem_cons]
        exact ⟨.inr ⟨hvacant, rfl⟩, fun d hd => .inl (hout.place_eq hd)⟩
      · -- the directory is made alike, and the support file is copied alike into it
        obtain ⟨u₁, hmakeu⟩ := halike.makeDir_ok hmake
        obtain ⟨-, hsiteu, rfl, hvacantu⟩ := supportDir_made hu.site hl hmakeu
        have halike₁ : (t.set (b ++ Path.names j.layout.labelDir) .dir).Alike
            (u.set (b ++ Path.names j.layout.labelDir) .dir) := by
          refine ⟨halike.here, fun l => ?_⟩
          rw [shape?_set (Site.place_ne_nil hd), shape?_set (Site.place_ne_nil hd), halike.shape]
        have hkeeps := Keeps.of_alike hsiteu halike₁ (q := j.layout.labelSource)
          (r := j.layout.labelTarget) (by rw [hget, hget, hu.source])
          (by rw [hget, hget, hu.target])
        obtain ⟨hdoes, hsite, hwithin⟩ := hcarries _ hkeeps
        exact ⟨does_installSupport_of_made (by rwa [halike.isDir]) hmakeu hdoes, hsite,
          (makeDir_within hmakeu).trans hwithin⟩

/-! ## Amending -/

section Amending

variable {q : String} {amend : List Char → Option (List Char)} (h : t.Site j.root b)
  (hq : Path.IsPlain q) (hpair : (q, amend) ∈ j.layout.amendments) (htarget : q ∈ j.layout.targets)
  (hamend : ∀ source amended, amend source = some amended → amend amended = none)
include h hq hpair htarget hamend

/-- The deed of a step that amends a file, on all files in which the same one stands. What needs no
amendment once it is amended is amended to another text. -/
theorem exists_amendStep (hfile : t.isFile (Path.join j.root q) = true) :
    ∃ ds ws, j.Outcome t b [b ++ Path.names q] ds ws ∧ ∀ u, u.Site j.root b →
      u.get? (b ++ Path.names q) = t.get? (b ++ Path.names q) →
      Carries j.root b (amendStep · (Path.join j.root q) amend) u ds ws := by
  obtain ⟨hfits, e, he⟩ := (h.isFile_iff hq).mp hfile
  have hstands : t.get? (b ++ Path.names q) ≠ none := by
    rw [(file?_eq_some_iff.mp he).1]
    simp
  have hagain {u : Tree} (hu : u.Site j.root b)
      (hget : u.get? (b ++ Path.names q) = t.get? (b ++ Path.names q)) :
      u.readText (Path.join j.root q) = t.readText (Path.join j.root q) := by
    unfold readText
    rw [read_congr h hu hq hfits hstands hget]
  cases hread : t.readText (Path.join j.root q) with
  | error e =>
    exact ⟨[], ["read " ++ Path.join j.root q ++ " failed: " ++ e.message], .nothing (by simp),
      fun u hu hget => .nothing hu (does_amendStep_of_unread ((hagain hu hget).trans hread))⟩
  | ok source =>
    obtain ⟨-, x, hold⟩ := (h.read_eq_ok_iff hq).mp (read_of_readText hread)
    cases hpatched : amend source.toList with
    | none =>
      refine ⟨[⟨.alreadyPatched (Path.join j.root q), b ++ Path.names q, none⟩], [], ⟨?_, by simp,
        by simp, by simp⟩, fun u hu hget => ⟨?_, hu, .refl u⟩⟩
      · simpa using Deed.alreadyPatched htarget hfits hold
      · exact does_amendStep_of_amended ((hagain hu hget).trans hread) hpatched
    | some patched =>
      -- an amended text needs no amendment, where the one before needed one
      have hother : patched ≠ source.toList := by
        rintro rfl
        rw [hamend _ _ hpatched] at hpatched
        cases hpatched
      refine ⟨[⟨.amended (Path.join j.root q), b ++ Path.names q,
        some (.file (String.ofList patched).toUTF8 x)⟩], [], ⟨?_, by simp, by simp, by simp⟩,
        fun u hu hget => ?_⟩
      · simpa using Deed.amended hpair hfits hold hpatched hother
      · obtain ⟨d, n, hparting⟩ := hu.exists_parting hq hfits (by rwa [hget])
        have hwrite : u.write (Path.join j.root q) (String.ofList patched).toUTF8 =
            .ok (u.set (b ++ Path.names q) (.file (String.ofList patched).toUTF8 x)) := by
          rw [hu.write_eq hq, hparting, hget, hold]
          rfl
        obtain ⟨-, hsite, -⟩ := hu.write_ok hq hwrite
        exact ⟨does_amendStep ((hagain hu hget).trans hread) hpatched hwrite, hsite,
          write_within hwrite⟩

/-- The deed of a step that amends a file if it is there. -/
theorem exists_amend {m : String} {f : Progress → Progress}
    (hf : ∀ p : Progress, f p = if p.tree.isFile (Path.join j.root q) then
      amendStep (p.say .step m) (Path.join j.root q) amend else p) :
    ∃ ds ws, j.Outcome t b [b ++ Path.names q] ds ws ∧ (∀ d ∈ ds, t.get? d.place ≠ none) ∧
      ∀ u, u.Site j.root b → u.file? (b ++ Path.names q) = t.file? (b ++ Path.names q) →
        Carries j.root b f u ds ws := by
  by_cases hfile : t.isFile (Path.join j.root q) = true
  · obtain ⟨ds, ws, hout, hcarries⟩ := exists_amendStep h hq hpair htarget hamend hfile
    obtain ⟨-, e, he⟩ := (h.isFile_iff hq).mp hfile
    refine ⟨ds, ws, hout, fun d hd => ?_, fun u hu heq =>
      ((hcarries u hu (get?_eq_of_file?_eq heq he)).say .step m).congr fun p hp => ?_⟩
    · rw [hout.place_eq hd, (file?_eq_some_iff.mp he).1]
      simp
    · rw [hf, hp, h.isFile_congr hu hq heq, if_pos hfile]
  · refine ⟨[], [], .nothing (by simp), by simp, fun u hu heq =>
      .nothing hu (does_of_eq fun p hp => ?_)⟩
    rw [hf, hp, h.isFile_congr hu hq heq, if_neg hfile]

end Amending

/-- The deed of the step that amends the snapshot tests. -/
theorem exists_amendSnapshots (h : t.Site j.root b) (hl : j.layout.IsPlain) :
    ∃ ds ws, j.Outcome t b [b ++ Path.names j.layout.snapshotTarget] ds ws ∧
      (∀ d ∈ ds, t.get? d.place ≠ none) ∧ ∀ u, u.Site j.root b →
        u.file? (b ++ Path.names j.layout.snapshotTarget) =
          t.file? (b ++ Path.names j.layout.snapshotTarget) →
        Carries j.root b j.amendSnapshots u ds ws :=
  exists_amend h hl.snapshotTarget (by simp [Layout.amendments]) (by simp [Layout.targets])
    (fun _ _ => Amendment.routeLabels_of_routeLabels) (amendSnapshots_eq hl)

/-- The deed of the step that guards the tests of graphics numbers. -/
theorem exists_guardGraphics (h : t.Site j.root b) (hl : j.layout.IsPlain) :
    ∃ ds ws, j.Outcome t b [b ++ Path.names j.layout.graphicsTarget] ds ws ∧
      (∀ d ∈ ds, t.get? d.place ≠ none) ∧ Carries j.root b j.guardGraphics t ds ws := by
  obtain ⟨ds, ws, hout, hstands, hcarries⟩ := exists_amend h hl.graphicsTarget
    (by simp [Layout.amendments]) (by simp [Layout.targets])
    (fun _ _ => Amendment.guardGraphics_of_guardGraphics) (guardGraphics_eq hl)
  exact ⟨ds, ws, hout, hstands, hcarries t h rfl⟩

end Job

end Patch

end Testbench
