import Testbench.Proofs.Patch.Carry
import Testbench.Proofs.Patch.Heard

/-!
# What a report accounts for

The report of patching says all that happened to the files, and nothing else. The steps do not stand
in each other's way: each of them does what it would do alone, and one that fails only leaves a
warning.

- `Job.Tells`: what an action says of the files before and after.
- `Job.Part`, `exists_parts`: what all steps do is what each of them does.
- `Job.Account`: all that a report says of the files.
- `apply_accounts`: the report is what happened to the files.
-/

namespace Testbench

namespace Patch

open Testbench.Tree

variable {t t' u : Tree} {b : Location}

namespace Job

variable {j : Job}

/-! ## What actions say -/

/-- The files that are copied, each with the one it is copied over. -/
def copies (j : Job) : List (String × String) :=
  [(j.graphicsPatch, j.graphicsTest), (j.labelPatch, j.labelSupport)]

/-- The files that are amended, each with its amendment. -/
def amendments (j : Job) : List (String × (List Char → Option (List Char))) :=
  [(j.snapshotTest, Amendment.routeLabels), (j.graphicsTest, Amendment.guardGraphics)]

/-- The replacement files. -/
def sources (j : Job) : List String := [j.graphicsPatch, j.labelPatch]

/-- The files that are written. -/
def targets (j : Job) : List String := [j.graphicsTest, j.snapshotTest, j.labelSupport]

/-- What an action says of the files before and after. -/
def Tells (j : Job) (before after : Tree) : Action → Prop
  | .copied source target => (source, target) ∈ j.copies ∧ ∃ octets,
      before.read source = .ok octets ∧ after.read target = .ok octets ∧
      (before.has target = false ∨ ∃ old, before.read target = .ok old ∧ old ≠ octets)
  | .createdDir path => path = j.supportDir ∧ before.has path = false ∧ after.isDir path = true
  | .amended path => ∃ amend source patched, (path, amend) ∈ j.amendments ∧
      before.readText path = .ok source ∧ amend source.toList = some patched ∧
      patched ≠ source.toList ∧ after.readText path = .ok (String.ofList patched)
  | .alreadyPatched path =>
      path ∈ j.targets ∧ before.isFile path = true ∧ after.entry? path = before.entry? path

section Tells

variable (hl : j.layout.IsPlain)
include hl

theorem copies_eq :
    j.copies = j.layout.copies.map (Prod.map (Path.join j.root) (Path.join j.root)) := by
  unfold copies
  rw [graphicsPatch_eq hl, graphicsTest_eq hl, labelPatch_eq hl, labelSupport_eq hl]
  rfl

theorem amendments_eq :
    j.amendments = j.layout.amendments.map (Prod.map (Path.join j.root) id) := by
  unfold amendments
  rw [snapshotTest_eq hl, graphicsTest_eq hl]
  rfl

theorem sources_eq : j.sources = j.layout.sources.map (Path.join j.root) := by
  unfold sources
  rw [graphicsPatch_eq hl, labelPatch_eq hl]
  rfl

theorem targets_eq : j.targets = j.layout.targets.map (Path.join j.root) := by
  unfold targets
  rw [graphicsTest_eq hl, labelSupport_eq hl, snapshotTest_eq hl]
  rfl

/-- An action says what its deed stands for. -/
theorem Deed.tells {d : Doing} (hdeed : j.Deed t b d) (h : t.Site j.root b)
    (h' : t'.Site j.root b) (hget : t'.get? d.place = d.entry?.or (t.get? d.place)) :
    j.Tells t t' d.action := by
  cases hdeed with
  | copied pair fitsSource fits source old =>
    obtain ⟨hq, hr⟩ := hl.copies _ pair
    refine ⟨?_, _, (h.read_eq_ok_iff hq).mpr ⟨fitsSource, _, source⟩,
      (h'.read_eq_ok_iff hr).mpr ⟨fits, _, hget⟩, ?_⟩
    · rw [copies_eq hl]
      exact List.mem_map.mpr ⟨_, pair, rfl⟩
    · refine old.imp (h.has_eq_false hr) fun ⟨old, hold, hne⟩ => ⟨old, ?_, hne⟩
      exact (h.read_eq_ok_iff hr).mpr ⟨fits, _, hold⟩
  | createdDir fits old =>
    exact ⟨(supportDir_eq hl).symm, h.has_eq_false hl.labelDir old,
      (h'.isDir_iff hl.labelDir).mpr ⟨fits, hget⟩⟩
  | amended pair fits old new other =>
    have hq := hl.amendments _ pair
    refine ⟨_, _, _, ?_, readText_of_read ((h.read_eq_ok_iff hq).mpr ⟨fits, _, old⟩), new, other,
      readText_of_read ((h'.read_eq_ok_iff hq).mpr ⟨fits, _, hget⟩)⟩
    rw [amendments_eq hl]
    exact List.mem_map.mpr ⟨_, pair, rfl⟩
  | alreadyPatched target fits old =>
    have hq := hl.targets _ target
    refine ⟨?_, (h.isFile_iff hq).mpr ⟨fits, _, file?_eq_some_iff.mpr ⟨old, rfl⟩⟩,
      h.entry?_congr h' hq hget⟩
    rw [targets_eq hl]
    exact List.mem_map_of_mem target

end Tells

/-! ## All steps -/

section Parts

variable {places : List Location} {ds : List Doing} {ws : List String}

/-- Besides its places nothing is changed by the deeds of a step. -/
theorem Outcome.get?_eq {l : Location} (hout : j.Outcome t b places ds ws) (hl : j.layout.IsPlain)
    (hnot : l ∉ places) (u : Tree) : (u.putAll (changes ds)).get? l = u.get? l :=
  get?_putAll_of_notMem_places u (fun d hd => (hout.deeds d hd).place_ne_nil hl)
    fun hmem => hnot (hout.places.subset hmem)

/-- A directory that is made where nothing stood is no file that was not there. -/
theorem Outcome.file?_eq {l l' : Location} (hout : j.Outcome t b places ds ws)
    (hl : j.layout.IsPlain) (hnodup : places.Nodup) (halike : t.Alike u)
    (hvacant : ∀ d ∈ ds, d.place = l' ∨ t.get? d.place = none ∧ d.entry? = some .dir)
    (hne : l ≠ l') : (u.putAll (changes ds)).file? l = u.file? l := by
  have hroot : ∀ d ∈ ds, d.place ≠ [] := fun d hd => (hout.deeds d hd).place_ne_nil hl
  by_cases hmem : l ∈ ds.map Doing.place
  · obtain ⟨d, hd, rfl⟩ := List.mem_map.mp hmem
    obtain ⟨hnone, he⟩ := (hvacant d hd).resolve_left hne
    unfold file?
    rw [get?_putAll_of_doing u hroot (hout.places.nodup hnodup) hd, he,
      halike.get?_eq_none_iff.mpr hnone]
    rfl
  · exact file?_congr (get?_putAll_of_notMem_places u hroot hmem)

end Parts

/-- Taken alone a step does these deeds and warns of what failed. -/
structure Part (j : Job) (t : Tree) (b : Location) (s : Step) (ds : List Doing)
    (ws : List String) : Prop where
  outcome : ∃ places, j.Outcome t b places ds ws
  carries : Carries j.root b (j.take s) t ds ws

/-- The steps with replacement files at hand, one behind the other. The first one only changes what
stood, so that the second one finds the same ways; neither of them touches the snapshot tests. -/
theorem exists_install (h : t.Site j.root b) (hl : j.layout.IsPlain) (hfiles : j.files.Nodup) :
    ∃ ds₁ ws₁ ds₂ ws₂ ds₃ ws₃, j.Part t b .copyGraphics ds₁ ws₁ ∧
      j.Part t b .installSupport ds₂ ws₂ ∧ j.Part t b .amendSnapshots ds₃ ws₃ ∧
      ((ds₁ ++ ds₂ ++ ds₃).map Doing.place).Nodup ∧
      Carries j.root b (fun p => j.amendSnapshots (j.installSupport (j.copyGraphics p))) t
        (ds₁ ++ ds₂ ++ ds₃) (ws₁ ++ ws₂ ++ ws₃) := by
  have hnodup := places_nodup hl hfiles b
  simp only [Layout.files, List.map_cons, List.map_nil, List.nodup_cons, List.mem_cons,
    List.not_mem_nil, or_false, not_or, not_false_eq_true, List.nodup_nil, and_true] at hnodup
  obtain ⟨-, ⟨hls_gt, -⟩, ⟨hgt_st, hgt_lt⟩, hst_lt⟩ := hnodup
  have hdir_lt : b ++ Path.names j.layout.labelDir ≠ b ++ Path.names j.layout.labelTarget := by
    rw [Layout.labelTarget, Path.names_join hl.labelSupport.isAbsolute_eq]
    simpa using hl.labelSupport.names_ne_nil
  have hplaces : [b ++ Path.names j.layout.labelDir,
      b ++ Path.names j.layout.labelTarget].Nodup := by
    simpa using hdir_lt
  obtain ⟨ds₁, ws₁, hout₁, hstands₁, hcarries₁⟩ := exists_copyGraphics h hl
  obtain ⟨ds₂, ws₂, hout₂, hvacant₂, hcarries₂⟩ := exists_installSupport h hl
  obtain ⟨ds₃, ws₃, hout₃, hstands₃, hcarries₃⟩ := exists_amendSnapshots h hl
  refine ⟨ds₁, ws₁, ds₂, ws₂, ds₃, ws₃, ⟨⟨_, hout₁⟩, hcarries₁⟩,
    ⟨⟨_, hout₂⟩, hcarries₂ t (.refl t) (.of_alike h (.refl t) rfl rfl)⟩,
    ⟨⟨_, hout₃⟩, hcarries₃ t h rfl⟩, ?_, ?_⟩
  · -- the new directory stands where nothing stood, where the other steps change what did
    have hapart {d d' : Doing} (hd : d ∈ ds₂) (hstands : t.get? d'.place ≠ none)
        (hne : d'.place ≠ b ++ Path.names j.layout.labelTarget) : d'.place ≠ d.place := by
      intro heq
      rcases hvacant₂ d hd with hplace | ⟨hnone, -⟩
      · exact hne (heq.trans hplace)
      · exact hstands (heq ▸ hnone)
    rw [List.map_append, List.map_append, List.nodup_append, List.nodup_append]
    refine ⟨⟨hout₁.places.nodup (List.nodup_singleton _), hout₂.places.nodup hplaces, ?_⟩,
      hout₃.places.nodup (List.nodup_singleton _), ?_⟩
    · simp only [List.forall_mem_map]
      intro d₁ hd₁ d₂ hd₂
      exact hapart hd₂ (hstands₁ d₁ hd₁) (by rwa [hout₁.place_eq hd₁])
    · simp only [← List.map_append, List.forall_mem_map]
      intro d hd d₃ hd₃ heq
      rcases List.mem_append.mp hd with hd | hd
      · rw [hout₁.place_eq hd, hout₃.place_eq hd₃] at heq
        exact hgt_st heq
      · exact hapart hd (hstands₃ d₃ hd₃) (by rwa [hout₃.place_eq hd₃]) heq.symm
  · have halike : t.Alike (t.putAll (changes ds₁)) := hout₁.alike hl hstands₁
    have hkept {l : Location} (hl' : l ≠ b ++ Path.names j.layout.graphicsTarget) :
        (t.putAll (changes ds₁)).get? l = t.get? l := hout₁.get?_eq hl (by simpa using hl') t
    have hcarries₂ := hcarries₂ _ halike
      (.of_alike hcarries₁.site halike (hkept hls_gt) (hkept (Ne.symm hgt_lt)))
    refine (hcarries₁.comp hcarries₂).comp (hcarries₃ _ (hcarries₁.comp hcarries₂).site ?_)
    rw [changes_append, putAll_append, hout₂.file?_eq hl hplaces halike hvacant₂ hst_lt]
    exact file?_congr (hkept (Ne.symm hgt_st))

/-- What all steps do is what each of them does alone, and no two deeds are about one place. -/
theorem exists_parts (h : t.Site j.root b) (hl : j.layout.IsPlain) (hfiles : j.files.Nodup) :
    ∃ (dss : Step → List Doing) (wss : Step → List String),
      (∀ s ∈ j.steps t, j.Part t b s (dss s) (wss s)) ∧
      (((j.steps t).flatMap dss).map Doing.place).Nodup ∧
      Carries j.root b j.patch t ((j.steps t).flatMap dss) ((j.steps t).flatMap wss) := by
  by_cases hdir : t.isDir j.patchesDir = true
  · have hsteps : j.steps t = [.copyGraphics, .installSupport, .amendSnapshots] := if_pos hdir
    obtain ⟨ds₁, ws₁, ds₂, ws₂, ds₃, ws₃, h₁, h₂, h₃, hnodup, hcarries⟩ :=
      exists_install h hl hfiles
    refine ⟨fun | .copyGraphics => ds₁ | .installSupport => ds₂ | _ => ds₃,
      fun | .copyGraphics => ws₁ | .installSupport => ws₂ | _ => ws₃, ?_⟩
    rw [hsteps]
    simp only [List.flatMap_cons, List.flatMap_nil, List.append_nil, List.forall_mem_cons,
      ← List.append_assoc]
    exact ⟨⟨h₁, h₂, h₃, by simp⟩, hnodup, hcarries.congr fun p hp => if_pos (by rwa [hp])⟩
  · have hsteps : j.steps t = [.guardGraphics] := if_neg hdir
    obtain ⟨ds, ws, hout, -, hcarries⟩ := exists_guardGraphics h hl
    refine ⟨fun _ => ds, fun _ => ws, ?_⟩
    rw [hsteps]
    simp only [List.flatMap_cons, List.flatMap_nil, List.append_nil, List.forall_mem_singleton]
    exact ⟨⟨⟨_, hout⟩, hcarries⟩, hout.places.nodup (List.nodup_singleton _),
      hcarries.congr fun p hp => if_neg (by rwa [hp])⟩

/-! ## Accounts -/

/-- All that a report says of the files before and after, and all that it does not say. -/
structure Account (j : Job) (before after : Tree) (r : Report) : Prop where
  /-- The changed places are those that the actions name. -/
  changed : ∀ l, after.get? l ≠ before.get? l ↔
    ∃ a ∈ r.actions, ∃ path, a.changed? = some path ∧ after.find path = .ok l
  tells : ∀ a ∈ r.actions, j.Tells before after a
  /-- Nothing is lost. -/
  kept : before.Within after
  /-- Replacement files stay as they are; at most the support directory is made where there is
  none. -/
  sources : ∀ path ∈ j.sources,
    after.entry? path = before.entry? path ∨ .createdDir path ∈ r.actions
  /-- The steps report what they report alone. -/
  actions : r.actions = (j.steps before).flatMap fun s => (j.alone before s).actions
  warnings : r.warnings = (j.steps before).flatMap fun s => (j.alone before s).warnings
  /-- What a step changes alone is changed in the end. -/
  effects : ∀ s ∈ j.steps before, ∀ l, (j.alone before s).tree.get? l ≠ before.get? l →
    after.get? l = (j.alone before s).tree.get? l
  /-- A step with something to do reports what came of it. -/
  due : ∀ s ∈ j.steps before, j.Due before s ↔
    (j.alone before s).actions ≠ [] ∨ (j.alone before s).warnings ≠ []
  /-- A step that fails leaves one warning and all files as they are. -/
  failed : ∀ s ∈ j.steps before, (j.alone before s).warnings ≠ [] →
    (∃ w, (j.alone before s).warnings = [w]) ∧
      ∀ l, (j.alone before s).tree.file? l = before.file? l

section Accounts

variable {ds : List Doing} {ws : List String}

/-- The changed places are those of the deeds that put something in place. -/
theorem get?_ne_iff (hl : j.layout.IsPlain) (hdeeds : ∀ d ∈ ds, j.Deed t b d)
    (hnodup : (ds.map Doing.place).Nodup) (l : Location) :
    (t.putAll (changes ds)).get? l ≠ t.get? l ↔ ∃ d ∈ ds, d.place = l ∧ d.entry?.isSome := by
  have hroot : ∀ d ∈ ds, d.place ≠ [] := fun d hd => (hdeeds d hd).place_ne_nil hl
  constructor
  · intro hne
    by_cases hmem : l ∈ ds.map Doing.place
    · obtain ⟨d, hd, rfl⟩ := List.mem_map.mp hmem
      refine ⟨d, hd, rfl, ?_⟩
      rw [get?_putAll_of_doing t hroot hnodup hd] at hne
      cases he : d.entry? with
      | some e => rfl
      | none =>
        rw [he] at hne
        exact absurd rfl hne
    · exact absurd (get?_putAll_of_notMem_places t hroot hmem) hne
  · rintro ⟨d, hd, rfl, hsome⟩
    obtain ⟨e, he⟩ := Option.isSome_iff_exists.mp hsome
    rw [get?_putAll_of_doing t hroot hnodup hd, he]
    exact fun heq => (hdeeds d hd).get?_ne he heq.symm

/-- What an action names as changed is the place where its deed put something. -/
theorem Deed.exists_find_iff {d : Doing} (hl : j.layout.IsPlain) (hdeed : j.Deed t b d)
    (h' : t'.Site j.root b) (hget : t'.get? d.place = d.entry?.or (t.get? d.place))
    (l : Location) :
    (∃ path, d.action.changed? = some path ∧ t'.find path = .ok l) ↔
      d.place = l ∧ d.entry?.isSome := by
  obtain ⟨q, hq, hfits, hplace, hchanged⟩ := hdeed.exists_path hl
  cases he : d.entry? with
  | none => simp [hchanged, he]
  | some e =>
    rw [he, hplace] at hget
    rw [hchanged, he, hplace]
    simp only [Option.map_some, Option.some.injEq, exists_eq_left', Option.isSome_some, and_true]
    rw [h'.find_iff hq, hget]
    simp [hfits, eq_comm]

/-- A deed at the place of a replacement file makes the support directory. -/
theorem Deed.eq_createdDir {d : Doing} {q : String} (hl : j.layout.IsPlain)
    (hfiles : j.files.Nodup) (hdeed : j.Deed t b d) (hq : q ∈ j.layout.sources)
    (hplace : d.place = b ++ Path.names q) : d.action = .createdDir (Path.join j.root q) := by
  -- all other deeds are about files that are written, which no replacement file is
  have hother : ∀ r ∈ j.layout.targets, b ++ Path.names r ≠ b ++ Path.names q := by
    have hplaces := places_nodup hl hfiles b
    rw [j.layout.files_eq_append, List.map_append, List.nodup_append] at hplaces
    intro r hr
    exact (hplaces.2.2 _ (List.mem_map_of_mem hq) _ (List.mem_map_of_mem hr)).symm
  cases hdeed with
  | copied pair => exact absurd hplace (hother _ (j.layout.copies_targets _ pair))
  | createdDir => rw [hl.labelDir.eq_of_names_eq (hl.sources q hq) (List.append_cancel_left hplace)]
  | amended pair => exact absurd hplace (hother _ (j.layout.amendments_targets _ pair))
  | alreadyPatched target => exact absurd hplace (hother _ target)

/-- A part's step, taken alone. -/
theorem Part.alone {s : Step} (hpart : j.Part t b s ds ws) :
    (j.alone t s).tree = t.putAll (changes ds) ∧ (j.alone t s).actions = ds.map Doing.action ∧
      (j.alone t s).warnings = ws := hpart.carries.does { session := { tree := t } } rfl

/-- A step that warns has changed no file. -/
theorem Part.failed {s : Step} (hl : j.layout.IsPlain) (hpart : j.Part t b s ds ws)
    (hnodup : (ds.map Doing.place).Nodup) (hws : ws ≠ []) :
    (∃ w, ws = [w]) ∧ ∀ l, (t.putAll (changes ds)).file? l = t.file? l := by
  obtain ⟨places, hout⟩ := hpart.outcome
  have hroot : ∀ d ∈ ds, d.place ≠ [] := fun d hd => (hout.deeds d hd).place_ne_nil hl
  refine ⟨?_, fun l => ?_⟩
  · exact List.length_eq_one_iff.mp (le_antisymm hout.once (List.length_pos_iff.mpr hws))
  · by_cases hmem : l ∈ ds.map Doing.place
    · obtain ⟨d, hd, rfl⟩ := List.mem_map.mp hmem
      -- a step that warns has made a directory at most, and where none stood was no file
      obtain ⟨path, hact⟩ := hout.failed hws d hd
      unfold file?
      rw [get?_putAll_of_doing t hroot hnodup hd]
      cases hout.deeds d hd with
      | createdDir _ old =>
        rw [old]
        rfl
      | copied | amended | alreadyPatched => cases hact
    · exact file?_congr (get?_putAll_of_notMem_places t hroot hmem)

/-- Where the root leads to a directory, the report accounts for the files. -/
theorem account_of_site (h : t.Site j.root b) (hl : j.layout.IsPlain) (hfiles : j.files.Nodup)
    {p : Progress} (htree : p.tree = t) (hactions : p.actions = []) (hwarnings : p.warnings = []) :
    j.Account t (j.patch p).tree ⟨.applied, (j.patch p).actions, (j.patch p).warnings⟩ := by
  obtain ⟨dss, wss, hparts, hnodup, hdoes, hsite, hwithin⟩ := exists_parts h hl hfiles
  obtain ⟨htree', hactions', hwarnings'⟩ := hdoes p htree
  rw [htree', hactions', hwarnings', hactions, hwarnings, List.nil_append, List.nil_append]
  have hdeeds : ∀ d ∈ (j.steps t).flatMap dss, j.Deed t b d := by
    intro d hd
    obtain ⟨s, hs, hd⟩ := List.mem_flatMap.mp hd
    obtain ⟨places, hout⟩ := (hparts s hs).outcome
    exact hout.deeds d hd
  have hget {d : Doing} (hd : d ∈ (j.steps t).flatMap dss) :=
    get?_putAll_of_doing t (fun d hd => (hdeeds d hd).place_ne_nil hl) hnodup hd
  have hnodup' {s : Step} (hs : s ∈ j.steps t) : ((dss s).map Doing.place).Nodup :=
    hnodup.sublist ((List.sublist_flatten_of_mem (List.mem_map_of_mem hs)).map Doing.place)
  constructor
  case changed =>
    intro l
    rw [get?_ne_iff hl hdeeds hnodup]
    simp only [List.mem_map, exists_exists_and_eq_and]
    refine exists_congr fun d => and_congr_right fun hd => ?_
    exact ((hdeeds d hd).exists_find_iff hl hsite (hget hd) l).symm
  case tells =>
    simp only [List.forall_mem_map]
    exact fun d hd => (hdeeds d hd).tells hl h hsite (hget hd)
  case kept => exact hwithin
  case sources =>
    intro path hpath
    rw [sources_eq hl] at hpath
    obtain ⟨q, hq, rfl⟩ := List.mem_map.mp hpath
    refine or_iff_not_imp_left.mpr fun hentry => ?_
    have hplain := hl.sources q hq
    have hne := mt (h.entry?_congr hsite hplain) hentry
    obtain ⟨d, hd, hplace, -⟩ := (get?_ne_iff hl hdeeds hnodup _).mp hne
    rw [← (hdeeds d hd).eq_createdDir hl hfiles hq hplace]
    exact List.mem_map_of_mem hd
  case actions =>
    rw [List.map_flatMap]
    exact List.flatMap_congr fun s hs => (hparts s hs).alone.2.1.symm
  case warnings => exact List.flatMap_congr fun s hs => (hparts s hs).alone.2.2.symm
  case effects =>
    intro s hs l hne
    rw [(hparts s hs).alone.1] at hne ⊢
    obtain ⟨places, hout⟩ := (hparts s hs).outcome
    obtain ⟨d, hd, rfl, -⟩ := (get?_ne_iff hl hout.deeds (hnodup' hs) l).mp hne
    rw [hget (List.mem_flatMap.mpr ⟨s, hs, hd⟩),
      get?_putAll_of_doing t (fun d hd => (hout.deeds d hd).place_ne_nil hl) (hnodup' hs) hd]
  case due => exact fun s _ => (due_iff j _ s).trans (Progress.reported_pos_iff _)
  case failed =>
    intro s hs hws
    obtain ⟨htree, -, hwarnings⟩ := (hparts s hs).alone
    rw [hwarnings] at hws ⊢
    rw [htree]
    exact (hparts s hs).failed hl (hnodup' hs) hws

/-- Where nothing is done there is nothing to account for. -/
theorem account_of_idle {p : Progress} (htree : p.tree = t) (hactions : p.actions = [])
    (hwarnings : p.warnings = []) (hdir : ¬ t.isDir j.patchesDir = true)
    (hfile : ¬ t.isFile j.graphicsTest = true) :
    j.Account t (j.patch p).tree ⟨.applied, (j.patch p).actions, (j.patch p).warnings⟩ := by
  subst htree
  have hsteps : j.steps p.tree = [.guardGraphics] := if_neg hdir
  have halone : j.alone p.tree .guardGraphics = { session := { tree := p.tree } } := if_neg hfile
  have htree : Progress.tree { session := { tree := p.tree } } = p.tree := rfl
  have hpatch : j.patch p = p := by
    unfold patch guardGraphics
    rw [if_neg hdir, if_neg hfile]
  rw [hpatch, hactions, hwarnings]
  constructor
  case kept => exact .refl p.tree
  case due => exact fun s _ => (due_iff j _ s).trans (Progress.reported_pos_iff _)
  all_goals simp [hsteps, halone, htree]

end Accounts

/-- The line that closes a report tells of success where there are no warnings. -/
theorem closing_of_clean {warnings : List String} (h : warnings = []) :
    closing warnings = ⟨.success, "Test files patched for platform compatibility"⟩ := by
  rw [h]
  rfl

/-- The line that closes a report counts the warnings, if there are any. -/
theorem closing_of_warnings {warnings : List String} (h : warnings ≠ []) :
    closing warnings = ⟨.warning, "Failed to patch test files: " ++ toString warnings.length ++
      " issue(s); continuing with unpatched sources"⟩ := by
  unfold closing
  rw [if_neg (by simpa using h)]

/-- **The report is what happened to the files.** On a host that needs no patches nothing happens.
On one that does, in a tree without links below the root, the actions name the places that have
changed and say how; nothing else has changed. Every step does what it does alone, so that one that
fails is no hindrance to the others. The console shows the warnings of the report, and behind them
one line that tells of success or of their number. -/
theorem apply_accounts {host : String} {s : Session} (hl : j.layout.IsPlain)
    (hfiles : j.files.Nodup) (hclosed : s.tree.Closed) (hordinary : s.tree.OrdinaryBelow j.root) :
    let r := (j.apply host s).1
    let after := (j.apply host s).2
    (host ≠ j.layout.targetOs → after.tree = s.tree ∧ r.actions = [] ∧ r.warnings = []) ∧
    (host = j.layout.targetOs → j.Account s.tree after.tree r ∧
      ∃ said last, after.lines = s.lines ++ said ++ [last] ∧
        (said.filter (·.tag = .warning)).map Line.message = r.warnings ∧
        (r.warnings = [] → last = ⟨.success, "Test files patched for platform compatibility"⟩) ∧
        (r.warnings ≠ [] → last = ⟨.warning, "Failed to patch test files: " ++
          toString r.warnings.length ++ " issue(s); continuing with unpatched sources"⟩)) := by
  intro r after
  refine ⟨fun hhost => ?_, fun hhost => ?_⟩
  · obtain ⟨hreport, htree⟩ := apply_of_other j host s hhost
    exact ⟨htree, by rw [show r = _ from hreport], by rw [show r = _ from hreport]⟩
  · have happly := apply_of_target j host s hhost
    dsimp only at happly
    generalize hp : Progress.mk (s.say .step "Patching test files for platform compatibility...")
      [] [] = p at happly
    have htree : p.tree = s.tree := by rw [← hp]; rfl
    have hactions : p.actions = [] := by rw [← hp]
    have hwarnings : p.warnings = [] := by rw [← hp]
    simp only [r, after, happly, Session.tree_emit]
    constructor
    -- something that is found shows that the root leads to a directory; if nothing is, no step acts
    · by_cases hdir : s.tree.isDir j.patchesDir = true
      · obtain ⟨l, hfind, -⟩ := Tree.isDir_iff.mp hdir
        obtain ⟨b, h⟩ := exists_site hclosed hordinary hl.patchesDir hfind
        exact account_of_site h hl hfiles htree hactions hwarnings
      · by_cases hfile : s.tree.isFile j.graphicsTest = true
        · obtain ⟨l, hfind⟩ := exists_find_of_isFile hfile
          rw [graphicsTest_eq hl] at hfind
          obtain ⟨b, h⟩ := exists_site hclosed hordinary hl.graphicsTarget hfind
          exact account_of_site h hl hfiles htree hactions hwarnings
        · exact account_of_idle htree hactions hwarnings hdir hfile
    · have hheard : Heard s.lines p := ⟨_, by rw [← hp]; exact Session.lines_say _ _ _, by
        rw [hwarnings]
        rfl⟩
      obtain ⟨said, hlines, hsaid⟩ := hheard.patch j
      exact ⟨said, closing (j.patch p).warnings, by rw [Session.lines_emit, hlines], hsaid,
        closing_of_clean, closing_of_warnings⟩

/-- Sources of which one file is no text: the others are patched, and a warning is left. -/
theorem apply_accounts_unreadable :
    let j : Job := ⟨"pkg", .standard⟩
    let snapshots := ["pkg", "Tests", "GRDBTests", "DatabaseSnapshotTests.swift"]
    let support := ["pkg", "Tests", "GRDBTests", "Support"]
    let t := unpatched.set snapshots (.file ⟨#[0xFF]⟩ false)
    let r := (j.apply "linux" { tree := t }).1
    let after := (j.apply "linux" { tree := t }).2
    j.Account t after.tree r ∧
      .createdDir "pkg/Tests/GRDBTests/Support" ∈ r.actions ∧
      t.get? support = none ∧ after.tree.get? support = some .dir ∧
      (∃ w, r.warnings = [w]) ∧ after.tree.get? snapshots = t.get? snapshots ∧
      ∃ said, after.lines = said ++
        [⟨.warning, "Failed to patch test files: 1 issue(s); continuing with unpatched sources"⟩] := by
  intro j snapshots support t r after
  obtain ⟨-, hneeded⟩ := @apply_accounts j "linux" { tree := t } Layout.isPlain_standard (by decide)
    (closed_of_entries (by decide)) (ordinaryBelow_of_entries (by decide) "pkg")
  obtain ⟨haccount, said, last, hlines, -, -, hlast⟩ := hneeded rfl
  have hwarnings : r.warnings.length = 1 := by decide +kernel
  obtain ⟨w, hw⟩ := List.length_eq_one_iff.mp hwarnings
  have hclosing : last = ⟨.warning,
      "Failed to patch test files: 1 issue(s); continuing with unpatched sources"⟩ := by
    rw [hlast (by rw [hw]; simp), hwarnings]
    decide
  refine ⟨haccount, by decide +kernel, by decide +kernel, by decide +kernel, ⟨w, hw⟩,
    by decide +kernel, said, ?_⟩
  rw [← hclosing]
  exact hlines

end Job

end Patch

end Testbench
