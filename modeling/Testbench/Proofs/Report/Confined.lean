import Testbench.Proofs.Report.Rewriting
import Testbench.Proofs.Report.Setup
import Testbench.Proofs.Tree.Freeing

/-!
# What keeping reports changes

Making the report directory only adds directories, and writing the reports only changes two files in
it. Either may be refused at any step. What has been done by then is what the steps before have
done, and the error names the path of the step.

- `Tree.makeDirs_join_cases`: a directory in another one is made at once, or nothing is made.
- `Report.setup_at_fronts`, `Report.exists_of_makeAll_error`: what is made, and what is refused.
- `Tree.Solid.write_join`, `Report.write_cases`: what is written, and what is refused.
- `Report.setup_write_exact`: the report directory and the reports in it.
-/

namespace Testbench

/-- A directory or a file that holds its octets: no link, and no device or program of the host. -/
def Entry.isStored : Entry → Bool
  | dir => true
  | file _ _ => true
  | _ => false

namespace Tree

variable {t t' w : Tree} {path dir name : String} {l : Location} {octets : ByteArray}

/-! ## Names in a directory -/

/-- One name may stand for another one of the same length or more. -/
theorem pathFault?_join_of_le {name' : String} (hrel : Path.isAbsolute name = false)
    (hrel' : Path.isAbsolute name' = false) (hne : name' ≠ "") (hnul : '\x00' ∉ name'.toList)
    (hle : name'.utf8ByteSize ≤ name.utf8ByteSize)
    (hsound : pathFault? (Path.join dir name) = none) :
    pathFault? (Path.join dir name') = none := by
  rw [Path.join_eq_lead hrel, pathFault?_eq_none_iff, String.toList_append,
    String.utf8ByteSize_append] at hsound
  obtain ⟨hnul', -, hshort⟩ := hsound
  rw [Path.join_eq_lead hrel', pathFault?_eq_none_iff, String.toList_append,
    String.utf8ByteSize_append]
  refine ⟨?_, ?_, by omega⟩
  · rw [List.mem_append] at hnul' ⊢
    exact not_or.mpr ⟨(not_or.mp hnul').1, hnul⟩
  · intro hempty
    exact hne (String.append_eq_empty_iff.mp hempty).2

/-- A path whose text is not sound has no last name that could be looked up. -/
theorem parting_of_pathFault {e : FileError} (h : pathFault? path = some e) :
    t.parting path = .error e := by
  unfold parting partingFrom checked
  rw [h]
  rfl

section Names

variable (h : t.LinkFree) (hplain : Path.IsPlain name) (hname : Path.names name = [name])
  (hshort : name.utf8ByteSize ≤ nameLimit) (ho : t.Opens dir)

include h hplain hname hshort ho

theorem parting_join (hsound : pathFault? (Path.join dir name) = none) :
    t.parting (Path.join dir name) = .ok (t.spot dir, some name) := by
  obtain ⟨hdot, hback⟩ := hplain.ne_of_mem_names (n := name) (by rw [hname]; simp)
  refine (parting_iff_of_linkFree h).mpr ⟨hsound, Path.names dir, ?_, hdot, hback, hshort, ?_, ?_⟩
  · rw [Path.names_join hplain.isAbsolute_eq, hname]
  · rw [start_join hplain]
    exact ho
  · rw [start_join hplain]
    rfl

theorem isDir_join_iff (hsound : pathFault? (Path.join dir name) = none) :
    t.isDir (Path.join dir name) = true ↔ t.get? (t.spot dir ++ [name]) = some .dir := by
  rw [Tree.isDir_iff]
  constructor
  · rintro ⟨l, hfind, hget⟩
    obtain ⟨-, -, -, rfl, -⟩ := (find_join_iff h hplain hname).mp hfind
    exact hget
  · intro hget
    refine ⟨_, (find_join_iff h hplain hname).mpr ⟨hsound, ho, hshort, rfl, ?_⟩, hget⟩
    rw [hget]
    exact Option.some_ne_none _

/-! ## A directory in another one -/

/-- In a directory that is there nothing is missing on the way to a name. -/
theorem makeDir_join_ne_missing : t.makeDir (Path.join dir name) ≠ .error .missing := by
  intro hmissing
  unfold makeDir at hmissing
  cases hfault : pathFault? (Path.join dir name) with
  | none =>
    rw [parting_join h hplain hname hshort ho hfault] at hmissing
    dsimp only at hmissing
    split at hmissing <;> cases hmissing
  | some e =>
    have hne : Path.join dir name ≠ "" := by
      rw [Path.join_eq_lead hplain.isAbsolute_eq]
      exact fun hempty => hplain.ne_empty (String.append_eq_empty_iff.mp hempty).2
    rw [parting_of_pathFault hfault] at hmissing
    cases hmissing
    exact pathFault?_ne_missing hne hfault

theorem ensureDir_join_ne_missing : t.ensureDir (Path.join dir name) ≠ .error .missing := by
  intro hmissing
  unfold ensureDir at hmissing
  split at hmissing
  · cases hmissing
  · next e hmake =>
    split at hmissing
    · cases hmissing
    · cases hmissing
      exact makeDir_join_ne_missing h hplain hname hshort ho hmake

/-- In a directory that is there another one is made at once, or nothing is made. -/
theorem makeDirs_join_cases :
    (∃ t', t.makeDirs (Path.join dir name) = (.ok (), t') ∧
      t.ensureDir (Path.join dir name) = .ok t') ∨
    ∃ e, t.makeDirs (Path.join dir name) = (.error e, t) := by
  unfold makeDirs
  cases hparent : Path.parent? (Path.join dir name) with
  | none => exact absurd hparent (Path.parent?_join_ne_none hplain)
  | some parent =>
    have hstep := ensureDir_join_ne_missing h hplain hname hshort ho
    dsimp only
    unfold makeDirsWithin
    cases hensure : t.ensureDir (Path.join dir name) with
    | ok t' => exact .inl ⟨t', rfl, rfl⟩
    | error e =>
      rw [hensure] at hstep
      cases e with
      | missing => exact absurd rfl hstep
      | _ => exact .inr ⟨_, rfl⟩

end Names

/-! ## A file in a directory -/

/-- The path leads to a file with these octets. A file that stood there before has kept its mode. -/
def Rewritten (t w : Tree) (path : String) (l : Location) (octets : ByteArray) : Prop :=
  w.find path = .ok l ∧ ∃ x, w.get? l = some (.file octets x) ∧
    ∀ old x', t.get? l = some (.file old x') → x = x'

/-- What has been written to a file stays there while other files are written. -/
theorem Rewritten.within (hw : Rewritten t t' path l octets) (h : t'.Within w)
    (hget : w.get? l = t'.get? l) : Rewritten t w path l octets := by
  obtain ⟨hfind, x, hfile, hmode⟩ := hw
  exact ⟨h.find hfind, x, hget.trans hfile, hmode⟩

section Files

variable (h : t.Solid) (hstart : t.get? (t.start dir) = some .dir) (hplain : Path.IsPlain name)
  (hname : Path.names name = [name]) (hshort : name.utf8ByteSize ≤ nameLimit) (ho : t.Opens dir)
  (hsound : pathFault? (Path.join dir name) = none)

include h hstart hplain hname hshort ho hsound

/-- A file that has been put under a name is found there, and nothing else is changed. -/
theorem Solid.rewritten_of_write (octets : ByteArray) (x : Bool)
    (hw : t.write (Path.join dir name) octets =
      .ok (t.set (t.spot dir ++ [name]) (.file octets x)))
    (hmode : ∀ old x', t.get? (t.spot dir ++ [name]) = some (.file old x') → x = x') :
    ∃ t', t.write (Path.join dir name) octets = .ok t' ∧
      Rewritten t t' (Path.join dir name) (t.spot dir ++ [name]) octets ∧
      t'.Solid ∧ t'.here = t.here ∧ ∀ l, l ≠ t.spot dir ++ [name] → t'.get? l = t.get? l := by
  rw [← start_join hplain] at hstart
  obtain ⟨hsolid, hhere, hframe⟩ := h.write_ok hstart hw
  rw [spot_join hplain hname] at hframe
  have hget : (t.set (t.spot dir ++ [name]) (.file octets x)).get? (t.spot dir ++ [name]) =
      some (.file octets x) := by
    rw [get?_set _ _ _ _ (by simp), if_pos rfl]
  have hfind := (find_join_iff hsolid.linkFree hplain hname).mpr
    ⟨hsound, (write_within hw).opens ho, hshort, rfl, by rw [spot_congr hhere, hget]; simp⟩
  exact ⟨_, hw, ⟨hfind, x, hget, hmode⟩, hsolid, hhere, hframe⟩

/-- Under a name in a directory a file is written, unless a directory stands there. -/
theorem Solid.write_join
    (hstored : ∀ e, t.get? (t.spot dir ++ [name]) = some e → e.isStored = true)
    (octets : ByteArray) :
    (t.isDir (Path.join dir name) = true ∧
      t.write (Path.join dir name) octets = .error .isDirectory) ∨
    t.isDir (Path.join dir name) = false ∧ ∃ t', t.write (Path.join dir name) octets = .ok t' ∧
      Rewritten t t' (Path.join dir name) (t.spot dir ++ [name]) octets ∧
      t'.Solid ∧ t'.here = t.here ∧ ∀ l, l ≠ t.spot dir ++ [name] → t'.get? l = t.get? l := by
  have hp := parting_join h.linkFree hplain hname hshort ho hsound
  have hdir := isDir_join_iff h.linkFree hplain hname hshort ho hsound
  have hwrite := write_eq_of_parting h.linkFree octets hp hplain.endsInSlash_join
  have hput := h.rewritten_of_write hstart hplain hname hshort ho hsound octets
  cases hget : t.get? (t.spot dir ++ [name]) with
  | none =>
    rw [hget] at hdir hwrite hput
    refine .inr ⟨Bool.eq_false_iff.mpr (mt hdir.mp (by simp)), hput false hwrite ?_⟩
    intro old x' hold
    cases hold
  | some e =>
    rw [hget] at hdir hwrite hput
    cases e with
    | dir => exact .inl ⟨hdir.mpr rfl, hwrite⟩
    | file old x =>
      refine .inr ⟨Bool.eq_false_iff.mpr (mt hdir.mp (by simp)), hput x hwrite ?_⟩
      intro old' x' hold
      cases hold
      rfl
    | link | faulty | sink | full | utility => cases hstored _ hget

end Files

end Tree

namespace Report

open Testbench.Tree

variable {t t' w : Tree} {dir : String} {results : ResultSet} {issues : KnownIssues} {c : Context}

/-! ## What is made -/

/-- Where not all directories are made, those before some one have been, and this one is refused. -/
theorem exists_of_makeAll_error {e : ReportError} : ∀ {dirs : List String} {t : Tree},
    makeAll t dirs = (.error e, t') → ∃ done later t₁, dirs = done ++ e.path :: later ∧
      makeAll t done = (.ok (), t₁) ∧ t₁.makeDirs e.path = (.error e.cause, t')
  | [], t, h => by cases h
  | dir :: dirs, t, h => by
    unfold makeAll at h
    split at h
    · next t₂ hmake =>
      obtain ⟨done, later, t₁, rfl, hdone, hrefused⟩ := exists_of_makeAll_error h
      refine ⟨dir :: done, later, t₁, rfl, ?_, hrefused⟩
      unfold makeAll
      rw [hmake]
      exact hdone
    · next cause t₂ hmake =>
      cases h
      exact ⟨[], dirs, t, rfl, rfl, hmake⟩

theorem isDir_of_makeAll : ∀ {dirs : List String} {t : Tree},
    (∀ p ∈ dirs, Path.parent? p ≠ none) → makeAll t dirs = (.ok (), t') →
    ∀ p ∈ dirs, t'.isDir p = true
  | dir :: dirs, t, hparents, h, p, hp => by
    obtain ⟨hparent, hparents⟩ := List.forall_mem_cons.mp hparents
    obtain ⟨t₁, hmake, hrest⟩ := makeAll_cons h
    rcases List.mem_cons.mp hp with rfl | hp
    · have hgrown := makeAll_within t₁ dirs
      rw [hrest] at hgrown
      exact hgrown.isDir (isDir_of_makeDirs hparent hmake)
    · exact isDir_of_makeAll hparents hrest p hp

/-- In a directory that is there only the directories themselves are made. -/
theorem makeAll_join_made : ∀ (names : List String) {t : Tree},
    (∀ name ∈ names, Path.IsPlain name ∧ Path.names name = [name] ∧
      name.utf8ByteSize ≤ nameLimit) → t.Solid → t.get? (t.start dir) = some .dir → t.Opens dir →
    Made (fun l => ∃ p ∈ names.map (Path.join dir),
      (makeAll t (names.map (Path.join dir))).2.find p = .ok l) t
      (makeAll t (names.map (Path.join dir))).2
  | [], t, _, _, _, _ => .refl _ t
  | name :: names, t, hnames, h, hstart, ho => by
    obtain ⟨⟨hplain, hname, hshort⟩, hnames⟩ := List.forall_mem_cons.mp hnames
    have hstart' := hstart
    rw [← start_join hplain] at hstart'
    rw [List.map_cons]
    unfold makeAll
    rcases makeDirs_join_cases h.linkFree hplain hname hshort ho with
      ⟨t₁, hmake, hensure⟩ | ⟨e, hrefused⟩
    · rw [hmake]
      have hwithin := ensureDir_within hensure
      obtain ⟨hsolid, hmade⟩ := h.ensureDir_made hstart' hensure
      have hrest := makeAll_join_made names hnames hsolid (hwithin.get?_start hstart)
        (hwithin.opens ho)
      have hgrown := makeAll_within t₁ (names.map (Path.join dir))
      refine .trans (hmade.mono fun l hl => ?_) (hrest.mono fun l hl => ?_)
      · exact ⟨_, List.mem_cons_self, hgrown.find hl.2⟩
      · obtain ⟨p, hp, hfind⟩ := hl
        exact ⟨p, List.mem_cons_of_mem _ hp, hfind⟩
    · rw [hrefused]
      exact .refl _ t

/-- What is made for the reports are directories on the way to the report directory, itself, and its
subdirectories, whether all of them can be made or not. -/
theorem setup_at_fronts (ht : t.Solid) (hstart : t.get? (t.start dir) = some .dir) :
    Made (fun l => ∃ p, (Path.IsFront p dir ∨ p ∈ subdirs.map (Path.join dir)) ∧
      (setup t dir).2.find p = .ok l) t (setup t dir).2 := by
  obtain ⟨hsolid, hmade⟩ := ht.makeDirs_made hstart
  unfold setup makeAll
  split
  · next t₁ hmake =>
    rw [hmake] at hsolid hmade
    have hgrown := makeAll_within t₁ (subdirs.map (Path.join dir))
    have hwithin := makeDirs_within t dir
    rw [hmake] at hwithin
    have hnames : ∀ name ∈ subdirs, name ∈ generated := fun name => List.mem_append_left _
    have hsubdirs := makeAll_join_made subdirs
      (fun name hname => isName_of_mem_generated name (hnames name hname)) hsolid
      (hwithin.get?_start hstart) (opens_of_makeDirs ht hstart hmake)
    refine .trans (hmade.mono fun l hl => ?_) (hsubdirs.mono fun l hl => ?_)
    · obtain ⟨-, front, hfront, hfind⟩ := hl
      exact ⟨front, .inl hfront, hgrown.find hfind⟩
    · obtain ⟨p, hp, hfind⟩ := hl
      exact ⟨p, .inr hp, hfind⟩
  · next e t₁ hmake =>
    rw [hmake] at hmade
    refine hmade.mono fun l hl => ?_
    obtain ⟨-, front, hfront, hfind⟩ := hl
    exact ⟨front, .inl hfront, hfind⟩

/-- Once the report directory is made, its subdirectories are there. -/
theorem isDir_of_setup_subdirs (h : setup t dir = (.ok (), t')) :
    ∀ p ∈ subdirs.map (Path.join dir), t'.isDir p = true := by
  obtain ⟨t₁, -, hsubdirs⟩ := makeAll_cons h
  refine isDir_of_makeAll (fun p hp => ?_) hsubdirs
  obtain ⟨name, hname, rfl⟩ := List.mem_map.mp hp
  exact Path.parent?_join_ne_none (isName_of_mem_generated name (List.mem_append_left _ hname)).1

/-- The texts of the paths to all that is put into a report directory are sound. -/
theorem sound_of_setup (h : setup t dir = (.ok (), t')) : ∀ name ∈ generated,
    pathFault? (Path.join dir name) = none := by
  have hdir := isDir_of_setup_subdirs h (Path.join dir "test-results")
    (List.mem_map_of_mem (by decide))
  obtain ⟨l, hfind, -⟩ := Tree.isDir_iff.mp hdir
  have hsound := (find_eq_ok_iff.mp hfind).1
  -- no other name is longer
  have hnames : ∀ name ∈ generated, Path.isAbsolute name = false ∧ name ≠ "" ∧
      '\x00' ∉ name.toList ∧ name.utf8ByteSize ≤ "test-results".utf8ByteSize := by
    decide
  intro name hname
  obtain ⟨hrel, hne, hnul, hle⟩ := hnames name hname
  exact pathFault?_join_of_le (by decide) hrel hne hnul hle hsound

/-- Once the report directory is made, it is there with its subdirectories. -/
theorem isDir_of_setup (ht : t.Solid) (hstart : t.get? (t.start dir) = some .dir) (hne : dir ≠ "")
    (h : setup t dir = (.ok (), t')) : ∀ p ∈ dir :: subdirs.map (Path.join dir),
      t'.isDir p = true := by
  have hsolid := (setup_at_stops ht hstart).1
  have hwithin := setup_within t dir
  rw [h] at hsolid hwithin
  have hsound := pathFault?_of_join hne (by decide) (sound_of_setup h "html" (by decide))
  refine List.forall_mem_cons.mpr ⟨?_, isDir_of_setup_subdirs h⟩
  exact (hsolid.isDir_iff (hwithin.get?_start hstart)).mpr ⟨hsound, (opens_of_setup ht hstart h).1⟩

/-! ## What is written -/

/-- The reports are written one after the other. Where a directory stands in the place of the first
one nothing is changed, and where one stands in that of the second one only the first one is
written. -/
theorem write_cases (h : t.Solid) (hstart : t.get? (t.start dir) = some .dir) (ho : t.Opens dir)
    (hsound : ∀ name ∈ generated, pathFault? (Path.join dir name) = none)
    (hstored : ∀ name ∈ [jsonName, textName], ∀ e, t.get? (t.spot dir ++ [name]) = some e →
      e.isStored = true) (results : ResultSet) (issues : KnownIssues) (c : Context) :
    (t.isDir (Paths.under dir).json = true ∧
      write t dir results issues c = (.error ⟨(Paths.under dir).json, .isDirectory⟩, t)) ∨
    (t.isDir (Paths.under dir).json = false ∧ t.isDir (Paths.under dir).text = true ∧
      ∃ w l, write t dir results issues c = (.error ⟨(Paths.under dir).text, .isDirectory⟩, w) ∧
        Rewritten t w (Paths.under dir).json l (json results issues c).toUTF8 ∧ w.here = t.here ∧
        ∀ l', l' ≠ l → w.get? l' = t.get? l') ∨
    t.isDir (Paths.under dir).json = false ∧ t.isDir (Paths.under dir).text = false ∧
      ∃ w l l', write t dir results issues c = (.ok (.under dir), w) ∧
        Rewritten t w (Paths.under dir).json l (json results issues c).toUTF8 ∧
        Rewritten t w (Paths.under dir).text l' (text results c).toUTF8 ∧ w.here = t.here ∧
        ∀ l'', l'' ≠ l → l'' ≠ l' → w.get? l'' = t.get? l'' := by
  obtain ⟨hplain, hname, hshort⟩ := isName_of_mem_generated jsonName (by decide)
  obtain ⟨hplain', hname', hshort'⟩ := isName_of_mem_generated textName (by decide)
  rcases h.write_join hstart hplain hname hshort ho (hsound _ (by decide)) (hstored _ (by simp))
    (json results issues c).toUTF8 with
    ⟨hdir, hjson⟩ | ⟨hnot, t₁, hjson, hrewritten, hsolid, hhere, hframe⟩
  · refine .inl ⟨hdir, ?_⟩
    unfold write Paths.under
    dsimp only
    rw [hjson]
  have hwithin := Tree.write_within hjson
  have hstart₁ := hwithin.get?_start hstart
  have hopen₁ := hwithin.opens ho
  -- the second place is as it was
  have hsame := hframe (t.spot dir ++ [textName]) (Ne.symm (json_ne_text _))
  have hisDir : t₁.isDir (Path.join dir textName) = t.isDir (Path.join dir textName) := by
    rw [Bool.eq_iff_iff, isDir_join_iff h.linkFree hplain' hname' hshort' ho (hsound _ (by decide)),
      isDir_join_iff hsolid.linkFree hplain' hname' hshort' hopen₁ (hsound _ (by decide)),
      spot_congr hhere, hsame]
  have hstored₁ : ∀ e, t₁.get? (t₁.spot dir ++ [textName]) = some e → e.isStored = true := by
    rw [spot_congr hhere, hsame]
    exact hstored textName (by simp)
  rcases hsolid.write_join hstart₁ hplain' hname' hshort' hopen₁ (hsound _ (by decide)) hstored₁
    (text results c).toUTF8 with
    ⟨hdir', htext⟩ | ⟨hnot', w, htext, hrewritten', -, hhere', hframe'⟩
  · refine .inr (.inl ⟨hnot, hisDir.symm.trans hdir', t₁, _, ?_, hrewritten, hhere, hframe⟩)
    unfold write Paths.under
    dsimp only
    rw [hjson]
    dsimp only
    rw [htext]
  · rw [spot_congr hhere] at hrewritten' hframe'
    refine .inr (.inr ⟨hnot, hisDir.symm.trans hnot', w, _, _,
      write_eq_ok_iff.mpr ⟨rfl, t₁, hjson, htext⟩,
      hrewritten.within (Tree.write_within htext) (hframe' _ (json_ne_text _)), ?_,
      hhere'.trans hhere, fun l hl hl' => (hframe' l hl').trans (hframe l hl)⟩)
    obtain ⟨hfind, x, hfile, hmode⟩ := hrewritten'
    rw [hsame] at hmode
    exact ⟨hfind, x, hfile, hmode⟩

/-- Reports are written to a directory exactly where no directory stands in the place of either.
Then nothing else is changed. Otherwise the error names the path of the directory that is in the
way, and nothing is changed but what was written before. -/
structure WritesExactly (t : Tree) (dir : String) (results : ResultSet) (issues : KnownIssues)
    (c : Context) : Prop where
  succeeds : (∃ paths, (write t dir results issues c).1 = .ok paths) ↔
    t.isDir (Paths.under dir).json = false ∧ t.isDir (Paths.under dir).text = false
  kept : ∀ paths w, write t dir results issues c = (.ok paths, w) → paths = .under dir ∧
    w.here = t.here ∧ ∃ l l', Rewritten t w paths.json l (json results issues c).toUTF8 ∧
      Rewritten t w paths.text l' (text results c).toUTF8 ∧
      ∀ l'', l'' ≠ l → l'' ≠ l' → w.get? l'' = t.get? l''
  refused : ∀ e w, write t dir results issues c = (.error e, w) → e.cause = .isDirectory ∧
    t.isDir e.path = true ∧
    ((e.path = (Paths.under dir).json ∧ w = t) ∨
      e.path = (Paths.under dir).text ∧ w.here = t.here ∧
        ∃ l, Rewritten t w (Paths.under dir).json l (json results issues c).toUTF8 ∧
          ∀ l', l' ≠ l → w.get? l' = t.get? l')

theorem writesExactly (h : t.Solid) (hstart : t.get? (t.start dir) = some .dir) (ho : t.Opens dir)
    (hsound : ∀ name ∈ generated, pathFault? (Path.join dir name) = none)
    (hstored : ∀ name ∈ [jsonName, textName], ∀ e, t.get? (t.spot dir ++ [name]) = some e →
      e.isStored = true) (results : ResultSet) (issues : KnownIssues) (c : Context) :
    WritesExactly t dir results issues c := by
  rcases write_cases h hstart ho hsound hstored results issues c with
    ⟨hjson, hwrite⟩ | ⟨hjson, htext, w, l, hwrite, hrewritten, hhere, hframe⟩ |
    ⟨hjson, htext, w, l, l', hwrite, hrewritten, hrewritten', hhere, hframe⟩
  · constructor
    case succeeds => simp [hwrite, hjson]
    case kept => simp [hwrite]
    case refused =>
      intro e w' h'
      rw [hwrite] at h'
      cases h'
      exact ⟨rfl, hjson, .inl ⟨rfl, rfl⟩⟩
  · constructor
    case succeeds => simp [hwrite, htext]
    case kept => simp [hwrite]
    case refused =>
      intro e w' h'
      rw [hwrite] at h'
      cases h'
      exact ⟨rfl, htext, .inr ⟨rfl, hhere, l, hrewritten, hframe⟩⟩
  · constructor
    case succeeds => simp [hwrite, hjson, htext]
    case kept =>
      intro paths w' h'
      rw [hwrite] at h'
      cases h'
      exact ⟨rfl, hhere, l, l', hrewritten, hrewritten', hframe⟩
    case refused => simp [hwrite]

/-- **The report directory and its reports change nothing else, and end in a known state.** Making
the directory keeps all that is there and adds only directories on the way to it, itself and its
subdirectories, whether it succeeds or not. Where it fails the error names the first of them that
cannot be made. Where it succeeds all of them are there, and it succeeds again without any change.
Then the reports can be written unless a directory stands in the place of one of them. -/
theorem setup_write_exact (ht : t.Solid) (hstart : t.get? (t.start dir) = some .dir)
    (hne : dir ≠ "") :
    let made := (setup t dir).2
    (made.here = t.here ∧ (∀ l e, t.get? l = some e → made.get? l = some e) ∧
      ∀ l e, t.get? l = none → made.get? l = some e → e = .dir ∧
        ∃ p, (Path.IsFront p dir ∨ p ∈ subdirs.map (Path.join dir)) ∧ made.find p = .ok l) ∧
    (∀ e, (setup t dir).1 = .error e → ∃ done later t₁,
      dir :: subdirs.map (Path.join dir) = done ++ e.path :: later ∧
      makeAll t done = (.ok (), t₁) ∧ t₁.makeDirs e.path = (.error e.cause, made)) ∧
    ((setup t dir).1 = .ok () →
      (∀ p ∈ dir :: subdirs.map (Path.join dir), made.isDir p = true) ∧
      setup made dir = (.ok (), made) ∧
      ((∀ p ∈ [(Paths.under dir).json, (Paths.under dir).text], ∀ e, made.entry? p = some e →
        e.isStored = true) → ∀ results issues c, WritesExactly made dir results issues c)) := by
  intro made
  have hmade := setup_at_fronts ht hstart
  refine ⟨⟨hmade.here, fun l e he => ?_, fun l e hnone he => ?_⟩, fun e he => ?_, fun hok => ?_⟩
  · rcases hmade.get l with heq | ⟨-, hnone, -⟩
    · exact heq.trans he
    · rw [he] at hnone
      cases hnone
  · rcases hmade.get l with heq | ⟨hfront, -, hdir⟩
    · rw [← heq, he] at hnone
      cases hnone
    · rw [he] at hdir
      exact ⟨Option.some.inj hdir, hfront⟩
  · exact exists_of_makeAll_error (Prod.ext he rfl)
  · have h : setup t dir = (.ok (), made) := Prod.ext hok rfl
    have hsolid : made.Solid := (setup_at_stops ht hstart).1
    have hstart' := (setup_within t dir).get?_start hstart
    have hopens := (opens_of_setup ht hstart h).1
    have hsound := sound_of_setup h
    refine ⟨isDir_of_setup ht hstart hne h, makeAll_again hsolid.linkFree _ h (.refl made),
      fun hstored results issues c => ?_⟩
    refine writesExactly hsolid hstart' hopens hsound (fun name hname e he => ?_) results issues c
    have hmem : name ∈ generated := List.mem_append_right subdirs hname
    obtain ⟨hplain, hnames, hshort⟩ := isName_of_mem_generated name hmem
    refine hstored (Path.join dir name) (List.mem_map_of_mem (f := Path.join dir) hname) e ?_
    have hfind := (find_join_iff hsolid.linkFree hplain hnames).mpr
      ⟨hsound name hmem, hopens, hshort, rfl, by rw [he]; simp⟩
    unfold entry?
    rw [hfind]
    exact he

/-- Where a directory stands in the place of the text summary, the structured one is written, on a
way that has been made and is left again. -/
theorem setup_write_exact_blocked :
    let t : Tree := ⟨[(["pkg"], .dir), (["pkg", "out"], .dir),
      (["pkg", "out", "summary.json"], .file .empty true),
      (["pkg", "out", "summary.txt"], .dir)], ["pkg"]⟩
    let dir := "new/../out"
    let made := (setup t dir).2
    let c : Context := ⟨"GRDB.swift", "2024-05-01T12:00:00Z", "Linux", "6.1"⟩
    made.get? ["pkg", "new"] = some .dir ∧ made.isDir "new/../out/coverage" = true ∧
      setup made dir = (.ok (), made) ∧
      ∃ e w, write made dir .empty .empty c = (.error e, w) ∧ e.path = "new/../out/summary.txt" ∧
        w.read "new/../out/summary.json" = .ok (json .empty .empty c).toUTF8 := by
  intro t dir made c
  have hsolid : t.Solid := solid_of_entries (by decide) (by decide)
  have hstart : t.get? (t.start dir) = some .dir := by decide
  obtain ⟨-, -, hset⟩ := setup_write_exact hsolid hstart (by decide)
  obtain ⟨hdirs, hagain, hwrites⟩ := hset (by decide +kernel)
  have hblocked : made.isDir (Paths.under dir).json = false ∧
      made.isDir (Paths.under dir).text = true := by
    decide +kernel
  have hwrite := hwrites (by decide +kernel) .empty .empty c
  refine ⟨by decide +kernel, hdirs _ (by decide), hagain, ?_⟩
  obtain ⟨r, w, hrw⟩ : ∃ r w, write made dir .empty .empty c = (r, w) := ⟨_, _, rfl⟩
  rw [hrw]
  cases r with
  | ok paths =>
    have hfree := hwrite.succeeds.mp ⟨paths, by rw [hrw]⟩
    rw [hblocked.2] at hfree
    cases hfree.2
  | error e =>
    obtain ⟨-, hdir, ⟨hpath, -⟩ | ⟨hpath, -, l, ⟨hfind, x, hfile, -⟩, -⟩⟩ := hwrite.refused e w hrw
    · rw [hpath, hblocked.1] at hdir
      cases hdir
    · have hpaths : (Paths.under dir).json = "new/../out/summary.json" ∧
          (Paths.under dir).text = "new/../out/summary.txt" := by decide
      rw [hpaths.1] at hfind
      exact ⟨e, w, rfl, hpath.trans hpaths.2, read_of_file hfind hfile⟩

end Report

end Testbench
