import Testbench.Patch
import Testbench.Proofs.Tree.Site

/-!
# Steps of patching

What one step of patching does depends on the files only, and of what it does only the files matter
to later steps. A step that has been taken is settled: taken again on what it left, it changes
nothing and warns of the same.

- `Does`: what a step leaves and reports on some files.
- `Settled`: a step changes nothing on some files and finds everything patched.
- `Keeps.copyOver_eq`, `copyOver_writes`: what a second copy comes to.
- `copyStep_settles`: a file that was copied is settled as long as both files stay what they are.
- `amendStep_settles`: a file that was amended is settled if what is amended needs no amendment.
-/

namespace Testbench

namespace Patch

open Testbench.Tree

variable {f g : Progress → Progress} {t t' t'' : Tree} {as as' : List Action}
  {ws ws' : List String}

/-! ## Steps -/

/-- On the files `t` a step leaves the files `t'` and reports these actions and warnings. -/
def Does (f : Progress → Progress) (t t' : Tree) (as : List Action) (ws : List String) : Prop :=
  ∀ p : Progress, p.tree = t →
    (f p).tree = t' ∧ (f p).actions = p.actions ++ as ∧ (f p).warnings = p.warnings ++ ws

/-- On the files `t` a step changes nothing and finds everything patched, with these warnings. -/
def Settled (f : Progress → Progress) (t : Tree) (ws : List String) : Prop :=
  ∃ as, Does f t t as ws ∧ ∀ a ∈ as, ∃ path, a = .alreadyPatched path

theorem does_of_eq (h : ∀ p : Progress, p.tree = t → f p = p) : Does f t t [] [] := by
  intro p hp
  rw [h p hp]
  simp [hp]

theorem settled_of_eq (h : ∀ p : Progress, p.tree = t → f p = p) : Settled f t [] :=
  ⟨[], does_of_eq h, by simp⟩

/-- Steps that agree on the files `t` do the same there. -/
theorem Does.congr (h : Does f t t' as ws) (hg : ∀ p : Progress, p.tree = t → g p = f p) :
    Does g t t' as ws := by
  intro p hp
  rw [hg p hp]
  exact h p hp

theorem Settled.congr (h : Settled f t ws) (hg : ∀ p : Progress, p.tree = t → g p = f p) :
    Settled g t ws := by
  obtain ⟨as, hdoes, has⟩ := h
  exact ⟨as, hdoes.congr hg, has⟩

/-- What was done before a step is reported before it. -/
theorem Does.comp (hf : Does f t t' as ws) (hg : Does g t' t'' as' ws') :
    Does (fun p => g (f p)) t t'' (as ++ as') (ws ++ ws') := by
  intro p hp
  obtain ⟨htree, hacts, hwarns⟩ := hf p hp
  obtain ⟨htree', hacts', hwarns'⟩ := hg (f p) htree
  refine ⟨htree', ?_, ?_⟩
  · rw [hacts', hacts, List.append_assoc]
  · rw [hwarns', hwarns, List.append_assoc]

theorem Settled.comp (hf : Settled f t ws) (hg : Settled g t ws') :
    Settled (fun p => g (f p)) t (ws ++ ws') := by
  obtain ⟨as, hdoes, has⟩ := hf
  obtain ⟨as', hdoes', has'⟩ := hg
  refine ⟨as ++ as', hdoes.comp hdoes', fun a ha => ?_⟩
  rcases List.mem_append.mp ha with ha | ha
  · exact has a ha
  · exact has' a ha

/-- What is put out before a step makes no difference to it. -/
theorem Does.say (h : Does f t t' as ws) (tag : Tag) (m : String) :
    Does (fun p => f (p.say tag m)) t t' as ws := fun p hp => h (p.say tag m) hp

theorem Settled.say (h : Settled f t ws) (tag : Tag) (m : String) :
    Settled (fun p => f (p.say tag m)) t ws := by
  obtain ⟨as, hdoes, has⟩ := h
  exact ⟨as, hdoes.say tag m, has⟩

/-! ## Copying -/

section Copying

variable {source target : String}

theorem does_copyStep (done : String) (h : copyOver t source target = .ok (some t')) :
    Does (copyStep · source target done) t t' [.copied source target] [] := by
  rintro p rfl
  dsimp only
  rw [copyStep, h]
  exact ⟨rfl, rfl, (List.append_nil _).symm⟩

theorem does_copyStep_of_same (done : String) (h : copyOver t source target = .ok none) :
    Does (copyStep · source target done) t t [.alreadyPatched target] [] := by
  rintro p rfl
  dsimp only
  rw [copyStep, h]
  exact ⟨rfl, rfl, (List.append_nil _).symm⟩

theorem does_copyStep_of_error (done : String) {e : FileError}
    (h : copyOver t source target = .error e) :
    Does (copyStep · source target done) t t [] ["copy " ++ target ++ " failed: " ++ e.message] := by
  rintro p rfl
  dsimp only
  rw [copyStep, h]
  exact ⟨rfl, (List.append_nil _).symm, rfl⟩

theorem settled_copyStep (done : String) (h : copyOver t source target = .ok none) :
    Settled (copyStep · source target done) t [] :=
  ⟨_, does_copyStep_of_same done h, by simp⟩

theorem settled_copyStep_of_error (done : String) {e : FileError}
    (h : copyOver t source target = .error e) :
    Settled (copyStep · source target done) t ["copy " ++ target ++ " failed: " ++ e.message] :=
  ⟨_, does_copyStep_of_error done h, by simp⟩

theorem copyOver_of_read_error {e : FileError} (h : t.read source = .error e) :
    copyOver t source target = .error e := by
  unfold copyOver
  rw [h]

theorem copyOver_of_same {octets : ByteArray} (hs : t.read source = .ok octets)
    (ht : t.read target = .ok octets) : copyOver t source target = .ok none := by
  unfold copyOver
  rw [hs, ht]
  exact if_pos rfl

theorem copyOver_of_other {octets : ByteArray} (hs : t.read source = .ok octets)
    (ht : t.read target ≠ .ok octets) :
    copyOver t source target = (t.write target octets).map some := by
  unfold copyOver
  rw [hs]
  refine if_neg fun heq => ht ?_
  cases hread : t.read target with
  | error e =>
    rw [hread] at heq
    cases heq
  | ok old =>
    rw [hread] at heq
    cases heq
    rfl

/-- A copy that writes gives the target the octets that the source reads as. -/
theorem of_copyOver_eq_some (h : copyOver t source target = .ok (some t')) :
    ∃ octets, t.read source = .ok octets ∧ t.write target octets = .ok t' := by
  unfold copyOver at h
  split at h
  · cases h
  · next octets hread =>
    split at h
    · cases h
    · refine ⟨octets, hread, ?_⟩
      cases hwrite : t.write target octets with
      | error e =>
        rw [hwrite] at h
        cases h
      | ok _ =>
        rw [hwrite] at h
        cases h
        rfl

end Copying

/-- A file below the root reads alike where the same entry stands at its place. -/
theorem read_congr {root q : String} {b : Location} (h : t.Site root b) (h' : t'.Site root b)
    (hq : Path.IsPlain q) (hfits : Fits root q) (hget : t.get? (b ++ Path.names q) ≠ none)
    (heq : t'.get? (b ++ Path.names q) = t.get? (b ++ Path.names q)) :
    t'.read (Path.join root q) = t.read (Path.join root q) := by
  have hfind := (h.find_iff hq).mpr ⟨hfits, rfl, hget⟩
  have hfind' := (h'.find_iff hq).mpr ⟨hfits, rfl, by rwa [heq]⟩
  unfold Tree.read
  rw [hfind, hfind']
  dsimp only
  rw [heq]

/-- The files `u` keep what a copy of `q` over `r` has left in `t`: the entries at both places. The
target can be reached no better than before. -/
structure Keeps (t u : Tree) (root : String) (b : Location) (q r : String) : Prop where
  site : u.Site root b
  within : t.Within u
  source : u.get? (b ++ Path.names q) = t.get? (b ++ Path.names q)
  target : u.get? (b ++ Path.names r) = t.get? (b ++ Path.names r)
  parting : ∀ e, t.parting (Path.join root r) = .error e → u.parting (Path.join root r) = .error e

namespace Keeps

variable {root q r : String} {b : Location} {u : Tree} {octets : ByteArray} {e : FileError}

/-- Where all shapes are the same, the target is reached as before. -/
theorem of_alike (hu : u.Site root b) (halike : t.Alike u)
    (hsource : u.get? (b ++ Path.names q) = t.get? (b ++ Path.names q))
    (htarget : u.get? (b ++ Path.names r) = t.get? (b ++ Path.names r)) :
    Keeps t u root b q r := by
  refine ⟨hu, halike.within, hsource, htarget, fun e he => ?_⟩
  rwa [halike.parting]

/-- A file at the source reads as it did. -/
theorem read_source (hu : Keeps t u root b q r) (h : t.Site root b) (hq : Path.IsPlain q)
    (hfile : t.isFile (Path.join root q) = true) :
    u.read (Path.join root q) = t.read (Path.join root q) := by
  obtain ⟨hfits, e, he⟩ := (h.isFile_iff hq).mp hfile
  refine read_congr h hu.site hq hfits ?_ hu.source
  rw [(file?_eq_some_iff.mp he).1]
  exact Option.some_ne_none e

/-- The target reads as it did, if it does. -/
theorem read_target_iff (hu : Keeps t u root b q r) (h : t.Site root b) (hr : Path.IsPlain r) :
    u.read (Path.join root r) = .ok octets ↔ t.read (Path.join root r) = .ok octets := by
  rw [hu.site.read_eq_ok_iff hr, hu.target, ← h.read_eq_ok_iff hr]

/-- A copy that writes nothing, because it fails or has nothing to do, ends alike. -/
theorem copyOver_eq (hu : Keeps t u root b q r) (h : t.Site root b) (hq : Path.IsPlain q)
    (hr : Path.IsPlain r) (hfile : t.isFile (Path.join root q) = true)
    (hunwritten : ∀ t', copyOver t (Path.join root q) (Path.join root r) ≠ .ok (some t')) :
    copyOver u (Path.join root q) (Path.join root r) =
      copyOver t (Path.join root q) (Path.join root r) := by
  have hsource := hu.read_source h hq hfile
  cases hread : t.read (Path.join root q) with
  | error e => rw [copyOver_of_read_error hread, copyOver_of_read_error (hsource.trans hread)]
  | ok octets =>
    by_cases htarget : t.read (Path.join root r) = .ok octets
    · rw [copyOver_of_same hread htarget,
        copyOver_of_same (hsource.trans hread) ((hu.read_target_iff h hr).mpr htarget)]
    · have hcopy := copyOver_of_other hread htarget
      cases hwrite : t.write (Path.join root r) octets with
      | ok t' =>
        rw [hwrite] at hcopy
        exact absurd hcopy (hunwritten t')
      | error e =>
        -- nothing was written, so that the target still reads otherwise, and is written no better
        rw [hcopy, hwrite, copyOver_of_other (hsource.trans hread)
          (mt (hu.read_target_iff h hr).mp htarget),
          h.write_error hu.site hu.within hr hu.target hu.parting hwrite]

end Keeps

/-- A copy that writes puts the octets of its source in place, and has nothing to do from then
on. -/
theorem copyOver_writes {root q r : String} {b : Location} (h : t.Site root b)
    (hq : Path.IsPlain q) (hr : Path.IsPlain r)
    (hplaces : b ++ Path.names q ≠ b ++ Path.names r)
    (hcopy : copyOver t (Path.join root q) (Path.join root r) = .ok (some t')) :
    t'.Site root b ∧ t.Within t' ∧
      (∀ l, l ≠ b ++ Path.names r → t'.get? l = t.get? l) ∧
      t'.isFile (Path.join root r) = true ∧
      ∀ u, Keeps t' u root b q r →
        copyOver u (Path.join root q) (Path.join root r) = .ok none := by
  obtain ⟨octets, hread, hwrite⟩ := of_copyOver_eq_some hcopy
  obtain ⟨hfits, hsite, x, rfl, -⟩ := h.write_ok hr hwrite
  have hget (l : Location) := get?_set t (b ++ Path.names r) l (.file octets x)
    (Site.place_ne_nil hr)
  have hframe (l : Location) (hl : l ≠ b ++ Path.names r) :
      (t.set (b ++ Path.names r) (.file octets x)).get? l = t.get? l := by rw [hget, if_neg hl]
  have hnew : (t.set (b ++ Path.names r) (.file octets x)).get? (b ++ Path.names r) =
      some (.file octets x) := by rw [hget, if_pos rfl]
  refine ⟨hsite, write_within hwrite, hframe, ?_, fun u hu => ?_⟩
  · exact (hsite.isFile_iff hr).mpr ⟨hfits, _, file?_eq_some_iff.mpr ⟨hnew, rfl⟩⟩
  · have hsource : u.read (Path.join root q) = .ok octets := by
      rw [hu.site.read_eq_ok_iff hq, hu.source, hframe _ hplaces, ← h.read_eq_ok_iff hq]
      exact hread
    have htarget : u.read (Path.join root r) = .ok octets := by
      rw [hu.site.read_eq_ok_iff hr, hu.target]
      exact ⟨hfits, x, hnew⟩
    exact copyOver_of_same hsource htarget

/-- **A file that was copied over another is settled**, and so is one that could not be: on files
that keep what the copy has left, a second one finds nothing to do or fails in the same way. -/
theorem copyStep_settles {root q r : String} (done : String) {b : Location} (h : t.Site root b)
    (hq : Path.IsPlain q) (hr : Path.IsPlain r)
    (hplaces : b ++ Path.names q ≠ b ++ Path.names r)
    (hfile : t.isFile (Path.join root q) = true) :
    ∃ t' as ws, Does (copyStep · (Path.join root q) (Path.join root r) done) t t' as ws ∧
      t'.Site root b ∧ t.Within t' ∧
      (∀ l, l ≠ b ++ Path.names r → t'.get? l = t.get? l) ∧
      (t.isFile (Path.join root r) = true → t'.isFile (Path.join root r) = true) ∧
      ∀ u, Keeps t' u root b q r →
        Settled (copyStep · (Path.join root q) (Path.join root r) done) u ws := by
  cases hcopy : copyOver t (Path.join root q) (Path.join root r) with
  | error e =>
    refine ⟨t, _, _, does_copyStep_of_error done hcopy, h, .refl t, fun _ _ => rfl, id,
      fun u hu => ?_⟩
    have hagain := hu.copyOver_eq h hq hr hfile fun t' => by rw [hcopy]; nofun
    exact settled_copyStep_of_error done (hagain.trans hcopy)
  | ok wrote =>
    cases wrote with
    | none =>
      refine ⟨t, _, _, does_copyStep_of_same done hcopy, h, .refl t, fun _ _ => rfl, id,
        fun u hu => ?_⟩
      have hagain := hu.copyOver_eq h hq hr hfile fun t' => by rw [hcopy]; nofun
      exact settled_copyStep done (hagain.trans hcopy)
    | some t' =>
      obtain ⟨hsite, hwithin, hframe, hisFile, hagain⟩ :=
        copyOver_writes h hq hr hplaces hcopy
      exact ⟨t', _, _, does_copyStep done hcopy, hsite, hwithin, hframe, fun _ => hisFile,
        fun u hu => settled_copyStep done (hagain u hu)⟩

/-! ## Amending -/

section Amending

variable {path : String} {amend : List Char → Option (List Char)}

theorem does_amendStep_of_unread {e : FileError} (h : t.readText path = .error e) :
    Does (amendStep · path amend) t t [] ["read " ++ path ++ " failed: " ++ e.message] := by
  rintro p rfl
  dsimp only
  rw [amendStep, h]
  exact ⟨rfl, (List.append_nil _).symm, rfl⟩

theorem does_amendStep_of_amended {source : String} (h : t.readText path = .ok source)
    (hamend : amend source.toList = none) :
    Does (amendStep · path amend) t t [.alreadyPatched path] [] := by
  rintro p rfl
  dsimp only
  rw [amendStep, h]
  dsimp only
  rw [hamend]
  exact ⟨rfl, rfl, (List.append_nil _).symm⟩

theorem does_amendStep_of_unwritten {source : String} {patched : List Char} {e : FileError}
    (h : t.readText path = .ok source) (hamend : amend source.toList = some patched)
    (hwrite : t.write path (String.ofList patched).toUTF8 = .error e) :
    Does (amendStep · path amend) t t [] ["write " ++ path ++ " failed: " ++ e.message] := by
  rintro p rfl
  dsimp only
  rw [amendStep, h]
  dsimp only
  rw [hamend]
  dsimp only
  rw [hwrite]
  exact ⟨rfl, (List.append_nil _).symm, rfl⟩

theorem settled_amendStep_of_unread {e : FileError} (h : t.readText path = .error e) :
    Settled (amendStep · path amend) t ["read " ++ path ++ " failed: " ++ e.message] :=
  ⟨_, does_amendStep_of_unread h, by simp⟩

theorem settled_amendStep {source : String} (h : t.readText path = .ok source)
    (hamend : amend source.toList = none) : Settled (amendStep · path amend) t [] :=
  ⟨_, does_amendStep_of_amended h hamend, by simp⟩

theorem settled_amendStep_of_unwritten {source : String} {patched : List Char} {e : FileError}
    (h : t.readText path = .ok source) (hamend : amend source.toList = some patched)
    (hwrite : t.write path (String.ofList patched).toUTF8 = .error e) :
    Settled (amendStep · path amend) t ["write " ++ path ++ " failed: " ++ e.message] :=
  ⟨_, does_amendStep_of_unwritten h hamend hwrite, by simp⟩

theorem does_amendStep {source : String} {patched : List Char}
    (h : t.readText path = .ok source) (hamend : amend source.toList = some patched)
    (hwrite : t.write path (String.ofList patched).toUTF8 = .ok t') :
    Does (amendStep · path amend) t t' [.amended path] [] := by
  rintro p rfl
  dsimp only
  rw [amendStep, h]
  dsimp only
  rw [hamend]
  dsimp only
  rw [hwrite]
  exact ⟨rfl, rfl, (List.append_nil _).symm⟩

end Amending

/-- What a step that amends one file leaves: besides the octets of this file all is as it was, and
the step is settled. -/
structure Amended (f : Progress → Progress) (t t' : Tree) (root : String) (b l : Location)
    (ws : List String) : Prop where
  does : ∃ as, Does f t t' as ws
  site : t'.Site root b
  alike : t.Alike t'
  frame : ∀ l', l' ≠ l → t'.get? l' = t.get? l'
  settled : Settled f t' ws

/-- A step that is settled leaves all as it was. -/
theorem Settled.amended {root : String} {b : Location} (hs : Settled f t ws) (h : t.Site root b)
    (l : Location) : Amended f t t root b l ws := by
  obtain ⟨as, hdoes, -⟩ := id hs
  exact ⟨⟨as, hdoes⟩, h, .refl t, fun _ _ => rfl, hs⟩

/-- **A file that was amended is settled** where an amended text is left alone, and so is one that
could not be amended. -/
theorem amendStep_settles {root q : String} {b : Location} {amend : List Char → Option (List Char)}
    (h : t.Site root b) (hq : Path.IsPlain q) (hfile : t.isFile (Path.join root q) = true)
    (hamend : ∀ source amended, amend source = some amended → amend amended = none) :
    ∃ t' ws, t'.isFile (Path.join root q) = true ∧
      Amended (amendStep · (Path.join root q) amend) t t' root b (b ++ Path.names q) ws := by
  cases hread : t.readText (Path.join root q) with
  | error e => exact ⟨t, _, hfile, (settled_amendStep_of_unread hread).amended h _⟩
  | ok source =>
    cases hpatched : amend source.toList with
    | none => exact ⟨t, _, hfile, (settled_amendStep hread hpatched).amended h _⟩
    | some patched =>
      cases hwrite : t.write (Path.join root q) (String.ofList patched).toUTF8 with
      | error e =>
        exact ⟨t, _, hfile, (settled_amendStep_of_unwritten hread hpatched hwrite).amended h _⟩
      | ok t' =>
        obtain ⟨hfits, hsite, x, ht', hget⟩ := h.write_ok hq hwrite
        obtain ⟨-, e, he⟩ := (h.isFile_iff hq).mp hfile
        obtain ⟨old, hold⟩ := hget.resolve_left (by rw [(file?_eq_some_iff.mp he).1]; simp)
        have hget' (l : Location) := get?_set t _ l (.file (String.ofList patched).toUTF8 x)
          (Site.place_ne_nil (b := b) hq)
        rw [← ht'] at hget'
        have hnew := hget' (b ++ Path.names q)
        rw [if_pos rfl] at hnew
        have halike : t.Alike t' := by
          rw [ht']
          refine alike_set (Site.place_ne_nil hq) ?_
          unfold shape?
          rw [hold]
          rfl
        -- what was written is read back, and needs no amendment
        have hread' := (hsite.read_eq_ok_iff hq).mpr ⟨hfits, x, hnew⟩
        have hsettled : Settled (amendStep · (Path.join root q) amend) t' [] := by
          refine settled_amendStep (readText_of_read hread') ?_
          rw [String.toList_ofList]
          exact hamend _ _ hpatched
        refine ⟨t', [], (hsite.isFile_iff hq).mpr ⟨hfits, _, file?_eq_some_iff.mpr ⟨hnew, rfl⟩⟩,
          ⟨_, does_amendStep hread hpatched hwrite⟩, hsite, halike, fun l hl => ?_, hsettled⟩
        rw [hget', if_neg hl]

end Patch

end Testbench
