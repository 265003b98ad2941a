import Testbench.Proofs.Report.Directory
import Testbench.Proofs.Tree.Agree

/-!
# Reports written again

Where reports could be written, others can be written over them or anew: each file gets the new text
and keeps its mode, a device takes what it is given, and nothing else is changed.

- `Renewed`: a place that holds the same in two trees, or a file with another text.
- `write_anew`: one file.
- `Report.write_again`: both reports.
-/

namespace Testbench

namespace Tree

variable {t u t' u' : Tree} {path : String} {octets octets' : ByteArray} {l : Location}

/-- The place holds the same in both trees, or a file with these octets in the one and with those in
the other. -/
def Renewed (octets octets' : ByteArray) (t u : Tree) (l : Location) : Prop :=
  u.get? l = t.get? l ∨
    ∃ x, t.get? l = some (.file octets x) ∧ u.get? l = some (.file octets' x)

theorem Renewed.shape?_eq (h : Renewed octets octets' t u l) : u.shape? l = t.shape? l := by
  unfold shape?
  rcases h with heq | ⟨x, hfile, hfile'⟩
  · rw [heq]
  · rw [hfile, hfile']
    rfl

/-- A write puts no link anywhere. -/
theorem write_linkFree (h : t.LinkFree) (hw : t.write path octets = .ok t') : t'.LinkFree := by
  obtain ⟨l, -, hleaves⟩ := write_leaves hw
  intro l' target hget
  cases hleaves with
  | file x below changed =>
    rw [changed, get?_set _ _ _ _ below] at hget
    split at hget
    · cases hget
    · exact h l' target hget
  | special e unchanged stands takes =>
    rw [unchanged] at hget
    exact h l' target hget

/-- Where some octets were written, no directory stands. -/
theorem get?_ne_dir_of_write (h : t.LinkFree) (hw : t.write path octets = .ok t')
    (hsize : octets.size ≠ 0) : t'.get? (t.spot path) ≠ some .dir := by
  have hhere := (write_within hw).here
  obtain ⟨l, hfind, hleaves⟩ := write_leaves hw
  have hl := eq_spot_of_find (write_linkFree h hw) hfind
  rw [spot_congr hhere] at hl
  rw [← hl]
  intro hdir
  cases hleaves with
  | file x below changed =>
    rw [changed, get?_set _ _ _ _ below, if_pos rfl] at hdir
    cases hdir
  | special e unchanged stands takes =>
    rw [unchanged, stands] at hdir
    cases hdir
    rcases takes with hsink | hzero
    · cases hsink
    · exact hsize hzero

/-- What was written to a tree can be written anew to a larger one in which the place is free or
holds what has been written. -/
theorem write_anew (h : t.LinkFree) (hu : u.LinkFree) (hwithin : t.Within u)
    (hw : t.write path octets = .ok t') (hsize : octets.size ≠ 0) (octets' : ByteArray)
    (hget : u.get? (t.spot path) = none ∨ u.get? (t.spot path) = t'.get? (t.spot path)) :
    ∃ u', u.write path octets' = .ok u' ∧ u'.here = u.here ∧
      (∀ l, l ≠ t.spot path → u'.get? l = u.get? l) ∧
      Renewed octets octets' t' u' (t.spot path) := by
  obtain ⟨⟨base, n, hp⟩, hslash⟩ := exists_parting_of_write hw
  rw [spot_of_parting h hp] at hget ⊢
  rw [write_eq_of_parting h _ hp hslash] at hw
  rw [write_eq_of_parting hu _ (hwithin.parting hp) hslash]
  have hkept (hnone : u.get? (base ++ [n]) = none) : t.get? (base ++ [n]) = none :=
    Classical.byContradiction fun hne => hwithin.get?_ne_none hne hnone
  -- a file is put at the place, in both trees
  have hset {x : Bool} (ht' : t' = t.set (base ++ [n]) (.file octets x)) :
      (u.set (base ++ [n]) (.file octets' x)).here = u.here ∧
      (∀ l, l ≠ base ++ [n] → (u.set (base ++ [n]) (.file octets' x)).get? l = u.get? l) ∧
      Renewed octets octets' t' (u.set (base ++ [n]) (.file octets' x)) (base ++ [n]) := by
    refine ⟨rfl, fun l hl => ?_, .inr ⟨x, ?_, ?_⟩⟩
    · rw [get?_set _ _ _ _ (by simp), if_neg hl]
    · rw [ht', get?_set _ _ _ _ (by simp), if_pos rfl]
    · rw [get?_set _ _ _ _ (by simp), if_pos rfl]
  cases hentry : t.get? (base ++ [n]) with
  | none =>
    rw [hentry] at hw
    cases hw
    rcases hget with hnone | heq
    · rw [hnone]
      exact ⟨_, rfl, hset rfl⟩
    · rw [heq, get?_set _ _ _ _ (by simp), if_pos rfl]
      exact ⟨_, rfl, hset rfl⟩
  | some e =>
    have hsame := hget.resolve_left fun hnone => by
      rw [hkept hnone] at hentry
      cases hentry
    rw [hentry] at hw
    cases e with
    | file old x =>
      cases hw
      rw [hsame, get?_set _ _ _ _ (by simp), if_pos rfl]
      exact ⟨_, rfl, hset rfl⟩
    | sink =>
      cases hw
      rw [hsame, hentry]
      exact ⟨u, rfl, rfl, fun _ _ => rfl, .inl hsame⟩
    | faulty | full =>
      dsimp only at hw
      rw [if_neg hsize] at hw
      cases hw
    | dir | link | utility => cases hw

end Tree

namespace Report

open Testbench.Tree

variable {t u w : Tree} {dir : String} {results : ResultSet} {issues : KnownIssues}
  {c : Context}

theorem isPlain_jsonName : Path.IsPlain jsonName ∧ Path.names jsonName = [jsonName] := by decide

theorem isPlain_textName : Path.IsPlain textName ∧ Path.names textName = [textName] := by decide

theorem spot_json (t : Tree) (dir : String) :
    t.spot (Paths.under dir).json = t.spot dir ++ [jsonName] :=
  spot_join isPlain_jsonName.1 isPlain_jsonName.2

theorem spot_text (t : Tree) (dir : String) :
    t.spot (Paths.under dir).text = t.spot dir ++ [textName] :=
  spot_join isPlain_textName.1 isPlain_textName.2

theorem json_ne_text (d : Location) : d ++ [jsonName] ≠ d ++ [textName] := by
  intro heq
  exact absurd (List.append_cancel_left heq) (by decide)

/-- Where no links stand, the reports are written to two places in the report directory one after
the other, and nothing else is changed. -/
theorem write_steps (h : t.Solid) (hstart : t.get? (t.start dir) = some .dir)
    (hw : write t dir results issues c = (.ok (.under dir), w)) :
    ∃ t₁, t.write (Paths.under dir).json (json results issues c).toUTF8 = .ok t₁ ∧
      t₁.write (Paths.under dir).text (text results c).toUTF8 = .ok w ∧
      (t₁.Solid ∧ t₁.here = t.here ∧ ∀ l, l ≠ t.spot dir ++ [jsonName] → t₁.get? l = t.get? l) ∧
      (w.Solid ∧ w.here = t₁.here ∧ ∀ l, l ≠ t.spot dir ++ [textName] → w.get? l = t₁.get? l) := by
  obtain ⟨-, t₁, hjson, htext⟩ := write_eq_ok_iff.mp hw
  have hjsonStart : t.get? (t.start (Paths.under dir).json) = some .dir := by
    rwa [Paths.under, start_join isPlain_jsonName.1]
  have hfirst := h.write_ok hjsonStart hjson
  have htextStart : t₁.get? (t₁.start (Paths.under dir).text) = some .dir := by
    rw [Paths.under, start_join isPlain_textName.1, start_congr hfirst.2.1]
    exact (Tree.write_within hjson).get?_dir hstart
  have hsecond := hfirst.1.write_ok htextStart htext
  rw [spot_text, spot_congr hfirst.2.1] at hsecond
  rw [spot_json] at hfirst
  exact ⟨t₁, hjson, htext, hfirst, hsecond⟩

theorem write_frame (h : t.Solid) (hstart : t.get? (t.start dir) = some .dir)
    (hw : write t dir results issues c = (.ok (.under dir), w)) :
    w.Solid ∧ w.here = t.here ∧ ∀ l, l ≠ t.spot dir ++ [jsonName] → l ≠ t.spot dir ++ [textName] →
      w.get? l = t.get? l := by
  obtain ⟨t₁, -, -, ⟨-, hhere, hframe⟩, hsolid, hhere', hframe'⟩ := write_steps h hstart hw
  exact ⟨hsolid, hhere'.trans hhere, fun l hl hl' => (hframe' l hl').trans (hframe l hl)⟩

/-- Where reports have been written, no directory stands. -/
theorem ne_dir_of_write (h : t.Solid) (hstart : t.get? (t.start dir) = some .dir)
    (hw : write t dir results issues c = (.ok (.under dir), w)) :
    w.get? (t.spot dir ++ [jsonName]) ≠ some .dir ∧
      w.get? (t.spot dir ++ [textName]) ≠ some .dir := by
  obtain ⟨t₁, hjson, htext, ⟨hsolid, hhere, -⟩, -, -, hframe⟩ := write_steps h hstart hw
  constructor
  · rw [hframe _ (json_ne_text _), ← spot_json]
    exact get?_ne_dir_of_write h.linkFree hjson (size_toUTF8_ne_zero (json_ne_empty results issues c))
  · rw [← spot_text, ← spot_congr hhere]
    exact get?_ne_dir_of_write hsolid.linkFree htext (size_toUTF8_ne_zero (text_ne_empty results c))

/-- **Reports are written again.** Where reports have been written, others can be written to every
tree between the one before and the one after; they take the places of the first ones. -/
theorem write_again (results' : ResultSet) (c' : Context) (h : t.Solid)
    (hstart : t.get? (t.start dir) = some .dir)
    (hw : write t dir results issues c = (.ok (.under dir), w)) (hu : u.LinkFree)
    (hwithin : t.Within u) (hupper : ∀ l, u.get? l = none ∨ u.get? l = w.get? l) :
    ∃ w', write u dir results' issues c' = (.ok (.under dir), w') ∧
      (∀ l, l ≠ t.spot dir ++ [jsonName] → l ≠ t.spot dir ++ [textName] → w'.get? l = u.get? l) ∧
      Renewed (json results issues c).toUTF8 (json results' issues c').toUTF8 w w'
        (t.spot dir ++ [jsonName]) ∧
      Renewed (text results c).toUTF8 (text results' c').toUTF8 w w' (t.spot dir ++ [textName]) := by
  obtain ⟨t₁, hjson, htext, ⟨hsolid, hhere, hframe⟩, -, -, hframe'⟩ := write_steps h hstart hw
  have hdiffer := json_ne_text (t.spot dir)
  have hget := hupper (t.spot dir ++ [jsonName])
  rw [hframe' _ hdiffer, ← spot_json] at hget
  obtain ⟨u₁, hjson', hhere', hkept, hrenewed⟩ := write_anew h.linkFree hu hwithin hjson
    (size_toUTF8_ne_zero (json_ne_empty results issues c)) (json results' issues c').toUTF8 hget
  rw [spot_json] at hkept hrenewed
  have hwithin₁ : t₁.Within u₁ := by
    refine ⟨by rw [hhere', hwithin.here, hhere], fun l s hs => ?_⟩
    by_cases hl : l = t.spot dir ++ [jsonName]
    · rw [hl, hrenewed.shape?_eq, ← hl]
      exact hs
    · unfold shape? at hs ⊢
      rw [hframe l hl] at hs
      rw [hkept l hl]
      exact hwithin.shape l s hs
  have hfree := write_linkFree hu hjson'
  have hget' := hupper (t.spot dir ++ [textName])
  rw [← hkept _ (Ne.symm hdiffer), ← spot_text, ← spot_congr hhere] at hget'
  obtain ⟨w', htext', -, hkept', hrenewed'⟩ := write_anew hsolid.linkFree hfree hwithin₁ htext
    (size_toUTF8_ne_zero (text_ne_empty results c)) (text results' c').toUTF8 hget'
  rw [spot_text, spot_congr hhere] at hkept' hrenewed'
  refine ⟨w', write_eq_ok_iff.mpr ⟨rfl, u₁, hjson', htext'⟩, fun l hl hl' => ?_, ?_, hrenewed'⟩
  · rw [hkept' l hl', hkept l hl]
  · unfold Renewed
    rw [hkept' _ hdiffer, hframe' _ hdiffer]
    exact hrenewed

end Report

end Testbench
