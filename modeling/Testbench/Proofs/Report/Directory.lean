import Testbench.Proofs.Tree.Landing
import Testbench.Report.Directory

/-!
# What is kept of the reports

Both summaries are written to files in the report directory. The text summary comes last and is read
back wherever its path leads to a regular file; the structured one is read back if the text summary
was not written to the same place.

- `write_eq_ok_iff`: the two writes.
- `readText_of_write`: the two summaries are read back.
-/

namespace Testbench

namespace Report

variable {t t' : Tree} {dir : String} {results : ResultSet} {issues : KnownIssues} {c : Context}
  {paths : Paths}

/-- The reports are kept when both files can be written. -/
theorem write_eq_ok_iff :
    write t dir results issues c = (.ok paths, t') ↔ paths = .under dir ∧ ∃ t₁,
      t.write paths.json (json results issues c).toUTF8 = .ok t₁ ∧
        t₁.write paths.text (text results c).toUTF8 = .ok t' := by
  unfold write
  dsimp only
  constructor
  · intro h
    split at h
    · cases h
    · next t₁ hjson =>
      split at h
      · cases h
      · next t₂ htext =>
        cases h
        exact ⟨rfl, t₁, hjson, htext⟩
  · rintro ⟨rfl, t₁, hjson, htext⟩
    rw [hjson]
    dsimp only
    rw [htext]

/-- All that is put into a report directory has a plain name that is not too long. -/
theorem isName_of_mem_generated : ∀ name ∈ generated, Path.IsPlain name ∧
    Path.names name = [name] ∧ name.utf8ByteSize ≤ Tree.nameLimit := by
  decide

/-! ## Reading the reports -/

theorem size_toUTF8_ne_zero {s : String} (h : s ≠ "") : s.toUTF8.size ≠ 0 :=
  mt String.utf8ByteSize_eq_zero_iff.mp h

theorem json_ne_empty (results : ResultSet) (issues : KnownIssues) (c : Context) :
    json results issues c ≠ "" := by
  simp [json]

theorem text_ne_empty (results : ResultSet) (c : Context) : text results c ≠ "" := by
  simp [text, lines]

/-- The summaries that were kept are read back: the text summary where it is a regular file, and the
structured one where it is a regular file that the text summary has not replaced. -/
theorem readText_of_write (h : write t dir results issues c = (.ok paths, t')) :
    (t'.isFile paths.text = true → t'.readText paths.text = .ok (text results c)) ∧
      (t'.isFile paths.json = true → t'.find paths.json ≠ t'.find paths.text →
        t'.readText paths.json = .ok (json results issues c)) := by
  obtain ⟨-, t₁, hjson, htext⟩ := write_eq_ok_iff.mp h
  constructor
  · intro hfile
    have hsize := size_toUTF8_ne_zero (text_ne_empty results c)
    exact Tree.readText_of_read (Tree.read_of_write htext hsize hfile)
  · intro hfile hne
    have hsize := size_toUTF8_ne_zero (json_ne_empty results issues c)
    obtain ⟨l, hl, -⟩ := Tree.write_leaves hjson
    obtain ⟨hsame, hread⟩ := Tree.write_keeps htext hl hne
    rw [hsame] at hfile
    exact Tree.readText_of_read (hread.trans (Tree.read_of_write hjson hsize hfile))

end Report

end Testbench
