import Testbench.Proofs.Text.Replace

/-!
# Counting phrases

How often a phrase occurs in a text in which another one has been replaced. The count follows the
text block by block, as long as no occurrence lies across the border of a block: then replacing a
block changes the count by what the two blocks hold, wherever it is done.

- `count_cons`: occurrences that do not overlap are counted at each position by itself.
- `Clear`: the occurrences of a phrase stand within a block or outside of it.
- `count_append`: the count of a block and the text behind it.
- `count_replaceAll`, `count_replaceAll_of_eq`: the count after replacing.
-/

namespace Testbench

namespace Text

variable {phrase block old new s : List Char}

/-! ## One position after the other -/

@[simp] theorem count_nil : count phrase [] = 0 := by rw [count]

/-- An occurrence is counted, and counting goes on behind it. -/
theorem count_occurrence (h : phrase ≠ []) (rest : List Char) :
    count phrase (phrase ++ rest) = count phrase rest + 1 := by
  obtain ⟨c, cs, rfl⟩ := List.exists_cons_of_ne_nil h
  have hafter : after? (c :: cs) (c :: (cs ++ rest)) = some rest := after?_append (c :: cs) rest
  rw [List.cons_append, count]
  split
  · next rest' hrest' =>
    rw [hafter] at hrest'
    cases hrest'
    rw [dif_neg h]
  · next hnone =>
    rw [hafter] at hnone
    cases hnone

/-- A character at which no occurrence begins is passed by. -/
theorem count_other {c : Char} {cs : List Char} (h : ¬ phrase <+: c :: cs) :
    count phrase (c :: cs) = count phrase cs := by
  rw [count]
  split
  · next rest hrest => exact absurd ⟨rest, (after?_eq_some_iff.mp hrest).symm⟩ h
  · rfl

/-- A phrase is counted zero times exactly where it does not occur. -/
theorem count_eq_zero_iff (hne : phrase ≠ []) : count phrase s = 0 ↔ ¬ phrase <:+: s := by
  induction s using replace_induction hne with
  | nil => simpa using hne
  | occurrence rest ih =>
    rw [count_occurrence hne]
    have hoccurs : phrase <:+: phrase ++ rest := (List.prefix_append phrase rest).isInfix
    exact iff_of_false (Nat.succ_ne_zero _) (not_not_intro hoccurs)
  | other c cs hnot ih =>
    rw [count_other hnot, ih, List.infix_cons_iff, not_or]
    exact (and_iff_right hnot).symm

/-- A front in which no occurrence begins is passed by. -/
theorem count_append_of_front {front rest : List Char}
    (h : ∀ i < front.length, ¬ phrase <+: front.drop i ++ rest) :
    count phrase (front ++ rest) = count phrase rest := by
  induction front with
  | nil => rfl
  | cons c front ih =>
    have hfirst : ¬ phrase <+: c :: (front ++ rest) := h 0 (Nat.succ_pos _)
    rw [List.cons_append, count_other hfirst]
    exact ih fun i hi => h (i + 1) (Nat.succ_lt_succ hi)

/-- Where occurrences do not overlap, each position counts by itself. -/
theorem count_cons (h : Unbordered phrase) (c : Char) (cs : List Char) :
    count phrase (c :: cs) = count phrase cs + if phrase <+: c :: cs then 1 else 0 := by
  split
  · next hprefix =>
    obtain ⟨rest, hrest⟩ := hprefix
    -- no other occurrence begins within this one
    have hwithin : count phrase (phrase.tail ++ rest) = count phrase rest :=
      count_append_of_front fun i hi => h.2.not_prefix_drop_append hi rest
    have htail : cs = phrase.tail ++ rest := by
      rw [← List.tail_append_of_ne_nil h.1, hrest, List.tail_cons]
    rw [htail, hwithin, ← htail, ← hrest, count_occurrence h.1]
  · next hnot => rw [count_other hnot, Nat.add_zero]

/-! ## Blocks -/

/-- No occurrence of the phrase that begins within the block reaches beyond it. -/
def Holds (block phrase : List Char) : Prop :=
  ∀ i < block.length, block.drop i <+: phrase → block.drop i = phrase

instance (block phrase : List Char) : Decidable (Holds block phrase) :=
  inferInstanceAs (Decidable (∀ i < block.length, _ → _))

/-- Every occurrence of the phrase stands within the block or outside of it: none that begins in
front of the block reaches into it, and none that begins within it reaches beyond. -/
def Clear (phrase block : List Char) : Prop :=
  EndsApart phrase.tail block ∧ Holds block phrase

instance (phrase block : List Char) : Decidable (Clear phrase block) :=
  inferInstanceAs (Decidable (_ ∧ _))

/-- An occurrence at the start of a block that holds it is one in the block. -/
theorem Holds.prefix_append_iff (h : Holds block phrase) (hne : block ≠ []) (rest : List Char) :
    phrase <+: block ++ rest ↔ phrase <+: block := by
  constructor
  · intro hprefix
    rcases List.prefix_or_prefix_of_prefix hprefix (List.prefix_append block rest) with hin | hout
    · exact hin
    · have heq : block = phrase := h 0 (List.length_pos_iff.mpr hne) hout
      exact heq ▸ List.prefix_refl block
  · exact fun hin => hin.trans (List.prefix_append block rest)

/-- Behind a block that no occurrence leaves, counting starts afresh. -/
theorem count_append (hphrase : Unbordered phrase) :
    ∀ {block : List Char}, Holds block phrase → ∀ rest,
      count phrase (block ++ rest) = count phrase block + count phrase rest
  | [], _, rest => by simp
  | c :: block, h, rest => by
    have hrec := count_append hphrase (fun i hi => h (i + 1) (Nat.succ_lt_succ hi)) rest
    have hfirst := h.prefix_append_iff (List.cons_ne_nil c block) rest
    rw [List.cons_append] at hfirst ⊢
    rw [count_cons hphrase, count_cons hphrase, hrec, Nat.add_right_comm]
    simp only [hfirst]

/-! ## Replacing -/

/-- Behind a character that is kept, an occurrence is there after replacing if and only if it was
there before. -/
theorem prefix_cons_replaceAll_iff (hne : old ≠ []) (hold : EndsApart phrase.tail old)
    (hnew : EndsApart phrase.tail new) (c : Char) (cs : List Char) :
    phrase <+: c :: replaceAll old new cs ↔ phrase <+: c :: cs :=
  ⟨prefix_cons_of_tail (drop_prefix_of_replaceAll hne hnew cs 0),
    prefix_cons_of_tail (drop_prefix_replaceAll hne hold new cs 0)⟩

/-- **Counting after replacing.** A phrase that is clear of the one that is replaced and of the one
that takes its place occurs as often as before, but for what these two hold of it. -/
theorem count_replaceAll (hphrase : Unbordered phrase) (hne : old ≠ []) (hold : Clear phrase old)
    (hnew : Clear phrase new) (s : List Char) :
    count phrase (replaceAll old new s) + count phrase old * count old s =
      count phrase s + count phrase new * count old s := by
  induction s using replace_induction hne with
  | nil => simp
  | occurrence rest ih =>
    rw [replaceAll_append hne, count_append hphrase hnew.2, count_append hphrase hold.2,
      count_occurrence hne, Nat.mul_succ, Nat.mul_succ]
    omega
  | other c cs hnot ih =>
    have hfirst := prefix_cons_replaceAll_iff hne hold.1 hnew.1 c cs
    rw [replaceAll_cons new hnot, count_cons hphrase, count_cons hphrase,
      count_other hnot]
    simp only [hfirst]
    omega

/-- A phrase that stands as often in what takes the place as in what is replaced occurs as often as
before. -/
theorem count_replaceAll_of_eq (hphrase : Unbordered phrase) (hne : old ≠ [])
    (hold : Clear phrase old) (hnew : Clear phrase new) (h : count phrase new = count phrase old)
    (s : List Char) : count phrase (replaceAll old new s) = count phrase s := by
  have hcount := count_replaceAll hphrase hne hold hnew s
  rw [h] at hcount
  exact Nat.add_right_cancel hcount

end Text

end Testbench
