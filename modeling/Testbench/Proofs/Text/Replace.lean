import Testbench.Text.Search

/-!
# Replacing phrases

What is left of a phrase after it has been replaced everywhere.

- `contains_iff`: a phrase occurs in a text when it is a stretch of it.
- `replaceAll_append`, `replaceAll_cons`: replacing at an occurrence, and passing a character by.
- `replaceAll_of_absent`: where the phrase does not occur nothing is replaced.
- `replaceAll_puts`: where it occurs the new phrase is in the result.
- `Apart`: two phrases that can neither overlap nor hold each other.
- `replaceAll_keeps`: phrases apart from the one that is replaced stay.
- `replaceAll_removes`: a phrase replaced by one that is apart from it is gone. Nothing new is
  made where the ends of a replacement meet the text around it, which is what `Apart` is for.
- `Unbordered`: a phrase of which no two occurrences overlap.
- `replaceAll_restores`: such a phrase, replaced by what it took the place of, gives the text back.
- `Replaced`: two texts that are alike but for a phrase, without the function that replaces it.
-/

namespace Testbench

namespace Text

variable {phrase old new s : List Char}

/-! ## Occurrences -/

theorem startsWith_iff : startsWith phrase s = true ↔ phrase <+: s := by
  unfold startsWith
  rw [Option.isSome_iff_exists]
  constructor
  · rintro ⟨rest, h⟩
    exact ⟨rest, (after?_eq_some_iff.mp h).symm⟩
  · rintro ⟨rest, rfl⟩
    exact ⟨rest, after?_append phrase rest⟩

/-- A phrase occurs in a text when it is a stretch of it. -/
theorem contains_iff : contains phrase s = true ↔ phrase <:+: s := by
  induction s with
  | nil =>
    rw [contains, startsWith_iff]
    exact ⟨List.IsPrefix.isInfix, fun h => List.infix_nil.mp h ▸ List.prefix_refl []⟩
  | cons c s ih =>
    rw [contains, Bool.or_eq_true, startsWith_iff, ih, List.infix_cons_iff]

theorem contains_eq_false_iff : contains phrase s = false ↔ ¬ phrase <:+: s := by
  rw [← contains_iff, Bool.not_eq_true]

/-! ## Phrases in quotes

Facts on fixed phrases are decided on their characters. A text in quotes is the text of a list of
characters, and is written as one first: reading it octet by octet takes far longer. -/

theorem toList_ofList_append {a b : List Char} :
    (String.ofList a ++ String.ofList b).toList = a ++ b := by
  rw [String.toList_append, String.toList_ofList, String.toList_ofList]

/-! ## Replacing -/

/-- At an occurrence the phrase is replaced, and reading goes on behind it. -/
theorem replaceAll_append (h : old ≠ []) (rest : List Char) :
    replaceAll old new (old ++ rest) = new ++ replaceAll old new rest := by
  obtain ⟨c, cs, rfl⟩ := List.exists_cons_of_ne_nil h
  have hafter : after? (c :: cs) (c :: (cs ++ rest)) = some rest := after?_append (c :: cs) rest
  rw [List.cons_append, replaceAll]
  split
  · next rest' hrest' =>
    rw [hafter] at hrest'
    cases hrest'
    rw [dif_neg h]
  · next hnone =>
    rw [hafter] at hnone
    cases hnone

/-- A character at which no occurrence begins is kept. -/
theorem replaceAll_cons (new : List Char) {c : Char} {cs : List Char} (h : ¬ old <+: c :: cs) :
    replaceAll old new (c :: cs) = c :: replaceAll old new cs := by
  rw [replaceAll]
  split
  · next rest hrest => exact absurd ⟨rest, (after?_eq_some_iff.mp hrest).symm⟩ h
  · rfl

@[simp] theorem replaceAll_nil : replaceAll old new [] = [] := by rw [replaceAll]

/-- A text is read as replacing reads it: an occurrence in front is passed as a whole, any other
character by itself. -/
theorem replace_induction {motive : List Char → Prop} (h : old ≠ []) (nil : motive [])
    (occurrence : ∀ rest, motive rest → motive (old ++ rest))
    (other : ∀ c cs, ¬ old <+: c :: cs → motive cs → motive (c :: cs)) :
    ∀ s, motive s
  | [] => nil
  | c :: cs => by
    by_cases hold : old <+: c :: cs
    · obtain ⟨rest, hrest⟩ := hold
      rw [← hrest]
      have hpos := List.length_pos_iff.mpr h
      have hlen : old.length + rest.length = cs.length + 1 := by
        simpa using congrArg List.length hrest
      exact occurrence rest (replace_induction h nil occurrence other rest)
    · exact other c cs hold (replace_induction h nil occurrence other cs)
termination_by s => s.length

/-- Where the phrase does not occur nothing is replaced. -/
theorem replaceAll_of_absent (h : ¬ old <:+: s) : replaceAll old new s = s := by
  induction s with
  | nil => exact replaceAll_nil
  | cons c cs ih =>
    rw [List.infix_cons_iff, not_or] at h
    rw [replaceAll_cons new h.1, ih h.2]

/-- Where the phrase occurs the new phrase is in the result. -/
theorem replaceAll_puts (hne : old ≠ []) (h : old <:+: s) : new <:+: replaceAll old new s := by
  induction s using replace_induction hne with
  | nil => exact absurd (List.infix_nil.mp h) hne
  | occurrence rest ih =>
    rw [replaceAll_append hne]
    exact (List.prefix_append new _).isInfix
  | other c cs hold ih =>
    rw [replaceAll_cons new hold]
    rw [List.infix_cons_iff] at h
    exact (ih (h.resolve_left hold)).trans (List.suffix_cons c _).isInfix

/-! ## Phrases that stand apart -/

/-- Behind the same first character an end of a phrase stands at the start of a text if the next
end does behind it. -/
theorem drop_prefix_cons {i : Nat} {c : Char} {cs cs' : List Char}
    (h : phrase.drop (i + 1) <+: cs → phrase.drop (i + 1) <+: cs')
    (hi : phrase.drop i <+: c :: cs) : phrase.drop i <+: c :: cs' := by
  cases hdrop : phrase.drop i with
  | nil => exact List.nil_prefix
  | cons a tail =>
    have htail : phrase.drop (i + 1) = tail := by
      rw [← List.drop_drop, hdrop]
      rfl
    rw [htail] at h
    rw [hdrop, List.cons_prefix_cons] at hi
    exact List.cons_prefix_cons.mpr ⟨hi.1, h hi.2⟩


/-- No end of the first phrase begins or is begun by the second phrase. -/
def EndsApart (phrase other : List Char) : Prop :=
  ∀ i < phrase.length, ¬ phrase.drop i <+: other ∧ ¬ other <+: phrase.drop i

instance (phrase other : List Char) : Decidable (EndsApart phrase other) :=
  inferInstanceAs (Decidable (∀ i < phrase.length, _ ∧ _))

/-- Two phrases that can neither overlap nor hold each other. -/
def Apart (phrase other : List Char) : Prop :=
  phrase ≠ [] ∧ EndsApart phrase other ∧ EndsApart other phrase

instance (phrase other : List Char) : Decidable (Apart phrase other) :=
  inferInstanceAs (Decidable (_ ∧ _ ∧ _))

/-- No end of a phrase reaches into a text that begins with a phrase apart from it. -/
theorem EndsApart.not_prefix_append (h : EndsApart phrase old) {i : Nat} (hi : i < phrase.length)
    (rest : List Char) : ¬ phrase.drop i <+: old ++ rest := by
  intro hprefix
  rcases List.prefix_or_prefix_of_prefix hprefix (List.prefix_append old rest) with hend | hend
  · exact (h i hi).1 hend
  · exact (h i hi).2 hend

/-- No occurrence begins within a phrase that is apart from it, whatever follows. -/
theorem EndsApart.not_prefix_drop_append (h : EndsApart phrase old) {i : Nat}
    (hi : i < phrase.length) (rest : List Char) : ¬ old <+: phrase.drop i ++ rest := by
  intro hprefix
  rcases List.prefix_or_prefix_of_prefix hprefix (List.prefix_append (phrase.drop i) rest) with
    hend | hend
  · exact (h i hi).2 hend
  · exact (h i hi).1 hend

/-- An occurrence in a text that begins with a phrase apart from it lies behind that phrase. -/
theorem not_infix_append {front rest : List Char}
    (hfront : ∀ i < front.length, ¬ old <+: front.drop i ++ rest) (hrest : ¬ old <:+: rest) :
    ¬ old <:+: front ++ rest := by
  induction front with
  | nil => exact hrest
  | cons c front ih =>
    rw [List.cons_append, List.infix_cons_iff, not_or]
    refine ⟨hfront 0 (Nat.succ_pos _), ih fun i hi => ?_⟩
    exact hfront (i + 1) (Nat.succ_lt_succ hi)

/-- An end of a phrase at the start of the result stood at the start of the text: replacing makes
no new one there. -/
theorem drop_prefix_of_replaceAll (hne : old ≠ []) (h : EndsApart phrase new) (s : List Char) :
    ∀ i, phrase.drop i <+: replaceAll old new s → phrase.drop i <+: s := by
  induction s using replace_induction hne with
  | nil =>
    intro i hi
    rwa [replaceAll_nil] at hi
  | occurrence rest ih =>
    intro i hi
    rw [replaceAll_append hne] at hi
    rcases Nat.lt_or_ge i phrase.length with hlt | hge
    · exact absurd hi (h.not_prefix_append hlt _)
    · rw [List.drop_eq_nil_of_le hge]
      exact List.nil_prefix
  | other c cs hold ih =>
    intro i hi
    rw [replaceAll_cons new hold] at hi
    exact drop_prefix_cons (ih (i + 1)) hi

/-- An end of a phrase at the start of the text is kept where the phrase is apart from the one that
is replaced. -/
theorem drop_prefix_replaceAll (hne : old ≠ []) (h : EndsApart phrase old) (new s : List Char) :
    ∀ i, phrase.drop i <+: s → phrase.drop i <+: replaceAll old new s := by
  induction s using replace_induction hne with
  | nil =>
    intro i hi
    rwa [replaceAll_nil]
  | occurrence rest ih =>
    intro i hi
    rcases Nat.lt_or_ge i phrase.length with hlt | hge
    · exact absurd hi (h.not_prefix_append hlt _)
    · rw [List.drop_eq_nil_of_le hge]
      exact List.nil_prefix
  | other c cs hold ih =>
    intro i hi
    rw [replaceAll_cons new hold]
    exact drop_prefix_cons (ih (i + 1)) hi

/-- **Other phrases stay**: a phrase that is apart from the one that is replaced still occurs. -/
theorem replaceAll_keeps (new : List Char) (h : Apart old phrase) (hs : phrase <:+: s) :
    phrase <:+: replaceAll old new s := by
  obtain ⟨hne, hold, hphrase⟩ := h
  induction s using replace_induction hne with
  | nil => rwa [replaceAll_nil]
  | occurrence rest ih =>
    rw [replaceAll_append hne]
    -- an occurrence in front holds no other phrase, so that this one stands behind it
    refine (ih (Classical.byContradiction fun hrest => ?_)).trans (List.suffix_append new _).isInfix
    exact not_infix_append (fun i hi => hold.not_prefix_drop_append hi rest) hrest hs
  | other c cs hnot ih =>
    have hfirst := drop_prefix_replaceAll hne hphrase new (c :: cs) 0
    rw [replaceAll_cons new hnot] at hfirst ⊢
    rw [List.infix_cons_iff] at hs ⊢
    exact hs.imp hfirst ih

/-- **A phrase replaced by one that is apart from it is gone.** -/
theorem replaceAll_removes (h : Apart old new) (s : List Char) :
    ¬ old <:+: replaceAll old new s := by
  obtain ⟨hne, hold, hnew⟩ := h
  induction s using replace_induction hne with
  | nil =>
    rw [replaceAll_nil]
    exact fun hnil => hne (List.infix_nil.mp hnil)
  | occurrence rest ih =>
    rw [replaceAll_append hne]
    exact not_infix_append (fun i hi => hnew.not_prefix_drop_append hi _) ih
  | other c cs hnot ih =>
    -- no occurrence begins here: the result would begin with one, and then the text did
    have hkept := replaceAll_cons new hnot
    have hfirst := drop_prefix_of_replaceAll hne hold (c :: cs) 0
    rw [hkept] at hfirst ⊢
    rw [List.infix_cons_iff, not_or]
    exact ⟨fun h => hnot (hfirst h), ih⟩

/-! ## Replacing back -/

/-- The phrase is not empty, and no two occurrences of it overlap. -/
def Unbordered (phrase : List Char) : Prop := phrase ≠ [] ∧ EndsApart phrase.tail phrase

instance (phrase : List Char) : Decidable (Unbordered phrase) :=
  inferInstanceAs (Decidable (_ ∧ _))

/-- Behind the same first character a phrase stands at the start of a text if its tail does behind
it. -/
theorem prefix_cons_of_tail {c : Char} {cs cs' : List Char}
    (h : phrase.tail <+: cs → phrase.tail <+: cs') (hphrase : phrase <+: c :: cs) :
    phrase <+: c :: cs' :=
  drop_prefix_cons (i := 0) (by rwa [List.drop_one]) hphrase

/-- **Replacing back.** A text that did not hold the new phrase is given back when the old one takes
its place again. -/
theorem replaceAll_restores (hne : old ≠ []) (h : Unbordered new) (habsent : ¬ new <:+: s) :
    replaceAll new old (replaceAll old new s) = s := by
  induction s using replace_induction hne with
  | nil => rw [replaceAll_nil, replaceAll_nil]
  | occurrence rest ih =>
    have hrest : ¬ new <:+: rest := fun hin =>
      habsent (hin.trans (List.suffix_append old rest).isInfix)
    rw [replaceAll_append hne, replaceAll_append h.1, ih hrest]
  | other c cs hnot ih =>
    rw [List.infix_cons_iff, not_or] at habsent
    -- the new phrase is made nowhere but in the place of the old one
    have hfirst : ¬ new <+: c :: replaceAll old new cs := fun hmade =>
      habsent.1 (prefix_cons_of_tail (drop_prefix_of_replaceAll hne h.2 cs 0) hmade)
    rw [replaceAll_cons new hnot, replaceAll_cons old hfirst, ih habsent.2]

/-! ## What replacing leaves -/

/-- Where the new phrase holds all of the old one, nothing is taken from the text. -/
theorem sublist_replaceAll (hne : old ≠ []) (h : old.Sublist new) (s : List Char) :
    s.Sublist (replaceAll old new s) := by
  induction s using replace_induction hne with
  | nil => exact List.nil_sublist _
  | occurrence rest ih =>
    rw [replaceAll_append hne]
    exact h.append ih
  | other c cs hnot ih =>
    rw [replaceAll_cons new hnot]
    exact ih.cons_cons c

/-- The second text is the first one with the phrase `old` replaced by `new`: both are made of the
same pieces, none of which holds `old`, and between these stands the one phrase or the other. -/
inductive Replaced (old new : List Char) : (before after : List Char) → Prop where
  /-- The last piece. -/
  | last {p : List Char} (h : ¬ old <:+: p) : Replaced old new p p
  /-- A piece, and the phrase behind it. -/
  | next {p s t : List Char} (h : ¬ old <:+: p) (hrest : Replaced old new s t) :
      Replaced old new (p ++ (old ++ s)) (p ++ (new ++ t))

/-- One more character in front, where no occurrence begins. -/
theorem Replaced.cons {t : List Char} {c : Char} (h : Replaced old new s t)
    (hnot : ¬ old <+: c :: s) : Replaced old new (c :: s) (c :: t) := by
  cases h with
  | last h =>
    refine .last ?_
    rw [List.infix_cons_iff, not_or]
    exact ⟨hnot, h⟩
  | @next p s t h hrest =>
    refine .next (p := c :: p) ?_ hrest
    rw [List.infix_cons_iff, not_or]
    exact ⟨fun hold => hnot (hold.trans (List.prefix_append (c :: p) (old ++ s))), h⟩

end Text

end Testbench
