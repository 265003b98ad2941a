import Mathlib.Data.List.TakeDrop
import Testbench.Proofs.Json.Grammar

/-!
# Reading JSON

The reader finds a value in each of its written forms, so that no text spells two values. What comes
behind a value in a container is a blank, a comma or a closing bracket; a number ends there, and all
other values end by themselves.

- `readChars_of_spellsChars`, `Numeral.read_of_spells`: texts and numbers.
- `Ends`: the text goes on with no part of a number.
- `readValue_of_spells`: values. There is fuel enough where there is more of it than text.
- `read_of_spells`: whole texts.
- `eq_of_spells`: a text spells one value at most.
-/

namespace Testbench

namespace Json

/-! ## Reading blanks -/

theorem isGap_nil : IsGap [] := by simp [IsGap]

theorem skipGaps_append {w : List Char} (h : IsGap w) (s : List Char) :
    skipGaps (w ++ s) = skipGaps s := by
  unfold skipGaps
  induction w with
  | nil => rfl
  | cons c w ih =>
    obtain ⟨hc, hw⟩ := List.forall_mem_cons.mp h
    rw [List.cons_append, List.dropWhile_cons_of_pos hc, ih hw]

theorem skipGaps_cons {c : Char} (h : isGap c = false) (s : List Char) :
    skipGaps (c :: s) = c :: s :=
  List.dropWhile_cons_of_neg (by simp [h])

/-- Blanks in front of a token are skipped. -/
theorem skipGaps_token {w : List Char} (hw : IsGap w) {c : Char} (hc : isGap c = false)
    (s : List Char) : skipGaps (w ++ c :: s) = c :: s := by
  rw [skipGaps_append hw, skipGaps_cons hc]

/-! ## Reading texts -/

/-- A character is read in each of its written forms. -/
theorem readChars_of_spellsChar {c : Char} {a : List Char} (h : SpellsChar c a) (s : List Char) :
    readChars (a ++ s) = (readChars s).map (push c) := by
  rw [readChars.eq_def]
  cases h with
  | plain quote backslash control => simp [quote, backslash, Nat.not_lt.mpr control]
  | letter h =>
    have hall : ∀ p ∈ letters, p.1 ≠ 'u' ∧ unescape? p.1 = some p.2 := by decide
    obtain ⟨hu, hc⟩ := hall _ h
    dsimp only at hu hc
    simp [hu, hc]
  | unit h high low => simp [h, high, low]
  | pair h h' high low => simp [h, h', high, low]

theorem readChars_of_spellsChars : ∀ {cs body : List Char}, SpellsChars cs body →
    ∀ s, readChars (body ++ '"' :: s) = some (cs, s)
  | [], _, h, s => by
    rw [h, List.nil_append, readChars.eq_def]
    rfl
  | c :: cs, _, ⟨a, b, hc, hcs, h⟩, s => by
    rw [h, List.append_assoc, readChars_of_spellsChar hc, readChars_of_spellsChars hcs]
    rfl

/-! ## Reading numbers -/

/-- The text goes on with a token that is no part of a number, or ends. -/
def Ends (s : List Char) : Prop := ∀ c ∈ s.head?, isGap c = true ∨ c = ',' ∨ c = ']' ∨ c = '\x7d'

theorem Ends.head {c : Char} {s : List Char} (h : Ends (c :: s)) :
    Text.isAsciiDigit c = false ∧ c ≠ '.' ∧ c ≠ 'e' ∧ c ≠ 'E' := by
  have hc := h c (by simp)
  simp only [isGap, Bool.or_eq_true, beq_iff_eq] at hc
  rcases hc with (((rfl | rfl) | rfl) | rfl) | rfl | rfl | rfl <;> decide

/-- Text that does not go on with a digit. -/
def NoDigit (s : List Char) : Prop := ∀ c ∈ s.head?, Text.isAsciiDigit c = false

theorem noDigit_cons_iff {c : Char} {s : List Char} :
    NoDigit (c :: s) ↔ Text.isAsciiDigit c = false := by
  simp [NoDigit]

theorem spanDigits_append {ds s : List Char} (hds : ∀ c ∈ ds, Text.isAsciiDigit c = true)
    (hs : NoDigit s) : spanDigits (ds ++ s) = (ds, s) := by
  unfold spanDigits
  rw [List.span_eq_takeWhile_dropWhile, List.takeWhile_append_of_pos hds,
    List.dropWhile_append_of_pos hds]
  cases s with
  | nil => simp
  | cons c s =>
    have hc : Text.isAsciiDigit c = false := hs c (by simp)
    rw [List.takeWhile_cons_of_neg (by simp [hc]), List.dropWhile_cons_of_neg (by simp [hc]),
      List.append_nil]

theorem readWhole_of_spells {n : Nat} {ds s : List Char} (h : SpellsWhole n ds) (hs : NoDigit s) :
    readWhole (ds ++ s) = some (n, s) := by
  obtain ⟨⟨hne, hds⟩, hzero, rfl⟩ := h
  obtain ⟨d, ds, rfl⟩ := List.exists_cons_of_ne_nil hne
  unfold readWhole
  by_cases hd : d = '0'
  · subst hd
    rw [hzero rfl]
    rfl
  · have hspan := spanDigits_append hds hs
    rw [List.cons_append] at hspan ⊢
    split
    · next heq =>
      injection heq with heq
      exact absurd heq hd
    · rw [hspan]

theorem readPlaces_of_spells {places : List (Fin 10)} {p s : List Char} (h : SpellsPlaces places p)
    (hs : NoDigit s) (hpoint : s.head? ≠ some '.') : readPlaces (p ++ s) = some (places, s) := by
  rcases h with ⟨rfl, rfl⟩ | ⟨ds, ⟨hne, hds⟩, rfl, rfl⟩
  · rw [List.nil_append]
    unfold readPlaces
    split
    · simp at hpoint
    · rfl
  · obtain ⟨d, ds, rfl⟩ := List.exists_cons_of_ne_nil hne
    rw [List.cons_append, readPlaces, spanDigits_append hds hs]

theorem Ends.noDigit {s : List Char} (h : Ends s) : NoDigit s := by
  cases s with
  | nil => simp [NoDigit]
  | cons c s => exact noDigit_cons_iff.mpr h.head.1

/-- Digits stand for no sign. -/
theorem IsRun.exists_cons {ds : List Char} (h : IsRun ds) :
    ∃ d rest, ds = d :: rest ∧ d ≠ '-' ∧ d ≠ '+' := by
  obtain ⟨d, rest, rfl⟩ := List.exists_cons_of_ne_nil h.1
  have hd := h.2 d (List.mem_cons_self ..)
  refine ⟨d, rest, rfl, ?_, ?_⟩ <;> (rintro rfl; revert hd; decide)

theorem readExponent_of_spells {power : Option Int} {p s : List Char} (h : SpellsPower power p)
    (hs : Ends s) : readExponent (p ++ s) = some (power, s) := by
  rcases h with ⟨rfl, rfl⟩ | ⟨mark, sign, ds, hmark, hsign, hds, rfl, rfl⟩
  · cases s with
    | nil => rfl
    | cons c s =>
      obtain ⟨-, -, hsmall, hlarge⟩ := hs.head
      simp [readExponent.eq_def, hsmall, hlarge]
  · have hspan := spanDigits_append hds.2 hs.noDigit
    obtain ⟨d, rest, rfl, hminus, hplus⟩ := hds.exists_cons
    rw [List.cons_append] at hspan
    rcases hsign with rfl | rfl | rfl <;>
      simp [readExponent.eq_def, hmark, hspan, hminus, hplus]

/-- A power of ten, where there is one, starts with its mark. -/
theorem SpellsPower.head {power : Option Int} {p s : List Char} (h : SpellsPower power p)
    (hs : Ends s) : NoDigit (p ++ s) ∧ (p ++ s).head? ≠ some '.' := by
  rcases h with ⟨-, rfl⟩ | ⟨mark, sign, ds, hmark, -, -, rfl, -⟩
  · refine ⟨hs.noDigit, ?_⟩
    cases s with
    | nil => simp
    | cons c s =>
      have := hs.head.2.1
      simpa
  · rcases hmark with rfl | rfl <;> exact ⟨noDigit_cons_iff.mpr (by decide), by simp⟩

theorem SpellsPlaces.noDigit {places : List (Fin 10)} {p s : List Char}
    (h : SpellsPlaces places p) (hs : NoDigit s) : NoDigit (p ++ s) := by
  rcases h with ⟨-, rfl⟩ | ⟨ds, -, -, rfl⟩
  · exact hs
  · exact noDigit_cons_iff.mpr (by decide)

/-- A number is read in each of its written forms. -/
theorem Numeral.read_of_spells {n : Numeral} {s : List Char} (h : n.Spells s) {rest : List Char}
    (hrest : Ends rest) : Numeral.read (s ++ rest) = some (n, rest) := by
  obtain ⟨whole, places, power, hwhole, hplaces, hpower, rfl⟩ := h
  -- what follows the digits of a part is the mark of the next one, or no part of the number
  obtain ⟨hdigit, hpoint⟩ := hpower.head hrest
  have hpower' := readExponent_of_spells hpower hrest
  have hplaces' := readPlaces_of_spells hplaces hdigit hpoint
  have hwhole' := readWhole_of_spells hwhole (hplaces.noDigit hdigit)
  obtain ⟨d, ds, rfl, hminus, -⟩ := hwhole.1.exists_cons
  rw [List.cons_append] at hwhole'
  obtain ⟨negative, w, ps, e⟩ := n
  unfold Numeral.read
  cases negative with
  | true => simp [hwhole', hplaces', hpower']
  | false => simp [hwhole', hplaces', hpower', hminus]

/-! ## Reading values -/

theorem isGap_of_number {c : Char} (hc : c = '-' ∨ Text.isAsciiDigit c = true) :
    isGap c = false := by
  rcases hc with rfl | hc
  · rfl
  · refine Bool.eq_false_iff.mpr fun h => ?_
    simp only [isGap, Bool.or_eq_true, beq_iff_eq] at h
    rcases h with ((rfl | rfl) | rfl) | rfl <;> exact absurd hc (by decide)

/-- What starts like a number is read as one. -/
theorem readValue_number {c : Char} (hc : c = '-' ∨ Text.isAsciiDigit c = true) (fuel : Nat)
    (s : List Char) {w : List Char} (hw : IsGap w) :
    readValue (fuel + 1) (w ++ c :: s) =
      (Numeral.read (c :: s)).map fun (n, rest) => (.number n, rest) := by
  rw [readValue, skipGaps_token hw (isGap_of_number hc)]
  split
  case h_7 => rfl
  all_goals
    rename_i heq
    injection heq with heq
    subst heq
    exact absurd hc (by decide)

theorem Numeral.Spells.exists_cons {n : Numeral} {s : List Char} (h : n.Spells s) :
    ∃ c rest, s = c :: rest ∧ (c = '-' ∨ Text.isAsciiDigit c = true) := by
  obtain ⟨whole, places, power, hwhole, -, -, rfl⟩ := h
  obtain ⟨d, ds, rfl⟩ := List.exists_cons_of_ne_nil hwhole.1.1
  cases n.negative with
  | true => exact ⟨'-', _, rfl, .inl rfl⟩
  | false => exact ⟨d, _, rfl, .inr (hwhole.1.2 d (List.mem_cons_self ..))⟩

/-- What follows a value in a container is no part of a number. -/
theorem ends_append {w : List Char} (hw : IsGap w) {c : Char}
    (hc : c = ',' ∨ c = ']' ∨ c = '\x7d') (s : List Char) : Ends (w ++ c :: s) := by
  cases w with
  | nil => simpa [Ends] using Or.inr hc
  | cons g w => simpa [Ends] using Or.inl (hw g (List.mem_cons_self ..))

theorem SpellsItems.ends {js : List Json} {items w : List Char} (h : SpellsItems js items)
    (hw : IsGap w) (s : List Char) : Ends (items ++ (w ++ ']' :: s)) := by
  cases js with
  | nil =>
    rw [SpellsItems] at h
    rw [h]
    exact ends_append hw (.inr (.inl rfl)) s
  | cons j js =>
    obtain ⟨w', w'', v, items, hw', -, -, -, rfl⟩ := h
    rw [List.append_assoc, List.cons_append]
    exact ends_append hw' (.inl rfl) _

theorem SpellsMembers.ends {ms : List (String × Json)} {members w : List Char}
    (h : SpellsMembers ms members) (hw : IsGap w) (s : List Char) :
    Ends (members ++ (w ++ '\x7d' :: s)) := by
  cases ms with
  | nil =>
    rw [SpellsMembers] at h
    rw [h]
    exact ends_append hw (.inr (.inr rfl)) s
  | cons m ms =>
    obtain ⟨w', w'', k, v, members, hw', -, -, -, -, rfl⟩ := h
    rw [List.append_assoc, List.cons_append]
    exact ends_append hw' (.inl rfl) _

section Tokens

/-! What the reader does once the first token is known. -/

variable (fuel : Nat) {w w' : List Char} (hw : IsGap w) (hw' : IsGap w') (s : List Char)

include hw

theorem readValue_quote :
    readValue (fuel + 1) (w ++ '"' :: s) =
      (readChars s).map fun (t, rest) => (.string (String.ofList t), rest) := by
  rw [readValue, skipGaps_token hw rfl]
  rfl

theorem readItems_end : readItems (fuel + 1) (w ++ ']' :: s) = some ([], s) := by
  rw [readItems, skipGaps_token hw rfl]
  rfl

theorem readItems_comma :
    readItems (fuel + 1) (w ++ ',' :: s) = do
      let (item, rest) ← readValue fuel s
      let (items, rest) ← readItems fuel rest
      return (item :: items, rest) := by
  rw [readItems, skipGaps_token hw rfl]
  rfl

theorem readMembers_end : readMembers (fuel + 1) (w ++ '\x7d' :: s) = some ([], s) := by
  rw [readMembers, skipGaps_token hw rfl]
  rfl

theorem readMembers_comma :
    readMembers (fuel + 1) (w ++ ',' :: s) = do
      let (member, rest) ← readMember fuel s
      let (members, rest) ← readMembers fuel rest
      return (member :: members, rest) := by
  rw [readMembers, skipGaps_token hw rfl]
  rfl

include hw'

theorem readValue_emptyArray :
    readValue (fuel + 1) (w ++ '[' :: (w' ++ ']' :: s)) = some (.array [], s) := by
  have hclose : skipGaps (w' ++ ']' :: s) = ']' :: s := skipGaps_token hw' rfl s
  rw [readValue, skipGaps_token hw rfl]
  simp only [hclose]

theorem readValue_array {c : Char} (hc : isGap c = false) (hne : c ≠ ']') :
    readValue (fuel + 1) (w ++ '[' :: (w' ++ c :: s)) = do
      let (item, rest) ← readValue fuel (w' ++ c :: s)
      let (items, rest) ← readItems fuel rest
      return (.array (item :: items), rest) := by
  rw [readValue, skipGaps_token hw rfl]
  simp only [skipGaps_token hw' hc]
  split
  · next heq =>
    injection heq with heq
    exact absurd heq hne
  · rfl

theorem readValue_emptyObject :
    readValue (fuel + 1) (w ++ '\x7b' :: (w' ++ '\x7d' :: s)) = some (.object [], s) := by
  have hclose : skipGaps (w' ++ '\x7d' :: s) = '\x7d' :: s := skipGaps_token hw' rfl s
  rw [readValue, skipGaps_token hw rfl]
  simp only [hclose]

theorem readValue_object :
    readValue (fuel + 1) (w ++ '\x7b' :: (w' ++ '"' :: s)) = do
      let (member, rest) ← readMember fuel (w' ++ '"' :: s)
      let (members, rest) ← readMembers fuel rest
      return (.object (member :: members), rest) := by
  have hquote : skipGaps (w' ++ '"' :: s) = '"' :: s := skipGaps_token hw' rfl s
  rw [readValue, skipGaps_token hw rfl]
  simp only [hquote]
  rfl

end Tokens

/-- A key is read in each of its written forms, with the colon behind it; then its value is read. -/
theorem readMember_of_spells {key : String} {j : Json} {k s rest : List Char} {fuel : Nat}
    (h : SpellsKey key k) (hvalue : ∀ w, IsGap w → readValue fuel (w ++ s) = some (j, rest))
    {w : List Char} (hw : IsGap w) :
    readMember (fuel + 1) (w ++ (k ++ s)) = some ((key, j), rest) := by
  obtain ⟨q, w₁, w₂, ⟨body, hbody, rfl⟩, hw₁, hw₂, rfl⟩ := h
  have hchars := readChars_of_spellsChars hbody (w₁ ++ ':' :: (w₂ ++ s))
  have hcolon : skipGaps (w₁ ++ ':' :: (w₂ ++ s)) = ':' :: (w₂ ++ s) := skipGaps_token hw₁ rfl _
  simp only [List.cons_append, List.append_assoc, List.nil_append]
  rw [readMember, skipGaps_token hw rfl]
  simp [hchars, hcolon, hvalue w₂ hw₂]

theorem SpellsKey.exists_cons {key : String} {k : List Char} (h : SpellsKey key k) :
    ∃ rest, k = '"' :: rest := by
  obtain ⟨q, w, w', ⟨body, -, rfl⟩, -, -, rfl⟩ := h
  exact ⟨_, rfl⟩

theorem SpellsKey.length_pos {key : String} {k : List Char} (h : SpellsKey key k) :
    0 < k.length := by
  obtain ⟨rest, rfl⟩ := h.exists_cons
  exact Nat.succ_pos _

/-- No value starts with a blank or with the bracket that closes an array. -/
theorem Spells.exists_cons : ∀ {j : Json} {s : List Char}, j.Spells s →
    ∃ c rest, s = c :: rest ∧ isGap c = false ∧ c ≠ ']'
  | .null, _, h => by
    rw [Spells] at h
    exact ⟨_, _, h, rfl, by decide⟩
  | .bool true, _, h => by
    rw [Spells] at h
    exact ⟨_, _, h, rfl, by decide⟩
  | .bool false, _, h => by
    rw [Spells] at h
    exact ⟨_, _, h, rfl, by decide⟩
  | .number n, _, h => by
    rw [Spells] at h
    obtain ⟨c, rest, rfl, hc⟩ := h.exists_cons
    refine ⟨c, rest, rfl, isGap_of_number hc, ?_⟩
    rintro rfl
    exact absurd hc (by decide)
  | .string t, _, h => by
    rw [Spells] at h
    obtain ⟨body, -, rfl⟩ := h
    exact ⟨_, _, rfl, rfl, by decide⟩
  | .array [], _, h => by
    rw [Spells] at h
    obtain ⟨w, -, rfl⟩ := h
    exact ⟨_, _, rfl, rfl, by decide⟩
  | .array (_ :: _), _, h => by
    rw [Spells] at h
    obtain ⟨w, v, items, w', -, -, -, -, rfl⟩ := h
    exact ⟨_, _, rfl, rfl, by decide⟩
  | .object [], _, h => by
    rw [Spells] at h
    obtain ⟨w, -, rfl⟩ := h
    exact ⟨_, _, rfl, rfl, by decide⟩
  | .object ((_, _) :: _), _, h => by
    rw [Spells] at h
    obtain ⟨w, k, v, members, w', -, -, -, -, -, rfl⟩ := h
    exact ⟨_, _, rfl, rfl, by decide⟩

mutual

/-- A value is read in each of its written forms, whatever the blanks in front of it. -/
theorem readValue_of_spells : ∀ (j : Json) (fuel : Nat) {s w rest : List Char}, j.Spells s →
    IsGap w → Ends rest → s.length < fuel → readValue fuel (w ++ (s ++ rest)) = some (j, rest)
  | j, 0, s, w, rest, _, _, _, hfuel => absurd hfuel (Nat.not_lt_zero _)
  | .null, fuel + 1, s, w, rest, h, hw, _, _ => by
    rw [Spells] at h
    rw [h, List.cons_append, readValue, skipGaps_token hw rfl]
    rfl
  | .bool true, fuel + 1, s, w, rest, h, hw, _, _ => by
    rw [Spells] at h
    rw [h, List.cons_append, readValue, skipGaps_token hw rfl]
    rfl
  | .bool false, fuel + 1, s, w, rest, h, hw, _, _ => by
    rw [Spells] at h
    rw [h, List.cons_append, readValue, skipGaps_token hw rfl]
    rfl
  | .number n, fuel + 1, s, w, rest, h, hw, hrest, _ => by
    rw [Spells] at h
    obtain ⟨c, s', rfl, hc⟩ := h.exists_cons
    rw [List.cons_append, readValue_number hc fuel _ hw, ← List.cons_append,
      Numeral.read_of_spells h hrest]
    rfl
  | .string t, fuel + 1, s, w, rest, h, hw, _, _ => by
    rw [Spells] at h
    obtain ⟨body, hbody, rfl⟩ := h
    rw [List.cons_append, List.append_assoc, List.singleton_append, readValue_quote fuel hw,
      readChars_of_spellsChars hbody, Option.map_some]
    dsimp only
    rw [String.ofList_toList]
  | .array [], fuel + 1, s, w, rest, h, hw, _, _ => by
    rw [Spells] at h
    obtain ⟨w', hw', rfl⟩ := h
    rw [List.cons_append, List.append_assoc, List.singleton_append,
      readValue_emptyArray fuel hw hw']
  | .array (j :: js), fuel + 1, s, w, rest, h, hw, _, hfuel => by
    rw [Spells] at h
    obtain ⟨w₁, v, items, w₂, hw₁, hv, hitems, hw₂, rfl⟩ := h
    simp only [List.length_cons, List.length_append] at hfuel
    have hvalue := readValue_of_spells j fuel hv hw₁ (hitems.ends hw₂ rest) (by omega)
    have hrest := readItems_of_spells js fuel hitems hw₂ rest (by omega)
    obtain ⟨c, v, rfl, hc, hne⟩ := hv.exists_cons
    simp only [List.cons_append, List.append_assoc, List.nil_append] at hvalue hrest ⊢
    rw [readValue_array fuel hw hw₁ _ hc hne, hvalue]
    simp [hrest]
  | .object [], fuel + 1, s, w, rest, h, hw, _, _ => by
    rw [Spells] at h
    obtain ⟨w', hw', rfl⟩ := h
    rw [List.cons_append, List.append_assoc, List.singleton_append,
      readValue_emptyObject fuel hw hw']
  | .object ((key, j) :: ms), fuel + 1, s, w, rest, h, hw, _, hfuel => by
    rw [Spells] at h
    obtain ⟨w₁, k, v, members, w₂, hw₁, hk, hv, hmembers, hw₂, rfl⟩ := h
    simp only [List.length_cons, List.length_append] at hfuel
    obtain ⟨fuel, rfl⟩ := Nat.exists_eq_add_of_le' (show 1 ≤ fuel by omega)
    have hmember := readMember_of_spells (s := v ++ (members ++ (w₂ ++ '\x7d' :: rest))) hk
      (fun w hw => readValue_of_spells j fuel hv hw (hmembers.ends hw₂ rest) (by omega))
      hw₁
    have hrest := readMembers_of_spells ms (fuel + 1) hmembers hw₂ rest (by omega)
    obtain ⟨k, rfl⟩ := hk.exists_cons
    simp only [List.cons_append, List.append_assoc, List.nil_append] at hmember hrest ⊢
    rw [readValue_object _ hw hw₁, hmember]
    simp [hrest]

/-- The further items of an array are read up to the closing bracket. -/
theorem readItems_of_spells : ∀ (js : List Json) (fuel : Nat) {s w : List Char},
    SpellsItems js s → IsGap w → (rest : List Char) → s.length < fuel →
    readItems fuel (s ++ (w ++ ']' :: rest)) = some (js, rest)
  | js, 0, s, w, _, _, _, hfuel => absurd hfuel (Nat.not_lt_zero _)
  | [], fuel + 1, s, w, h, hw, rest, _ => by
    rw [SpellsItems] at h
    rw [h, List.nil_append, readItems_end fuel hw]
  | j :: js, fuel + 1, s, w, h, hw, rest, hfuel => by
    rw [SpellsItems] at h
    obtain ⟨w₁, w₂, v, items, hw₁, hw₂, hv, hitems, rfl⟩ := h
    simp only [List.length_cons, List.length_append] at hfuel
    have hvalue := readValue_of_spells j fuel hv hw₂ (hitems.ends hw rest) (by omega)
    have hrest := readItems_of_spells js fuel hitems hw rest (by omega)
    simp only [List.append_assoc, List.cons_append]
    rw [readItems_comma fuel hw₁, hvalue]
    simp [hrest]

/-- The further members of an object are read up to the closing bracket. -/
theorem readMembers_of_spells : ∀ (ms : List (String × Json)) (fuel : Nat) {s w : List Char},
    SpellsMembers ms s → IsGap w → (rest : List Char) → s.length < fuel →
    readMembers fuel (s ++ (w ++ '\x7d' :: rest)) = some (ms, rest)
  | ms, 0, s, w, _, _, _, hfuel => absurd hfuel (Nat.not_lt_zero _)
  | [], fuel + 1, s, w, h, hw, rest, _ => by
    rw [SpellsMembers] at h
    rw [h, List.nil_append, readMembers_end fuel hw]
  | (key, j) :: ms, fuel + 1, s, w, h, hw, rest, hfuel => by
    rw [SpellsMembers] at h
    obtain ⟨w₁, w₂, k, v, members, hw₁, hw₂, hk, hv, hmembers, rfl⟩ := h
    simp only [List.length_cons, List.length_append] at hfuel
    have hpos := hk.length_pos
    obtain ⟨fuel, rfl⟩ := Nat.exists_eq_add_of_le' (show 1 ≤ fuel by omega)
    have hmember := readMember_of_spells (s := v ++ (members ++ (w ++ '\x7d' :: rest))) hk
      (fun w' hw' => readValue_of_spells j fuel hv hw' (hmembers.ends hw rest) (by omega))
      hw₂
    have hrest := readMembers_of_spells ms (fuel + 1) hmembers hw rest (by omega)
    simp only [List.append_assoc, List.cons_append]
    rw [readMembers_comma _ hw₁, hmember]
    simp [hrest]

end

/-! ## Reading whole texts -/

/-- The reader finds a value in each of its written forms, with blanks around it. -/
theorem read_of_spells {j : Json} {s w w' : List Char} (h : j.Spells s) (hw : IsGap w)
    (hw' : IsGap w') : Json.read (String.ofList (w ++ (s ++ w'))) = some j := by
  have hends : Ends w' := by
    intro c hc
    exact .inl (hw' c (List.mem_of_mem_head? hc))
  have hvalue := readValue_of_spells j ((w ++ (s ++ w')).length + 1) h hw hends
    (by simp only [List.length_append]; omega)
  have hgap := skipGaps_append hw' []
  rw [List.append_nil] at hgap
  unfold Json.read
  rw [String.toList_ofList]
  dsimp only
  rw [hvalue]
  exact if_pos hgap

/-- A text spells one value at most. -/
theorem eq_of_spells {j j' : Json} {s : List Char} (h : j.Spells s) (h' : j'.Spells s) : j = j' := by
  have hread := read_of_spells h isGap_nil isGap_nil
  rw [read_of_spells h' isGap_nil isGap_nil] at hread
  exact (Option.some.inj hread).symm

end Json

end Testbench
