import Testbench.Json.Printer
import Testbench.Proofs.Json.Reading

/-!
# Writing JSON

What the printer puts out for a value is one of the written forms of that value, in every layout
that only adds blanks. Reading it back therefore gives the value, and different values are written
differently.

- `spellsChar_escape`, `Numeral.spells_write`: characters and numbers.
- `Layout.IsBlank`: the layout only adds blanks.
- `spells_write`: values.
- `read_pretty`: whole texts.
-/

namespace Testbench

namespace Json

/-! ## Numbers -/

theorem isAsciiDigit_eq (c : Char) : Text.isAsciiDigit c = c.isDigit := by
  unfold Text.isAsciiDigit Char.isDigit
  rfl

theorem isRun_digits (n : Nat) : IsRun (digits n) := by
  refine ⟨Nat.toDigits_ne_nil, fun c hc => ?_⟩
  rw [isAsciiDigit_eq]
  exact Nat.isDigit_of_mem_toDigits (by decide) (by decide) hc

theorem numberOfDigits_digits (n : Nat) : Text.numberOfDigits (digits n) = n := by
  have h : Nat.ofDigitChars 10 (Nat.toDigits 10 n) 0 = n := Nat.ofDigitChars_ten_toDigits
  rw [Nat.ofDigitChars_eq_foldl] at h
  exact h

/-- Only zero itself is written with a zero in front. -/
theorem head?_digits (n : Nat) (hn : 0 < n) : (digits n).head? ≠ some '0' := by
  unfold digits
  by_cases hsmall : n < 10
  · rw [Nat.toDigits_of_lt_base hsmall]
    simpa [Nat.digitChar_eq_zero] using Nat.ne_of_gt hn
  · -- the digits of a tenth stand in front
    have ih := head?_digits (n / 10) (by omega)
    rw [Nat.toDigits_of_base_le (by decide) (by omega), List.head?_append]
    unfold digits at ih
    cases h : (Nat.toDigits 10 (n / 10)).head? with
    | none => exact absurd (List.head?_eq_none_iff.mp h) Nat.toDigits_ne_nil
    | some c =>
      rw [h] at ih
      exact ih

theorem spellsWhole_digits (n : Nat) : SpellsWhole n (digits n) := by
  refine ⟨isRun_digits n, fun h => ?_, numberOfDigits_digits n⟩
  cases n with
  | zero => rfl
  | succ n => exact absurd h (head?_digits (n + 1) (Nat.succ_pos n))

theorem digitOf_digitChar (d : Fin 10) : digitOf (Nat.digitChar d.val) = d := by
  revert d
  decide

theorem isAsciiDigit_digitChar (d : Fin 10) : Text.isAsciiDigit (Nat.digitChar d.val) = true := by
  revert d
  decide

theorem spellsPlaces_write (places : List (Fin 10)) :
    SpellsPlaces places
      (if places.isEmpty then [] else '.' :: places.map fun d => Nat.digitChar d.val) := by
  cases places with
  | nil => exact .inl ⟨rfl, rfl⟩
  | cons d ds =>
    refine .inr ⟨(d :: ds).map fun d => Nat.digitChar d.val, ⟨by simp, ?_⟩, ?_, rfl⟩
    · intro c hc
      obtain ⟨d, -, rfl⟩ := List.mem_map.mp hc
      exact isAsciiDigit_digitChar d
    · rw [List.map_map]
      exact (List.map_id'' digitOf_digitChar _).symm

theorem spellsPower_write (e : Int) :
    SpellsPower (some e) ('e' :: (if e < 0 then '-' else '+') :: digits e.natAbs) := by
  refine .inr ⟨'e', [if e < 0 then '-' else '+'], digits e.natAbs, .inl rfl, ?_, isRun_digits _,
    rfl, ?_⟩
  · split <;> simp
  · rw [numberOfDigits_digits]
    refine congrArg some ?_
    by_cases hneg : e < 0
    · rw [if_pos hneg, if_pos rfl]
      omega
    · rw [if_neg hneg, if_neg (by decide)]
      omega

theorem Numeral.spells_write (n : Numeral) : n.Spells n.write := by
  obtain ⟨negative, whole, places, power⟩ := n
  cases power with
  | none =>
    exact ⟨_, _, [], spellsWhole_digits whole, spellsPlaces_write places, .inl ⟨rfl, rfl⟩,
      by simp [Numeral.write]⟩
  | some e =>
    exact ⟨_, _, _, spellsWhole_digits whole, spellsPlaces_write places, spellsPower_write e,
      by simp [Numeral.write]⟩

/-! ## Texts -/

theorem hexWord?_hexDigit :
    ∀ n < 0x20, hexWord? '0' '0' (hexDigit (n / 16)) (hexDigit (n % 16)) = some n := by decide

theorem spellsChar_escape (c : Char) : SpellsChar c (escape c) := by
  unfold escape
  split
  · next h =>
    rw [h]
    exact .letter (by decide)
  split
  · next h =>
    rw [h]
    exact .letter (by decide)
  split
  · next h =>
    rw [h]
    exact .letter (by decide)
  split
  · next h =>
    rw [h]
    exact .letter (by decide)
  split
  · next h =>
    rw [h]
    exact .letter (by decide)
  split
  · next h =>
    rw [h]
    exact .letter (by decide)
  split
  · next h =>
    rw [h]
    exact .letter (by decide)
  split
  · next h =>
    -- control characters lie far below the surrogates
    have hunit := SpellsChar.unit (hexWord?_hexDigit c.toNat h)
      (by simp [isHighSurrogate]; omega) (by simp [isLowSurrogate]; omega)
    rwa [Char.ofNat_toNat] at hunit
  · next hquote hbackslash _ _ _ _ _ hcontrol => exact .plain hquote hbackslash (by omega)

theorem spellsChars_escape : ∀ cs : List Char, SpellsChars cs (cs.flatMap escape)
  | [] => rfl
  | c :: cs => ⟨escape c, cs.flatMap escape, spellsChar_escape c, spellsChars_escape cs, rfl⟩

theorem spellsString_quoted (t : String) : SpellsString t (quoted t) :=
  ⟨_, spellsChars_escape t.toList, rfl⟩

/-! ## Values -/

/-- The layout adds nothing but blanks to a value. -/
structure Layout.IsBlank (layout : Layout) : Prop where
  gap : ∀ depth, IsGap (layout.gap depth)
  colon : ∃ w, IsGap w ∧ layout.colon = ':' :: w

theorem Layout.isBlank_pretty : Layout.pretty.IsBlank where
  gap depth := by
    intro c hc
    rcases List.mem_cons.mp hc with rfl | hc
    · rfl
    · rw [List.eq_of_mem_replicate hc]
      rfl
  colon := ⟨[' '], by simp [IsGap, isGap], rfl⟩

section

variable {layout : Layout} (h : layout.IsBlank)

include h

theorem spellsKey_quoted (key : String) : SpellsKey key (quoted key ++ layout.colon) := by
  obtain ⟨w, hw, hcolon⟩ := h.colon
  exact ⟨quoted key, [], w, spellsString_quoted key, isGap_nil, hw, by rw [hcolon]; rfl⟩

mutual

/-- The printer puts out a written form of the value. -/
theorem spells_write : ∀ (depth : Nat) (j : Json), j.Spells (write layout depth j)
  | depth, .null => rfl
  | depth, .bool true => rfl
  | depth, .bool false => rfl
  | depth, .number n => n.spells_write
  | depth, .string t => spellsString_quoted t
  | depth, .array [] => ⟨[], isGap_nil, rfl⟩
  | depth, .array (j :: js) => by
    refine ⟨layout.gap (depth + 1), write layout (depth + 1) j, writeItems layout (depth + 1) js,
      layout.gap depth, h.gap _, spells_write (depth + 1) j, spells_writeItems (depth + 1) js,
      h.gap _, ?_⟩
    simp [write]
  | depth, .object [] => ⟨[], isGap_nil, rfl⟩
  | depth, .object ((key, j) :: ms) => by
    refine ⟨layout.gap (depth + 1), quoted key ++ layout.colon, write layout (depth + 1) j,
      writeMembers layout (depth + 1) ms, layout.gap depth, h.gap _, spellsKey_quoted h key,
      spells_write (depth + 1) j, spells_writeMembers (depth + 1) ms, h.gap _, ?_⟩
    simp [write]

theorem spells_writeItems : ∀ (depth : Nat) (js : List Json),
    SpellsItems js (writeItems layout depth js)
  | depth, [] => rfl
  | depth, j :: js => by
    refine ⟨[], layout.gap depth, write layout depth j, writeItems layout depth js, isGap_nil,
      h.gap _, spells_write depth j, spells_writeItems depth js, ?_⟩
    simp [writeItems]

theorem spells_writeMembers : ∀ (depth : Nat) (ms : List (String × Json)),
    SpellsMembers ms (writeMembers layout depth ms)
  | depth, [] => rfl
  | depth, (key, j) :: ms => by
    refine ⟨[], layout.gap depth, quoted key ++ layout.colon, write layout depth j,
      writeMembers layout depth ms, isGap_nil, h.gap _, spellsKey_quoted h key,
      spells_write depth j, spells_writeMembers depth ms, ?_⟩
    simp [writeMembers]

end

end

/-! ## Whole texts -/

theorem spells_pretty (j : Json) : j.Spells j.pretty.toList := by
  rw [pretty, String.toList_ofList]
  exact spells_write Layout.isBlank_pretty 0 j

/-- The reader gives back what was written, blanks behind it left out. -/
theorem read_pretty (j : Json) {w : List Char} (hw : IsGap w) :
    Json.read (j.pretty ++ String.ofList w) = some j := by
  have hread := read_of_spells (spells_pretty j) isGap_nil hw
  rwa [List.nil_append, String.ofList_append, String.ofList_toList] at hread

end Json

end Testbench
