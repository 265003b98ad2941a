/-!
# Blank characters

Which characters count as white space when a text is trimmed, tested for content, or searched
for a version number.

- `Text.isBlank`: the characters with the Unicode property `White_Space`.
- `Text.trim`: a text without the blanks at its two ends.
- `Text.isVoid`: a text that holds nothing but blanks.
-/

namespace Testbench

namespace Text

/-- The twenty-five characters with the Unicode property `White_Space`. -/
def isBlank (c : Char) : Bool :=
  let n := c.toNat
  (0x09 ≤ n && n ≤ 0x0D) || n == 0x20 || n == 0x85 || n == 0xA0 || n == 0x1680 ||
    (0x2000 ≤ n && n ≤ 0x200A) || n == 0x2028 || n == 0x2029 || n == 0x202F || n == 0x205F ||
    n == 0x3000

/-! ## Trimming -/

/-- The characters of a text without the blanks in front. -/
def trimFront (s : List Char) : List Char := s.dropWhile isBlank

/-- The characters of a text without the blanks behind. -/
def trimBack (s : List Char) : List Char := (trimFront s.reverse).reverse

/-- A text without the blanks at its two ends. -/
def trim (s : String) : String := String.ofList (trimBack (trimFront s.toList))

/-- A text that holds nothing but blanks, or nothing at all. -/
def isVoid (s : String) : Bool := s.toList.all isBlank

theorem trimFront_eq_nil_iff {s : List Char} : trimFront s = [] ↔ s.all isBlank = true := by
  induction s with
  | nil => simp [trimFront]
  | cons c s ih =>
    cases h : isBlank c
    · simp [trimFront, h]
    · rw [List.all_cons, h, Bool.true_and, ← ih]
      simp [trimFront, h]

theorem trimBack_eq_nil_iff {s : List Char} : trimBack s = [] ↔ s.all isBlank = true := by
  simp [trimBack, trimFront_eq_nil_iff]

end Text

end Testbench
