/-!
# Reading octets as text

Octets that a program printed are read as UTF-8. Where they are no UTF-8, every longest piece
that could still have begun a character is shown as one replacement character.

- `Text.leadOf?`: what the first octet of a character announces.
- `Text.decodeLossy`: the text of any list of octets.
-/

namespace Testbench

namespace Text

/-- A character that has begun: the octets still owed, the bounds of the next one, and the value
of the bits read so far. -/
structure Pending where
  owed : Nat
  low : UInt8
  high : UInt8
  value : Nat
  deriving DecidableEq, Repr

/-- What the first octet of a character of two octets or more announces; `none` for an octet
that begins no such character. -/
def leadOf? (b : UInt8) : Option Pending :=
  let n := b.toNat
  if 0xC2 ≤ n && n ≤ 0xDF then some ⟨1, 0x80, 0xBF, n - 0xC0⟩
  else if n == 0xE0 then some ⟨2, 0xA0, 0xBF, n - 0xE0⟩
  else if n == 0xED then some ⟨2, 0x80, 0x9F, n - 0xE0⟩
  else if 0xE1 ≤ n && n ≤ 0xEF then some ⟨2, 0x80, 0xBF, n - 0xE0⟩
  else if n == 0xF0 then some ⟨3, 0x90, 0xBF, n - 0xF0⟩
  else if 0xF1 ≤ n && n ≤ 0xF3 then some ⟨3, 0x80, 0xBF, n - 0xF0⟩
  else if n == 0xF4 then some ⟨3, 0x80, 0x8F, n - 0xF0⟩
  else none

/-- The character shown in place of octets that are no UTF-8. -/
def replacement : Char := '\uFFFD'

/-- What stands before the next octet: the character of an octet that is one by itself, a
replacement for an octet that can begin nothing, or a character that has begun. -/
def begin (b : UInt8) : List Char × Option Pending :=
  if b < 0x80 then ([Char.ofNat b.toNat], none)
  else match leadOf? b with
    | some p => ([], some p)
    | none => ([replacement], none)

/-- The text of the octets after a character that may have begun. -/
def decodeFrom : Option Pending → List UInt8 → List Char
  | none, [] => []
  | some _, [] => [replacement]
  | none, b :: bs => (begin b).1 ++ decodeFrom (begin b).2 bs
  | some p, b :: bs =>
    if p.low ≤ b && b ≤ p.high then
      let value := p.value * 64 + (b.toNat - 0x80)
      if p.owed ≤ 1 then Char.ofNat value :: decodeFrom none bs
      else decodeFrom (some ⟨p.owed - 1, 0x80, 0xBF, value⟩) bs
    else replacement :: ((begin b).1 ++ decodeFrom (begin b).2 bs)

/-- The text of any list of octets. -/
def decodeLossy (octets : List UInt8) : List Char := decodeFrom none octets

end Text

end Testbench
