import Testbench.Text.Utf8

/-!
# Rows of octets

Programs pass on octets, which need not be UTF-8. A row is a text in which every character stands
for the octet of its number, so that texts can be cut, counted and compared octet by octet.

- `Text.Row`: a text of such characters.
- `Text.toRow`, `Text.ofRow`: to a row and back by way of UTF-8.
- `Text.rowOfOctets`, `Text.octetsOfRow`: rows as plain octets.
-/

namespace Testbench

namespace Text

/-- A text in which every character stands for the octet of its number. -/
abbrev Row := String

/-- The row of some octets. -/
def rowOfOctets (octets : List UInt8) : Row :=
  String.ofList (octets.map fun o => Char.ofNat o.toNat)

/-- The octets of a row. -/
def octetsOfRow (r : Row) : List UInt8 := r.toList.map fun c => UInt8.ofNat c.toNat

/-- The octets of a row in one array. -/
def bytesOfRow (r : Row) : ByteArray := ⟨(octetsOfRow r).toArray⟩

/-- The row of the octets in an array. -/
def rowOfBytes (octets : ByteArray) : Row := rowOfOctets octets.data.toList

/-- All characters of the text are octets in UTF-8 themselves. -/
def isPlain (s : String) : Bool := s.toList.all fun c => c.toNat < 0x80

/-- The octets of a text in UTF-8. -/
def toRow (s : String) : Row := if isPlain s then s else rowOfBytes s.toUTF8

/-- The text that a row spells in UTF-8. -/
def ofRow (r : Row) : String :=
  if isPlain r then r else String.ofList (decodeLossy (octetsOfRow r))

end Text

end Testbench
