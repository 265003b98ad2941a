/-!
# JSON values

The data that summaries are written in.

- `Json.Numeral`: a decimal number as its signs and digits, so that what is written is what was
  chosen.
- `Json`: null, truth values, numbers, texts, arrays, and objects that keep the order of their
  members.
- `Json.field?`: the first member of an object with a given key.
-/

namespace Testbench

/-- A decimal number as it is written: a sign, a whole part, the digits after the point (none
where no point is written), and a power of ten where one is written. -/
structure Json.Numeral where
  negative : Bool
  whole : Nat
  places : List (Fin 10)
  exponent : Option Int
  deriving DecidableEq, Repr

/-- A JSON value. The members of an object keep their order. -/
inductive Json where
  | null
  | bool (value : Bool)
  | number (value : Json.Numeral)
  | string (value : String)
  | array (items : List Json)
  | object (members : List (String × Json))
  deriving Inhabited

namespace Json

/-- A natural number as a value. -/
def nat (n : Nat) : Json := .number ⟨false, n, [], none⟩

/-- The value of the first member with the key, if the value is an object that has one. -/
def field? (key : String) : Json → Option Json
  | .object members => members.lookup key
  | _ => none

end Json

end Testbench
