import Testbench.Text.Octets

/-!
# Choices of a command

Arguments that begin with a hyphen choose how a command of the shell works.

- `Shell.Choice`: a letter and, if it takes one, its argument.
- `Shell.choices`: the choices in front of the operands of a command, and the operands.

Part of the host that `Executor.host` follows; no result on runs depends on it.
-/

namespace Testbench

namespace Shell

open Text

/-- A letter that was chosen, and the argument that belongs to it. -/
abbrev Choice := Char × Row

/-- The choices that the characters of one argument make, given the arguments behind it; `valued`
letters take what follows them, or the next argument. -/
def choicesIn (plain valued : List Char) : List Char → List Row →
    Except String (List Choice × List Row)
  | [], args => .ok ([], args)
  | c :: cs, args =>
    if plain.contains c then
      (choicesIn plain valued cs args).map fun (chosen, args) => ((c, "") :: chosen, args)
    else if valued.contains c then
      match cs, args with
      | [], [] => .error ("No arg for -" ++ c.toString ++ " option")
      | [], a :: args => .ok ([(c, a)], args)
      | cs, args => .ok ([(c, String.ofList cs)], args)
    else .error ("Illegal option -" ++ c.toString)

/-- The choices in front of the operands; `fuel` bounds the number of arguments. -/
def choicesWithin (plain valued : List Char) : (fuel : Nat) → List Row →
    Except String (List Choice × List Row)
  | 0, args => .ok ([], args)
  | _ + 1, [] => .ok ([], [])
  | fuel + 1, a :: args =>
    match a.toList with
    | ['-', '-'] => .ok ([], args)
    | '-' :: c :: cs => do
      let (chosen, args) ← choicesIn plain valued (c :: cs) args
      let (more, args) ← choicesWithin plain valued fuel args
      return (chosen ++ more, args)
    | _ => .ok ([], a :: args)

/-- The choices in front of the operands of a command, and the operands. -/
def choices (plain valued : String) (args : List Row) : Except String (List Choice × List Row) :=
  choicesWithin plain.toList valued.toList (args.length + 1) args

end Shell

end Testbench
