import Testbench.Text.Octets

/-!
# Texts in quotes

- `Shell.quoted`: a row as the shell writes it, so that it reads back.

Part of the host that `Executor.host` follows; no result on runs depends on it.
-/

namespace Testbench

namespace Shell

open Text

/-- Single quotes in front of a text, all of them, and what follows. -/
def quotesOf (s : List Char) : List Char × List Char :=
  (s.takeWhile (· = '\''), s.dropWhile (· = '\''))

/-- A text in single quotes, where single quotes stand in double ones; `fuel` bounds its length. -/
def quotedWithin : (fuel : Nat) → List Char → List Char
  | 0, _ => []
  | fuel + 1, s =>
    let plain := s.takeWhile (· ≠ '\'')
    let front := '\'' :: plain ++ ['\'']
    match quotesOf (s.dropWhile (· ≠ '\'')) with
    | ([], _) => front
    | (quotes, rest) =>
      front ++ '"' :: quotes ++ '"' :: (if rest = [] then [] else quotedWithin fuel rest)

/-- A row as the shell writes it, so that it reads back. -/
def quoted (r : Row) : Row := String.ofList (quotedWithin (r.length + 1) r.toList)

end Shell

end Testbench
