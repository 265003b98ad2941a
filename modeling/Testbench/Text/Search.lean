/-!
# Searching and replacing phrases

Texts are lists of characters here, and a phrase is looked for at one position after the other,
from the left.

- `Text.after?`: what follows a phrase at the start of a text.
- `Text.contains`: whether a phrase occurs anywhere.
- `Text.replaceAll`: every occurrence of a phrase, left to right and without overlap, replaced.
- `Text.count`: the number of these occurrences.
- `Text.firstMatch?`: the answer of a reader at the leftmost position where it has one.
-/

namespace Testbench

namespace Text

/-- What follows the phrase when the text starts with it. -/
def after? : (phrase text : List Char) → Option (List Char)
  | [], text => some text
  | _ :: _, [] => none
  | p :: ps, c :: cs => if p = c then after? ps cs else none

theorem after?_eq_some_iff {phrase text rest : List Char} :
    after? phrase text = some rest ↔ text = phrase ++ rest := by
  fun_induction after? phrase text with
  | case1 text => simp
  | case2 p ps => simp
  | case3 ps c cs ih => simpa using ih
  | case4 p ps c cs h => simp [Ne.symm h]

@[simp] theorem after?_append (phrase rest : List Char) :
    after? phrase (phrase ++ rest) = some rest :=
  after?_eq_some_iff.2 rfl

/-- The text starts with the phrase. -/
def startsWith (phrase text : List Char) : Bool := (after? phrase text).isSome

/-- The phrase occurs somewhere in the text. -/
def contains (phrase : List Char) : (text : List Char) → Bool
  | [] => startsWith phrase []
  | c :: cs => startsWith phrase (c :: cs) || contains phrase cs

/-- The text with every occurrence of the phrase `old` replaced by `new`, from left to right and
without overlap. An empty phrase is replaced nowhere. -/
def replaceAll (old new : List Char) : (text : List Char) → List Char
  | [] => []
  | c :: cs =>
    match _h : after? old (c :: cs) with
    | some rest => if _ho : old = [] then c :: cs else new ++ replaceAll old new rest
    | none => c :: replaceAll old new cs
termination_by text => text.length
decreasing_by
  · have := congrArg List.length (after?_eq_some_iff.1 _h)
    have : 0 < old.length := List.length_pos_iff.2 _ho
    simp_all
  · simp

/-- The number of occurrences of the phrase, from left to right and without overlap. An empty
phrase has none. -/
def count (phrase : List Char) : (text : List Char) → Nat
  | [] => 0
  | c :: cs =>
    match _h : after? phrase (c :: cs) with
    | some rest => if _ho : phrase = [] then 0 else count phrase rest + 1
    | none => count phrase cs
termination_by text => text.length
decreasing_by
  · have := congrArg List.length (after?_eq_some_iff.1 _h)
    have : 0 < phrase.length := List.length_pos_iff.2 _ho
    simp_all
  · simp

/-- The answer of `read` at the leftmost position of the text where it has one; `read` sees the
text from that position on. -/
def firstMatch? {α : Type} (read : List Char → Option α) : (text : List Char) → Option α
  | [] => read []
  | c :: cs =>
    match read (c :: cs) with
    | some a => some a
    | none => firstMatch? read cs

end Text

end Testbench
