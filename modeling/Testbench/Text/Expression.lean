import Testbench.Text.Blank
import Testbench.Text.DecimalDigit
import Testbench.Text.Pattern

/-!
# Expressions

Patterns in which some operators are used as such. An expression stands for one character after the
other, for runs of a class of characters, and for groups whose text is told apart. A text may be
read in more than one way, since a run may end early; the ways are listed in the order in which they
are preferred, longer runs first. A search answers with the first way at the leftmost position where
there is one.

- `Text.Expression`, `Text.Expression.text`: expressions, and how they are written.
- `Text.Expression.ways`, `Text.Expression.search`: what they find.
- `Text.Scanner`: how written expressions are read, and `Text.Scanner.IsLeftmostFirst`: they are
  searched for as above.
- `Text.Expression.read?`, `Text.Scanner.direct`: a scanner for the expressions of this module.
-/

namespace Testbench

namespace Text

/-- The classes of characters that expressions name. -/
inductive CharClass where
  | blank
  | decimal
  /-- The digits `0` to `9`, and points. -/
  | numeral
  deriving DecidableEq, Repr

namespace CharClass

/-- How the class is written. -/
def text : CharClass → List Char
  | blank => ['\\', 's']
  | decimal => ['\\', 'd']
  | numeral => ['[', '0', '-', '9', '.', ']']

/-- The characters of the class. -/
def accepts : CharClass → Char → Bool
  | blank, c => isBlank c
  | decimal, c => isDecimalDigit c
  | numeral, c => isAsciiDigit c || c == '.'

/-- The class that stands written at the start of a text, and what follows it. -/
def read? (text : List Char) : Option (CharClass × List Char) :=
  [blank, decimal, numeral].findSome? fun k => (after? k.text text).map (k, ·)

@[simp] theorem read?_text (k : CharClass) (rest : List Char) :
    read? (k.text ++ rest) = some (k, rest) := by
  cases k <;> simp [read?, text, after?]

end CharClass

/-- The name of a group, which has to end where the sign behind it stands. -/
abbrev GroupName := { name : List Char // '>' ∉ name }

/-- What is searched for: one item after the other. -/
inductive Expression where
  | done
  | char (c : Char) (next : Expression)
  /-- A run of characters of a class, and whether it may be empty. -/
  | run (kind : CharClass) (optional : Bool) (next : Expression)
  | group (name : GroupName) (body next : Expression)
  deriving DecidableEq

/-- The names of groups with the texts that they stand for, in the order of the groups. -/
abbrev Captures := List (List Char × List Char)

/-- One way in which an expression reads the start of a text. -/
structure Hit where
  /-- What has been read. -/
  front : List Char
  /-- What follows it. -/
  rest : List Char
  captures : Captures
  deriving DecidableEq

/-- The way that goes on behind some text in which groups have been told apart. -/
def Hit.behind (front : List Char) (captures : Captures) (h : Hit) : Hit :=
  ⟨front ++ h.front, h.rest, captures ++ h.captures⟩

/-- The fronts of a text that consist of accepted characters, each with what follows it, the longest
one first. -/
def runs (accepts : Char → Bool) : (text : List Char) → List (List Char × List Char)
  | [] => [([], [])]
  | c :: cs =>
    if accepts c then (runs accepts cs).map (fun r => (c :: r.1, r.2)) ++ [([], c :: cs)]
    else [([], c :: cs)]

namespace Expression

/-- The expression for a phrase with another expression behind it. -/
def phrase (s : List Char) (next : Expression) : Expression := s.foldr char next

/-- How the expression is written. -/
def text : Expression → List Char
  | done => []
  | char c next => Pattern.ofPhrase [c] ++ next.text
  | run kind optional next => kind.text ++ (if optional then '*' else '+') :: next.text
  | group name body next =>
    ['(', '?', 'P', '<'] ++ (name.1 ++ '>' :: (body.text ++ ')' :: next.text))

/-- The ways in which the expression reads the start of a text, preferred ones first. -/
def ways : Expression → (text : List Char) → List Hit
  | done, text => [⟨[], text, []⟩]
  | char _ _, [] => []
  | char c next, x :: xs => if x = c then (next.ways xs).map (·.behind [c] []) else []
  | run kind optional next, text =>
    ((runs kind.accepts text).filter fun r => optional || r.1 ≠ []).flatMap fun r =>
      (next.ways r.2).map (·.behind r.1 [])
  | group name body next, text =>
    (body.ways text).flatMap fun h =>
      (next.ways h.rest).map (·.behind h.front ((name.1, h.front) :: h.captures))

/-- The way that is preferred at the start of a text. -/
def first? (e : Expression) (text : List Char) : Option Hit := (e.ways text).head?

/-- The groups of the way that is preferred at the leftmost position where there is one. -/
def search (e : Expression) (text : List Char) : Option Captures :=
  (firstMatch? e.first? text).map Hit.captures

/-! ## Reading expressions -/

theorem notMem_takeWhile (text : List Char) : '>' ∉ text.takeWhile (· ≠ '>') := by
  intro h
  simpa using List.all_eq_true.mp List.all_takeWhile '>' h

/-- The expression that stands written at the start of a text, up to the end of the text or of the
group around it, and what follows; `fuel` bounds the number of items. -/
def readItems : (fuel : Nat) → (text : List Char) → Option (Expression × List Char)
  | 0, _ => none
  | _ + 1, [] => some (done, [])
  | fuel + 1, c :: cs =>
    if c = ')' then some (done, c :: cs)
    else match CharClass.read? (c :: cs) with
      | some (kind, '+' :: rest) =>
        (readItems fuel rest).map fun (next, rest) => (run kind false next, rest)
      | some (kind, '*' :: rest) =>
        (readItems fuel rest).map fun (next, rest) => (run kind true next, rest)
      | some _ => none
      | none =>
        match after? ['(', '?', 'P', '<'] (c :: cs) with
        | some rest =>
          match readItems fuel ((rest.dropWhile (· ≠ '>')).drop 1) with
          | some (body, ')' :: rest') =>
            (readItems fuel rest').map fun (next, rest') =>
              (group ⟨rest.takeWhile (· ≠ '>'), notMem_takeWhile rest⟩ body next, rest')
          | _ => none
        | none =>
          if c = '\\' then
            match cs with
            | x :: rest =>
              if x ∈ Pattern.operators then
                (readItems fuel rest).map fun (next, rest) => (char x next, rest)
              else none
            | [] => none
          else if c ∈ Pattern.operators then none
          else (readItems fuel cs).map fun (next, rest) => (char c next, rest)

/-- The expression that a text writes. -/
def read? (text : List Char) : Option Expression :=
  match readItems (text.length + 1) text with
  | some (e, []) => some e
  | _ => none

/-- A text that an expression ends before: there is none, or the group around it ends. -/
def Ends (rest : List Char) : Prop := rest.head?.all (· = ')') = true

/-- What is written as one character is not taken for a class. -/
theorem read?_ofPhrase (c : Char) (rest : List Char) :
    CharClass.read? (Pattern.ofPhrase [c] ++ rest) = none := by
  by_cases hop : c ∈ Pattern.operators
  · have hletter : c ≠ 's' ∧ c ≠ 'd' := by
      constructor <;> rintro rfl <;> exact absurd hop (by decide)
    simp [Pattern.ofPhrase, hop, CharClass.read?, CharClass.text, after?, hletter.1.symm,
      hletter.2.symm]
  · have hsign : c ≠ '\\' ∧ c ≠ '[' := by
      constructor <;> rintro rfl <;> exact absurd (by decide) hop
    simp [Pattern.ofPhrase, hop, CharClass.read?, CharClass.text, after?, hsign.1.symm,
      hsign.2.symm]

/-- An expression is read back from the text that it is written as. -/
theorem readItems_text (e : Expression) : ∀ {fuel : Nat} {rest : List Char},
    e.text.length < fuel → Ends rest → readItems fuel (e.text ++ rest) = some (e, rest) := by
  induction e with
  | done =>
    intro fuel rest hfuel hends
    obtain ⟨fuel, rfl⟩ := Nat.exists_eq_add_one_of_ne_zero (Nat.ne_zero_of_lt hfuel)
    cases rest with
    | nil => rfl
    | cons c cs =>
      have hc : c = ')' := by simpa [Ends] using hends
      rw [hc]
      rfl
  | char c next ih =>
    intro fuel rest hfuel hends
    obtain ⟨fuel, rfl⟩ := Nat.exists_eq_add_one_of_ne_zero (Nat.ne_zero_of_lt hfuel)
    have hclass := read?_ofPhrase c (next.text ++ rest)
    by_cases hop : c ∈ Pattern.operators
    · have hlength : next.text.length < fuel := by
        simp [text, Pattern.ofPhrase, hop] at hfuel
        omega
      simp [Pattern.ofPhrase, hop] at hclass
      simp [text, Pattern.ofPhrase, hop, readItems, hclass, after?, ih hlength hends]
    · have hlength : next.text.length < fuel := by
        simpa [text, Pattern.ofPhrase, hop] using hfuel
      have hsign : c ≠ ')' ∧ c ≠ '(' ∧ c ≠ '\\' := by
        refine ⟨?_, ?_, ?_⟩ <;> rintro rfl <;> exact absurd (by decide) hop
      simp [Pattern.ofPhrase, hop] at hclass
      simp [text, Pattern.ofPhrase, hop, readItems, hclass, after?, hsign, Ne.symm hsign.2.1,
        ih hlength hends]
  | run kind optional next ih =>
    intro fuel rest hfuel hends
    obtain ⟨fuel, rfl⟩ := Nat.exists_eq_add_one_of_ne_zero (Nat.ne_zero_of_lt hfuel)
    have hlength : next.text.length < fuel := by
      simp [text] at hfuel
      omega
    have hclass (more : List Char) := CharClass.read?_text kind more
    cases kind <;> simp only [CharClass.text, List.cons_append, List.nil_append] at hclass <;>
      cases optional <;> simp [text, CharClass.text, readItems, hclass, ih hlength hends]
  | group name body next ihb ih =>
    intro fuel rest hfuel hends
    obtain ⟨fuel, rfl⟩ := Nat.exists_eq_add_one_of_ne_zero (Nat.ne_zero_of_lt hfuel)
    simp [text] at hfuel
    have hbody : body.text.length < fuel := by omega
    have hnext : next.text.length < fuel := by omega
    have hname : ∀ c ∈ name.1, decide (c ≠ '>') = true := fun c hc =>
      decide_eq_true fun heq => name.2 (heq ▸ hc)
    have htake (more : List Char) : (name.1 ++ '>' :: more).takeWhile (· ≠ '>') = name.1 := by
      rw [List.takeWhile_append_of_pos hname]
      simp
    have hdrop (more : List Char) : (name.1 ++ '>' :: more).dropWhile (· ≠ '>') = '>' :: more := by
      rw [List.dropWhile_append_of_pos hname]
      simp
    have hclose : Ends (')' :: (next.text ++ rest)) := rfl
    have hclass (more : List Char) : CharClass.read? ('(' :: more) = none := rfl
    simp only [text, List.append_assoc, List.cons_append, List.nil_append]
    rw [readItems, if_neg (by decide), hclass]
    simp only [after?, if_true, hdrop, List.drop_one, List.tail_cons, ihb hbody hclose,
      ih hnext hends, Option.map_some]
    simp only [htake]

/-- Every expression is read from what it is written as. -/
theorem read?_text (e : Expression) : read? e.text = some e := by
  have hread : readItems (e.text.length + 1) (e.text ++ []) = some (e, []) :=
    readItems_text e (Nat.lt_succ_self e.text.length) rfl
  rw [List.append_nil] at hread
  rw [read?, hread]

/-- The phrase of an expression is written as its pattern. -/
theorem text_phrase (s : List Char) (next : Expression) :
    (phrase s next).text = Pattern.ofPhrase s ++ next.text := by
  induction s with
  | nil => rfl
  | cons c s ih =>
    show Pattern.ofPhrase [c] ++ (phrase s next).text = _
    rw [ih]
    by_cases hop : c ∈ Pattern.operators <;> simp [Pattern.ofPhrase, hop]

end Expression

/-! ## Scanners -/

/-- How written expressions are read. -/
structure Scanner where
  /-- The search that a text asks for, or why the text is refused. -/
  read : (text : List Char) → Except String (List Char → Option Captures)

namespace Scanner

/-- What is read is searched for at the leftmost position, in the preferred way. A scanner may
refuse what is too long for it. -/
def IsLeftmostFirst (s : Scanner) : Prop :=
  ∀ (e : Expression) (search : List Char → Option Captures),
    s.read e.text = .ok search → search = e.search

/-- A scanner for the expressions of this module alone. -/
def direct : Scanner where
  read text :=
    match Expression.read? text with
    | some e => .ok e.search
    | none => .error "no expression"

@[simp] theorem read_direct (e : Expression) : direct.read e.text = .ok e.search := by
  simp only [direct, Expression.read?_text]

theorem isLeftmostFirst_direct : direct.IsLeftmostFirst := by
  intro e search h
  rw [read_direct] at h
  exact (Except.ok.inj h).symm

end Scanner

end Text

end Testbench
