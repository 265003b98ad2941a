import Testbench.Text.DecimalDigit

/-!
# Integer expressions

Expressions over integers of 64 bits. They are read and worked out at once, so that a fault in the
text and a fault in a value show in the order in which they are met.

- `Shell.numberAt`: the number in front of a text, in base ten, eight or sixteen.
- `Shell.Sign`: operators, and what they do.
- `Shell.Memory`: how an expression reads and changes variables.
- `Shell.evaluate`: the value of an expression.

Part of the host that `Executor.host` follows; no result on runs depends on it.
-/

namespace Testbench

namespace Shell

/-! ## Integers of 64 bits -/

/-- The integer of 64 bits that an integer comes down to. -/
def wrap (n : Int) : Int := Int.bmod n UInt64.size

/-- An integer as an unsigned one of 64 bits. -/
def unsigned (n : Int) : Nat := (n % UInt64.size).toNat

/-- The greatest and the least integer of 64 bits. -/
def integerMax : Int := 9223372036854775807

@[inherit_doc integerMax]
def integerMin : Int := -9223372036854775808

/-- The value of a digit in some base. -/
def digit? (base : Nat) (c : Char) : Option Nat :=
  let value :=
    if Text.isAsciiDigit c then Text.digitValue c
    else if 'a' ≤ c ∧ c ≤ 'z' then c.toNat - 'a'.toNat + 10
    else if 'A' ≤ c ∧ c ≤ 'Z' then c.toNat - 'A'.toNat + 10
    else base
  if value < base then some value else none

/-- The digits of a base in front of a text, and what follows them. -/
def digitsAt (base : Nat) (s : List Char) : Option (Nat × List Char) :=
  let isOne := fun c => (digit? base c).isSome
  match s.takeWhile isOne with
  | [] => none
  | ds => some (ds.foldl (fun n c => base * n + (digit? base c).getD 0) 0, s.dropWhile isOne)

/-- The number in front of a text, and what follows it. A zero in front stands for base eight, and
a zero with an `x` for base sixteen. -/
def numberAt (s : List Char) : Option (Nat × List Char) :=
  match s with
  | '0' :: x :: rest =>
    if x = 'x' ∨ x = 'X' then (digitsAt 16 rest).or (some (0, x :: rest))
    else digitsAt 8 ('0' :: x :: rest)
  | s => digitsAt 10 s

/-- An integer that is no greater and no less than one of 64 bits. -/
def clamp (n : Int) : Int := max integerMin (min integerMax n)

/-! ## Operators -/

/-- An operator between two values. -/
inductive Sign where
  | times | quotient | rest | plus | minus | left | right | less | atMost | more | atLeast | equal
  | unequal | bitAnd | bitXor | bitOr
  deriving DecidableEq, Repr

/-- How loosely an operator binds. -/
def Sign.looseness : Sign → Nat
  | times | quotient | rest => 0
  | plus | minus => 1
  | left | right => 2
  | less | atMost | more | atLeast => 3
  | equal | unequal => 4
  | bitAnd => 5
  | bitXor => 6
  | bitOr => 7

/-- The truth of a test as a number. -/
def truth (b : Bool) : Int := if b then 1 else 0

/-- The value of an operator; none for a division by zero. -/
def Sign.apply (s : Sign) (a b : Int) : Option Int :=
  let bits := fun (f : UInt64 → UInt64 → UInt64) =>
    wrap (f (UInt64.ofNat (unsigned a)) (UInt64.ofNat (unsigned b))).toNat
  match s with
  | times => some (wrap (a * b))
  | quotient => if b = 0 then none else some (wrap (Int.tdiv a b))
  | rest => if b = 0 then none else some (Int.tmod a b)
  | plus => some (wrap (a + b))
  | minus => some (wrap (a - b))
  | left => some (bits (· <<< ·))
  | right => some (Int.shiftRight a (unsigned b % 64))
  | less => some (truth (a < b))
  | atMost => some (truth (a ≤ b))
  | more => some (truth (a > b))
  | atLeast => some (truth (a ≥ b))
  | equal => some (truth (a = b))
  | unequal => some (truth (a ≠ b))
  | bitAnd => some (bits (· &&& ·))
  | bitXor => some (bits (· ^^^ ·))
  | bitOr => some (bits (· ||| ·))

/-- A part of an expression. -/
inductive Term where
  | finish
  | number (n : Int)
  | name (s : String)
  | sign (s : Sign)
  /-- An assignment, of the result of an operator if there is one. -/
  | assign (s : Option Sign)
  | opening
  | closing
  | not
  | complement
  | both
  | either
  | question
  | colon
  /-- A character that begins nothing. -/
  | unknown
  deriving DecidableEq, Repr

/-- The operators that may stand in front of an equals sign to make an assignment. -/
def assigningSigns : List (List Char × Sign) :=
  [(['<', '<'], .left), (['>', '>'], .right), (['*'], .times), (['/'], .quotient), (['%'], .rest),
   (['+'], .plus), (['-'], .minus), (['^'], .bitXor), (['|'], .bitOr), (['&'], .bitAnd)]

/-- The other operators, longer ones first. -/
def otherSigns : List (List Char × Term) :=
  [(['=', '='], .sign .equal), (['!', '='], .sign .unequal), (['<', '='], .sign .atMost),
   (['>', '='], .sign .atLeast), (['|', '|'], .either), (['&', '&'], .both), (['='], .assign none),
   (['!'], .not), (['('], .opening), ([')'], .closing), (['~'], .complement), (['?'], .question),
   ([':'], .colon)]

/-- The signs that come after all longer ones. -/
def orderSigns : List (List Char × Term) := [(['<'], .sign .less), (['>'], .sign .more)]

/-- What follows the first text if it stands in front of the second one. -/
def behind? : List Char → List Char → Option (List Char)
  | [], s => some s
  | c :: p, d :: s => if c = d then behind? p s else none
  | _ :: _, [] => none

/-- The first part of an expression, and what follows it. -/
def termAt (s : List Char) : Term × List Char :=
  match s.dropWhile fun c => c = ' ' ∨ c = '\t' ∨ c = '\n' with
  | [] => (.finish, [])
  | c :: rest =>
    if Text.isAsciiDigit c then
      match numberAt (c :: rest) with
      | some (n, rest) => (.number (clamp n), rest)
      | none => (.unknown, rest)
    else if c.isAlpha ∨ c = '_' then
      let isPart := fun (c : Char) => c.isAlphanum || c == '_'
      (.name (String.ofList ((c :: rest).takeWhile isPart)), (c :: rest).dropWhile isPart)
    else
      let fixed := fun (signs : List (List Char × Term)) => signs.findSome? fun (text, t) =>
        (behind? text (c :: rest)).map (t, ·)
      let assigning := assigningSigns.findSome? fun (text, sign) =>
        (behind? text (c :: rest)).map fun
          | '=' :: rest => (Term.assign (some sign), rest)
          | rest => (.sign sign, rest)
      (((fixed otherSigns).or assigning).or (fixed orderSigns)).getD (.unknown, rest)

/-! ## Evaluation -/

/-- How an expression reads and changes variables: each may be refused with a reason. -/
structure Memory (σ : Type) where
  get : σ → String → Except String Int
  set : σ → String → Int → Except String σ

/-- What is left of an expression, its next part, and the variables. -/
structure Sum (σ : Type) where
  rest : List Char
  term : Term
  memory : σ

/-- Evaluation of an expression. A fault of the expression itself is told apart from a reason that
a variable gives. -/
abbrev Evaluation (σ : Type) := StateT (Sum σ) (Except (Bool × String))

namespace Evaluation

variable {σ : Type}

/-- A fault of the expression. -/
def fail {α : Type} (message : String) : Evaluation σ α := throw (true, message)

/-- The next part, which is passed over. -/
def next : Evaluation σ Term := modifyGet fun s =>
  let (t, rest) := termAt s.rest
  (s.term, { s with term := t, rest })

/-- The value of a variable; nobody asks for it where it does not count. -/
def read (m : Memory σ) (counts : Bool) (name : String) : Evaluation σ Int := do
  if counts then
    match m.get (← get).memory name with
    | .ok n => return n
    | .error e => throw (false, e)
  else return 0

/-- A variable is changed, where that counts. -/
def write (m : Memory σ) (counts : Bool) (name : String) (n : Int) : Evaluation σ Int := do
  if counts then
    match m.set (← get).memory name n with
    | .ok memory => modify fun s => { s with memory }
    | .error e => throw (false, e)
  return n

/-- The value of an operator, where it counts. -/
def apply (counts : Bool) (s : Sign) (a b : Int) : Evaluation σ Int := do
  if counts then
    match s.apply a b with
    | some n => return n
    | none => fail "division by zero"
  else return b

/-- A value without operators between values; `inner` reads what stands in parentheses. -/
def primary (m : Memory σ) (inner : Bool → Evaluation σ Int) : (fuel : Nat) → (counts : Bool) →
    Evaluation σ Int
  | 0, _ => fail "expecting primary"
  | fuel + 1, counts => do
    match (← get).term with
    | .opening =>
      let _ ← next
      let n ← inner counts
      if (← get).term ≠ .closing then fail "expecting ')'"
      let _ ← next
      return n
    | .number n =>
      let _ ← next
      return n
    | .name s =>
      let _ ← next
      read m counts s
    | .sign .plus =>
      let _ ← next
      primary m inner fuel counts
    | .sign .minus =>
      let _ ← next
      return wrap (-(← primary m inner fuel counts))
    | .not =>
      let _ ← next
      return truth ((← primary m inner fuel counts) = 0)
    | .complement =>
      let _ ← next
      return wrap (-(← primary m inner fuel counts) - 1)
    | _ => fail "expecting primary"

/-- The values behind a first one, joined by operators that bind more tightly than `bound` says. -/
def signs (value : Evaluation σ Int) (counts : Bool) : (fuel : Nat) → (bound : Nat) → Int →
    Evaluation σ Int
  | 0, _, a => pure a
  | fuel + 1, bound, a => do
    match (← get).term with
    | .sign s =>
      if s.looseness < bound then
        let _ ← next
        let b ← value
        let b ← signs value counts fuel s.looseness b
        signs value counts fuel bound (← apply counts s a b)
      else return a
    | _ => return a

/-- Values joined by operators. -/
def joined (m : Memory σ) (inner : Bool → Evaluation σ Int) (counts : Bool) :
    Evaluation σ Int := do
  let fuel := (← get).rest.length + 2
  let value := primary m inner fuel counts
  signs value counts fuel 8 (← value)

/-- Values that all have to be true. -/
def both (joined : Bool → Evaluation σ Int) : (fuel : Nat) → (counts : Bool) → Evaluation σ Int
  | 0, counts => joined counts
  | fuel + 1, counts => do
    let a ← joined counts
    if (← get).term = .both then
      let _ ← next
      let b ← both joined fuel (counts && a ≠ 0)
      return truth (a ≠ 0 && b ≠ 0)
    else return a

/-- Values of which one has to be true. -/
def either (both : Bool → Evaluation σ Int) : (fuel : Nat) → (counts : Bool) → Evaluation σ Int
  | 0, counts => both counts
  | fuel + 1, counts => do
    let a ← both counts
    if (← get).term = .either then
      let _ ← next
      let b ← either both fuel (counts && a = 0)
      return truth (a ≠ 0 || b ≠ 0)
    else return a

/-- A choice between two values. -/
def choice (either inner : Bool → Evaluation σ Int) : (fuel : Nat) → (counts : Bool) →
    Evaluation σ Int
  | 0, counts => either counts
  | fuel + 1, counts => do
    let a ← either counts
    if (← get).term = .question then
      let _ ← next
      let b ← inner (counts && a ≠ 0)
      if (← get).term ≠ .colon then fail "expecting ':'"
      let _ ← next
      let c ← choice either inner fuel (counts && a = 0)
      return if a ≠ 0 then b else c
    else return a

/-- A value, or an assignment; `depth` bounds how deep expressions stand in one another. -/
def expression (m : Memory σ) : (depth : Nat) → (counts : Bool) → Evaluation σ Int
  | 0, _ => fail "expecting primary"
  | depth + 1, counts => do
    let s ← get
    let inner := expression m depth
    match s.term, termAt s.rest with
    | .name name, (.assign sign, _) =>
      let _ ← next
      let _ ← next
      let n ← inner counts
      match sign with
      | none => write m counts name n
      | some sign =>
        if counts then write m counts name (← apply counts sign (← read m counts name) n)
        else return n
    | _, _ =>
      let fuel := s.rest.length + 1
      choice (either (both (joined m inner) fuel) fuel) inner fuel counts

end Evaluation

/-- The value of an expression, and the variables behind it; or why there is none. -/
def evaluate {σ : Type} (m : Memory σ) (text : String) (memory : σ) : Except String (Int × σ) :=
  let (term, rest) := termAt text.toList
  let whole : Evaluation σ Int := do
    let n ← Evaluation.expression m (text.length + 2) true
    if (← get).term ≠ .finish then Evaluation.fail "expecting EOF"
    return n
  match whole { rest, term, memory } with
  | .ok (n, s) => .ok (n, s.memory)
  | .error (true, e) =>
    .error ("arithmetic expression: " ++ e ++ ": \"" ++ text ++ "\"")
  | .error (false, e) => .error e

end Shell

end Testbench
