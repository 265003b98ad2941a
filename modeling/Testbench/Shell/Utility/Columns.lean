import Testbench.Shell.Utility.Lines
import Testbench.Shell.Utility.Names

/-!
# Utilities on the parts of lines

- `Utility.Order`: how lines are compared; `Utility.sort` puts them in order.
- `Utility.unique`: lines that repeat the one before them.
- `Utility.pick`: some octets or fields of each line.
- `Utility.exchange`: characters that stand for others.
- `Utility.dump`: octets in numbers.

Part of the host that `Executor.host` follows; no result on runs depends on it.
-/

namespace Testbench

namespace Utility

open Shell Text

/-! ## Order -/

/-- How two keys are compared. -/
structure Order where
  blanks : Bool := false
  dictionary : Bool := false
  folded : Bool := false
  numeric : Bool := false
  general : Bool := false
  reversed : Bool := false
  printed : Bool := false
  version : Bool := false
  /-- Numbers have units behind them. -/
  units : Bool := false
  deriving DecidableEq, Repr

namespace Order

/-- The order with one more letter. -/
def withLetter (o : Order) (c : Char) : Order :=
  if c = 'b' then { o with blanks := true }
  else if c = 'd' then { o with dictionary := true }
  else if c = 'f' then { o with folded := true }
  else if c = 'n' then { o with numeric := true }
  else if c = 'g' then { o with general := true }
  else if c = 'r' then { o with reversed := true }
  else if c = 'i' then { o with printed := true }
  else if c = 'V' then { o with version := true }
  else if c = 'h' then { o with units := true }
  else o

/-- A decimal number in front of a text. -/
def numberOf (cs : List Char) : Decimals :=
  let (negative, cs) := match cs.dropWhile fun c => c = ' ' || c = '\t' with
    | '-' :: cs => (true, cs)
    | cs => (false, cs)
  match Quantity.mantissa? 10 Quantity.tenfold? cs with
  | some (n, places, _) => ⟨if negative then -(n : Int) else n, places⟩
  | none => ⟨0, 0⟩

/-- Two texts compared character by character; with runs of digits by their values if `version`. -/
def compareTexts (version : Bool) : (fuel : Nat) → List Char → List Char → Ordering
  | 0, _, _ => .eq
  | _ + 1, [], [] => .eq
  | _ + 1, [], _ => .lt
  | _ + 1, _, [] => .gt
  | fuel + 1, a :: as, b :: bs =>
    if version && a.isDigit && b.isDigit then
      let ds := (a :: as).takeWhile Char.isDigit
      let es := (b :: bs).takeWhile Char.isDigit
      (compare (numberOfDigits ds) (numberOfDigits es)).then
        (compareTexts version fuel ((a :: as).drop ds.length) ((b :: bs).drop es.length))
    else (compare a.toNat b.toNat).then (compareTexts version fuel as bs)

/-- How large the unit behind the number in front of a text is; negative numbers have units that
count downwards. -/
def unitOf (cs : List Char) : Int :=
  let cs := cs.dropWhile fun c => c = ' ' || c = '\t'
  let negative := cs.head? = some '-'
  let rest := (if negative then cs.drop 1 else cs).dropWhile fun c => c.isDigit || c = '.'
  let size : Int := match rest with
    | 'k' :: _ => 1
    | c :: _ => ("KMGTPEZY".toList.findIdx? (· = c)).elim 0 fun i => (i : Int) + 1
    | [] => 0
  if negative then -size else size

/-- Two keys compared. -/
def compareKeys (o : Order) (a b : List Char) : Ordering :=
  let r :=
    if o.units && unitOf a ≠ unitOf b && (numberOf a).value ≠ 0 && (numberOf b).value ≠ 0 then
      compare (unitOf a) (unitOf b)
    else if o.numeric || o.general || o.units then
      let m := numberOf a
      let n := numberOf b
      let places := max m.places n.places
      compare (m.widen places) (n.widen places)
    else
      let view := fun (cs : List Char) =>
        let cs := if o.dictionary then cs.filter fun c => c.isAlphanum || c = ' ' || c = '\t' else cs
        let cs := if o.printed then cs.filter isShown else cs
        if o.folded then cs.map Char.toUpper else cs
      compareTexts o.version (a.length + b.length + 1) (view a) (view b)
  if o.reversed then r.swap else r

end Order

/-- One end of a key: a field, a character in it, and letters. -/
structure KeyEnd where
  field : Nat
  char : Nat
  letters : List Char
  deriving DecidableEq, Repr

/-- A key of lines. -/
structure Key where
  start : KeyEnd
  stop : Option KeyEnd
  deriving DecidableEq, Repr

/-- One end of a key that an argument spells. -/
def KeyEnd.ofChars? (cs : List Char) : Option KeyEnd :=
  let field := cs.takeWhile isAsciiDigit
  let rest := cs.drop field.length
  if field = [] then none
  else
    let (char, letters) := match rest with
      | '.' :: rest => (rest.takeWhile isAsciiDigit, rest.dropWhile isAsciiDigit)
      | rest => ([], rest)
    if letters.all "bdfgiMhnRrV".toList.contains then
      some ⟨numberOfDigits field, numberOfDigits char, letters⟩
    else none

/-- The key that an argument spells. -/
def Key.ofRow? (a : Row) : Option Key :=
  match (a.splitOn ",").map fun part => KeyEnd.ofChars? part.toList with
  | [some start] => some ⟨start, none⟩
  | [some start, some stop] => some ⟨start, some stop⟩
  | _ => none

/-- The places in a line where fields begin and end, at a character or at the blanks in front of
them. -/
def fieldSpans (gap : Option Char) (l : List Char) : List (Nat × Nat) :=
  match gap with
  | some g =>
    let parts := l.splitOn g
    (parts.foldl (fun ((spans, at') : List (Nat × Nat) × Nat) p =>
      (spans ++ [(at', at' + p.length)], at' + p.length + 1)) ([], 0)).1
  | none =>
    let isBlank := fun c => c = ' ' || c = '\t'
    let step := fun ((spans, start, at', inside) : List (Nat × Nat) × Nat × Nat × Bool) (c : Char) =>
      if isBlank c && inside then (spans ++ [(start, at')], at', at' + 1, false)
      else (spans, start, at' + 1, inside || !isBlank c)
    let (spans, start, at', inside) := l.foldl step ([], 0, 0, false)
    if inside || start < at' then spans ++ [(start, at')] else spans

/-- The part of a line that a key takes. -/
def Key.part (k : Key) (gap : Option Char) (l : List Char) : List Char :=
  let spans := fieldSpans gap l
  let blanksAt := fun (n : Nat) => ((l.drop n).takeWhile fun c => c = ' ' || c = '\t').length
  let start := match spans[k.start.field - 1]? with
    | some (at', _) =>
      let at' := if k.start.letters.contains 'b' then at' + blanksAt at' else at'
      min l.length (at' + (k.start.char - 1))
    | none => l.length
  let stop := match k.stop with
    | none => l.length
    | some e =>
      match spans[e.field - 1]? with
      | none => l.length
      | some (at', end') =>
        if e.char = 0 then end'
        else
          let at' := if e.letters.contains 'b' then at' + blanksAt at' else at'
          min l.length (at' + e.char)
  (l.take stop).drop start

/-- Lines in order. -/
def sort : List Row → State → State :=
  taking (flags "bdfgiMhnRrVcCmsuz" ++ valued "kotSTy" ++
      [⟨'r', "reverse", .nothing⟩, ⟨'n', "numeric-sort", .nothing⟩, ⟨'u', "unique", .nothing⟩,
       ⟨'f', "ignore-case", .nothing⟩, ⟨'b', "ignore-leading-blanks", .nothing⟩,
       ⟨'k', "key", .argument⟩, ⟨'t', "field-separator", .argument⟩, ⟨'o', "output", .argument⟩,
       ⟨'s', "stable", .nothing⟩, ⟨'V', "version-sort", .nothing⟩, ⟨'c', "check", .nothing⟩]) 2
    fun a s =>
      let fault := fun (name : Row) (e : FileError) =>
        if e = .isDirectory then "read failed: " ++ named name ++ ": " ++ e.reason
        else "cannot read: " ++ named name ++ ": " ++ e.reason
      let names := if a.operands = [] then ["-"] else a.operands
      let keys := (a.chosen.filter (·.1 = 'k')).filterMap Prod.snd
      let gap := (a.value? 't').map fun t =>
        if t = "\\0" then '\x00' else (t.toList.head?.getD '\x00')
      let global := (a.chosen.map Prod.fst).foldl Order.withLetter {}
      match keys.find? fun k => (Key.ofRow? k).isNone with
      | some k => (report s ("invalid number at field start: invalid count at start of " ++
          inQuotes k)).withStatus 2
      | none =>
        let read := names.foldl (fun (r : Except State (List Row × State)) name =>
          match r with
          | .error s => .error s
          | .ok (ls, s) =>
            match contents s name with
            | .ok (r, s) => .ok (ls ++ bareLines r, s)
            | .error e => .error ((report s (fault name e)).withStatus 2)) (.ok ([], s))
        match read with
        | .error s => s
        | .ok (ls, s) =>
          let keys := keys.filterMap Key.ofRow?
          let orderOf := fun (k : Key) =>
            let letters := k.start.letters ++ (k.stop.map (·.letters)).getD []
            if letters = [] then global else letters.foldl Order.withLetter {}
          let compareBy := fun (a b : List Char) =>
            if keys = [] then
              let skip := fun (cs : List Char) =>
                if global.blanks then cs.dropWhile fun c => c = ' ' || c = '\t' else cs
              global.compareKeys (skip a) (skip b)
            else
              keys.foldl (fun r k =>
                r.then ((orderOf k).compareKeys (k.part gap a) (k.part gap b))) .eq
          let simple := keys = [] && global = { reversed := global.reversed }
          let whole := fun (a b : List Char) =>
            let r := Order.compareTexts false (a.length + b.length + 1) a b
            if global.reversed then r.swap else r
          let full := fun (a b : List Char) =>
            let r := compareBy a b
            if a = b || simple || a.isEmpty && b.isEmpty then r else
              r.then (whole a b)
          let isStable := a.has 's' || a.has 'u'
          let order := if isStable then compareBy else full
          let chars := ls.map String.toList
          if a.has 'c' || a.has 'C' then
            let pairs := (chars.zip (chars.drop 1)).zipIdx
            let bad := pairs.find? fun p =>
              let r := order p.1.1 p.1.2
              r = .gt || (a.has 'u' && r = .eq)
            match bad with
            | none => s
            | some ((_, l), i) =>
              let s := if a.has 'C' then s else
                report s ((names.head?.getD "-") ++ ":" ++ toString (i + 2) ++ ": disorder: " ++
                  String.ofList l)
              s.withStatus 1
          else
            let sorted := chars.mergeSort fun a b => order a b ≠ .gt
            let sorted :=
              if a.has 'u' then
                (sorted.foldl (fun done l =>
                  match done with
                  | d :: _ => if compareBy d l = .eq then done else l :: done
                  | [] => [l]) []).reverse
              else sorted
            let text := joinLines (sorted.map String.ofList)
            match a.value? 'o' with
            | none => s.print text
            | some path =>
              let o : Opening :=
                { readable := false, writable := true, create := true, truncate := true }
              match s.openPath o path with
              | .error e => (report s ("open failed: " ++ named path ++ ": " ++ e.reason)).withStatus 2
              | .ok (n, s) => { s with toWorld := (s.toWorld.write n text).toOption.getD s.toWorld }

/-- Lines that repeat the one before them are left out, counted, or looked for. -/
def unique : List Row → State → State :=
  taking (flags "cdDui" ++ valued "fsw" ++ [⟨'c', "count", .nothing⟩, ⟨'d', "repeated", .nothing⟩,
      ⟨'u', "unique", .nothing⟩, ⟨'i', "ignore-case", .nothing⟩]) 1 fun a s =>
    match contents s (a.operands.head?.getD "-") with
    | .error e =>
      let name := a.operands.head?.getD "-"
      flaw s (if e = .isDirectory then "error reading " ++ inQuotes name ++ ": " ++ e.reason
        else plainFault name e)
    | .ok (r, s) =>
      let number := fun c => ((a.value? c).bind number?).getD 0
      let isBlank := fun c => c = ' ' || c = '\t'
      let view := fun (l : Row) =>
        let cs := (List.range (number 'f')).foldl (fun cs _ =>
          (cs.dropWhile isBlank).dropWhile (!isBlank ·)) l.toList
        let cs := cs.drop (number 's')
        let cs := if a.has 'w' then cs.take (number 'w') else cs
        if a.has 'i' then cs.map Char.toLower else cs
      let groups := (bareLines r).foldl (fun (done : List (List Row)) l =>
        match done with
        | (d :: ds) :: rest => if view d = view l then (d :: l :: ds) :: rest else [l] :: done
        | _ => [l] :: done) []
      let groups := groups.reverse
      let kept := groups.filter fun g =>
        (!a.has 'd' && !a.has 'D' || 1 < g.length) && (!a.has 'u' || g.length = 1)
      let text := String.join (kept.map fun g =>
        if a.has 'D' then joinLines g
        else (if a.has 'c' then padded 7 (toString g.length) ++ " " else "") ++
          (g.head?.getD "") ++ "\n")
      match a.operands with
      | [_, out] =>
        let o : Opening := { readable := false, writable := true, create := true, truncate := true }
        match s.openPath o out with
        | .error e => flaw s (plainFault out e)
        | .ok (n, s) => { s with toWorld := (s.toWorld.write n text).toOption.getD s.toWorld }
      | _ => s.print text

/-! ## Parts -/

/-- Ranges of numbers, each from a first to a last one that may be missing. -/
def rangesOf? (a : Row) : Option (List (Nat × Option Nat)) :=
  ((a.toList.splitOn ',').flatMap (·.splitOn ' ')).mapM fun part =>
    match part.splitOn '-' with
    | [n] => (natural? (String.ofList n)).bind fun n => if n = 0 then none else some (n, some n)
    | [[], n] => (natural? (String.ofList n)).map fun n => (1, some n)
    | [m, []] => (natural? (String.ofList m)).bind fun m => if m = 0 then none else some (m, none)
    | [m, n] =>
      match natural? (String.ofList m), natural? (String.ofList n) with
      | some m, some n => if m = 0 || n < m then none else some (m, some n)
      | _, _ => none
    | _ => none

/-- The number is in one of the ranges. -/
def inRanges (rs : List (Nat × Option Nat)) (n : Nat) : Bool :=
  rs.any fun r => r.1 ≤ n && r.2.all (n ≤ ·)

/-- One of the ranges of a text ends in front of its start. -/
def isDecreasing (a : Row) : Bool :=
  (a.splitOn ",").any fun part =>
    match (part.splitOn "-").map natural? with
    | [some m, some n] => n < m
    | _ => false

/-- What is told of a text that spells no ranges: it is told from the first character on that has no
meaning. -/
def badPart (a : Row) : Row :=
  String.ofList (a.toList.dropWhile fun c => isAsciiDigit c || c = ',' || c = '-' || c = ' ')

/-- Some octets or fields of each line. -/
def pick : List Row → State → State :=
  taking (valued "bcfd" ++ flags "snz" ++ [⟨'b', "bytes", .argument⟩, ⟨'c', "characters", .argument⟩,
      ⟨'f', "fields", .argument⟩, ⟨'d', "delimiter", .argument⟩, ⟨'s', "only-delimited", .nothing⟩,
      ⟨'\x01', "output-delimiter", .argument⟩, ⟨'\x02', "complement", .nothing⟩]) 1 fun a s =>
    let lists := a.chosen.filter fun c => "bcf".toList.contains c.1
    let gap := (a.value? 'd').getD "\t"
    match lists with
    | [] => refuse s 1 "you must specify a list of bytes, characters, or fields"
    | _ :: _ :: _ => refuse s 1 "only one type of list may be specified"
    | [(kind, list)] =>
      let byField := kind = 'f'
      if 1 < gap.length then refuse s 1 "the delimiter must be a single character"
      else if a.has 'd' && !byField then
        refuse s 1 "an input delimiter may be specified only when operating on fields"
      else match rangesOf? (list.getD "") with
        | none =>
          let text := list.getD ""
          refuse s 1 (if (text.splitOn ",").any (· = "0") then
              (if byField then "fields are numbered from 1"
               else "byte/character positions are numbered from 1")
            else if isDecreasing text then "invalid decreasing range"
            else "invalid " ++ (if byField then "field value" else "byte/character position") ++ " " ++
              inQuotes (badPart text))
        | some rs =>
          let isIn := fun (n : Nat) => inRanges rs n != a.has '\x02'
          let g := gap.toList.head?.getD '\x00'
          overInputs a.operands plainFault (fun _ r s =>
            s.print (String.join ((bareLines r).map fun l =>
              if byField then
                let fields := l.toList.splitOn g
                if fields.length = 1 then (if a.has 's' then "" else l ++ "\n")
                else
                  let kept := (fields.zipIdx.filter fun f => isIn (f.2 + 1)).map Prod.fst
                  ((a.value? '\x01').getD gap).intercalate (kept.map String.ofList) ++ "\n"
              else
                let cs := l.toList.zipIdx
                match a.value? '\x01' with
                | none =>
                  String.ofList ((cs.filter fun c => isIn (c.2 + 1)).map Prod.fst) ++ "\n"
                | some out =>
                  let groups := (cs.filter fun c => isIn (c.2 + 1)).foldl
                    (fun (done : List (List Char × Nat)) (c, i) =>
                      match done with
                      | (g, last) :: rest =>
                        if last + 1 = i then (c :: g, i) :: rest else ([c], i) :: done
                      | [] => [([c], i)]) []
                  out.intercalate (groups.reverse.map fun g => String.ofList g.1.reverse) ++ "\n"))) s

/-! ## Characters that stand for others -/

/-- The characters of a class, in order. -/
def charsOfClass (name : String) : Option (List Char) :=
  (classes.lookup name).map fun holds =>
    ((List.range 256).map Char.ofNat).filter fun c => c.toNat < 0x80 && holds c

/-- Characters of a set with its escapes resolved; `true` marks those that stand for themselves. -/
def setCells : (fuel : Nat) → List Char → List (Char × Bool)
  | 0, _ => []
  | _ + 1, [] => []
  | fuel + 1, '\\' :: s =>
    let (c, s) := escapeAt s
    match c, s with
    | '\\', d :: rest => if d = '\\' || (escapes.lookup d).isSome then ('\\', true) :: setCells fuel s
        else (d, true) :: setCells fuel rest
    | c, s => (c, true) :: setCells fuel s
  | fuel + 1, c :: s => (c, false) :: setCells fuel s

/-- The characters of a set, and how often the last repeated one is to be repeated; `fuel` bounds
its length. -/
def setChars (size : Nat) : (fuel : Nat) → List (Char × Bool) → List Char
  | 0, _ => []
  | _ + 1, [] => []
  | fuel + 1, ('[', false) :: (':', false) :: rest =>
    let name := (rest.map Prod.fst).takeWhile (· ≠ ':')
    match charsOfClass (String.ofList name), rest.drop name.length with
    | some cs, (':', _) :: (']', _) :: rest => cs ++ setChars size fuel rest
    | _, _ => '[' :: setChars size fuel ((':', false) :: rest)
  | fuel + 1, ('[', false) :: ('=', false) :: (c, _) :: ('=', false) :: (']', false) :: rest =>
    c :: setChars size fuel rest
  | fuel + 1, ('[', false) :: (c, q) :: ('*', false) :: rest =>
    let digits := (rest.map Prod.fst).takeWhile Char.isDigit
    match rest.drop digits.length with
    | (']', _) :: behind =>
      let n :=
        if digits.head? = some '0' then digits.foldl (fun n d => 8 * n + digitValue d) 0
        else numberOfDigits digits
      let more := setChars size fuel behind
      List.replicate (if n = 0 then size - more.length else n) c ++ more
    | _ => '[' :: setChars size fuel ((c, q) :: ('*', false) :: rest)
  | fuel + 1, (a, _) :: ('-', false) :: (b, _) :: rest =>
    ((List.range (b.toNat + 1 - a.toNat)).map fun i => Char.ofNat (a.toNat + i)) ++
      setChars size fuel rest
  | fuel + 1, (c, _) :: rest => c :: setChars size fuel rest

/-- A range of a set that runs backwards. -/
def backwards? : List (Char × Bool) → Option (Char × Char)
  | (a, _) :: ('-', false) :: (b, q) :: rest =>
    if b.toNat < a.toNat then some (a, b) else backwards? ((b, q) :: rest)
  | _ :: rest => backwards? rest
  | [] => none

/-- Characters that stand for others are exchanged, and others left out. -/
def exchange : List Row → State → State :=
  taking (flags "cCdst" ++ [⟨'c', "complement", .nothing⟩, ⟨'d', "delete", .nothing⟩,
      ⟨'s', "squeeze-repeats", .nothing⟩, ⟨'t', "truncate-set1", .nothing⟩]) 1 fun a s =>
    let deletes := a.has 'd'
    let squeezes := a.has 's'
    let needed := if deletes == squeezes then 2 else 1
    let most := if deletes && !squeezes then 1 else 2
    match a.operands with
    | [] => refuse s 1 "missing operand"
    | first :: more =>
      if a.operands.length < needed then
        let s := report s ("missing operand after " ++ inQuotes first)
        let s := if squeezes && deletes then s.put 2
            "Two strings must be given when both deleting and squeezing repeats.\n"
          else s.put 2 "Two strings must be given when translating.\n"
        (s.put 2 ("Try '" ++ s.self ++ " --help' for more information.\n")).withStatus 1
      else if most < a.operands.length then
        let extra := (a.operands[most]?).getD ""
        let s := report s ("extra operand " ++ inQuotes extra)
        let s := if most = 1 && a.operands.length = 2 then s.put 2
            "Only one string may be given when deleting without squeezing repeats.\n" else s
        (s.put 2 ("Try '" ++ s.self ++ " --help' for more information.\n")).withStatus 1
      else
        let cells := fun (r : Row) => setCells (r.length + 1) r.toList
        match backwards? (cells first), more.findSome? fun m => backwards? (cells m) with
        | some (c, d), _ => flaw s ("range-endpoints of '" ++ String.ofList [c, '-', d] ++
            "' are in reverse collating sequence order")
        | none, some (c, d) => flaw s ("range-endpoints of '" ++ String.ofList [c, '-', d] ++
            "' are in reverse collating sequence order")
        | none, none =>
          let one := setChars 0 (first.length + 1) (cells first)
          let one :=
            if a.has 'c' || a.has 'C' then
              ((List.range 256).map Char.ofNat).filter fun c => !one.contains c
            else one
          let two := (more.head?.map fun m => setChars one.length (m.length + 1) (cells m)).getD []
          if !deletes && more ≠ [] && two = [] then
            flaw s "when not truncating set1, string2 must be non-empty"
          else match s.readAll 0 with
            | .error e => flaw s ("read error: " ++ e.reason)
            | .ok (r, s) =>
              let one' := if a.has 't' then one.take two.length else one
              let last := two.getLast?.getD '\x00'
              -- the last meaning of a character counts
              let table := (one'.zipIdx.map fun (c, i) => (c, (two[i]?).getD last)).reverse
              let swap := fun c => (table.lookup c).getD c
              let cs := r.toList
              let cs := if deletes then cs.filter fun c => !one.contains c
                else if more ≠ [] then cs.map swap else cs
              let squeezed := if more ≠ [] then two else one
              let cs :=
                if squeezes then
                  (cs.foldl (fun done c =>
                    if squeezed.contains c && done.head? = some c then done else c :: done)
                    []).reverse
                else cs
              s.print (String.ofList cs)

/-! ## Octets in numbers -/

/-- How octets are shown: how many at once, in which base, and how wide. -/
structure Shown where
  size : Nat
  base : Nat
  width : Nat
  signed : Bool := false
  letters : Bool := false
  deriving DecidableEq, Repr

/-- What an argument asks for. -/
def Shown.ofRow? (a : Row) : Option Shown :=
  let sizeOf := fun (cs : List Char) (usual : Nat) =>
    match cs with
    | [] => some usual
    | ['C'] => some 1
    | ['S'] => some 2
    | ['I'] => some 4
    | ['L'] => some 8
    | cs => natural? (String.ofList cs)
  match a.toList with
  | ['c'] => some { size := 1, base := 0, width := 3, letters := true }
  | 'x' :: cs => (sizeOf cs 4).map fun n => { size := n, base := 16, width := 2 * n }
  | 'o' :: cs => (sizeOf cs 4).map fun n =>
      { size := n, base := 8, width := if n = 1 then 3 else if n = 2 then 6 else if n = 4 then 11 else 22 }
  | 'u' :: cs => (sizeOf cs 4).map fun n =>
      { size := n, base := 10, width := if n = 1 then 3 else if n = 2 then 5 else if n = 4 then 10 else 20 }
  | 'd' :: cs => (sizeOf cs 4).map fun n =>
      { size := n, base := 10, signed := true
        width := if n = 1 then 4 else if n = 2 then 6 else if n = 4 then 11 else 20 }
  | _ => none

/-- Some octets as one number of some form. -/
def Shown.text (f : Shown) (octets : List Char) : String :=
  if f.letters then
    match octets with
    | [c] =>
      match escapes.find? fun e => e.2 = c && e.1 ≠ '\\' with
      | some (letter, _) => padded 3 (String.ofList ['\\', letter])
      | none =>
        if c = '\x00' then " \\0" else if isShown c then padded 3 c.toString
        else padded 3 (State.octal 3 c.toNat)
    | _ => "   "
  else
    let n := octets.reverse.foldl (fun n c => 256 * n + c.toNat) 0
    let limit := Decimal.factor 256 f.size
    if f.signed then
      padded f.width (if limit ≤ 2 * n then "-" ++ toString (limit - n) else toString n)
    else
      let ds := Nat.toDigits f.base n
      if f.base = 10 then padded f.width (String.ofList ds)
      else String.ofList (List.replicate (f.width - ds.length) '0' ++ ds)

/-- Octets in numbers, sixteen to a line. -/
def dump : List Row → State → State :=
  taking (flags "abcdosxv" ++ valued "AtNjw" ++ [⟨'A', "address-radix", .argument⟩,
      ⟨'t', "format", .argument⟩, ⟨'N', "read-bytes", .argument⟩, ⟨'j', "skip-bytes", .argument⟩,
      ⟨'v', "output-duplicates", .nothing⟩]) 1 fun a s =>
    let forms := a.chosen.filterMap fun (c, v) =>
      if c = 't' then v.bind Shown.ofRow?
      else if c = 'c' then Shown.ofRow? "c"
      else if c = 'b' then Shown.ofRow? "o1"
      else if c = 'x' then Shown.ofRow? "x2"
      else if c = 'o' then Shown.ofRow? "o2"
      else if c = 'd' then Shown.ofRow? "u2"
      else if c = 's' then Shown.ofRow? "d2"
      else none
    let forms := if forms = [] then [{ size := 2, base := 8, width := 6 }] else forms
    let bad := a.chosen.find? fun (c, v) => c = 't' && (v.bind Shown.ofRow?).isNone
    match bad with
    | some (_, v) => flaw s ("invalid type string " ++ inQuotes (v.getD ""))
    | none =>
      let (r, s) := gathered a.operands plainFault s
      let skip := ((a.value? 'j').bind amount?).getD 0
      let cs := r.toList.drop skip
      let cs := match (a.value? 'N').bind amount? with
        | some n => cs.take n
        | none => cs
      let radix := (a.value? 'A').getD "o"
      let address := fun (n : Nat) =>
        if radix = "n" then ""
        else
          let base := if radix = "d" then 10 else if radix = "x" then 16 else 8
          let ds := Nat.toDigits base n
          String.ofList (List.replicate ((if radix = "x" then 6 else 7) - ds.length) '0' ++ ds)
      -- every form takes as much room as the widest one needs
      let room := (forms.map fun f => (f.width + 1) * (16 / f.size)).foldl max 0
      let count := (cs.length + 15) / 16
      let lineAt := fun (i : Nat) => (cs.drop (16 * i)).take 16
      let row := fun (i : Nat) =>
        let line := lineAt i
        let rows := forms.map fun f =>
          let n := (line.length + f.size - 1) / f.size
          let slots := 16 / f.size
          let spare := room - (f.width + 1) * slots
          String.join ((List.range n).map fun k =>
            let gap := spare * (k + 1) / slots - spare * k / slots
            String.ofList (List.replicate (gap + 1) ' ') ++ f.text ((line.drop (f.size * k)).take f.size))
        let front := address (skip + 16 * i)
        let blank := String.ofList (List.replicate front.length ' ')
        String.join (rows.mapIdx fun k t => (if k = 0 then front else blank) ++ t ++ "\n")
      let (text, _) := (List.range count).foldl (fun ((done, starred) : List Row × Bool) i =>
        let same := !a.has 'v' && 0 < i && i + 1 < count && lineAt i = lineAt (i - 1)
        if same then ((if starred then done else "*\n" :: done), true)
        else (row i :: done, false)) ([], false)
      let isNone := r = "" && s.status ≠ 0
      let tail := if radix = "n" || isNone then "" else address (skip + cs.length) ++ "\n"
      s.print (String.join text.reverse ++ tail)

end Utility

end Testbench
