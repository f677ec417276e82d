import EventPipeline.Script.Fault
import EventPipeline.Text.Numeral

/-!
# Patterns for the texts of values

A pattern says how the text of a value is laid out. From left to right it holds, each part only if
it is needed: a character to fill up with and where the text stands, the sign of numbers, the marks
`z`, `#` and `0`, the least width, a separator of groups, a number of digits behind a point, and a
letter for the sort of text. `Pattern.read` takes it apart.
-/

namespace EventPipeline.Script

/-- Where a text stands in a wider place. -/
inductive Alignment
  /-- At the beginning. -/
  | left
  /-- At the end. -/
  | right
  /-- In the middle. -/
  | center
  /-- At the end, with its sign at the beginning. -/
  | behindSign
  deriving DecidableEq, Repr

/-- A pattern. -/
structure Pattern where
  /-- The character to fill up with. -/
  fill : Char := ' '
  /-- Where the text stands. -/
  alignment : Alignment
  /-- What stands in front of numbers that are not negative, or a minus sign for nothing. -/
  sign : Option Char := none
  /-- Whether a zero never has a minus sign. -/
  zeroIsPositive : Bool := false
  /-- Whether the text says more than it has to. -/
  isFull : Bool := false
  /-- The least width. -/
  width : Nat := 0
  /-- The separator of groups of digits. -/
  separator : Option Char := none
  /-- The number of digits. -/
  precision : Option Nat := none
  /-- The letter for the sort of text. -/
  letter : Option Char := none
  deriving DecidableEq, Repr

namespace Pattern

/-- The alignment that a character stands for. -/
def alignment? : Char → Option Alignment
  | '<' => some .left
  | '>' => some .right
  | '^' => some .center
  | '=' => some .behindSign
  | _ => none

/-- The greatest number in a pattern. -/
def numberLimit : Nat := 9223372036854775807

/-- The number that a text begins with, and the rest. -/
def number? (s : Text) : Except PatternFault (Option Nat × Text) :=
  match s.takeWhile Text.isDecimalDigit with
  | [] => .ok (none, s)
  | digits =>
    let n := Text.valueOfDigits digits
    if numberLimit < n then .error .longNumber else .ok (some n, s.drop digits.length)

/-- Takes a character if it comes next. -/
def taken (c : Char) (s : Text) : Bool × Text :=
  match s with
  | d :: rest => if d = c then (true, rest) else (false, s)
  | [] => (false, s)

/-- The filling and the alignment that a pattern begins with, and the rest. -/
def beginning (s : Text) : Option Char × Option Alignment × Text :=
  match s with
  | c :: d :: rest =>
    match alignment? d, alignment? c with
    | some a, _ => (some c, some a, rest)
    | none, some a => (none, some a, d :: rest)
    | none, none => (none, none, s)
  | [c] =>
    match alignment? c with
    | some a => (none, some a, [])
    | none => (none, none, s)
  | [] => (none, none, [])

/-- The separators that a text begins with: a comma, an underscore, or none. -/
def separator? (s : Text) : Except PatternFault (Option Char × Text) :=
  match s with
  | ',' :: '_' :: _ => .error .twoSeparators
  | ',' :: rest => .ok (some ',', rest)
  | '_' :: ',' :: _ => .error .twoSeparators
  | '_' :: rest => .ok (some '_', rest)
  | s => .ok (none, s)

/-- The number of digits behind a point that a text begins with, and the rest. -/
def precision? (s : Text) : Except PatternFault (Option Nat × Text) := do
  match s with
  | '.' :: rest =>
    let (n, rest) ← number? rest
    if n.isNone then throw .noPrecision
    return (n, rest)
  | s => return (none, s)

/-- The letters whose digits can be grouped, and those of which only underscores can. -/
def isGrouped (separator : Char) (letter : Option Char) : Bool :=
  match letter with
  | none => true
  | some c => "deEfFgG%".toList.contains c || (separator = '_' && "boxX".toList.contains c)

/-- Takes a pattern apart, for values of a kind that are aligned in a way of their own and have a
letter of their own. -/
def read (kind : Text) (usual : Alignment) (usualLetter : Option Char) (s : Text) :
    Except PatternFault Pattern := do
  let (fill, alignment, rest) := beginning s
  let (sign, rest) := match rest with
    | c :: rest => if c = ' ' || c = '+' || c = '-' then (some c, rest) else (none, c :: rest)
    | [] => (none, [])
  let (zeroIsPositive, rest) := taken 'z' rest
  let (isFull, rest) := taken '#' rest
  let (zeros, rest) := if fill.isSome then (false, rest) else taken '0' rest
  let standing := if zeros && alignment.isNone && usual = .right then .behindSign
    else alignment.getD usual
  let (width, rest) ← number? rest
  let (separator, rest) ← separator? rest
  let (precision, rest) ← precision? rest
  let letter ← match rest with
    | [] => pure usualLetter
    | [c] => pure (some c)
    | _ => throw (.form s kind)
  if let some c := separator then
    if !isGrouped c letter then throw (.separator c (letter.getD ' '))
  return {
    fill := fill.getD (if zeros then '0' else ' ')
    alignment := standing
    sign
    zeroIsPositive
    isFull
    width := width.getD 0
    separator
    precision
    letter }

end Pattern

end EventPipeline.Script
