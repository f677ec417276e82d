import EventPipeline.Script.Arithmetic
import EventPipeline.Script.Literal
import EventPipeline.Text.Numeral

/-!
# Numbers that texts denote

A text denotes a whole number to a base from two to thirty-six, a number with a fraction and an
exponent, or a complex number. White space may stand around it, signs in front, and single
underscores between digits, which may be those of any script. `wholeOf`, `realOf` and `complexOf`
read the three.
-/

namespace EventPipeline.Script

namespace Numeral

/-! ## Whole numbers -/

/-- The value of a digit or of a letter that stands for one. -/
def digitValue? (c : Char) : Option Nat :=
  if c.isAlpha then some (10 + (c.toLower.toNat - 'a'.toNat)) else Text.digitValue? c

/-- Whether a character is a digit to a base. -/
def isDigitTo (base : Nat) (c : Char) : Bool :=
  (digitValue? c).any (· < base)

/-- The number that digits to a base denote. -/
def valueTo (base : Nat) (digits : Text) : Nat :=
  digits.foldl (fun n c => base * n + (digitValue? c).getD 0) 0

/-- The bases in which a number may have any number of digits. -/
def unlimitedBases : List Nat := [2, 4, 8, 16, 32]

/-- The letters that stand for a base behind a zero. -/
def lettersOf (base : Nat) : List Char :=
  if base = 16 then ['x', 'X']
  else if base = 8 then ['o', 'O']
  else if base = 2 then ['b', 'B']
  else []

/-- The base of a numeral that says it itself, and whether it has to be zero. -/
def baseWithin : Text → Nat × Bool
  | '0' :: c :: _ =>
    match Literal.baseOf? c with
    | some base => (base, false)
    | none => (10, true)
  | ['0'] => (10, true)
  | _ => (10, false)

/-- A numeral without the zero and the letter that stand for its base, and without the underscore
behind them. -/
def withoutBase (base : Nat) : Text → Text
  | '0' :: c :: rest =>
    if (lettersOf base).contains c then (if rest.head? = some '_' then rest.tail else rest)
    else '0' :: c :: rest
  | s => s

/-- The digits of a numeral without a sign, which may be missing, and the text behind them. There is
nothing where an underscore stands at the beginning or in front of no digit. -/
def digits? (base : Nat) (s : Text) : Option (Text × Text) :=
  if s.head? = some '_' then none
  else
    match Literal.digitRun? (isDigitTo base) s with
    | some ([], _) => none
    | found => found

/-- The whole number of a numeral without a sign; zero stands for the base that it says itself. -/
def magnitude (base : Nat) (shown s : Text) : Except CallFault Nat :=
  let (actual, isZero) := if base = 0 then baseWithin s else (base, false)
  match digits? actual (withoutBase actual s) with
  | none => .error (.noWhole base shown)
  | some (digits, rest) =>
    if !unlimitedBases.contains actual && Json.digitLimit < digits.length then
      .error (.longWhole digits.length)
    else if !rest.isEmpty || (isZero && valueTo actual digits ≠ 0) then .error (.noWhole base shown)
    else .ok (valueTo actual digits)

/-- The whole number that a text denotes to a base; faults show the text as it is `shown`. -/
def wholeOf (base : Nat) (shown s : Text) : Except CallFault Int :=
  match s.trimBy Text.isSpace with
  | '-' :: rest => (magnitude base shown rest).map fun n => -(n : Int)
  | '+' :: rest => (magnitude base shown rest).map Int.ofNat
  | rest => (magnitude base shown rest).map Int.ofNat

/-! ## Numbers with a fraction -/

/-- A text with the digits of the first alphabet for those of any script, and without the
underscores between them. There is nothing where an underscore stands elsewhere. -/
def plain? : (behindDigit : Bool) → Text → Option Text
  | _, [] => some []
  | behindDigit, c :: rest =>
    if c = '_' then
      if behindDigit && rest.head?.any Text.isDecimalDigit then plain? false rest else none
    else
      match Text.digitValue? c with
      | some n => (plain? true rest).map (Nat.digitChar n :: ·)
      | none => (plain? false rest).map (c :: ·)

/-- A sign that a text begins with, or none, and the text behind it. -/
def signOf : Text → Bool × Text
  | '-' :: rest => (true, rest)
  | '+' :: rest => (false, rest)
  | s => (false, s)

/-- The exponent that a text begins with, and the text behind it; there is none if digits are
missing. -/
def exponentOf (s : Text) : Int × Text :=
  match s with
  | [] => (0, [])
  | c :: rest =>
    let (isNegative, body) := signOf rest
    let digits := body.takeWhile Char.isDigit
    if (c = 'e' || c = 'E') && !digits.isEmpty then
      let n : Int := Text.toNat digits
      (if isNegative then -n else n, body.drop digits.length)
    else (0, s)

/-- The words for numbers that are not finite. -/
def words (isNegative : Bool) : List (Text × Binary64) := [
  ("infinity".toList, .infinite isNegative), ("inf".toList, .infinite isNegative),
  ("nan".toList, .nan)]

/-- The number that a text begins with, and the text behind it. -/
def front? (s : Text) : Option (Binary64 × Text) :=
  let (isNegative, body) := signOf s
  let lowered := body.map Char.toLower
  match (words isNegative).find? fun word => word.1.isPrefixOf lowered with
  | some (word, x) => some (x, body.drop word.length)
  | none =>
    let whole := body.takeWhile Char.isDigit
    let rest := body.drop whole.length
    let places := if rest.head? = some '.' then rest.tail.takeWhile Char.isDigit else []
    if whole.isEmpty && places.isEmpty then none
    else
      let behind := if rest.head? = some '.' then rest.drop (places.length + 1) else rest
      let (exponent, behind) := exponentOf behind
      some (.ofDecimal isNegative (Text.toNat (whole ++ places)) (exponent - places.length), behind)

/-- The number that a text denotes; faults show the text as it is `shown`. -/
def realOf (shown s : Text) : Except CallFault Binary64 :=
  match (plain? false (s.trimBy Text.isSpace)).bind front? with
  | some (x, []) => .ok x
  | _ => .error (.noReal shown)

/-! ## Complex numbers -/

/-- Whether a letter marks an imaginary part. -/
def isMark (c : Char) : Bool :=
  c = 'j' || c = 'J'

/-- One with a sign, if a text is a sign and the letter of an imaginary part; the sign may be
missing at the beginning. -/
def unit? (needsSign : Bool) (s : Text) : Option Binary64 :=
  let (isNegative, body) := signOf s
  if needsSign && body.length = s.length then none
  else
    match body with
    | [c] => if isMark c then some (if isNegative then Binary64.one.neg else Binary64.one) else none
    | _ => none

/-- The number of the imaginary part that a text is. -/
def imaginary? (needsSign : Bool) (s : Text) : Option Binary64 :=
  match unit? needsSign s, front? s with
  | some x, _ => some x
  | none, some (x, [c]) =>
    if isMark c && !(needsSign && (signOf s).2.length = s.length) then some x else none
  | _, _ => none

/-- The complex number that a text without white space around it denotes. -/
def plainComplex? (s : Text) : Option Complex :=
  match imaginary? false s, front? s with
  | some y, _ => some ⟨.zero, y⟩
  | none, some (x, []) => some ⟨x, .zero⟩
  | none, some (x, rest) => (imaginary? true rest).map fun y => ⟨x, y⟩
  | none, none => none

/-- A text without the brackets around it, if there are any. -/
def withoutBrackets? (s : Text) : Option Text :=
  match s with
  | '(' :: rest =>
    if rest.getLast? = some ')' then some (Text.trimBy Text.isSpace rest.dropLast) else none
  | s => some s

/-- The complex number that a text denotes, which may stand in brackets. -/
def complexOf (s : Text) : Except CallFault Complex :=
  match ((plain? false (s.trimBy Text.isSpace)).bind withoutBrackets?).bind plainComplex? with
  | some z => .ok z
  | none => .error .noComplex

end Numeral

end EventPipeline.Script
