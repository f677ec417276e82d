import EventPipeline.Binary64.Rounded
import EventPipeline.Script.Arithmetic
import EventPipeline.Script.Pattern
import EventPipeline.Script.Shown

/-!
# Texts by patterns

The text of a value as a pattern asks for it. Texts, whole numbers, double-precision numbers and
complex numbers have patterns of their own; any other value has only the pattern that says nothing.

A number is laid out in parts (`Layout`): its sign, what stands in front of the digits, the digits,
which may be grouped and filled up with zeros, and what follows them.
-/

namespace EventPipeline.Script

namespace Pattern

/-! ## Width -/

/-- A text in a place of the width of a pattern. -/
def padded (p : Pattern) (s : Text) : Text :=
  let gap := p.width - s.length
  match p.alignment with
  | .left => s ++ List.replicate gap p.fill
  | .center => List.replicate (gap / 2) p.fill ++ s ++ List.replicate (gap - gap / 2) p.fill
  | _ => List.replicate gap p.fill ++ s

/-! ## Numbers -/

/-- The parts of the text of a number. -/
structure Layout where
  /-- The sign. -/
  sign : Text
  /-- What stands in front of the digits. -/
  lead : Text
  /-- The digits. -/
  digits : Text
  /-- What follows the digits. -/
  rest : Text
  deriving DecidableEq, Repr

/-- The sign of a number. -/
def signText (p : Pattern) (negative : Bool) : Text :=
  if negative then ['-']
  else
    match p.sign with
    | some '+' => ['+']
    | some ' ' => [' ']
    | _ => []

/-- Digits, those of the last group first, with a separator behind every group. -/
def separated (separator : Char) (size : Nat) : (count : Nat) → Text → Text
  | _, [] => []
  | count, c :: rest =>
    if count = size then separator :: c :: separated separator size 1 rest
    else c :: separated separator size (count + 1) rest

/-- The least number of digits that make up a text of a width when they are in groups. -/
def digitCount (size width : Nat) : Nat :=
  width / (size + 1) * size + max (width % (size + 1)) 1

/-- Digits in groups, with as many zeros in front as a width asks for. -/
def grouped (separator : Char) (size width : Nat) (digits : Text) : Text :=
  let zeros := digitCount size width - digits.length
  (separated separator size 0 (digits.reverse ++ List.replicate zeros '0')).reverse

/-- A number in a place of the width of a pattern, with groups of digits of a size. -/
def layOut (p : Pattern) (size : Nat) (l : Layout) : Text :=
  let fixed := l.sign.length + l.lead.length + l.rest.length
  let width := if p.fill = '0' && p.alignment = .behindSign then p.width - fixed else 0
  let digits :=
    if l.digits.isEmpty then []
    else
      match p.separator with
      | some c => grouped c size width l.digits
      | none => List.replicate (width - l.digits.length) '0' ++ l.digits
  let gap := List.replicate (p.width - (fixed + digits.length)) p.fill
  match p.alignment with
  | .behindSign => l.sign ++ l.lead ++ gap ++ digits ++ l.rest
  | _ => p.padded (l.sign ++ l.lead ++ digits ++ l.rest)

/-! ## Texts -/

/-- The letter of a text. -/
def textLetter : Char := 's'

/-- A text by a pattern. -/
def ofText (p : Pattern) (s : Text) : Except PatternFault Text :=
  if p.letter != some textLetter then .error (.letter (p.letter.getD ' ') "str".toList)
  else if p.sign = some ' ' then .error (.ofText "Space".toList)
  else if p.sign.isSome then .error (.ofText "Sign".toList)
  else if p.zeroIsPositive then .error (.ofText "Negative zero coercion (z)".toList)
  else if p.isFull then .error (.ofText "Alternate form (#)".toList)
  else if p.alignment = .behindSign then .error (.ofText "'=' alignment".toList)
  else .ok (p.padded (match p.precision with
    | some n => s.take n
    | none => s))

/-! ## Whole numbers -/

/-- The bases by the letters for them. -/
def bases : Dictionary Char Nat := [('b', 2), ('o', 8), ('x', 16), ('X', 16), ('d', 10), ('n', 10)]

/-- A text in capital letters, as far as the first alphabet goes. -/
def capitals (s : Text) : Text :=
  s.map Char.toUpper

/-- The digits of a number to a base. -/
def digitsOf (base n : Nat) : Except RunError Text :=
  if base = 10 then wholeText n else .ok (Nat.toDigits base n)

/-- A whole number as a character. -/
def ofCharacter (p : Pattern) (n : Int) : Except RunError Text :=
  if p.sign.isSome then .error (.value (.pattern (.ofCharacter "Sign".toList)))
  else if p.isFull then .error (.value (.pattern (.ofCharacter "Alternate form (#)".toList)))
  else if n < 0 || 0x10FFFF < n then .error .overflow
  else
    .ok (p.layOut 3 ⟨[], [], [], [if n.toNat.isValidChar then Char.ofNat n.toNat else '\uFFFD']⟩)

/-- A whole number by a pattern for whole numbers. -/
def ofWhole (p : Pattern) (n : Int) : Except RunError Text :=
  if p.precision.isSome then .error (.value (.pattern (.ofWhole "Precision".toList)))
  else if p.zeroIsPositive then
    .error (.value (.pattern (.ofWhole "Negative zero coercion (z)".toList)))
  else if p.letter = some 'c' then p.ofCharacter n
  else do
    let letter := p.letter.getD 'd'
    let base := (bases.get? letter).getD 10
    let digits ← digitsOf base n.natAbs
    let lead := if p.isFull && base ≠ 10 then ['0', letter.toLower] else []
    let size := if base = 10 then 3 else 4
    let l : Layout := ⟨p.signText (n < 0), lead, digits, []⟩
    if letter = 'X' then
      return p.layOut size { l with lead := capitals lead, digits := capitals digits }
    else return p.layOut size l

/-! ## Double-precision numbers -/

/-- The greatest number of digits of a double-precision number. -/
def precisionLimit : Nat := 2147483647

/-- The number of digits of a double-precision number unless a pattern says how many. -/
def usualPrecision : Nat := 6

/-- The text of a magnitude with a point even if nothing follows it. -/
def withPoint (s : Text) : Text :=
  if s.contains '.' then s
  else
    let digits := s.takeWhile Char.isDigit
    digits ++ '.' :: s.drop digits.length

/-- The text of a finite magnitude with the letter and the number of digits of a pattern. -/
def magnitudeText (p : Pattern) (rank : Nat) : Text :=
  let digits := p.precision.getD usualPrecision
  match p.letter.map Char.toLower with
  | some 'e' => Binary64.roundedText .scientific rank digits p.isFull
  | some 'f' => Binary64.roundedText .fixed rank digits p.isFull
  | some '%' => Binary64.roundedText .fixed rank digits p.isFull ++ ['%']
  | some _ => Binary64.roundedText .general rank digits p.isFull
  | none =>
    match p.precision with
    | some digits => Binary64.roundedText .pointed rank digits p.isFull
    | none =>
      let s := Binary64.magnitudeText rank
      if p.isFull then withPoint s else s

/-- Whether the digits of a number are zeros. -/
def isZeroText (s : Text) : Bool :=
  (s.takeWhile (· ≠ 'e')).all fun c => !c.isDigit || c = '0'

/-- The text of the magnitude of a number, and whether it has a minus sign. -/
def signedText (p : Pattern) (x : Binary64) : Bool × Text :=
  let (negative, s) := match x with
    | .nan => (false, "nan".toList ++ if p.letter = some '%' then ['%'] else [])
    | .infinite negative => (negative, "inf".toList ++ if p.letter = some '%' then ['%'] else [])
    | .finite negative rank =>
      let s := p.magnitudeText rank
      (negative && !(p.zeroIsPositive && isZeroText s), s)
  (negative, if p.letter.any Char.isUpper then capitals s else s)

/-- A number by a pattern, whose sign it has from somewhere. -/
def layOutReal (p : Pattern) (sign : Bool → Text) (x : Binary64) : Text :=
  let (negative, s) := p.signedText x
  let digits := s.takeWhile Char.isDigit
  p.layOut 3 ⟨sign negative, [], digits, s.drop digits.length⟩

/-- The letters of double-precision numbers. -/
def realLetters : List Char := "eEfFgGn%".toList

/-- A double-precision number by a pattern for such numbers. -/
def ofReal (p : Pattern) (x : Binary64) : Except PatternFault Text :=
  if p.precision.any (precisionLimit < ·) then .error .longPrecision
  else
    let x := if p.letter = some '%' then x.mul (Binary64.ofInt 100) else x
    .ok (p.layOutReal p.signText x)

/-- A complex number by a pattern. -/
def ofComplex (p : Pattern) (z : Complex) : Except PatternFault Text :=
  if p.precision.any (precisionLimit < ·) then .error .longPrecision
  else if p.fill = '0' then .error .zerosOfComplex
  else if p.alignment = .behindSign then .error .signOfComplex
  else
    let bare := { p with fill := ' ', alignment := .left, width := 0 }
    let part (x : Binary64) (sign : Bool → Text) : Text :=
      let s := bare.layOutReal sign x
      if p.letter.isNone && p.precision.isNone && s.endsWith ['.', '0'] then s.take (s.length - 2)
      else if p.letter.isNone && p.precision.isSome then
        { bare with letter := some 'g' }.layOutReal sign x
      else s
    let imaginary := part z.im
    if p.letter.isNone && z.re = Binary64.zero then
      .ok (p.padded (imaginary p.signText ++ ['j']))
    else
      let both := part z.re p.signText ++
        imaginary (fun negative => if negative then ['-'] else ['+']) ++ ['j']
      .ok (p.padded (if p.letter.isNone then '(' :: (both ++ [')']) else both))

end Pattern

/-! ## Values -/

namespace Value

/-- What is wrong with a pattern, as a failure of a script. -/
def liftPattern {α : Type} (x : Except PatternFault α) : Except RunError α :=
  x.mapError fun f => .value (.pattern f)

/-- A whole number by a pattern, which may be one for double-precision numbers. -/
def wholeBy (n : Int) (kind pattern : Text) : Except RunError Text := do
  let p ← liftPattern (Pattern.read kind .right (some 'd') pattern)
  let letter := p.letter.getD 'd'
  if letter = 'c' || Pattern.bases.contains letter then p.ofWhole n
  else if Pattern.realLetters.contains letter then
    let x ← Number.realOfWhole n
    liftPattern (p.ofReal x)
  else throw (.value (.pattern (.letter letter kind)))

/-- A double-precision number by a pattern. -/
def realBy (x : Binary64) (kind pattern : Text) : Except PatternFault Text := do
  let p ← Pattern.read kind .right none pattern
  if p.letter.all Pattern.realLetters.contains then p.ofReal x
  else throw (.letter (p.letter.getD ' ') kind)

/-- A complex number by a pattern. -/
def complexBy (z : Complex) (kind pattern : Text) : Except PatternFault Text := do
  let p ← Pattern.read kind .right none pattern
  if p.letter.all fun c => c ≠ '%' && Pattern.realLetters.contains c then p.ofComplex z
  else throw (.letter (p.letter.getD ' ') kind)

/-- Checks a pattern for a text that is not known. -/
def checkPattern (pattern : Text) : Except RunError Unit := do
  let p ← liftPattern (Pattern.read (text []).kindWord .left (some Pattern.textLetter) pattern)
  let _ ← liftPattern (p.ofText [])

/-- The text of a value by a pattern, if that is known. -/
def textBy (v : Value) (pattern : Text) : Except RunError (Option Text) :=
  if v.isUnknown then .ok none
  else if pattern.isEmpty then v.plain
  else
    match v with
    | text s => do
      let p ← liftPattern (Pattern.read v.kindWord .left (some Pattern.textLetter) pattern)
      (liftPattern (p.ofText s)).map some
    | bool b => (wholeBy b.toNat v.kindWord pattern).map some
    | int n => (wholeBy n v.kindWord pattern).map some
    | float x => (liftPattern (realBy x v.kindWord pattern)).map some
    | complex z => (liftPattern (complexBy z v.kindWord pattern)).map some
    | _ => .error .mismatch

/-- The text of a value in a field, if that is known. -/
def fieldBy (v : Value) (conversion : Option Conversion) (pattern : Text) :
    Except RunError (Option Text) := do
  match ← v.converted conversion with
  | some v => v.textBy pattern
  | none =>
    checkPattern pattern
    return none

end Value

end EventPipeline.Script
