import EventPipeline.Binary64.Shortest

/-!
# Decimals with a set number of digits

A finite magnitude as a decimal with so many places behind the point, or with so many significant
digits: the nearest such decimal, of two equally near ones the even one. `roundedText` lays the
digits out in one of three forms, of which the general one is positional as long as the digits reach
the point and the number is not too small.
-/

namespace EventPipeline.Binary64

/-- How a number with a set number of digits is written. -/
inductive RoundedForm
  /-- With so many places behind the point. -/
  | fixed
  /-- With one digit in front of the point, so many places behind it, and an exponent. -/
  | scientific
  /-- With so many significant digits, but no zeros at the end. -/
  | general
  /-- The general form with at least one place behind the point. -/
  | pointed
  deriving DecidableEq, Repr

/-- The digits of a magnitude with so many places behind the point, as one number. -/
def fixedDigits (rank places : Nat) : Nat :=
  divNearest (unitsOfRank rank * Nat.pow 10 places) unitsOfOne

/-- The first so many digits of a magnitude as one number, and the exponent of the leading one. -/
def leadingDigits (rank count : Nat) : Nat × Int :=
  if rank = 0 then (0, 0)
  else
    let exponent := leadingExponent (unitsOfRank rank) unitsOfOne
    let (num, den) := scaleDown (unitsOfRank rank) unitsOfOne (exponent - (count - 1 : Nat))
    let digits := divNearest num den
    if digits = Nat.pow 10 count then (Nat.pow 10 (count - 1), exponent + 1) else (digits, exponent)

/-- A number as digits, padded with zeros in front to so many. -/
def paddedDigits (width n : Nat) : Text :=
  let digits := Text.ofNat n
  List.replicate (width - digits.length) '0' ++ digits

/-- Digits with a point in front of the last so many. A point with nothing behind it is left out
unless `keepsPoint` says otherwise. -/
def pointedDigits (digits : Text) (places : Nat) (keepsPoint : Bool) : Text :=
  let whole := digits.take (digits.length - places)
  if places = 0 then if keepsPoint then whole ++ ['.'] else whole
  else whole ++ '.' :: digits.drop (digits.length - places)

/-- Digits without the zeros at the end. -/
def withoutZeros (digits : Text) : Text :=
  (digits.reverse.dropWhile (· = '0')).reverse

/-- The fixed form of a magnitude. -/
def fixedText (rank places : Nat) (keepsPoint : Bool) : Text :=
  pointedDigits (paddedDigits (places + 1) (fixedDigits rank places)) places keepsPoint

/-- The scientific form of digits. -/
def scientificText (digits : Text) (exponent : Int) (keepsPoint : Bool) : Text :=
  pointedDigits digits (digits.length - 1) keepsPoint ++ 'e' :: exponentText exponent

/-- The general form of a magnitude; `pointed` asks for a place behind the point. -/
def generalText (rank count : Nat) (keepsPoint pointed : Bool) : Text :=
  let count := max count 1
  let (value, exponent) := leadingDigits rank count
  let digits := paddedDigits count value
  let limit : Int := if pointed then count - 1 else count
  if exponent < leastPositional || limit ≤ exponent then
    let kept := if keepsPoint then digits else withoutZeros digits
    scientificText (if kept.isEmpty then ['0'] else kept) exponent keepsPoint
  else
    let places := (count - 1 - exponent).toNat
    let padded := List.replicate (places + 1 - digits.length) '0' ++ digits
    let whole := padded.take (padded.length - places)
    let fraction := padded.drop (padded.length - places)
    let fraction := if keepsPoint then fraction else withoutZeros fraction
    if fraction.isEmpty then
      if pointed then whole ++ ['.', '0'] else if keepsPoint then whole ++ ['.'] else whole
    else whole ++ '.' :: fraction

/-- The text of a magnitude with a set number of digits. -/
def roundedText (form : RoundedForm) (rank digits : Nat) (keepsPoint : Bool) : Text :=
  match form with
  | .fixed => fixedText rank digits keepsPoint
  | .scientific =>
    let (value, exponent) := leadingDigits rank (digits + 1)
    scientificText (paddedDigits (digits + 1) value) exponent keepsPoint
  | .general => generalText rank digits keepsPoint false
  | .pointed => generalText rank digits keepsPoint true

/-! ## Numbers -/

/-- The greatest number of places behind the point that a number is rounded to; beyond it none
changes. -/
def mostPlaces : Int := 323

/-- The greatest number of places in front of the point that a number is rounded to; beyond it all
become zero. -/
def mostTens : Int := 308

/-- The number nearest to the decimal with so many places behind the point that is nearest to a
number; a negative number of places is one of zeros in front of the point. -/
def roundedTo (x : Binary64) (places : Int) : Binary64 :=
  match x with
  | finite negative rank =>
    if mostPlaces < places then x
    else if places < -mostTens then ofRank negative 0
    else if 0 ≤ places then ofDecimal negative (fixedDigits rank places.toNat) (-places)
    else
      let tens := Nat.pow 10 (-places).toNat
      ofDecimal negative (divNearest (unitsOfRank rank) (unitsOfOne * tens)) (-places)
  | x => x

/-- The whole number nearest to a finite number, of two equally near ones the even one. -/
def nearestInt? : Binary64 → Option Int
  | finite negative rank =>
    let n : Int := fixedDigits rank 0
    some (if negative then -n else n)
  | _ => none

end EventPipeline.Binary64
