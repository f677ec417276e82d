import EventPipeline.Binary64
import EventPipeline.Text

/-!
# The shortest decimal that reads back

A finite number is written with the fewest significant digits that read back as the same number.
On the grid of decimals with `n` significant digits only the two neighbours of the value are
candidates: if any point of the grid reads back, so does one of them. `shortest` goes through the
grids in order of `n`, keeps of two candidates the nearer one and of two equally near ones the even
one. Seventeen digits always suffice; the exact expansion behind them makes the function total
without an appeal to that fact, and it reads back as well.

`toText` lays the digits out: positionally when the first digit stands between the fourth decimal
place and the sixteenth digit before the point, and with an exponent otherwise.
-/

namespace EventPipeline

namespace Binary64

/-! ## Digits -/

/-- The exponent of the leading digit of `num / den`, for a positive quotient. -/
def leadingExponent (num den : Nat) : Int :=
  if den ≤ num then ((Nat.toDigits 10 (num / den)).length : Int) - 1
  else -((Nat.toDigits 10 ((den + num - 1) / num - 1)).length : Int)

/-- A numerator and a denominator of `num / den / 10 ^ exponent`. -/
def scaleDown (num den : Nat) (exponent : Int) : Nat × Nat :=
  if 0 ≤ exponent then (num, den * Nat.pow 10 exponent.toNat)
  else (num * Nat.pow 10 (-exponent).toNat, den)

/-- Whether the decimal `digits * 10 ^ exponent` reads back as the magnitude of a rank. -/
def readsBack (rank : Nat) (digits : Nat) (exponent : Int) : Bool :=
  ofDecimal false digits exponent = ofRank false rank

/-- The multiple of `10 ^ exponent` that reads back as the magnitude of a rank and is nearest to
it, if one of the two neighbours of the magnitude reads back. -/
def candidate? (rank : Nat) (exponent : Int) : Option Nat :=
  let (num, den) := scaleDown (unitsOfRank rank) unitsOfOne exponent
  let below := num / den
  let gap := num % den
  match readsBack rank below exponent, readsBack rank (below + 1) exponent with
  | true, true =>
    some (if 2 * gap < den then below
      else if den < 2 * gap then below + 1
      else below + below % 2)
  | true, false => some below
  | false, true => some (below + 1)
  | false, false => none

/-- The first candidate on the grids of `count` more digits, from the grid of a given unit on. -/
def firstCandidate? (rank : Nat) : (count : Nat) → (exponent : Int) → Option (Nat × Int)
  | 0, _ => none
  | count + 1, exponent =>
    match candidate? rank exponent with
    | some digits => some (digits, exponent)
    | none => firstCandidate? rank count (exponent - 1)

/-- The exact decimal expansion of the magnitude of a rank. -/
def exactDecimal (rank : Nat) : Nat × Int :=
  (unitsOfRank rank * Nat.pow 5 1074, -1074)

/-- The shortest decimal that reads back as the magnitude of a rank. -/
def shortest (rank : Nat) : Nat × Int :=
  let exponent := leadingExponent (unitsOfRank rank) unitsOfOne
  (firstCandidate? rank 17 exponent).getD (exactDecimal rank)

/-! ## Layout -/

/-- Numbers whose leading digit has at least this exponent are written positionally. -/
def leastPositional : Int := -4

/-- Numbers whose leading digit has at most this exponent are written positionally. -/
def greatestPositional : Int := 15

/-- The text of an exponent, with a sign and at least two digits. -/
def exponentText (e : Int) : Text :=
  let digits := Text.ofNat e.natAbs
  (if e < 0 then '-' else '+') :: (List.replicate (2 - digits.length) '0' ++ digits)

/-- The decimal `digits * 10 ^ exponent` in positional notation, with a point and at least one
digit on each side of it. -/
def positional (digits : Text) (exponent : Int) : Text :=
  if 0 ≤ exponent then digits ++ List.replicate exponent.toNat '0' ++ ['.', '0']
  else
    let places := (-exponent).toNat
    let padded := List.replicate (places + 1 - digits.length) '0' ++ digits
    padded.take (padded.length - places) ++ '.' :: padded.drop (padded.length - places)

/-- The digits with the point after the first one and an exponent behind. -/
def scientific (digits : Text) (exponent : Int) : Text :=
  let leading := exponent + digits.length - 1
  let mantissa := match digits with
    | [] => []
    | [d] => [d]
    | d :: ds => d :: '.' :: ds
  mantissa ++ 'e' :: exponentText leading

/-- The decimal without the zeros at the end of its digits. -/
def trimZeros (digits : Text) (exponent : Int) : Text × Int :=
  let kept := (digits.reverse.dropWhile (· == '0')).reverse
  (kept, exponent + (digits.length - kept.length : Nat))

/-- The text of a magnitude. -/
def magnitudeText (rank : Nat) : Text :=
  if rank = 0 then ['0', '.', '0']
  else
    let (value, unit) := shortest rank
    let (digits, exponent) := trimZeros (Text.ofNat value) unit
    let leading := exponent + digits.length - 1
    if leastPositional ≤ leading ∧ leading ≤ greatestPositional then positional digits exponent
    else scientific digits exponent

/-- The text of a finite number; a caller has its own words for the others. -/
def finiteText (negative : Bool) (rank : Nat) : Text :=
  if negative then '-' :: magnitudeText rank else magnitudeText rank

/-- The spelling of the numbers that are not finite. -/
structure Spelling where
  /-- The text of a number that is not a number. -/
  nan : Text
  /-- The text of positive infinity; a minus sign in front makes it negative. -/
  infinity : Text

/-- The text of a number, given the words for those that are not finite. -/
def toText (words : Spelling) : Binary64 → Text
  | nan => words.nan
  | infinite negative => if negative then '-' :: words.infinity else words.infinity
  | finite negative rank => finiteText negative rank

/-- The words `nan` and `inf`. -/
def plainWords : Spelling where
  nan := "nan".toList
  infinity := "inf".toList

end Binary64

end EventPipeline
