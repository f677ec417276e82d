import EventPipeline.Text.Digit

/-!
# Numerals

A numeral is a whole number in the decimal digits of any script. A sign may stand in front, single
underscores between two digits, and white space around it all. Only so many digits are read.
-/

namespace EventPipeline.Text

/-! ## Digits -/

/-- The value of a decimal digit. -/
def digitValue? (c : Char) : Option Nat :=
  (decimalZeros.find? fun first => first ≤ c.toNat && c.toNat < first + 10).map (c.toNat - ·)

/-- The number that the digits of a text make up, whatever stands between them. -/
def valueOfDigits (s : Text) : Nat :=
  s.foldl (fun n c => match digitValue? c with
    | some digit => 10 * n + digit
    | none => n) 0

/-- Whether every underscore stands between two digits, and a digit at the end, where digits and
underscores follow a digit or nothing. -/
def areJoinedDigits : (behindDigit : Bool) → Text → Bool
  | behindDigit, [] => behindDigit
  | behindDigit, c :: rest =>
    if c = '_' then behindDigit && areJoinedDigits false rest else areJoinedDigits true rest

/-! ## Numerals -/

/-- Why a text is not read as a numeral. -/
inductive NumeralError
  /-- It does not have the form of one. -/
  | form (s : Text)
  /-- It has too many digits. -/
  | long (digits : Nat)
  deriving DecidableEq, Repr

/-- Reads digits, of which there may be as many as `limit`; `whole` is the text they come from. -/
def readDigits (limit : Nat) (whole s : Text) : Except NumeralError Nat :=
  let front := s.takeWhile fun c => c = '_' || isDecimalDigit c
  let count := front.countP isDecimalDigit
  if !areJoinedDigits false front then .error (.form whole)
  else if limit < count then .error (.long count)
  else if front.length < s.length then .error (.form whole)
  else .ok (valueOfDigits front)

/-- Reads a numeral of as many digits as `limit`. -/
def readNumeral (limit : Nat) (s : Text) : Except NumeralError Int :=
  match s.trimBy isSpace with
  | '-' :: rest => (readDigits limit s rest).map fun n => -(n : Int)
  | '+' :: rest => (readDigits limit s rest).map Int.ofNat
  | rest => (readDigits limit s rest).map Int.ofNat

end EventPipeline.Text
