import EventPipeline.Json.Parser
import EventPipeline.Text.Quoted

/-!
# Values that are not possible

A value may have the right kind and still not be possible where it stands: a pattern for a text may
be wrong, a text may have gaps that cannot be filled in, and a function may be given something that
it can make nothing of. Each sort of fault has its own wording.
-/

namespace EventPipeline.Script

/-- What is wrong with a pattern for the text of a value. -/
inductive PatternFault
  /-- A number in it has too many digits. -/
  | longNumber
  /-- A point stands in it that no number follows. -/
  | noPrecision
  /-- It asks for two separators of groups. -/
  | twoSeparators
  /-- It asks for a separator of groups where the letter behind it has none. -/
  | separator (separator letter : Char)
  /-- It goes on where it should end. -/
  | form (pattern kind : Text)
  /-- Values of a kind have no text of the sort that a letter stands for. -/
  | letter (letter : Char) (kind : Text)
  /-- It says something that cannot be said of texts. -/
  | ofText (what : Text)
  /-- It says something that cannot be said of whole numbers. -/
  | ofWhole (what : Text)
  /-- It says something that cannot be said of characters. -/
  | ofCharacter (what : Text)
  /-- It asks for zeros in front of a complex number. -/
  | zerosOfComplex
  /-- It asks for blanks between the sign and the digits of a complex number. -/
  | signOfComplex
  /-- It asks for more decimal places than there can be. -/
  | longPrecision
  deriving DecidableEq, Repr

/-- A letter in a message; one that cannot be shown is shown by its number. -/
def letterText (c : Char) : Text :=
  if 32 < c.toNat && c.toNat < 128 then [c] else '\\' :: 'x' :: Nat.toDigits 16 c.toNat

/-- The wording of a fault. -/
def PatternFault.message : PatternFault → Text
  | longNumber => "Too many decimal digits in format string".toList
  | noPrecision => "Format specifier missing precision".toList
  | twoSeparators => "Cannot specify both ',' and '_'.".toList
  | separator mark c =>
    "Cannot specify '".toList ++ [mark] ++ "' with '".toList ++ letterText c ++ ['\'', '.']
  | form pattern kind =>
    "Invalid format specifier '".toList ++ pattern ++ "' for object of type '".toList ++ kind ++
      ['\'']
  | letter c kind =>
    "Unknown format code '".toList ++ letterText c ++ "' for object of type '".toList ++ kind ++
      ['\'']
  | ofText what => what ++ " not allowed in string format specifier".toList
  | ofWhole what => what ++ " not allowed in integer format specifier".toList
  | ofCharacter what => what ++ " not allowed with integer format specifier 'c'".toList
  | zerosOfComplex => "Zero padding is not allowed in complex format specifier".toList
  | signOfComplex => "'=' alignment flag is not allowed in complex format specifier".toList
  | longPrecision => "precision too big".toList

/-- What is wrong with a text whose gaps are filled in. -/
inductive GapFault
  /-- The text ends within a gap. -/
  | unfinished
  /-- The text ends within the name of a gap. -/
  | unfinishedName
  /-- The gap is wider than any text. -/
  | width
  /-- The gap takes more digits than there can be. -/
  | precision
  /-- A letter stands for no sort of gap. -/
  | letter (letter : Char) (place : Nat)
  deriving DecidableEq, Repr

/-- The wording of a fault. -/
def GapFault.message : GapFault → Text
  | unfinished => "incomplete format".toList
  | unfinishedName => "incomplete format key".toList
  | width => "width too big".toList
  | precision => "precision too big".toList
  | letter c place =>
    let shown := if 31 ≤ c.toNat && c.toNat < 126 then c else '?'
    "unsupported format character '".toList ++ shown :: "' (0x".toList ++
      Nat.toDigits 16 c.toNat ++ ") at index ".toList ++ Text.ofNat place

/-- What is wrong with a template, whose fields are filled in by place or by name. -/
inductive TemplateFault
  /-- A bracket stands alone. -/
  | loneBracket (bracket : Char)
  /-- The name of a field has a bracket within. -/
  | nameBracket
  /-- A field does not end. -/
  | openField
  /-- The pattern of a field does not end. -/
  | openPattern
  /-- The text ends where a letter should say how to make a value into a text. -/
  | noConversion
  /-- Something else than a pattern follows such a letter. -/
  | behindConversion
  /-- A letter stands for no way to make a value into a text. -/
  | conversion (letter : Char)
  /-- Fields with and without places stand side by side. -/
  | mixedPlaces (fromPlaces : Bool)
  /-- A number has too many digits. -/
  | longNumber
  /-- There are values by name only. -/
  | noPlaces
  /-- Something else than a feature or an item follows an item. -/
  | behindItem
  /-- A feature or an item has no name. -/
  | emptyPart
  /-- The name of an item does not end. -/
  | openItem
  /-- Patterns stand within patterns. -/
  | deepPattern
  deriving DecidableEq, Repr

/-- The wording of a fault. -/
def TemplateFault.message : TemplateFault → Text
  | loneBracket c => "Single '".toList ++ c :: "' encountered in format string".toList
  | nameBracket => "unexpected '\x7b' in field name".toList
  | openField => "expected '\x7d' before end of string".toList
  | openPattern => "unmatched '\x7b' in format spec".toList
  | noConversion => "end of string while looking for conversion specifier".toList
  | behindConversion => "expected ':' after conversion specifier".toList
  | conversion c =>
    "Unknown conversion specifier ".toList ++
      if 32 < c.toNat && c.toNat < 127 then [c] else '\\' :: 'x' :: Nat.toDigits 16 c.toNat
  | mixedPlaces fromPlaces =>
    let manual := "manual field specification"
    let automatic := "automatic field numbering"
    let (first, second) := if fromPlaces then (manual, automatic) else (automatic, manual)
    "cannot switch from ".toList ++ first.toList ++ " to ".toList ++ second.toList
  | longNumber => "Too many decimal digits in format string".toList
  | noPlaces => "Format string contains positional fields".toList
  | behindItem => "Only '.' or '[' may follow ']' in format field specifier".toList
  | emptyPart => "Empty attribute in format string".toList
  | openItem => "Missing ']' in format string".toList
  | deepPattern => "Max string recursion exceeded".toList

/-- What is wrong with what a function is given. -/
inductive CallFault
  /-- What is shown so is no whole number to a base. -/
  | noWhole (base : Nat) (shown : Text)
  /-- A whole number has too many digits to be read. -/
  | longWhole (digits : Nat)
  /-- There are no numbers to a base. -/
  | noBase
  /-- What is shown so is no number. -/
  | noReal (shown : Text)
  /-- A text is no complex number. -/
  | noComplex
  /-- There are no characters with a number. -/
  | noCharacter
  /-- A range goes no step. -/
  | noStep
  /-- The least or the greatest of no items is asked for. -/
  | noItems (function : Text)
  /-- A part is sought that a text does not have. -/
  | noPart (binary : Bool)
  /-- A text is split where nothing stands. -/
  | noSeparator
  /-- A list does not have an item. -/
  | notInList (item : Text)
  /-- A tuple does not have an item. -/
  | notInTuple
  /-- An item cannot be taken away from a list. -/
  | notRemovable
  /-- An entry of an object is no pair. -/
  | noPair (place length : Nat)
  /-- Powers are to be divided by zero. -/
  | noModulus
  /-- Powers that are complex numbers are to be divided. -/
  | complexModulus
  /-- A number has no inverse modulo another one. -/
  | noInverse
  /-- What is not a number is the quotient of no two numbers. -/
  | noRatio
  /-- Collections that go side by side have different lengths. -/
  | unequalLengths (place : Nat) (isShorter : Bool)
  /-- A number is none of a byte among others. -/
  | noByte
  /-- Bytes cannot be fewer than none. -/
  | negativeCount
  deriving DecidableEq, Repr

/-- The greatest number of characters of a text that a message shows. -/
def shownLimit : Nat := 200

/-- The wording of a fault. -/
def CallFault.message : CallFault → Text
  | noWhole base shown =>
    "invalid literal for int() with base ".toList ++ Text.ofNat base ++ ": ".toList ++
      shown.take shownLimit
  | longWhole digits => (Json.ReadError.longInteger digits).message
  | noBase => "int() base must be >= 2 and <= 36, or 0".toList
  | noReal shown => "could not convert string to float: ".toList ++ shown
  | noComplex => "complex() arg is a malformed string".toList
  | noCharacter => "chr() arg not in range(0x110000)".toList
  | noStep => "range() arg 3 must not be zero".toList
  | noItems function => function ++ "() arg is an empty sequence".toList
  | noPart binary => (if binary then "subsection" else "substring").toList ++ " not found".toList
  | noSeparator => "empty separator".toList
  | notInList item => item ++ " is not in list".toList
  | notInTuple => "tuple.index(x): x not in tuple".toList
  | notRemovable => "list.remove(x): x not in list".toList
  | noPair place length =>
    "dictionary update sequence element #".toList ++ Text.ofNat place ++ " has length ".toList ++
      Text.ofNat length ++ "; 2 is required".toList
  | noModulus => "pow() 3rd argument cannot be 0".toList
  | complexModulus => "complex modulo".toList
  | noInverse => "base is not invertible for the given modulus".toList
  | noRatio => "cannot convert NaN to integer ratio".toList
  | unequalLengths place isShorter =>
    "zip() argument ".toList ++ Text.ofNat place ++
      (if isShorter then " is shorter than argument" else " is longer than argument").toList ++
      (if place = 2 then " 1".toList else "s 1-".toList ++ Text.ofNat (place - 1))
  | noByte => "bytes must be in range(0, 256)".toList
  | negativeCount => "negative count".toList

/-- What is wrong with a value that has the right kind. -/
inductive ValueFault
  /-- A number is shifted by less than nothing. -/
  | negativeShift
  /-- There are more items than names for them. -/
  | manyItems (names : Nat)
  /-- There are fewer items than names for them; one of the names may take any number of items. -/
  | fewItems (atLeast : Bool) (names items : Nat)
  /-- The places of a slice lie no steps apart. -/
  | noStep
  /-- There are more or fewer items than places for them. -/
  | placeCount (items places : Nat)
  /-- A number is none of a byte. -/
  | noByte
  /-- A number has too many digits to be written. -/
  | longNumeral
  /-- What is not a number is no whole number. -/
  | notANumber
  /-- A pattern for a text is wrong. -/
  | pattern (fault : PatternFault)
  /-- A text cannot be filled in. -/
  | gap (fault : GapFault)
  /-- A template cannot be filled in. -/
  | template (fault : TemplateFault)
  /-- A function can make nothing of what it is given. -/
  | call (fault : CallFault)
  deriving DecidableEq, Repr

/-- The wording of a fault. -/
def ValueFault.message : ValueFault → Text
  | negativeShift => "negative shift count".toList
  | manyItems names => "too many values to unpack (expected ".toList ++ Text.ofNat names ++ [')']
  | fewItems atLeast names items =>
    "not enough values to unpack (expected ".toList ++
      (if atLeast then "at least ".toList else []) ++ Text.ofNat names ++ ", got ".toList ++
      Text.ofNat items ++ [')']
  | noStep => "slice step cannot be zero".toList
  | placeCount items places =>
    "attempt to assign sequence of size ".toList ++ Text.ofNat items ++
      " to extended slice of size ".toList ++ Text.ofNat places
  | noByte => "byte must be in range(0, 256)".toList
  | longNumeral => Json.limitMessage ++ Json.limitAdvice
  | notANumber => "cannot convert float NaN to integer".toList
  | pattern f => f.message
  | gap f => f.message
  | template f => f.message
  | call f => f.message

end EventPipeline.Script
