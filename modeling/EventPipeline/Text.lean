/-!
# Text

A text is the list of its characters, so that every position and every length in this library
counts characters. This file holds what the readers and writers share: white space and trimming,
lines, the two normal forms of line ends, and decimal numerals.

* `Text.trim` removes blanks from both ends; `Text.isBlank` says which characters those are.
* `Text.lines` cuts at line feeds only, so a text always has at least one line.
* `Text.joinCrLf` and `Text.universalNewlines` are the two treatments of carriage returns: the
  first touches only the pair, the second also a carriage return that stands alone.
-/

namespace EventPipeline

/-- A text, as the list of its characters. -/
abbrev Text := List Char

namespace Text

/-! ## White space -/

/-- The characters with the white-space property. -/
def isSpace (c : Char) : Bool :=
  let n := c.toNat
  (9 ≤ n && n ≤ 13) || n == 0x20 || n == 0x85 || n == 0xA0 || n == 0x1680 ||
    (0x2000 ≤ n && n ≤ 0x200A) || n == 0x2028 || n == 0x2029 || n == 0x202F || n == 0x205F ||
    n == 0x3000

/-- The characters that trimming removes: white space and the four information separators. -/
def isBlank (c : Char) : Bool :=
  isSpace c || (28 ≤ c.toNat && c.toNat ≤ 31)

/-- The text without the leading and trailing characters of a class. -/
def trimBy (p : Char → Bool) (s : Text) : Text :=
  ((s.dropWhile p).reverse.dropWhile p).reverse

/-- The text without its leading and trailing blanks. -/
def trim (s : Text) : Text :=
  s.trimBy isBlank

/-! ## Lines -/

/-- The lines of a text: it is cut at every line feed, and nowhere else. -/
def lines (s : Text) : List Text :=
  s.splitOn '\n'

/-- The text whose lines are the given ones. -/
def unlines (ls : List Text) : Text :=
  [ '\n' ].intercalate ls

/-- Every carriage return that a line feed follows is dropped; one that stands alone stays. -/
def joinCrLf : Text → Text
  | [] => []
  | '\r' :: '\n' :: rest => '\n' :: joinCrLf rest
  | c :: rest => c :: joinCrLf rest

/-- Every line end, whether a line feed, a carriage return or the pair of both, becomes one line
feed. -/
def universalNewlines : Text → Text
  | [] => []
  | '\r' :: '\n' :: rest => '\n' :: universalNewlines rest
  | c :: rest => (if c = '\r' then '\n' else c) :: universalNewlines rest

/-! ## Comparison -/

/-- Whether a text begins with another one. -/
def startsWith (s start : Text) : Bool :=
  start.isPrefixOf s

/-- Whether a text ends with another one. -/
def endsWith (s ending : Text) : Bool :=
  ending.isSuffixOf s

/-- Texts are ordered by the code points of their characters, the first difference deciding. -/
def before (s t : Text) : Bool :=
  decide (s < t)

/-! ## Decimal numerals -/

/-- The decimal numeral of a natural number. -/
def ofNat (n : Nat) : Text :=
  Nat.toDigits 10 n

/-- The decimal numeral of an integer, with a minus sign when it is negative. -/
def ofInt (n : Int) : Text :=
  if n < 0 then '-' :: ofNat n.natAbs else ofNat n.natAbs

/-- The number that a run of decimal digits denotes. -/
def toNat (digits : Text) : Nat :=
  Nat.ofDigitChars 10 digits 0

/-- The hexadecimal numeral of a natural number, padded with zeros to at least `width` digits. -/
def ofHex (width n : Nat) : Text :=
  let digits := Nat.toDigits 16 n
  List.replicate (width - digits.length) '0' ++ digits

/-! ## Lists in running text -/

/-- The texts with a separator between each two. -/
def join (separator : Text) (parts : List Text) : Text :=
  separator.intercalate parts

/-! ## Laws -/

/-- A text has at least one line. -/
theorem lines_ne_nil (s : Text) : s.lines ≠ [] :=
  List.splitOn_ne_nil '\n' s

/-- Cutting a text into lines loses nothing. -/
theorem unlines_lines (s : Text) : unlines s.lines = s :=
  List.intercalate_splitOn '\n'

end Text

end EventPipeline
