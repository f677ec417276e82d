import EventPipeline.Text
import EventPipeline.Text.Unprintable

/-!
# Quoted texts

A text in quotes, as messages show it: in single quotes, or in double quotes when it holds a single
quote and no double one. Backslashes, the quote in use, line ends and tabs are escaped by a letter,
characters that are not printable by their number. Bytes are shown in the same way, those beyond the
first alphabet by their numbers.
-/

namespace EventPipeline.Text

/-- The quote in which a text is shown. -/
def quoteOf (s : Text) : Char :=
  if s.contains '\'' && !s.contains '"' then '"' else '\''

/-- A character between quotes. -/
def shownChar (quote c : Char) : Text :=
  if c = quote ∨ c = '\\' then ['\\', c]
  else if c = '\t' then ['\\', 't']
  else if c = '\n' then ['\\', 'n']
  else if c = '\r' then ['\\', 'r']
  else if isPrintable c then [c]
  else if c.toNat < 0x100 then ['\\', 'x'] ++ ofHex 2 c.toNat
  else if c.toNat < 0x10000 then ['\\', 'u'] ++ ofHex 4 c.toNat
  else ['\\', 'U'] ++ ofHex 8 c.toNat

/-- A text in quotes. -/
def shown (s : Text) : Text :=
  let quote := quoteOf s
  quote :: (s.flatMap (shownChar quote) ++ [quote])

/-- A byte between quotes. -/
def shownByte (quote : Char) (b : UInt8) : Text :=
  let c := Char.ofNat b.toNat
  if b < 0x7F then shownChar quote c else ['\\', 'x'] ++ ofHex 2 b.toNat

/-- Bytes in quotes, behind the letter that says so. -/
def shownBytes (bytes : List UInt8) : Text :=
  let quote := quoteOf (bytes.map fun b => Char.ofNat b.toNat)
  'b' :: quote :: (bytes.flatMap (shownByte quote) ++ [quote])

/-- A list of texts in brackets. -/
def shownList (parts : List Text) : Text :=
  '[' :: (join [',', ' '] parts ++ [']'])

end EventPipeline.Text
