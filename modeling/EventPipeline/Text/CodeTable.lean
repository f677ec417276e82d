import EventPipeline.Text

/-!
# Tables of code points

A table has rows of numbers. Written out, a number is hexadecimal, a point stands between two
numbers of a row, and a blank between two rows.
-/

namespace EventPipeline.Text

/-- The value of a hexadecimal digit. -/
def hexDigit (c : Char) : Nat :=
  if c.isDigit then c.toNat - '0'.toNat else c.toNat - 'A'.toNat + 10

/-- The number of a hexadecimal numeral. -/
def ofHexDigits (digits : Text) : Nat :=
  digits.foldl (fun n c => 16 * n + hexDigit c) 0

/-- The rows of a table, whose lines are written out. -/
def codeTable (lines : List String) : List (List Nat) :=
  lines.flatMap fun line =>
    (line.toList.splitOn ' ').map fun row => (row.splitOn '.').map ofHexDigits

end EventPipeline.Text
