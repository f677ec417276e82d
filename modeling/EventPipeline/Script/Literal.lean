import EventPipeline.Json.Parser
import EventPipeline.Script.Value
import EventPipeline.Text.CharacterName
import EventPipeline.Text.Word

/-!
# Literals of scripts

Numbers and quoted texts as scripts write them. A reader takes the text from a literal on and gives
the value with the rest of the text, or nothing if the literal is faulty.

* `number?` reads whole numbers to four bases and decimal fractions; single underscores may stand
  between digits, and no word may follow but some that join values.
* `quoted?` reads a text in quotes of one of the four kinds behind the letters in front of it;
  `decoded?` puts the characters for the escapes in it.
-/

namespace EventPipeline.Script.Literal

/-! ## Characters -/

/-- Whether a character can go on with a word, as far as can be seen without looking it up. -/
def isWordLike (c : Char) : Bool :=
  c.isAlphanum || c = '_' || 0x80 ≤ c.toNat

/-- Whether a character is a digit to a base. -/
def isDigitOf (base : Nat) (c : Char) : Bool :=
  (Json.hexValue? c).any (· < base)

/-- The number that digits to a base denote. -/
def numeral (base : Nat) (digits : Text) : Nat :=
  digits.foldl (fun n c => base * n + (Json.hexValue? c).getD 0) 0

/-! ## Numbers -/

/-- The digits that a text begins with, without the underscores between them, and the rest. There is
nothing if an underscore has no digit behind it. -/
def digitRun? (isDigit : Char → Bool) : Text → Option (Text × Text)
  | [] => some ([], [])
  | ['_'] => none
  | '_' :: c :: rest =>
    if isDigit c then (digitRun? isDigit rest).map fun r => (c :: r.1, r.2) else none
  | c :: rest =>
    if isDigit c then (digitRun? isDigit rest).map fun r => (c :: r.1, r.2)
    else some ([], c :: rest)

/-- The words that can follow a number without a gap, each without its first letter. -/
def joiningWords : Dictionary Char (List String) := [
  ('a', ["nd"]), ('e', ["lse"]), ('f', ["or"]), ('o', ["r"]), ('n', ["ot"])]

/-- The letters of which one follows an i that can follow a number without a gap. -/
def joiningLetters : List Char := ['f', 'n', 's']

/-- Whether a number can end in front of a text. -/
def endsBefore : Text → Bool
  | [] => true
  | 'i' :: c :: _ => joiningLetters.contains c
  | c :: rest =>
    !isWordLike c || ((joiningWords.get? c).getD []).any fun word =>
      Text.startsWith rest word.toList && !(rest.drop word.length).head?.any isWordLike

/-- A value in front of a text, if a number can end there. -/
def ended (v : Value) (rest : Text) : Option (Value × Text) :=
  if endsBefore rest then some (v, rest) else none

/-- The base that a letter behind a zero stands for. -/
def baseOf? (c : Char) : Option Nat :=
  if c = 'x' || c = 'X' then some 16
  else if c = 'o' || c = 'O' then some 8
  else if c = 'b' || c = 'B' then some 2
  else none

/-- A whole number to a base, from its first digit or underscore on. -/
def based? (base : Nat) (s : Text) : Option (Value × Text) :=
  match digitRun? (isDigitOf base) s with
  | some (c :: digits, rest) => ended (.int (numeral base (c :: digits))) rest
  | _ => none

/-- The exponent that a text begins with, behind its letter: the digits and the rest. There is
nothing if the letter begins no exponent; a sign needs digits. -/
def exponent? : Text → Option (Option (Int × Text))
  | sign :: c :: rest =>
    if sign = '+' || sign = '-' then
      if c.isDigit then
        (digitRun? Char.isDigit (c :: rest)).map fun (digits, rest) =>
          let n : Int := Text.toNat digits
          some (if sign = '-' then -n else n, rest)
      else none
    else if sign.isDigit then
      (digitRun? Char.isDigit (sign :: c :: rest)).map fun r => some ((Text.toNat r.1 : Int), r.2)
    else some none
  | [c] =>
    if c = '+' || c = '-' then none
    else if c.isDigit then some (some ((Text.toNat [c] : Int), []))
    else some none
  | [] => some none

/-- A number whose digits were read, with its fraction if it has one: an exponent may follow, and
the letter of an imaginary number. -/
def decimalTail? (digits : Text) (fraction : Option Text) (s : Text) : Option (Value × Text) :=
  let all := digits ++ fraction.getD []
  let scale : Int := (fraction.getD []).length
  let float (exponent : Int) : Binary64 := .ofDecimal false (Text.toNat all) (exponent - scale)
  let imaginary (exponent : Int) : Value := .complex ⟨Binary64.zero, float exponent⟩
  let plain (s : Text) : Option (Value × Text) :=
    match s, fraction with
    | 'j' :: rest, _ => ended (imaginary 0) rest
    | 'J' :: rest, _ => ended (imaginary 0) rest
    | s, some _ => ended (.float (float 0)) s
    | s, none =>
      if Json.digitLimit < digits.length || (digits.head? = some '0' && digits.any (· ≠ '0')) then
        none
      else ended (.int (Text.toNat digits)) s
  match s with
  | [] => plain []
  | c :: rest =>
    if c = 'e' || c = 'E' then
      match exponent? rest with
      | none => none
      | some none => plain s
      | some (some (exponent, 'j' :: rest)) => ended (imaginary exponent) rest
      | some (some (exponent, 'J' :: rest)) => ended (imaginary exponent) rest
      | some (some (exponent, rest)) => ended (.float (float exponent)) rest
    else plain s

/-- A decimal number, from its first digit or the point in front of its fraction on. -/
def decimal? (s : Text) : Option (Value × Text) :=
  match digitRun? Char.isDigit s with
  | some (digits, '.' :: c :: rest) =>
    if c.isDigit then
      match digitRun? Char.isDigit (c :: rest) with
      | some (fraction, rest) => decimalTail? digits (some fraction) rest
      | none => none
    else decimalTail? digits (some []) (c :: rest)
  | some (digits, ['.']) => decimalTail? digits (some []) []
  | some (digits, rest) => decimalTail? digits none rest
  | none => none

/-- The number that a text begins with. -/
def number? : Text → Option (Value × Text)
  | '0' :: c :: rest =>
    match baseOf? c with
    | some base => based? base rest
    | none => decimal? ('0' :: c :: rest)
  | s => decimal? s

/-! ## Quoted texts -/

/-- What the letters in front of a quote say. -/
structure Manner where
  /-- Whether backslashes stand for themselves. -/
  raw : Bool
  /-- Whether the characters are bytes. -/
  binary : Bool
  /-- Whether there are fields to fill in. -/
  filled : Bool
  deriving DecidableEq, Repr

/-- The manners by the letters in front of a quote, in small letters. -/
def manners : Dictionary Text Manner := [
  ([], ⟨false, false, false⟩), (['u'], ⟨false, false, false⟩), (['r'], ⟨true, false, false⟩),
  (['b'], ⟨false, true, false⟩), (['b', 'r'], ⟨true, true, false⟩),
  (['r', 'b'], ⟨true, true, false⟩), (['f'], ⟨false, false, true⟩),
  (['f', 'r'], ⟨true, false, true⟩), (['r', 'f'], ⟨true, false, true⟩)]

/-- The manner of a quoted text that a text begins with, and the text from the quote on. -/
def manner? (s : Text) : Option (Manner × Text) :=
  let letters := s.takeWhile Char.isAlpha
  match s.drop letters.length with
  | c :: rest =>
    if c = '\'' || c = '"' then
      (manners.get? (letters.map Char.toLower)).map fun m => (m, c :: rest)
    else none
  | [] => none

/-- The characters in front of the closing quotes and the text behind them. A backslash keeps the
character behind it from closing the text; a text in single quotes stays on its line. -/
def body? (quote : Char) (long : Bool) : (afterBackslash : Bool) → Text → Option (Text × Text)
  | _, [] => none
  | true, c :: rest => (body? quote long false rest).map fun r => (c :: r.1, r.2)
  | false, c :: rest =>
    if c = quote && (!long || Text.startsWith rest [quote, quote]) then
      some ([], if long then rest.drop 2 else rest)
    else if c = '\n' && !long then none
    else (body? quote long (c = '\\') rest).map fun r => (c :: r.1, r.2)

/-- The characters between the quotes that a text begins with, and the text behind them. -/
def between? : Text → Option (Text × Text)
  | quote :: rest =>
    if Text.startsWith rest [quote, quote] then body? quote true false (rest.drop 2)
    else body? quote false false rest
  | [] => none

/-- The character of an escape of one letter. -/
def letterEscape? : Char → Option Char
  | '\\' => some '\\'
  | '\'' => some '\''
  | '"' => some '"'
  | 'a' => some '\x07'
  | 'b' => some '\x08'
  | 'f' => some '\x0c'
  | 'n' => some '\n'
  | 'r' => some '\r'
  | 't' => some '\t'
  | 'v' => some '\x0b'
  | _ => none

/-- The number of hexadecimal digits of an escape with a number. -/
def escapeWidth? (binary : Bool) (c : Char) : Option Nat :=
  if c = 'x' then some 2
  else if binary then none
  else if c = 'u' then some 4
  else if c = 'U' then some 8
  else none

/-- The character of a number; what is no character by itself is replaced, and beyond the last one
there is none. -/
def charOf? (n : Nat) : Option Char :=
  if 0x10FFFF < n then none
  else if n.isValidChar then some (Char.ofNat n)
  else some replacementChar

/-- The character that a name in brackets stands for, and how many characters of a text the name and
its brackets take. -/
def named? : Text → Option (Char × Nat)
  | '{' :: rest =>
    let name := rest.takeWhile (· ≠ '}')
    if name.length = rest.length then none
    else (Text.named? name).map fun c => (c, name.length + 2)
  | _ => none

/-- The escape behind a backslash: its characters, and how many characters of the text it takes. -/
def escape? (binary : Bool) (c : Char) (rest : Text) : Option (Text × Nat) :=
  if c = '\n' then some ([], 1)
  else
    match letterEscape? c, escapeWidth? binary c with
    | some decoded, _ => some ([decoded], 1)
    | none, some width =>
      let digits := (rest.take width).takeWhile (isDigitOf 16)
      if digits.length = width then
        (charOf? (numeral 16 digits)).map fun d => ([d], width + 1)
      else none
    | none, none =>
      if isDigitOf 8 c then
        let digits := c :: (rest.take 2).takeWhile (isDigitOf 8)
        let n := numeral 8 digits
        (charOf? (if binary then n % 256 else n)).map fun d => ([d], digits.length)
      else if c = 'N' && !binary then
        (named? rest).map fun n => ([n.1], n.2 + 1)
      else some (['\\', c], 1)

/-- The text with the characters that its escapes stand for; the first `skip` characters belong to
the escape before. -/
def unescape? (binary : Bool) : (skip : Nat) → Text → Option Text
  | _, [] => some []
  | skip + 1, _ :: rest => unescape? binary skip rest
  | 0, '\\' :: c :: rest =>
    match escape? binary c rest with
    | some (decoded, taken) => (unescape? binary taken (c :: rest)).map (decoded ++ ·)
    | none => none
  | 0, c :: rest => (unescape? binary 0 rest).map (c :: ·)

/-- What the characters of a text without fields stand for, if their escapes are right. Where a text
could not be decoded, a null character stands in it. -/
def decoded? (m : Manner) (body : Text) : Option Text :=
  if body.contains '\x00' || (m.binary && body.any fun c => 0x80 ≤ c.toNat) then none
  else if m.raw then some body
  else unescape? m.binary 0 body

/-- The quoted text that a text begins with: its manner and the characters between its quotes. -/
def quoted? (s : Text) : Option ((Manner × Text) × Text) :=
  match manner? s with
  | none => none
  | some (m, s) => (between? s).map fun r => ((m, r.1), r.2)

end EventPipeline.Script.Literal
