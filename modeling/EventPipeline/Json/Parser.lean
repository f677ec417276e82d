import EventPipeline.Encoding.Detection
import EventPipeline.Json

/-!
# Reading interchange text

A reader takes a text and gives a value and the rest of the text, or a fault. Faults carry the
number of characters that were left where they arose; `ofText` turns that into a line, a column and
a position. The reader stops at the first fault.

* A number is the longest beginning of the text that has a number's form; it is an integer when it
  has neither fraction nor exponent.
* `NaN`, `Infinity` and `-Infinity` are numbers.
* Two escaped surrogates that make a pair are one character. One that stands alone would be kept by
  a reader that gives raw texts; this one gives texts, with the replacement character in its place.
* Of several members with one key the first gives the place and the last the value.
* The nesting of a text is at most its length, which bounds the recursion of `value`.
-/

namespace EventPipeline.Json

/-! ## Faults -/

/-- What is wrong at a place of the text. -/
inductive SyntaxFault
  /-- No value begins here. -/
  | value
  /-- No member name begins here. -/
  | name
  /-- There is no colon here. -/
  | colon
  /-- There is no comma here. -/
  | comma
  /-- The text that begins here does not end. -/
  | unterminated
  /-- A text has a control character here. -/
  | control
  /-- This backslash begins no escape. -/
  | escape
  /-- This escape has no four hexadecimal digits. -/
  | unicodeEscape
  /-- There is something behind the value. -/
  | extra
  deriving DecidableEq, Repr

/-- The wording of a syntax fault. -/
def SyntaxFault.message : SyntaxFault → Text
  | value => "Expecting value".toList
  | name => "Expecting property name enclosed in double quotes".toList
  | colon => "Expecting ':' delimiter".toList
  | comma => "Expecting ',' delimiter".toList
  | unterminated => "Unterminated string starting at".toList
  | control => "Invalid control character at".toList
  | escape => "Invalid \\escape".toList
  | unicodeEscape => "Invalid \\uXXXX escape".toList
  | extra => "Extra data".toList

/-- Why a reader stopped. -/
inductive Stop
  /-- The text is faulty, where this many characters are left. -/
  | fault (fault : SyntaxFault) (left : Nat)
  /-- An integer has this many digits, which is too many. -/
  | longInteger (digits : Nat)
  deriving DecidableEq, Repr

/-- What a reader gives: a value and the rest of the text. -/
abbrev Reading (α : Type) := Except Stop (α × Text)

/-- Stops at the beginning of a text. -/
def stopAt {α : Type} (fault : SyntaxFault) (s : Text) : Except Stop α :=
  .error (.fault fault s.length)

/-! ## Characters and texts -/

/-- The characters that may stand between the parts of a value. -/
def isGap (c : Char) : Bool :=
  c == ' ' || c == '\t' || c == '\n' || c == '\r'

/-- The text without the gap in front. -/
def skipGap (s : Text) : Text :=
  s.dropWhile isGap

/-- The value of a hexadecimal digit. -/
def hexValue? (c : Char) : Option Nat :=
  if '0' ≤ c ∧ c ≤ '9' then some (c.toNat - 48)
  else if 'a' ≤ c ∧ c ≤ 'f' then some (c.toNat - 87)
  else if 'A' ≤ c ∧ c ≤ 'F' then some (c.toNat - 55)
  else none

/-- The code unit that four hexadecimal digits denote. There has to be a character behind them. -/
def unit? : Text → Option Nat
  | a :: b :: c :: d :: _ :: _ =>
    match hexValue? a, hexValue? b, hexValue? c, hexValue? d with
    | some a, some b, some c, some d => some (4096 * a + 256 * b + 16 * c + d)
    | _, _, _, _ => none
  | _ => none

/-- The character of an escape of one letter. -/
def letterEscape? : Char → Option Char
  | '"' => some '"'
  | '\\' => some '\\'
  | '/' => some '/'
  | 'b' => some (Char.ofNat 8)
  | 'f' => some (Char.ofNat 12)
  | 'n' => some '\n'
  | 'r' => some '\r'
  | 't' => some '\t'
  | _ => none

/-- The escape that follows a backslash: its character and the number of characters it takes. The
text that is being read began at `start`. -/
def escape (start s : Text) : Except Stop (Char × Nat) :=
  match s with
  | [] => stopAt .unterminated start
  | 'u' :: r =>
    match unit? r with
    | none => stopAt .unicodeEscape s
    | some high =>
      match r.drop 4 with
      | '\\' :: 'u' :: t =>
        if Utf16.isHigh high && decide (4 < t.length) then
          match unit? t with
          | none => stopAt .unicodeEscape ('u' :: t)
          | some low =>
            if Utf16.isLow low then .ok (Char.ofNat (Utf16.joinPair high low), 11)
            else .ok (charOfUnit high, 5)
        else .ok (charOfUnit high, 5)
      | _ => .ok (charOfUnit high, 5)
  | c :: r =>
    match letterEscape? c with
    | some decoded => .ok (decoded, 1)
    | none => .error (.fault .escape (r.length + 2))

/-- The characters up to the closing quote and the text behind it. The first `skip` characters
belong to the escape before, and the text that is being read began at `start`. -/
def quoted (start : Text) : (skip : Nat) → Text → Reading Text
  | _, [] => stopAt .unterminated start
  | skip + 1, _ :: rest => quoted start skip rest
  | 0, c :: rest =>
    if c = '"' then .ok ([], rest)
    else if c = '\\' then
      match escape start rest with
      | .error stop => .error stop
      | .ok (decoded, taken) =>
        match quoted start taken rest with
        | .error stop => .error stop
        | .ok (s, r) => .ok (decoded :: s, r)
    else if c.toNat < 0x20 then stopAt .control (c :: rest)
    else
      match quoted start 0 rest with
      | .error stop => .error stop
      | .ok (s, r) => .ok (c :: s, r)

/-! ## Numbers -/

/-- The fraction in front of a text, if there is one: its digits and the rest. -/
def fraction? : Text → Option (Text × Text)
  | '.' :: rest =>
    let digits := rest.takeWhile Char.isDigit
    if digits.isEmpty then none else some (digits, rest.dropWhile Char.isDigit)
  | _ => none

/-- A run of digits with a sign in front, which may be missing. -/
def signedDigits? (s : Text) : Option (Int × Text) :=
  let (negative, s) := match s with
    | '-' :: r => (true, r)
    | '+' :: r => (false, r)
    | r => (false, r)
  let digits := s.takeWhile Char.isDigit
  if digits.isEmpty then none
  else
    let n : Int := Text.toNat digits
    some (if negative then -n else n, s.dropWhile Char.isDigit)

/-- The exponent in front of a text, if there is one. -/
def exponent? : Text → Option (Int × Text)
  | 'e' :: rest => signedDigits? rest
  | 'E' :: rest => signedDigits? rest
  | _ => none

/-- A number of which the sign and the whole digits are known, and the text behind them. -/
def numberFrom (negative : Bool) (whole rest : Text) : Reading Json :=
  let fraction := fraction? rest
  let rest := (fraction.map Prod.snd).getD rest
  let exponent := exponent? rest
  let rest := (exponent.map Prod.snd).getD rest
  match fraction, exponent with
  | none, none =>
    if digitLimit < whole.length then .error (.longInteger whole.length)
    else
      let n : Int := Text.toNat whole
      .ok (.int (if negative then -n else n), rest)
  | _, _ =>
    let places := (fraction.map Prod.fst).getD []
    let power := (exponent.map Prod.fst).getD 0
    let digits := Text.toNat (whole ++ places)
    .ok (.float (Binary64.ofDecimal negative digits (power - places.length)), rest)

/-- A number in front of a text. -/
def number (s : Text) : Reading Json :=
  let (negative, r) := match s with
    | '-' :: r => (true, r)
    | r => (false, r)
  match r with
  | '0' :: rest => numberFrom negative ['0'] rest
  | rest =>
    let whole := rest.takeWhile Char.isDigit
    if whole.isEmpty then stopAt .value s
    else numberFrom negative whole (rest.dropWhile Char.isDigit)

/-! ## Values -/

/-- The words that are values. -/
def words : List (Text × Json) :=
  [("null".toList, .null), ("true".toList, .bool true), ("false".toList, .bool false),
    ("NaN".toList, .float .nan), ("Infinity".toList, .float (.infinite false)),
    ("-Infinity".toList, .float (.infinite true))]

/-- A word or a number in front of a text. -/
def scalar (s : Text) : Reading Json :=
  match words.find? fun word => s.startsWith word.1 with
  | some (word, v) => .ok (v, s.drop word.length)
  | none => number s

/-- The items up to the closing bracket. -/
def items (item : Text → Reading Json) : (limit : Nat) → Text → Reading (List Json)
  | 0, s => stopAt .value s
  | limit + 1, s =>
    match item s with
    | .error stop => .error stop
    | .ok (v, r) =>
      match skipGap r with
      | ']' :: r => .ok ([v], r)
      | ',' :: r =>
        match items item limit (skipGap r) with
        | .error stop => .error stop
        | .ok (vs, r) => .ok (v :: vs, r)
      | r => stopAt .comma r

/-- The members up to the closing brace. -/
def members (item : Text → Reading Json) : (limit : Nat) → Text → Reading (List (Text × Json))
  | 0, s => stopAt .name s
  | limit + 1, s =>
    match s with
    | '"' :: body =>
      match quoted s 0 body with
      | .error stop => .error stop
      | .ok (key, r) =>
        match skipGap r with
        | ':' :: r =>
          match item (skipGap r) with
          | .error stop => .error stop
          | .ok (v, r) =>
            match skipGap r with
            | '}' :: r => .ok ([(key, v)], r)
            | ',' :: r =>
              match members item limit (skipGap r) with
              | .error stop => .error stop
              | .ok (ms, r) => .ok ((key, v) :: ms, r)
            | r => stopAt .comma r
        | r => stopAt .colon r
    | s => stopAt .name s

/-- A value in front of a text, nested at most `depth` deep. -/
def value : (depth : Nat) → Text → Reading Json
  | 0, s => stopAt .value s
  | depth + 1, s =>
    match s with
    | '"' :: body => (quoted s 0 body).map fun (t, r) => (.text t, r)
    | '[' :: body =>
      match skipGap body with
      | ']' :: r => .ok (.list [], r)
      | r => (items (value depth) depth r).map fun (vs, r) => (.list vs, r)
    | '{' :: body =>
      match skipGap body with
      | '}' :: r => .ok (.object [], r)
      | r => (members (value depth) depth r).map fun (ms, r) =>
          (.object (Dictionary.ofBindings ms), r)
    | s => scalar s

/-- The value that a whole text denotes. -/
def whole (s : Text) : Except Stop Json :=
  match value (s.length + 1) (skipGap s) with
  | .error stop => .error stop
  | .ok (v, r) =>
    match skipGap r with
    | [] => .ok v
    | r => stopAt .extra r

/-! ## Failures -/

/-- A place in a text. -/
structure Place where
  /-- The line, counted from one. -/
  line : Nat
  /-- The column, counted from one. -/
  column : Nat
  /-- The position, counted from zero. -/
  position : Nat
  deriving DecidableEq, Repr

/-- The place of a position: a line begins behind every line feed. -/
def Place.ofPosition (s : Text) (position : Nat) : Place :=
  let before := s.take position
  { line := before.count '\n' + 1
    column := (before.reverse.takeWhile (· != '\n')).length + 1
    position := position }

/-- Why a source is no interchange text. -/
inductive ReadError
  /-- The text is faulty. -/
  | fault (fault : SyntaxFault) (place : Place)
  /-- The text begins with a byte order mark. -/
  | mark
  /-- An integer has too many digits. -/
  | longInteger (digits : Nat)
  /-- The bytes are no text. -/
  | bytes (error : DecodeError)
  /-- The source is a value that is no text, of a kind named by this word. -/
  | notText (kind : Text)
  deriving DecidableEq, Repr

/-- A limit in words. -/
def limitMessage : Text :=
  "Exceeds the limit (".toList ++ Text.ofNat digitLimit ++
    " digits) for integer string conversion".toList

/-- What can be done about the limit. -/
def limitAdvice : Text :=
  "; use sys.set_int_max_str_digits() to increase the limit".toList

/-- The wording of a failure. -/
def ReadError.message : ReadError → Text
  | fault what place =>
    what.message ++ ": line ".toList ++ Text.ofNat place.line ++ " column ".toList ++
      Text.ofNat place.column ++ " (char ".toList ++ Text.ofNat place.position ++ [')']
  | mark => "Unexpected UTF-8 BOM (decode using utf-8-sig): line 1 column 1 (char 0)".toList
  | longInteger digits =>
    limitMessage ++ ": value has ".toList ++ Text.ofNat digits ++ " digits".toList ++ limitAdvice
  | bytes error => error.message
  | notText kind => "the JSON object must be str, bytes or bytearray, not ".toList ++ kind

/-- The failure of a reader that stopped in a text. -/
def Stop.toError (s : Text) : Stop → ReadError
  | fault what left => .fault what (Place.ofPosition s (s.length - left))
  | longInteger digits => .longInteger digits

/-- The value that a text denotes, a byte order mark not being looked for. -/
def ofUnmarked (s : Text) : Except ReadError Json :=
  (whole s).mapError (Stop.toError s)

/-- The value that a text denotes. -/
def ofText (s : Text) : Except ReadError Json :=
  if s.head? = some (Char.ofNat 0xFEFF) then .error .mark else ofUnmarked s

/-- The value that bytes denote. -/
def ofBytes (bytes : Bytes) : Except ReadError Json :=
  match decodeDetected bytes with
  | .error e => .error (.bytes e)
  | .ok s => ofUnmarked s

end EventPipeline.Json
