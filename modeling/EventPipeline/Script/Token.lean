import EventPipeline.Script.Fault
import EventPipeline.Script.Literal
import EventPipeline.Text.NormalForm

/-!
# Tokens of scripts

A script is read as a sequence of tokens: words, literals and signs, the ends of its lines, and the
places where its lines are indented more or less than before. Between brackets, and behind a
backslash at the end of a line, lines go on.

`ofText` gives the tokens of a text. The sequence ends where the text does, or with the fault of the
first thing that is no token.
-/

namespace EventPipeline.Script

/-- A token. -/
inductive Token
  /-- A word with a meaning of its own. -/
  | keyword (word : Text)
  /-- A name in its normal form. -/
  | name (word : Text)
  /-- A number. -/
  | number (value : Value)
  /-- A quoted text: how it is meant, and the characters between its quotes. -/
  | quoted (manner : Literal.Manner) (body : Text)
  /-- A sign. -/
  | sign (sign : Text)
  /-- The end of a line. -/
  | lineEnd
  /-- The lines that follow are indented more. -/
  | indent
  /-- The lines that follow are indented less. -/
  | dedent
  /-- The end of the text. -/
  | done
  /-- Something that is no token. -/
  | broken (fault : Fault)
  deriving Repr

namespace Token

/-! ## Words and signs -/

/-- The words that mean something else than a name. -/
def keywords : List Text :=
  ["False", "None", "True", "and", "as", "assert", "async", "await", "break", "class", "continue",
    "def", "del", "elif", "else", "except", "finally", "for", "from", "global", "if", "import",
    "in", "is", "lambda", "nonlocal", "not", "or", "pass", "raise", "return", "try", "while",
    "with", "yield"].map String.toList

/-- The token of a word. -/
def ofWord (word : Text) : Token :=
  if keywords.contains word then keyword word
  else if word.isWord then name word.normalForm
  else broken .malformed

/-- The signs, those that begin like a longer one behind it. -/
def signs : List Text :=
  ["**=", "//=", ">>=", "<<=", "...", "!=", "->", "+=", "-=", "*=", "/=", "%=", "&=", "|=", "^=",
    "@=", "==", ":=", "<=", ">=", "<<", ">>", "**", "//", "+", "-", "*", "/", "%", "&", "|", "^",
    "@", "=", "<", ">", "~", ":", ";", ",", "."].map String.toList

/-- The brackets, by the one that opens. -/
def brackets : Dictionary Char Char := [('(', ')'), ('[', ']'), ('{', '}')]

/-- Whether a character is a bracket that closes. -/
def isClosing (c : Char) : Bool :=
  brackets.any fun b => b.2 = c

/-- Whether a character is a sign that means nothing. -/
def isStray (c : Char) : Bool :=
  Text.isPrintable c && !isClosing c

/-- How deep brackets can stand in brackets. -/
def bracketLimit : Nat := 200

/-- How deep lines can be indented. -/
def indentLimit : Nat := 100

/-! ## Margins -/

/-- How far a line is indented, with wide tabs and with narrow ones. -/
structure Margin where
  /-- The width with tabs that reach to the next multiple of eight. -/
  wide : Nat
  /-- The width with tabs of one. -/
  narrow : Nat
  deriving DecidableEq, Repr

/-- The margin and a blank. A form feed begins anew. -/
def Margin.add (m : Margin) (c : Char) : Margin :=
  if c = '\t' then ⟨(m.wide / 8 + 1) * 8, m.narrow + 1⟩
  else if c = '\x0c' then ⟨0, 0⟩
  else ⟨m.wide + 1, m.narrow + 1⟩

/-- Whether a character is a blank within a line. -/
def isGap (c : Char) : Bool :=
  c = ' ' || c = '\t' || c = '\x0c'

/-- The text behind a backslash that ends its line, if there is another line. -/
def nextLine? : Text → Option Text
  | '\n' :: c :: rest => some (c :: rest)
  | _ => none

/-- The margin of a line and the text behind it. A line that begins with a backslash goes on with
the next one, and keeps the width in front of the first backslash that is not at the very
beginning. -/
def margin? : (m : Margin) → (kept : Nat) → (skip : Nat) → Text → Option (Margin × Text)
  | m, kept, _, [] => some (if kept = 0 then m else ⟨kept, kept⟩, [])
  | m, kept, skip + 1, _ :: rest => margin? m kept skip rest
  | m, kept, 0, c :: rest =>
    if isGap c then margin? (m.add c) kept 0 rest
    else if c = '\\' then
      match nextLine? rest with
      | some _ => margin? m (if kept = 0 then m.wide else kept) 1 rest
      | none => none
    else some (if kept = 0 then m else ⟨kept, kept⟩, c :: rest)

/-- The tokens for the margin of a line, and the margins that are open then, the innermost first. -/
def layout (m : Margin) : List Margin → List Token × List Margin
  | [] =>
    if m.wide = 0 then (if m.narrow = 0 then [] else [broken .tabs], [])
    else (if m.narrow = 0 then [broken .tabs] else [indent], [m])
  | top :: below =>
    if m.wide = top.wide then (if m.narrow = top.narrow then [] else [broken .tabs], top :: below)
    else if top.wide < m.wide then
      (if m.narrow ≤ top.narrow then [broken .tabs]
        else if indentLimit ≤ below.length + 2 then [broken .indentation]
        else [indent], m :: top :: below)
    else if (below.head?.map Margin.wide).getD 0 < m.wide then ([broken .indentation], below)
    else
      let (tokens, margins) := layout m below
      (dedent :: tokens, margins)

/-! ## Tokens of a text -/

/-- Where the reading of a text stands. -/
structure Place where
  /-- The margins of the lines around, the innermost first. -/
  margins : List Margin
  /-- The brackets that have to be closed, the innermost first. -/
  brackets : List Char

/-- The token that a text begins with, what is open behind it, and the text behind it. -/
def first (place : Place) (s : Text) : Token × Place × Text :=
  let stop : Token × Place × Text := (broken .malformed, place, s)
  match s with
  | [] => stop
  | c :: rest =>
    if (Literal.manner? s).isSome then
      match Literal.quoted? s with
      | some ((manner, body), rest) => (quoted manner body, place, rest)
      | none => stop
    else if c.isDigit || (c = '.' && rest.head?.any Char.isDigit) then
      match Literal.number? s with
      | some (v, rest) => (number v, place, rest)
      | none => stop
    else if Literal.isWordLike c then
      let word := s.takeWhile Literal.isWordLike
      (ofWord word, place, s.drop word.length)
    else
      match brackets.get? c with
      | some close =>
        if bracketLimit ≤ place.brackets.length then stop
        else (sign [c], { place with brackets := close :: place.brackets }, rest)
      | none =>
        if place.brackets.head? = some c then
          (sign [c], { place with brackets := place.brackets.tail }, rest)
        else
          match signs.find? fun sign => sign.isPrefixOf s with
          | some found => (sign found, place, s.drop found.length)
          | none => if isStray c then (sign [c], place, rest) else stop

/-- Whether a token ends the reading. -/
def isBroken : Token → Bool
  | broken _ => true
  | _ => false

mutual

/-- The tokens from the beginning of a line on; `fuel` bounds the number of steps. -/
def fromLineStart : (fuel : Nat) → Place → Text → List Token
  | 0, _, _ => [broken .malformed]
  | fuel + 1, place, s =>
    match margin? ⟨0, 0⟩ 0 0 s with
    | none => [broken .malformed]
    | some (m, rest) =>
      if rest.head? = some '\n' || rest.head? = some '#' || !place.brackets.isEmpty then
        withinLine fuel true place rest
      else
        let (tokens, margins) := layout (if rest.isEmpty then ⟨0, 0⟩ else m) place.margins
        tokens ++
          if tokens.any isBroken then []
          else withinLine fuel false { place with margins := margins } rest

/-- The tokens from somewhere in a line on. The end of a line that says nothing is no token. -/
def withinLine : (fuel : Nat) → (silent : Bool) → Place → Text → List Token
  | 0, _, _, _ => [broken .malformed]
  | fuel + 1, silent, place, s =>
    match s.dropWhile isGap with
    | [] => [done]
    | '#' :: rest => withinLine fuel silent place (rest.dropWhile (· ≠ '\n'))
    | '\n' :: rest =>
      if silent || !place.brackets.isEmpty then fromLineStart fuel place rest
      else lineEnd :: fromLineStart fuel place rest
    | '\\' :: rest =>
      match nextLine? rest with
      | some rest => withinLine fuel silent place rest
      | none => [broken .malformed]
    | s =>
      match first place s with
      | (broken fault, _, _) => [broken fault]
      | (token, place, rest) => token :: withinLine fuel false place rest

end

/-- A text with one kind of line end, whose last line ends. Where it ends with a carriage return and
a line feed, there is one more line. -/
def closed (s : Text) : Text :=
  let unified := s.universalNewlines
  if unified.getLast? = some '\n' && !s.endsWith ['\r', '\n'] then unified else unified ++ ['\n']

/-- The tokens of a text. Where a text could not be decoded, a null character stands in it, which is
part of no token. -/
def ofText (s : Text) : List Token :=
  let s := closed s
  fromLineStart (2 * s.length + 2) ⟨[], []⟩ s

end Token

end EventPipeline.Script
