import EventPipeline.Script.Expression
import EventPipeline.Script.Token

/-!
# Texts with fields

A text may have fields in curly brackets, in whose places the texts of values stand. A field holds
the source of an expression, and behind it what the value is made into and a pattern for its text;
with an equals sign behind the source, the source stands in front of the value. The pattern may have
fields of its own, whose patterns have none. Curly brackets that stand twice stand for one.

`Piece.ofText?` takes such a text apart, if all its brackets belong to fields.
-/

namespace EventPipeline.Script

/-- A piece of a text with fields. -/
inductive Piece
  /-- A text that stands as it is. -/
  | text (s : Text)
  /-- A field: the source of an expression, what its value is made into, and the pattern for its
  text. -/
  | field (source : Text) (conversion : Option Conversion) (pattern : List Piece)
  deriving Repr

namespace Piece

/-- A reading with characters in front of what was read. -/
def behind (front : Text) (reading : Option (Text × Text)) : Option (Text × Text) :=
  reading.map fun r => (front ++ r.1, r.2)

/-! ## Texts between fields -/

/-- The characters in front of the next field, and the text from its bracket on. Within a pattern
any bracket ends them. The brackets around the name of a character, which an escape may hold, begin
no field. -/
def front? (raw inPattern : Bool) : (inName : Bool) → Text → Option (Text × Text)
  | _, [] => some ([], [])
  | true, c :: rest => behind [c] (front? raw inPattern (c ≠ '}') rest)
  | false, c :: rest =>
    if c = '{' || c = '}' then
      match inPattern, rest with
      | true, rest => some ([], c :: rest)
      | false, d :: rest =>
        if d = c then behind [c] (front? raw inPattern false rest)
        else if c = '{' then some ([], c :: d :: rest)
        else none
      | false, [] => if c = '{' then some ([], [c]) else none
    else if c = '\\' && !raw then
      match rest with
      | 'N' :: '{' :: rest => behind [c, 'N', '{'] (front? raw inPattern true rest)
      | 'N' :: d :: rest => behind [c, 'N', d] (front? raw inPattern false rest)
      | '{' :: rest => behind [c] (front? raw inPattern false ('{' :: rest))
      | '}' :: rest => behind [c] (front? raw inPattern false ('}' :: rest))
      | d :: rest => behind [c, d] (front? raw inPattern false rest)
      | [] => some ([c], [])
    else behind [c] (front? raw inPattern false rest)

/-! ## Sources of fields -/

/-- The signs that can end a source. -/
def endSigns : List Char := ['!', ':', '}', '=']

/-- The signs that go on with a source if an equals sign follows. -/
def joinedSigns : List Char := ['!', '=', '<', '>']

/-- The source that a text begins with, and the text behind it. It ends with a sign that stands in
no quotes and in no brackets, and holds no backslash and no remark. -/
def source? : (quote : Option (Char × Bool)) → (brackets : List Char) → Text →
    Option (Text × Text)
  | _, _, [] => none
  | some (quote, long), brackets, c :: rest =>
    if c = '\\' then none
    else if c ≠ quote then behind [c] (source? (some (quote, long)) brackets rest)
    else
      match long, rest with
      | false, rest => behind [c] (source? none brackets rest)
      | true, d :: e :: rest =>
        if d = c && e = c then behind [c, d, e] (source? none brackets rest)
        else behind [c] (source? (some (quote, long)) brackets (d :: e :: rest))
      | true, _ => none
  | none, brackets, c :: rest =>
    if c = '\\' || c = '#' then none
    else if c = '\'' || c = '"' then
      match rest with
      | d :: e :: rest =>
        if d = c && e = c then behind [c, d, e] (source? (some (c, true)) brackets rest)
        else behind [c] (source? (some (c, false)) brackets (d :: e :: rest))
      | rest => behind [c] (source? (some (c, false)) brackets rest)
    else
      match Token.brackets.get? c, brackets with
      | some close, brackets =>
        if Token.bracketLimit ≤ brackets.length then none
        else behind [c] (source? none (close :: brackets) rest)
      | none, close :: outer =>
        if c = close then behind [c] (source? none outer rest)
        else if Token.isClosing c then none
        else behind [c] (source? none (close :: outer) rest)
      | none, [] =>
        match rest with
        | '=' :: rest =>
          if joinedSigns.contains c then behind [c, '='] (source? none [] rest)
          else if endSigns.contains c then some ([], c :: '=' :: rest)
          else if Token.isClosing c then none
          else behind [c] (source? none [] ('=' :: rest))
        | rest =>
          if endSigns.contains c then some ([], c :: rest)
          else if Token.isClosing c then none
          else behind [c] (source? none [] rest)

/-- Whether a character is a blank within a source. -/
def isGap (c : Char) : Bool :=
  Token.isGap c || c = '\n'

/-- Whether a character is a blank behind the equals sign of a source. -/
def isLabelGap (c : Char) : Bool :=
  isGap c || c = '\r' || c = '\x0b'

/-- The text that stands in front of the value of a field, if there is one, and the text behind
it. -/
def label (source : Text) : Text → Option Text × Text
  | '=' :: rest => (some (source ++ '=' :: rest.takeWhile isLabelGap), rest.dropWhile isLabelGap)
  | rest => (none, rest)

/-- What a letter says that a value is made into. -/
def conversion? : Char → Option Conversion
  | 's' => some .plain
  | 'r' => some .shown
  | 'a' => some .firstAlphabet
  | _ => none

/-- What the value of a field is made into, if that is said, and the text behind it. -/
def conversion : Text → Option (Option Conversion × Text)
  | '!' :: c :: rest => (conversion? c).map fun found => (some found, rest)
  | ['!'] => none
  | rest => some (none, rest)

/-! ## Pieces -/

/-- How deep fields can stand in patterns. -/
def depthLimit : Nat := 2

/-- The pieces of a text up to its end, or of a pattern up to the bracket that ends its field;
`fuel` bounds the number of pieces. -/
def read? (raw : Bool) : (fuel depth : Nat) → Text → Option (List Piece × Text)
  | 0, _, _ => none
  | fuel + 1, depth, s => do
    let (characters, rest) ← front? raw (depth ≠ 0) false s
    let front ← Literal.decoded? ⟨raw, false, false⟩ characters
    match rest with
    | '{' :: rest =>
      if depthLimit ≤ depth then none
      let (source, rest) ← source? none [] rest
      if source.all isGap then none
      let (shownSource, rest) := label source rest
      let (made, rest) ← conversion rest
      let (pattern, rest) ← match rest with
        | ':' :: c :: rest => (read? raw fuel (depth + 1) (c :: rest)).map fun r => (some r.1, r.2)
        | rest => some (none, rest)
      match rest with
      | '}' :: rest =>
        let usual := if shownSource.isSome && pattern.isNone then some .shown else none
        let (further, rest) ← read? raw fuel depth rest
        return (text (front ++ shownSource.getD []) ::
          field source (made <|> usual) (pattern.getD []) :: further, rest)
      | _ => none
    | rest => return ([text front], rest)

/-- The pieces of a text. -/
def ofText? (raw : Bool) (s : Text) : Option (List Piece) :=
  match read? raw (s.length + 1) 0 s with
  | some (pieces, []) => some pieces
  | _ => none

end Piece

end EventPipeline.Script
