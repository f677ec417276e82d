import EventPipeline.Encoding.Named
import EventPipeline.Script.Reader.Statement

/-!
# Scripts as bytes

The bytes of a script are in the usual encoding, unless a remark in one of its first two lines names
another one; the second line counts only if the first one says nothing, and a remark counts only if
it is alone in its line. In the usual encoding bytes that are no text do not matter in remarks. In
any other encoding all of the bytes have to be a text.
-/

namespace EventPipeline.Script

namespace Source

/-- The mark of the usual encoding that bytes may begin with. -/
def mark : Bytes := [0xEF, 0xBB, 0xBF]

/-- The word behind which the name of an encoding stands. -/
def namingWord : Text := "coding".toList

/-- Whether a character can be part of the name of an encoding. -/
def isNamePart (c : Char) : Bool :=
  c.isAlphanum || c = '-' || c = '_' || c = '.'

/-- The name of an encoding behind the word for it. -/
def nameBehind? : Text → Option Text
  | c :: rest =>
    if c = ':' || c = '=' then
      match (rest.dropWhile fun c => c = ' ' || c = '\t').takeWhile isNamePart with
      | [] => none
      | name => some name
    else none
  | [] => none

/-- The first name of an encoding in a remark. -/
def nameWithin? : Text → Option Text
  | [] => none
  | c :: rest =>
    if Text.startsWith (c :: rest) namingWord then
      match nameBehind? ((c :: rest).drop namingWord.length) with
      | some name => some name
      | none => nameWithin? rest
    else nameWithin? rest

/-- The name of an encoding in a line, which holds nothing else than a remark then. -/
def nameIn? (line : Text) : Option Text :=
  match line.dropWhile Token.isGap with
  | '#' :: remark => nameWithin? remark
  | _ => none

/-- Whether a line says nothing. -/
def isSilent (line : Text) : Bool :=
  (line.dropWhile Token.isGap).head?.all (· = '#')

/-- The name of the encoding that a text says it is in. -/
def encodingName? (s : Text) : Option Text :=
  match s.universalNewlines.lines with
  | first :: second :: _ =>
    match nameIn? first with
    | some name => some name
    | none => if isSilent first then nameIn? second else none
  | [only] => nameIn? only
  | [] => none

/-- How many characters of a name say whether it is that of an encoding with names of its own. -/
def distinctLength : Nat := 12

/-- Whether a name is that of an encoding, alone or with more behind it. -/
def isVariantOf (encoding : String) (name : Text) : Bool :=
  let name := (name.take distinctLength).map fun c => if c = '_' then '-' else c.toLower
  name = encoding.toList || Text.startsWith name (encoding.toList ++ ['-'])

/-- Whether a name is that of the usual encoding. -/
def isUsual (name : Text) : Bool :=
  isVariantOf "utf-8" name

/-- Whether a name is that of the encoding whose bytes are the numbers of its characters. -/
def isNumbered (name : Text) : Bool :=
  isVariantOf "latin-1" name || isVariantOf "iso-8859-1" name || isVariantOf "iso-latin-1" name

/-- The text of bytes in the encoding of a name. -/
def decodeAs (name : Text) (bytes : Bytes) : Except Fault Text :=
  if isNumbered name then .ok (NamedEncoding.ofNumbers bytes)
  else if NamedEncoding.plainName name = "unicode_escape".toList then
    match Literal.unescape? false 0 (NamedEncoding.ofNumbers bytes) with
    | some s => .ok s
    | none => .error .malformed
  else
    match NamedEncoding.decode name bytes with
    | .ok s => .ok s
    | .error .noText => .error .noEncoding
    | .error _ => .error .malformed

/-- The text of bytes, in which a null character stands for every byte that is part of none. -/
def decode (bytes : Bytes) : Except Fault Text :=
  let isMarked := mark.isPrefixOf bytes
  let bytes := if isMarked then bytes.drop mark.length else bytes
  match encodingName? (NamedEncoding.ofNumbers bytes) with
  | none => .ok (Utf8.decodeMarked 0 bytes)
  | some name =>
    if isUsual name then .ok (Utf8.decodeMarked 0 bytes)
    else if isMarked then .error .malformed
    else decodeAs name bytes

end Source

/-- What bytes say, if they are a script. -/
def readBytes (bytes : Bytes) : Except Fault (List Statement) :=
  if bytes.contains 0 then .error .nullCharacter
  else
    match Source.decode bytes with
    | .error fault => .error fault
    | .ok s => readDecoded s

end EventPipeline.Script
