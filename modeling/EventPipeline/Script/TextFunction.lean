import EventPipeline.Encoding.Named
import EventPipeline.Script.Collection
import EventPipeline.Script.Given
import EventPipeline.Text.Digit
import EventPipeline.Text.NormalForm
import EventPipeline.Text.Search
import EventPipeline.Text.Upper
import EventPipeline.Text.Word

/-!
# Functions of texts

What the functions give that belong to a text, and those of bytes that lead to texts. `apply` goes
through them by their names; of those that it does not know, nothing is known. Where the case or the
class of a character matters, only the characters of the first alphabet are known.
-/

namespace EventPipeline.Script

namespace TextFunction

/-! ## Characters -/

/-- What comes of a text of the first alphabet; of others nothing is known. -/
def ofFirst (f : Text → Value) (s : Text) : Value :=
  if s.all Text.isAscii then f s else .other

/-- Whether a text has characters, and all of a class. -/
def isAll (p : Char → Bool) (s : Text) : Value :=
  .bool (!s.isEmpty && s.all p)

/-- Whether a text has letters, and all are of a class. -/
def areLetters (p : Char → Bool) (s : Text) : Value :=
  .bool (s.any Char.isAlpha && s.all fun c => !c.isAlpha || p c)

/-- A text with a small letter for each capital letter. -/
def lower (s : Text) : Text :=
  s.map Char.toLower

/-- A letter with the other case. -/
def swapped (c : Char) : Char :=
  if c.isUpper then c.toLower else c.toUpper

/-- A text with a capital letter at its beginning and small letters behind. -/
def capitalized : Text → Text
  | [] => []
  | c :: rest => c.toUpper :: lower rest

/-- A text with a capital letter at the beginning of each word and small letters behind. -/
def titled : (behindLetter : Bool) → Text → Text
  | _, [] => []
  | behindLetter, c :: rest =>
    (if behindLetter then c.toLower else c.toUpper) :: titled c.isAlpha rest

/-- Whether capital letters begin words and small letters go on with them. -/
def isTitled : (behindLetter : Bool) → Text → Bool
  | _, [] => true
  | behindLetter, c :: rest =>
    (if c.isUpper then !behindLetter else !c.isLower || behindLetter) && isTitled c.isAlpha rest

/-- The functions that take nothing, by their names. -/
def plainFunctions : List (String × (Text → Value)) := [
  ("upper", fun s => .text s.toUpper), ("lower", ofFirst fun s => .text (lower s)),
  ("casefold", ofFirst fun s => .text (lower s)),
  ("swapcase", ofFirst fun s => .text (s.map swapped)),
  ("capitalize", ofFirst fun s => .text (capitalized s)),
  ("title", ofFirst fun s => .text (titled false s)),
  ("isascii", fun s => .bool (s.all Text.isAscii)),
  ("isalpha", ofFirst (isAll Char.isAlpha)), ("isalnum", ofFirst (isAll Char.isAlphanum)),
  ("isdecimal", isAll Text.isDecimalDigit), ("isdigit", ofFirst (isAll Char.isDigit)),
  ("isnumeric", ofFirst (isAll Char.isDigit)), ("isspace", isAll Text.isBlank),
  ("isprintable", fun s => .bool (s.all Text.isPrintable)),
  ("isidentifier", fun s => .bool (Text.isWord s)),
  ("islower", ofFirst (areLetters Char.isLower)), ("isupper", ofFirst (areLetters Char.isUpper)),
  ("istitle", ofFirst fun s => .bool (s.any Char.isAlpha && isTitled false s))]

/-! ## Parts -/

/-- The part of a text between two places, with the place where it begins, unless it would end in
front of that. -/
def portion (s : Text) (first last : Value) : Except RunError (Option (Nat × Text)) := do
  let first ← first.endOf?
  let last ← last.endOf?
  let low : Int := (first.map fun (n : Int) => if n < 0 then max 0 (n + s.length) else n).getD 0
  let high : Int := (last.map (Value.Places.clamp s.length 0 s.length)).getD s.length
  if high < low then return none
  else return some (low.toNat, (s.drop low.toNat).take (high - low).toNat)

/-- The part and the portion that a function looks for it in. -/
def sought (s : Text) (g : Given) : Except RunError (Text × Option (Nat × Text)) := do
  match ← g.placed 1 3 with
  | .text part :: places => return (part, ← portion s (places.headD .null) (places.getD 1 .null))
  | _ => throw .mismatch

/-- The places at which a part occurs. -/
def placesIn (s : Text) (g : Given) : Except RunError (List Nat) := do
  match ← sought s g with
  | (_, none) => return []
  | (part, some (place, s)) => return Text.placesOf part place s

/-- The place that was found, or one in front of all others. -/
def placeOrNone (place : Option Nat) : Value :=
  .int (match place with
    | some n => n
    | none => -1)

/-- The place that was found. -/
def placeFor (place : Option Nat) : Except RunError Value :=
  match place with
  | some n => .ok (.int n)
  | none => .error (.value (.call (.noPart false)))

/-- How often a part occurs without overlapping with itself. -/
def countOf (part s : Text) : Nat :=
  if part.isEmpty then s.length + 1 else (Text.cutAt part s.length 0 s).length - 1

/-- Whether a text has one of several parts at its end or at its beginning. -/
def hasPart (test : Text → Text → Bool) (s : Text) (g : Given) : Except RunError Value := do
  match ← g.placed 1 3 with
  | parts :: places =>
    let found ← portion s (places.headD .null) (places.getD 1 .null)
    let parts ← match parts with
      | .text part => pure [part]
      | .tuple items =>
        match items.mapM Value.text? with
        | some parts => pure parts
        | none => throw .mismatch
      | _ => throw .mismatch
    return .bool (found.any fun p => parts.any (test p.2))
  | [] => throw .mismatch

/-! ## Cuts -/

/-- The number of cuts that an option asks for in a text; a negative one asks for all. -/
def cutLimit (s : Text) : Option Value → Except RunError Nat
  | none => .ok (s.length + 1)
  | some v =>
    match v.whole? with
    | some n => .ok (if n < 0 then s.length + 1 else min n.toNat (s.length + 1))
    | none => .error .mismatch

/-- The texts as a list of values. -/
def listOf (parts : List Text) : Value :=
  .list (parts.map .text)

/-- The pieces of a text, cut at a separator or else at white space. -/
def split (s : Text) (g : Given) (atSeparator : Text → Nat → Text → List Text)
    (atBlanks : (Char → Bool) → Nat → Text → List Text) : Except RunError Value := do
  match ← g.arranged 0 ["sep", "maxsplit"] with
  | [separator, limit] =>
    let limit ← cutLimit s limit
    match separator.getD .null with
    | .null => return listOf (atBlanks Text.isBlank limit s)
    | .text [] => throw (.value (.call .noSeparator))
    | .text separator => return listOf (atSeparator separator limit s)
    | _ => throw .mismatch
  | _ => throw .mismatch

/-- The one separator that a function is given. -/
def separatorOf (g : Given) : Except RunError Text := do
  match ← g.placed 1 1 with
  | [.text []] => throw (.value (.call .noSeparator))
  | [.text separator] => return separator
  | _ => throw .mismatch

/-- The one text that a function is given. -/
def textOf (g : Given) : Except RunError Text := do
  match ← g.placed 1 1 with
  | [.text s] => return s
  | _ => throw .mismatch

/-- The characters at the ends that a function is to leave out. -/
def strippedOf (g : Given) : Except RunError (Char → Bool) := do
  match ← g.placed 0 1 with
  | [] => return Text.isBlank
  | [.null] => return Text.isBlank
  | [.text s] => return fun c => s.contains c
  | _ => throw .mismatch

/-! ## Widths -/

/-- A text with a character in front of it and behind it, so often each, up to a width. -/
def padded (s : Text) (g : Given) (front : (missing width : Nat) → Nat) :
    Except RunError Value := do
  match ← g.placed 1 2 with
  | width :: rest =>
    let width ← match width.whole? with
      | some n => pure n
      | none => throw .mismatch
    let filling ← match rest with
      | [] => pure ' '
      | [.text [c]] => pure c
      | _ => throw .mismatch
    if Value.countLimit < width then throw .overflow
    if Value.lengthLimit < width then throw .oversized
    let missing := width.toNat - s.length
    let before := front missing width.toNat
    return .text (List.replicate before filling ++ s ++ List.replicate (missing - before) filling)
  | _ => throw .mismatch

/-- A text with zeros behind its sign, up to a width. -/
def withZeros (s : Text) (width : Nat) : Text :=
  let zeros := List.replicate (width - s.length) '0'
  match s with
  | '-' :: rest => '-' :: (zeros ++ rest)
  | '+' :: rest => '+' :: (zeros ++ rest)
  | s => zeros ++ s

/-- A text with blanks for tabs, up to the next of the columns that are so far apart. -/
def withoutTabs (size : Nat) : (column : Nat) → Text → Text
  | _, [] => []
  | column, c :: rest =>
    if c = '\t' then
      let missing := if size = 0 then 0 else size - column % size
      List.replicate missing ' ' ++ withoutTabs size (column + missing) rest
    else c :: withoutTabs size (if c = '\n' || c = '\r' then 0 else column + 1) rest

/-! ## Encodings -/

/-- The names of the first alphabet and of the one with all numbers of bytes, each with the number
of its characters. -/
def numberedAlphabets : List (Nat × List String) := [
  (0x80, ["ascii", "us_ascii", "646"]), (0x100, ["latin_1", "iso_8859_1", "iso8859_1", "latin1",
    "l1", "latin", "8859", "cp819"])]

/-- The names of the usual encoding. -/
def usualNames : List String := ["utf_8", "utf8", "u8", "utf"]

/-- Whether there is an encoding of a name. -/
def isEncoding (name : Text) : Bool :=
  match NamedEncoding.decode name [] with
  | .error .unknown => false
  | _ => true

/-- The bytes of a text in the encoding of a name. -/
def encoded (name s : Text) : Except RunError Value :=
  let plain := NamedEncoding.plainName name
  if NamedEncoding.isAmong plain usualNames then
    .ok (.bytes (NamedEncoding.ofNumbers (Utf8.encode s)))
  else
    match numberedAlphabets.find? fun a => NamedEncoding.isAmong plain a.2 with
    | some a => if s.all fun c => c.toNat < a.1 then .ok (.bytes s) else .error .unwritable
    | none => if isEncoding name then .ok .other else .error .noEncoding

/-- The wording where a byte is none of the first alphabet. -/
def firstAlphabetMessage (bytes : Text) : Text :=
  let place := (bytes.takeWhile Text.isAscii).length
  "'ascii' codec can't decode byte 0x".toList ++
    Text.ofHex 2 ((bytes[place]?.map Char.toNat).getD 0) ++ " in position ".toList ++
    Text.ofNat place ++ ": ordinal not in range(128)".toList

/-- The text of bytes in the encoding of a name, which does not matter if there are none. -/
def decoded (name bytes : Text) : Except RunError Value :=
  let plain := NamedEncoding.plainName name
  let raw := bytes.map fun c => UInt8.ofNat c.toNat
  if bytes.isEmpty then .ok (.text [])
  else if NamedEncoding.isAmong plain usualNames then
    match Utf8.decode raw with
    | .ok s => .ok (.text s)
    | .error e => .error (.undecodable e.message)
  else
    match numberedAlphabets.find? fun a => NamedEncoding.isAmong plain a.2 with
    | some a =>
      if bytes.all fun c => c.toNat < a.1 then .ok (.text bytes)
      else .error (.undecodable (firstAlphabetMessage bytes))
    | none => if isEncoding name then .ok .other else .error .noEncoding

/-- The encoding that a function is given, if it follows what it does about faults. -/
def encodingOf (g : Given) : Except RunError (Option Text) := do
  match ← g.arranged 0 ["encoding", "errors"] with
  | [name, manner] =>
    match name.getD (.text "utf-8".toList), manner.getD (.text "strict".toList) with
    | .text name, .text manner => return if manner = "strict".toList then some name else none
    | _, _ => throw .mismatch
  | _ => throw .mismatch

/-! ## Functions by name -/

/-- The parts of a text in front of a separator, the separator and the part behind it. -/
def parted (separator : Text) (pieces : List Text) (whole : Text × Text × Text) : Value :=
  let (front, middle, back) := match pieces with
    | [front, back] => (front, separator, back)
    | _ => whole
  .tuple [.text front, .text middle, .text back]

/-- What a function gives that belongs to a text. -/
def apply (s name : Text) (g : Given) : Except RunError Value :=
  match String.ofList name with
  | "find" => (placesIn s g).map fun places => placeOrNone places.head?
  | "rfind" => (placesIn s g).map fun places => placeOrNone places.getLast?
  | "index" => do placeFor (← placesIn s g).head?
  | "rindex" => do placeFor (← placesIn s g).getLast?
  | "count" => do
    match ← sought s g with
    | (_, none) => return .int 0
    | (part, some (_, s)) => return .int (countOf part s)
  | "startswith" => hasPart Text.startsWith s g
  | "endswith" => hasPart Text.endsWith s g
  | "removeprefix" => do
    let part ← textOf g
    return .text (if s.startsWith part then s.drop part.length else s)
  | "removesuffix" => do
    let part ← textOf g
    return .text (if s.endsWith part then s.take (s.length - part.length) else s)
  | "replace" => do
    match ← g.placed 2 3 with
    | .text part :: .text other :: rest =>
      return .text (Text.replaced part other (← cutLimit s rest.head?) s)
    | _ => throw .mismatch
  | "split" => split s g (fun separator limit s => Text.cutAt separator limit 0 s)
      fun isBlank limit s => Text.words isBlank limit false s
  | "rsplit" => split s g Text.cutFromEnd Text.wordsFromEnd
  | "splitlines" => do
    match ← g.arranged 0 ["keepends"] with
    | [keeps] => return listOf (Text.linesAt Text.isLineEnd (keeps.any Value.truth) s)
    | _ => throw .mismatch
  | "partition" => do
    let separator ← separatorOf g
    return parted separator (Text.cutAt separator 1 0 s) (s, [], [])
  | "rpartition" => do
    let separator ← separatorOf g
    return parted separator (Text.cutFromEnd separator 1 s) ([], [], s)
  | "join" => do
    match ← g.placed 1 1 with
    | [items] =>
      let items ← items.spreadOf
      match items.mapM Value.text? with
      | some texts => return .text (Text.join s texts)
      | none => if items.any Value.isUnknown then return .other else throw .mismatch
    | _ => throw .mismatch
  | "strip" => do return .text (Text.trimBy (← strippedOf g) s)
  | "lstrip" => do return .text (s.dropWhile (← strippedOf g))
  | "rstrip" => do return .text (s.reverse.dropWhile (← strippedOf g)).reverse
  | "center" => padded s g fun missing width =>
      missing / 2 + (if missing % 2 = 1 && width % 2 = 1 then 1 else 0)
  | "ljust" => padded s g fun _ _ => 0
  | "rjust" => padded s g fun missing _ => missing
  | "zfill" => do
    match (← g.placed 1 1).map Value.whole? with
    | [some width] =>
      if Value.lengthLimit < width then throw .oversized
      return .text (withZeros s width.toNat)
    | _ => throw .mismatch
  | "expandtabs" => do
    match ← g.arranged 0 ["tabsize"] with
    | [size] =>
      match (size.getD (.int 8)).whole? with
      | some size =>
        if Value.lengthLimit < size then return .other
        return .text (withoutTabs size.toNat 0 s)
      | none => throw .mismatch
    | _ => throw .mismatch
  | "encode" => do
    match ← encodingOf g with
    | some name => encoded name s
    | none => return .other
  | word =>
    match plainFunctions.lookup word with
    | some f => (g.placed 0 0).map fun _ => f s
    | none => .ok .other

/-- What a function gives that belongs to bytes. -/
def applyToBytes (s name : Text) (g : Given) : Except RunError Value :=
  match String.ofList name with
  | "decode" => do
    match ← encodingOf g with
    | some name => decoded name s
    | none => return .other
  | "hex" =>
    if g.values.isEmpty && g.named.isEmpty then
      .ok (.text (s.flatMap fun c => Text.ofHex 2 c.toNat))
    else .ok .other
  | _ => .ok .other

end TextFunction

end EventPipeline.Script
