import EventPipeline.Encoding.Alphabet
import EventPipeline.Encoding.Paired
import EventPipeline.Encoding.Utf16
import EventPipeline.Encoding.Utf8

/-!
# Encodings by name

A file of settings may say itself in which encoding its bytes are. The name is one of several for an encoding;
capital letters do not matter, and neither does which signs stand between letters and digits.
-/

namespace EventPipeline

/-- Why bytes are no text in the encoding of a name. -/
inductive NamedFault
  /-- There is no such encoding of texts. -/
  | unknown
  /-- The bytes are no text in that encoding. -/
  | undecodable
  /-- The encoding stands for no text at all. -/
  | noText
  deriving DecidableEq, Repr

namespace NamedEncoding

/-- A name with single underscores for what stands between its letters and digits. -/
def plainName (name : Text) : Text :=
  let isPart (c : Char) : Bool := c.isAlphanum || c = '.'
  (go isPart (name.dropWhile fun c => !isPart c)).map Char.toLower
where
  /-- The rest of a name. -/
  go (isPart : Char → Bool) : Text → Text
    | [] => []
    | c :: rest =>
      if isPart c then c :: go isPart rest
      else if rest.head?.any isPart then '_' :: go isPart rest
      else go isPart rest

/-- Whether a name is one of several. -/
def isAmong (name : Text) (names : List String) : Bool :=
  names.any fun n => n.toList = name

/-- The text of bytes in an encoding of one to four bytes, if it is one. -/
def ofUnits (result : Except DecodeError Text) : Except NamedFault Text :=
  match result with
  | .ok s => if s.contains replacementChar then .error .undecodable else .ok s
  | .error _ => .error .undecodable

/-- The text of bytes without a mark of their order, or behind such a mark. -/
def behindMark (little big : Bytes) (decode : ByteOrder → Bytes → Except DecodeError Text)
    (bytes : Bytes) : Except DecodeError Text :=
  if little.isPrefixOf bytes then decode .little (bytes.drop little.length)
  else if big.isPrefixOf bytes then decode .big (bytes.drop big.length)
  else decode .little bytes

/-- Whether bytes are all of the first alphabet. -/
def isPlain (bytes : Bytes) : Bool :=
  bytes.all fun b => b.toNat < 0x80

/-- The characters with the numbers of bytes. -/
def ofNumbers (bytes : Bytes) : Text :=
  bytes.map fun b => Char.ofNat b.toNat

/-- A text in the encoding for mails, where a plus sign begins other characters; only the plus sign
itself is among them. -/
def ofMail : Text → Option Text
  | [] => some []
  | '+' :: '-' :: rest => (ofMail rest).map ('+' :: ·)
  | c :: rest => if c = '+' then none else (ofMail rest).map (c :: ·)

/-- The text of bytes in the encoding of a name. -/
def decode (name : Text) (bytes : Bytes) : Except NamedFault Text :=
  let name := plainName name
  let decoded (s : Option Text) : Except NamedFault Text :=
    match s with
    | some s => .ok s
    | none => .error .undecodable
  if isAmong name ["utf_8", "utf8", "u8", "utf", "utf8_ucs2", "utf8_ucs4", "cp65001"] then
    ofUnits (Utf8.decode bytes)
  else if isAmong name ["utf_16", "utf16", "u16"] then
    ofUnits (behindMark [0xFF, 0xFE] [0xFE, 0xFF] (Utf16.decodeFrom · 0) bytes)
  else if isAmong name ["utf_16_le", "utf_16le", "unicodelittleunmarked"] then
    ofUnits (Utf16.decodeFrom .little 0 bytes)
  else if isAmong name ["utf_16_be", "utf_16be", "unicodebigunmarked"] then
    ofUnits (Utf16.decodeFrom .big 0 bytes)
  else if isAmong name ["utf_32", "utf32", "u32"] then
    ofUnits (behindMark [0xFF, 0xFE, 0, 0] [0, 0, 0xFE, 0xFF] (Utf32.decodeFrom · 0) bytes)
  else if isAmong name ["utf_32_le", "utf_32le"] then ofUnits (Utf32.decodeFrom .little 0 bytes)
  else if isAmong name ["utf_32_be", "utf_32be"] then ofUnits (Utf32.decodeFrom .big 0 bytes)
  else if isAmong name ["utf_7", "utf7", "u7", "unicode_1_1_utf_7"] then
    if isPlain bytes then decoded (ofMail (ofNumbers bytes)) else .error .undecodable
  else if isAmong name ["undefined"] then .error .noText
  else if isAmong name ["punycode"] then
    .error (if isPlain bytes then .noText else .undecodable)
  else if isAmong name ["idna"] then
    if isPlain bytes then .ok (ofNumbers bytes) else .error .noText
  else if isAmong name ["raw_unicode_escape"] then .ok (ofNumbers bytes)
  else
    match Alphabet.ofName? name, PairedAlphabet.ofName? name with
    | some a, _ => decoded (a.decode? bytes)
    | none, some a => decoded (a.decode? bytes)
    | none, none => .error .unknown

end NamedEncoding

end EventPipeline
