import EventPipeline.Encoding.Utf8
import EventPipeline.Encoding.Utf16

/-!
# Detecting the encoding of bytes

Bytes that hold a text whose first two characters are in the first half of the code table, as every
interchange text's are, give their encoding away: by a byte order mark, or else by where the zero
bytes among the first four stand. `decodeDetected` reads bytes in the encoding so found.
-/

namespace EventPipeline

namespace Encoding

/-- The bytes of a text in an encoding, without a mark. -/
def encode : Encoding → Text → Bytes
  | utf8, s => Utf8.encode s
  | utf16 order, s => Utf16.encode order s
  | utf32 order, s => Utf32.encode order s

/-- The byte order mark of an encoding. -/
def mark (e : Encoding) : Bytes :=
  e.encode [Char.ofNat 0xFEFF]

/-- The encodings in the order in which their marks are looked for: a mark may be the beginning of
one that is looked for before it. -/
def all : List Encoding :=
  [utf32 .big, utf32 .little, utf16 .big, utf16 .little, utf8]

/-- The encoding whose mark stands in front of bytes, if there is one. -/
def ofMark? (bytes : Bytes) : Option Encoding :=
  all.find? fun e => e.mark.isPrefixOf bytes

/-- The encoding of bytes without a mark, by the zeros among the first four. -/
def ofZeros : Bytes → Encoding
  | a :: b :: c :: d :: _ =>
    if a = 0 then (if b = 0 then utf32 .big else utf16 .big)
    else if b = 0 then (if c = 0 ∧ d = 0 then utf32 .little else utf16 .little)
    else utf8
  | [a, b] => if a = 0 then utf16 .big else if b = 0 then utf16 .little else utf8
  | _ => utf8

end Encoding

/-- The encoding of bytes and the length of the byte order mark in front. -/
def detectEncoding (bytes : Bytes) : Encoding × Nat :=
  match Encoding.ofMark? bytes with
  | some e => (e, e.mark.length)
  | none => (Encoding.ofZeros bytes, 0)

/-- The text of bytes in the encoding that they show. Positions in a failure count from the start
of the bytes, but in UTF-8 from behind the mark. -/
def decodeDetected (bytes : Bytes) : Except DecodeError Text :=
  let (encoding, mark) := detectEncoding bytes
  match encoding with
  | .utf8 => Utf8.decodeLenient (bytes.drop mark)
  | .utf16 order => Utf16.decodeFrom order mark (bytes.drop mark)
  | .utf32 order => Utf32.decodeFrom order mark (bytes.drop mark)

end EventPipeline
