import EventPipeline.Text

/-!
# Bytes and their encodings

The encodings in which a text may arrive as bytes, and the ways in which bytes fail to be a text.
A failure names the encoding, the position of the first offending byte and the offending bytes;
`DecodeError.message` puts it into words.
-/

namespace EventPipeline

/-- A sequence of bytes. -/
abbrev Bytes := List UInt8

/-- The order of the bytes of a unit. -/
inductive ByteOrder
  /-- The least significant byte comes first. -/
  | little
  /-- The most significant byte comes first. -/
  | big
  deriving DecidableEq, Repr

/-- The encodings of text. -/
inductive Encoding
  /-- One to four bytes per character. -/
  | utf8
  /-- One or two units of two bytes per character. -/
  | utf16 (order : ByteOrder)
  /-- One unit of four bytes per character. -/
  | utf32 (order : ByteOrder)
  deriving DecidableEq, Repr

namespace Encoding

/-- The name of an encoding. -/
def name : Encoding → Text
  | utf8 => "utf-8".toList
  | utf16 .little => "utf-16-le".toList
  | utf16 .big => "utf-16-be".toList
  | utf32 .little => "utf-32-le".toList
  | utf32 .big => "utf-32-be".toList

end Encoding

/-- Stands where the bytes have a code point that is no character. -/
def replacementChar : Char := Char.ofNat 0xFFFD

/-- Why bytes are not a text. -/
inductive DecodeFault
  /-- No character begins with this byte. -/
  | invalidStart
  /-- The byte that follows does not continue the character. -/
  | invalidContinuation
  /-- The bytes end within a character. -/
  | unexpectedEnd
  /-- The bytes end within a unit. -/
  | truncated
  /-- The unit is no code point. -/
  | outOfRange
  deriving DecidableEq, Repr

/-- The wording of a fault. -/
def DecodeFault.message : DecodeFault → Text
  | invalidStart => "invalid start byte".toList
  | invalidContinuation => "invalid continuation byte".toList
  | unexpectedEnd => "unexpected end of data".toList
  | truncated => "truncated data".toList
  | outOfRange => "code point not in range(0x110000)".toList

/-- A place where bytes fail to be a text. -/
structure DecodeError where
  /-- The encoding in which the bytes were read. -/
  encoding : Encoding
  /-- The position of the first offending byte. -/
  position : Nat
  /-- The offending bytes. -/
  bytes : Bytes
  /-- What is wrong with them. -/
  fault : DecodeFault
  deriving DecidableEq, Repr

/-- The wording of a failure: one offending byte is shown, of several the positions are given. -/
def DecodeError.message (e : DecodeError) : Text :=
  let place := match e.bytes with
    | [b] => "byte 0x".toList ++ Text.ofHex 2 b.toNat ++ " in position ".toList ++
        Text.ofNat e.position
    | bs => "bytes in position ".toList ++ Text.ofNat e.position ++ ['-'] ++
        Text.ofNat (e.position + bs.length - 1)
  ['\''] ++ e.encoding.name ++ "' codec can't decode ".toList ++ place ++ ": ".toList ++
    e.fault.message

end EventPipeline
