import EventPipeline.Encoding

/-!
# UTF-16 and UTF-32

Both encodings are sequences of units, of two or of four bytes. In UTF-16 a character beyond the
first plane is a pair of surrogates; a surrogate outside a pair stands for no character, and the
replacement character takes its place.
-/

namespace EventPipeline

/-- The character of a code point, or the replacement character. A surrogate is no character, so one
that stands alone in bytes or in an escape is not kept: only raw texts can hold it, and what reads
interchange text gives texts. -/
def charOfUnit (n : Nat) : Char :=
  if n < 0xD800 ∨ (0xDFFF < n ∧ n < 0x110000) then Char.ofNat n else replacementChar

namespace Utf16

/-- Whether a unit is the first one of a pair. -/
def isHigh (u : Nat) : Bool := 0xD800 ≤ u && u < 0xDC00

/-- Whether a unit is the second one of a pair. -/
def isLow (u : Nat) : Bool := 0xDC00 ≤ u && u < 0xE000

/-- The code point of a pair. -/
def joinPair (high low : Nat) : Nat :=
  0x10000 + (high - 0xD800) * 0x400 + (low - 0xDC00)

/-- The units of a character. -/
def units (c : Char) : List Nat :=
  let n := c.toNat
  if n < 0x10000 then [n] else [0xD800 + (n - 0x10000) / 0x400, 0xDC00 + (n - 0x10000) % 0x400]

/-- The bytes of a unit. -/
def unitBytes (order : ByteOrder) (u : Nat) : Bytes :=
  match order with
  | .little => [UInt8.ofNat (u % 256), UInt8.ofNat (u / 256)]
  | .big => [UInt8.ofNat (u / 256), UInt8.ofNat (u % 256)]

/-- The bytes of a text. -/
def encode (order : ByteOrder) (s : Text) : Bytes :=
  s.flatMap fun c => (units c).flatMap (unitBytes order)

/-- The unit of two bytes. -/
def unitOf (order : ByteOrder) (a b : UInt8) : Nat :=
  match order with
  | .little => a.toNat + 256 * b.toNat
  | .big => 256 * a.toNat + b.toNat

/-- The text of the bytes from a position on. -/
def decodeFrom (order : ByteOrder) : (position : Nat) → Bytes → Except DecodeError Text
  | _, [] => .ok []
  | position, [a] => .error ⟨.utf16 order, position, [a], .truncated⟩
  | _, [a, b] => .ok [charOfUnit (unitOf order a b)]
  | position, [a, b, c] =>
    (decodeFrom order (position + 2) [c]).map (charOfUnit (unitOf order a b) :: ·)
  | position, a :: b :: c :: d :: rest =>
    let u := unitOf order a b
    let v := unitOf order c d
    if isHigh u && isLow v then
      (decodeFrom order (position + 4) rest).map (Char.ofNat (joinPair u v) :: ·)
    else
      (decodeFrom order (position + 2) (c :: d :: rest)).map (charOfUnit u :: ·)

end Utf16

namespace Utf32

/-- The bytes of a unit. -/
def unitBytes (order : ByteOrder) (u : Nat) : Bytes :=
  let bytes := [UInt8.ofNat (u % 256), UInt8.ofNat (u / 256 % 256),
    UInt8.ofNat (u / 65536 % 256), UInt8.ofNat (u / 16777216)]
  match order with
  | .little => bytes
  | .big => bytes.reverse

/-- The bytes of a text. -/
def encode (order : ByteOrder) (s : Text) : Bytes :=
  s.flatMap fun c => unitBytes order c.toNat

/-- The unit of four bytes. -/
def unitOf (order : ByteOrder) (a b c d : UInt8) : Nat :=
  match order with
  | .little => a.toNat + 256 * (b.toNat + 256 * (c.toNat + 256 * d.toNat))
  | .big => d.toNat + 256 * (c.toNat + 256 * (b.toNat + 256 * a.toNat))

/-- The text of the bytes from a position on. -/
def decodeFrom (order : ByteOrder) : (position : Nat) → Bytes → Except DecodeError Text
  | _, [] => .ok []
  | position, a :: b :: c :: d :: rest =>
    let u := unitOf order a b c d
    if u < 0x110000 then (decodeFrom order (position + 4) rest).map (charOfUnit u :: ·)
    else .error ⟨.utf32 order, position, [a, b, c, d], .outOfRange⟩
  | position, bytes => .error ⟨.utf32 order, position, bytes, .truncated⟩

end Utf32

end EventPipeline
