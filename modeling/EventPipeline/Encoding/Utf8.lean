import EventPipeline.Encoding

/-!
# UTF-8

A character is one first byte and up to three tails. `lead?` reads off a first byte how many tails
it opens and within which bounds the first of them lies, which rules out overlong forms,
surrogates and code points beyond the last one. `decode` reads characters until the bytes end or
one of them is faulty; the offending bytes are then the first byte and the tails that were still
good. `decodeLenient` lets surrogates pass and reads each as the replacement character.
-/

namespace EventPipeline.Utf8

/-! ## Writing -/

/-- The bytes of a character. -/
def encodeChar (c : Char) : Bytes :=
  let n := c.toNat
  if n < 0x80 then [UInt8.ofNat n]
  else if n < 0x800 then [UInt8.ofNat (0xC0 + n / 64), UInt8.ofNat (0x80 + n % 64)]
  else if n < 0x10000 then
    [UInt8.ofNat (0xE0 + n / 4096), UInt8.ofNat (0x80 + n / 64 % 64), UInt8.ofNat (0x80 + n % 64)]
  else
    [UInt8.ofNat (0xF0 + n / 262144), UInt8.ofNat (0x80 + n / 4096 % 64),
      UInt8.ofNat (0x80 + n / 64 % 64), UInt8.ofNat (0x80 + n % 64)]

/-- The bytes of a text. -/
def encode (s : Text) : Bytes :=
  s.flatMap encodeChar

/-! ## Reading -/

/-- What a first byte says about its character. -/
structure Lead where
  /-- The number of tails that follow. -/
  tails : Nat
  /-- The least value of the first tail. -/
  least : Nat
  /-- The greatest value of the first tail. -/
  greatest : Nat
  /-- The bits of the code point that the first byte holds. -/
  bits : Nat

/-- What a first byte says, if a character can begin with it. -/
def lead? (b : Nat) : Option Lead :=
  if b < 0x80 then some ⟨0, 0x80, 0xBF, b⟩
  else if b < 0xC2 then none
  else if b < 0xE0 then some ⟨1, 0x80, 0xBF, b - 0xC0⟩
  else if b = 0xE0 then some ⟨2, 0xA0, 0xBF, 0⟩
  else if b = 0xED then some ⟨2, 0x80, 0x9F, 0xD⟩
  else if b < 0xF0 then some ⟨2, 0x80, 0xBF, b - 0xE0⟩
  else if b = 0xF0 then some ⟨3, 0x90, 0xBF, 0⟩
  else if b < 0xF4 then some ⟨3, 0x80, 0xBF, b - 0xF0⟩
  else if b = 0xF4 then some ⟨3, 0x80, 0x8F, 4⟩
  else none

/-- The code point of the bits read so far and the tails to come; on a fault, the number of tails
before it. -/
def tails : (count least greatest bits : Nat) → Bytes → Except (Nat × DecodeFault) Nat
  | 0, _, _, bits, _ => .ok bits
  | _ + 1, _, _, _, [] => .error (0, .unexpectedEnd)
  | count + 1, least, greatest, bits, b :: rest =>
    if least ≤ b.toNat ∧ b.toNat ≤ greatest then
      match tails count 0x80 0xBF (bits * 64 + (b.toNat - 0x80)) rest with
      | .ok n => .ok n
      | .error (good, fault) => .error (good + 1, fault)
    else .error (0, .invalidContinuation)

/-- Whether bytes begin with three that would stand for a surrogate. -/
def surrogateAhead : Bytes → Bool
  | a :: b :: c :: _ =>
    a.toNat == 0xED && 0xA0 ≤ b.toNat && b.toNat ≤ 0xBF && 0x80 ≤ c.toNat && c.toNat ≤ 0xBF
  | _ => false

/-- The text of the bytes from a position on; the first `skip` bytes belong to the character
before. If it is `lenient`, three bytes that would stand for a surrogate give the replacement
character and are no fault. -/
def decodeFrom (lenient : Bool) : (skip position : Nat) → Bytes → Except DecodeError Text
  | _, _, [] => .ok []
  | skip + 1, position, _ :: rest => decodeFrom lenient skip (position + 1) rest
  | 0, position, b :: rest =>
    if lenient && surrogateAhead (b :: rest) then
      (decodeFrom lenient 2 (position + 1) rest).map (replacementChar :: ·)
    else
      match lead? b.toNat with
      | none => .error ⟨.utf8, position, [b], .invalidStart⟩
      | some lead =>
        match tails lead.tails lead.least lead.greatest lead.bits rest with
        | .error (good, fault) => .error ⟨.utf8, position, b :: rest.take good, fault⟩
        | .ok n => (decodeFrom lenient lead.tails (position + 1) rest).map (Char.ofNat n :: ·)

/-- The text of the bytes. -/
def decode (bytes : Bytes) : Except DecodeError Text :=
  decodeFrom false 0 0 bytes

/-- The text of the bytes, which may hold surrogates. -/
def decodeLenient (bytes : Bytes) : Except DecodeError Text :=
  decodeFrom true 0 0 bytes

/-- The text of bytes, in which a null character stands for every byte that is part of no character;
the first `skip` bytes belong to the character before. -/
def decodeMarked : (skip : Nat) → Bytes → Text
  | _, [] => []
  | skip + 1, _ :: rest => decodeMarked skip rest
  | 0, b :: rest =>
    match lead? b.toNat with
    | none => '\x00' :: decodeMarked 0 rest
    | some lead =>
      match tails lead.tails lead.least lead.greatest lead.bits rest with
      | .error _ => '\x00' :: decodeMarked 0 rest
      | .ok n => Char.ofNat n :: decodeMarked lead.tails rest

end EventPipeline.Utf8
