import EventPipeline.Encoding.Utf8

/-!
# Raw texts

A text is a list of characters. What a program holds as a text may have surrogates in it as well,
which are halves of pairs that stand alone. Such a raw text has no encoding, but it can be the name
of a file: 128 of the surrogates then stand for single bytes, those that no character begins with.
So different raw texts may be one name, as the bytes of a character are the same whether they come
from the character or from surrogates.
-/

namespace EventPipeline

/-- A code point of a raw text. -/
inductive CodePoint
  /-- A character. -/
  | char (c : Char)
  /-- A surrogate, by its distance from the first one. -/
  | surrogate (n : Fin 2048)
  deriving DecidableEq, Repr

/-- A raw text. -/
abbrev RawText := List CodePoint

namespace RawText

/-- A text is a raw text without surrogates. -/
def ofText (s : Text) : RawText :=
  s.map .char

/-- The text that a raw text is, if it has no surrogates. -/
def toText? : RawText → Option Text
  | [] => some []
  | .char c :: rest => (toText? rest).map (c :: ·)
  | .surrogate _ :: _ => none

/-- The byte that a surrogate stands for in a name. -/
def escapedByte? (n : Fin 2048) : Option UInt8 :=
  if 0x480 ≤ n.val ∧ n.val < 0x500 then some (UInt8.ofNat (n.val - 0x400)) else none

/-- The bytes of a raw text as a name. -/
def nameBytes? : RawText → Option Bytes
  | [] => some []
  | .char c :: rest => (nameBytes? rest).map (Utf8.encodeChar c ++ ·)
  | .surrogate n :: rest =>
    (escapedByte? n).bind fun b => (nameBytes? rest).map (b :: ·)

/-! ## Laws -/

/-- A text is the text that it is as a raw text. -/
@[simp] theorem toText?_ofText (s : Text) : toText? (ofText s) = some s := by
  induction s with
  | nil => rfl
  | cons c rest ih =>
    show (toText? (ofText rest)).map (c :: ·) = some (c :: rest)
    rw [ih, Option.map_some]

/-- The bytes of a text as a name are those of its encoding. -/
@[simp] theorem nameBytes?_ofText (s : Text) : nameBytes? (ofText s) = some (Utf8.encode s) := by
  induction s with
  | nil => rfl
  | cons c rest ih =>
    show (nameBytes? (ofText rest)).map (Utf8.encodeChar c ++ ·) = _
    rw [ih, Option.map_some]
    rfl

end RawText

end EventPipeline
