import EventPipeline.Script.Collection
import EventPipeline.Script.PatternText

/-!
# Texts with gaps

A text may have gaps, each of which begins with a percent sign and ends with a letter for the sort
of text that it takes; two percent signs stand for one. In between may stand, in this order, the
name of a value in brackets, flags, the least width and a number of digits. The values come from a
tuple one after the other, or by name from an object, or there is only one of them.

`Filling.fill` goes through a text from left to right. Values that are left over are a failure,
unless they could have been asked for by name.
-/

namespace EventPipeline.Script

namespace Filling

/-! ## Values -/

/-- The values that gaps can take. -/
structure Supply where
  /-- Whether they are for bytes. -/
  binary : Bool
  /-- All of them. -/
  whole : Value
  /-- Those that no gap took. -/
  left : List Value

/-- The values that a value supplies. -/
def supplyOf (binary : Bool) (v : Value) : Supply where
  binary
  whole := v
  left := match v with
    | .tuple items => items
    | v => [v]

/-- Whether values can be asked for by name. -/
def Supply.isNamed (supply : Supply) : Bool :=
  match supply.whole with
  | .mapping _ => true
  | .list _ => true
  | .bytes _ => !supply.binary
  | .filledType _ _ => true
  | .union _ => true
  | .other => true
  | _ => false

/-- The next value, and those that are left then. -/
def Supply.next (supply : Supply) : Except RunError (Value × Supply) :=
  match supply.left with
  | [] => .error .mismatch
  | v :: rest => .ok (v, { supply with left := rest })

/-! ## Gaps -/

/-- What a gap asks for, but for its letter. -/
structure Gap where
  /-- The flags. -/
  flags : Text
  /-- The least width; the text stands at the beginning if it is negative. -/
  width : Int
  /-- The number of digits. -/
  precision : Option Nat

/-- The characters that are flags. -/
def flagCharacters : List Char := ['-', '+', ' ', '#', '0']

/-- The greatest width of a text. -/
def widthLimit : Nat := 9223372036854775807

/-- The greatest number of digits. -/
def precisionLimit : Nat := 2147483647

/-- The name of a value, behind the bracket that opens, and the text behind the one that closes. -/
def name? : (depth : Nat) → Text → Option (Text × Text)
  | _, [] => none
  | depth, c :: rest =>
    if c = ')' then
      match depth with
      | 0 => some ([], rest)
      | depth + 1 => (name? depth rest).map fun r => (c :: r.1, r.2)
    else (name? (if c = '(' then depth + 1 else depth) rest).map fun r => (c :: r.1, r.2)

/-- A width or a number of digits: digits, or a star for the next value. -/
def size (supply : Supply) (limit : Nat) (fault : GapFault) (s : Text) :
    Except RunError (Option Int × Supply × Text) := do
  match s with
  | '*' :: rest =>
    let (v, supply) ← supply.next
    if v.isUnknown then return (some 0, supply, rest)
    match v.whole? with
    | none => throw .mismatch
    | some n =>
      if (limit : Int) < n || n < -(limit : Int) - 1 then throw .overflow
      return (some n, supply, rest)
  | s =>
    let digits := s.takeWhile Char.isDigit
    if digits.isEmpty then return (none, supply, s)
    let n := Text.toNat digits
    if limit < n then throw (.value (.gap fault))
    return (some n, supply, s.drop digits.length)

/-- A gap behind its name, the values that are left, and the text from its letter on. -/
def gap (supply : Supply) (s : Text) : Except RunError (Gap × Supply × Text) := do
  let flags := s.takeWhile flagCharacters.contains
  let (width, supply, s) ← size supply widthLimit .width (s.drop flags.length)
  match s with
  | '.' :: rest =>
    let (precision, supply, s) ← size supply precisionLimit .precision rest
    return (⟨flags, width.getD 0, some (precision.getD 0).toNat⟩, supply, s)
  | s => return (⟨flags, width.getD 0, none⟩, supply, s)

/-- The text without a letter for the size of numbers, which says nothing. -/
def withoutSize : Text → Text
  | 'h' :: rest => rest
  | 'l' :: rest => rest
  | 'L' :: rest => rest
  | s => s

/-! ## Texts for gaps -/

/-- A text in a gap: its sign and what stands in front of the digits come before the zeros that fill
the gap up. -/
def Gap.placed (g : Gap) (sign lead rest : Text) (isNumber : Bool) : Text :=
  let s := sign ++ lead ++ rest
  let missing := g.width.natAbs - s.length
  if g.width < 0 || g.flags.contains '-' then s ++ List.replicate missing ' '
  else if isNumber && g.flags.contains '0' then sign ++ lead ++ List.replicate missing '0' ++ rest
  else List.replicate missing ' ' ++ s

/-- The sign of a number in a gap. -/
def Gap.sign (g : Gap) (negative : Bool) : Text :=
  if negative then ['-']
  else if g.flags.contains '+' then ['+']
  else if g.flags.contains ' ' then [' ']
  else []

/-- A text in a gap for texts. -/
def Gap.ofText (g : Gap) (s : Text) : Text :=
  g.placed [] [] (match g.precision with
    | some n => s.take n
    | none => s) false

/-- The whole number that a gap for whole numbers takes; one with a fraction loses it, unless the
number is written to another base than ten. -/
def wholeFor (base : Nat) (v : Value) : Except RunError Int :=
  match v.whole?, v with
  | some n, _ => .ok n
  | none, .float x => if base = 10 then Number.truncate x else .error .mismatch
  | none, _ => .error .mismatch

/-- A whole number in a gap. -/
def Gap.ofWhole (g : Gap) (letter : Char) (n : Int) : Except RunError Text := do
  let base := (Pattern.bases.get? letter).getD 10
  if precisionLimit - 3 < g.precision.getD 0 then throw .overflow
  let digits ← Pattern.digitsOf base n.natAbs
  let digits := List.replicate (g.precision.getD 0 - digits.length) '0' ++ digits
  let lead := if g.flags.contains '#' && base ≠ 10 then ['0', letter] else []
  let digits := if letter = 'X' then Pattern.capitals digits else digits
  return g.placed (g.sign (n < 0)) lead digits true

/-- A double-precision number in a gap. -/
def Gap.ofReal (g : Gap) (letter : Char) (x : Binary64) : Text :=
  let p : Pattern := { alignment := .right, letter := some letter, precision := g.precision,
                       isFull := g.flags.contains '#' }
  let (negative, s) := p.signedText x
  g.placed (g.sign negative) [] s true

/-- The character that a gap for characters takes. -/
def characterFor (v : Value) : Except RunError Text :=
  match v, v.whole? with
  | .text [c], _ => .ok [c]
  | _, some n =>
    if n < 0 || 0x10FFFF < n then .error .overflow
    else .ok [if n.toNat.isValidChar then Char.ofNat n.toNat else '\uFFFD']
  | _, none => .error .mismatch

/-- The byte that a gap for bytes takes. -/
def byteFor (v : Value) : Except RunError Text :=
  match v, v.whole? with
  | .bytes [c], _ => .ok [c]
  | _, some n => if n < 0 || 0xFF < n then .error .overflow else .ok [Char.ofNat n.toNat]
  | _, none => .error .mismatch

/-- The text of bytes that stand for themselves. -/
def bytesFor : Value → Except RunError (Option Text)
  | .bytes s => .ok (some s)
  | .other => .ok none
  | _ => .error .mismatch

/-- The text of a value in a gap with a letter, if that is known; `place` is the place of the
letter. -/
def Gap.textOf (g : Gap) (binary : Bool) (letter : Char) (place : Nat) (v : Value) :
    Except RunError (Option Text) := do
  if binary && (letter = 's' || letter = 'b') then return (← bytesFor v).map g.ofText
  else if letter = 's' then return (← v.plain).map g.ofText
  else if letter = 'a' || (binary && letter = 'r') then
    return (← v.shown).map fun s => g.ofText (Value.firstAlphabet s)
  else if letter = 'r' then return (← v.shown).map g.ofText
  else if letter = 'c' then
    if v.isUnknown then return none
    else return some (g.ofText (← if binary then byteFor v else characterFor v))
  else if "diuoxX".toList.contains letter then
    if v.isUnknown then return none
    let n ← wholeFor ((Pattern.bases.get? letter).getD 10) v
    return some (← g.ofWhole letter n)
  else if "eEfFgG".toList.contains letter then
    if v.isUnknown then return none
    match Number.ofValue? v with
    | none => throw .mismatch
    | some x => return some (g.ofReal letter (← x.toReal))
  else throw (.value (.gap (.letter letter place)))

/-! ## Whole texts -/

/-- The values after one was asked for by name, and the text behind the name. -/
def named (supply : Supply) (s : Text) : Except RunError (Supply × Text) := do
  match s with
  | '(' :: rest =>
    if !supply.isNamed then throw .mismatch
    match name? 0 rest with
    | none => throw (.value (.gap .unfinishedName))
    | some (name, rest) =>
      let v ← supply.whole.itemOf (if supply.binary then .bytes name else .text name)
      return ({ supply with left := [v] }, rest)
  | s => return (supply, s)

/-- The text from some place on with its gaps filled in, if that is known. -/
def fillFrom (length : Nat) : (fuel : Nat) → Supply → Text → Except RunError (Option Text)
  | 0, _, _ => .ok none
  | _ + 1, supply, [] =>
    if supply.left.isEmpty || supply.isNamed then .ok (some []) else .error .mismatch
  | fuel + 1, supply, '%' :: s => do
    let (supply, s) ← named supply s
    let (g, supply, s) ← gap supply s
    match withoutSize s with
    | [] => throw (.value (.gap .unfinished))
    | '%' :: rest => return (← fillFrom length fuel supply rest).map ('%' :: ·)
    | letter :: rest =>
      let (v, supply) ← supply.next
      let filled ← g.textOf supply.binary letter (length - rest.length - 1) v
      let further ← fillFrom length fuel supply rest
      return filled.bind fun s => further.map (s ++ ·)
  | fuel + 1, supply, c :: rest => do
    return (← fillFrom length fuel supply rest).map (c :: ·)

/-- A text, or bytes if it is `binary`, with its gaps filled in, if that is known. -/
def fill (binary : Bool) (s : Text) (v : Value) : Except RunError (Option Text) :=
  fillFrom s.length (s.length + 1) (supplyOf binary v) s

end Filling

end EventPipeline.Script
