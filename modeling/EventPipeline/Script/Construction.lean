import EventPipeline.Script.CollectionFunction
import EventPipeline.Script.Numeral
import EventPipeline.Script.TextFunction

/-!
# Values made by types

A type makes a value of what it is given: numbers of other numbers and of texts, texts of any value,
collections of the items of others, ranges of their ends, and streams that go through others.
Of the types that are not known by their names, nothing is known of what they make.
-/

namespace EventPipeline.Script

namespace Construction

/-- What is wrong with what a function is given, as a failure of a script. -/
def failure {α : Type} (fault : CallFault) : Except RunError α :=
  .error (.value (.call fault))

/-- A result of reading as one of a script. -/
def lift {α : Type} (x : Except CallFault α) : Except RunError α :=
  x.mapError fun f => .value (.call f)

/-! ## Numbers -/

/-- The text that a numeral is read from, with the way that it is shown: a text, or the bytes of
one, of which those beyond the first alphabet are part of no numeral. -/
def numeralOf? : Value → Option (Text × Text)
  | .text s => some (s.shown, s)
  | .bytes s =>
    some (Text.shownBytes (Value.rawBytes s), if s.all Text.isAscii then s else [])
  | _ => none

/-- The whole number that is made of a value. -/
def wholeOf (v : Value) : Except RunError Value :=
  match v, numeralOf? v with
  | .float x, _ => (Number.truncate x).map .int
  | _, some (shown, s) => (lift (Numeral.wholeOf 10 shown s)).map .int
  | v, none => (CollectionFunction.wholeOf v).map .int

/-- The greatest base of numbers. -/
def baseLimit : Int := 36

/-- The whole number that is made of a text to a base. -/
def wholeTo (v base : Value) : Except RunError Value := do
  let base ← CollectionFunction.wholeOf base
  if (base ≠ 0 && base < 2) || baseLimit < base then failure .noBase
  match numeralOf? v with
  | some (shown, s) => return .int (← lift (Numeral.wholeOf base.toNat shown s))
  | none => throw .mismatch

/-- A whole number. -/
def whole (g : Given) : Except RunError Value := do
  match ← g.arranged 1 ["x", "base"] with
  | [none, none] => return .int 0
  | [some v, none] => wholeOf v
  | [some v, some base] => wholeTo v base
  | _ => throw .mismatch

/-- A double-precision number. -/
def real (g : Given) : Except RunError Value := do
  match ← g.placed 0 1 with
  | [] => return .float Binary64.zero
  | [v] =>
    match Number.ofValue? v, numeralOf? v with
    | some x, _ => return .float (← x.toReal)
    | none, some (shown, s) => return .float (← lift (Numeral.realOf shown s))
    | none, none => throw .mismatch
  | _ => throw .mismatch

/-- The complex number of two numbers, of which the second one is turned a quarter. -/
def complexOf (x y : Number) : Except RunError Complex := do
  match x, y with
  | .complex z, .complex w => return ⟨z.re.add w.im.neg, z.im.add w.re⟩
  | .complex z, y => return ⟨z.re, z.im.add (← y.toReal)⟩
  | x, .complex w => return ⟨(← x.toReal).add w.im.neg, w.re⟩
  | x, y => return ⟨← x.toReal, ← y.toReal⟩

/-- A complex number. -/
def complex (g : Given) : Except RunError Value := do
  match ← g.arranged 0 ["real", "imag"] with
  | [some (.text s), none] => return .complex (← lift (Numeral.complexOf s))
  | [some (.text _), some _] => throw .mismatch
  | [x, none] =>
    match Number.ofValue? (x.getD (.int 0)) with
    | some x => return .complex (← x.toComplex)
    | none => throw .mismatch
  | [x, some y] =>
    match Number.ofValue? (x.getD (.int 0)), Number.ofValue? y with
    | some x, some y => return .complex (← complexOf x y)
    | _, _ => throw .mismatch
  | _ => throw .mismatch

/-! ## Texts and bytes -/

/-- A text: that of a value, or that of bytes in an encoding. -/
def text (g : Given) : Except RunError Value := do
  match ← g.arranged 0 ["object", "encoding", "errors"] with
  | [none, none, none] => return .text []
  | [some v, none, none] => return ((← v.plain).map .text).getD .other
  | [some (.bytes s), some (.text name), none] => TextFunction.decoded name s
  | [some (.bytes _), _, _] => return .other
  | [none, _, _] => return .other
  | _ => throw .mismatch

/-- The character of the number of a byte. -/
def byteOf (v : Value) : Except RunError Char := do
  let n ← CollectionFunction.wholeOf v
  if n < 0 || Comparison.byteLimit < n then failure .noByte
  return Char.ofNat n.toNat

/-- Bytes: so many zeros, those with some numbers, or those of a text in an encoding. -/
def bytes (g : Given) : Except RunError Value := do
  match ← g.arranged 0 ["source", "encoding", "errors"] with
  | [none, none, none] => return .bytes []
  | [some (.bytes s), none, none] => return .bytes s
  | [some (.text s), some (.text name), none] => TextFunction.encoded name s
  | [some (.text _), some (.text _), some _] => return .other
  | [some v, none, none] =>
    match v.whole? with
    | some n =>
      if n < 0 then failure .negativeCount
      return .bytes (← Value.repeated ['\x00'] n .oversized)
    | none =>
      if v.text?.isSome then throw .mismatch
      return .bytes (← (← v.spreadOf).mapM byteOf)
  | _ => throw .mismatch

/-! ## Collections -/

/-- The items of the one value that a type is given, or none. -/
def items (g : Given) : Except RunError (List Value) := do
  match ← g.placed 0 1 with
  | [v] => v.spreadOf
  | _ => return []

/-- The items of the one value that a type is given, all of which can be in a set. -/
def members (g : Given) : Except RunError (List Value) := do
  match ← g.placed 0 1 with
  | [v] => v.membersOf
  | _ => return []

/-- A range: from zero on if only its end is given. -/
def range (g : Given) : Except RunError Value := do
  match ← (← g.placed 1 3).mapM CollectionFunction.wholeOf with
  | [last] => return .range 0 last 1
  | [first, last] => return .range first last 1
  | [first, last, step] =>
    if step = 0 then failure .noStep
    return .range first last step
  | _ => throw .mismatch

/-- A slice. -/
def slice (g : Given) : Except RunError Value := do
  match ← g.placed 1 3 with
  | [last] => return .slice .null last .null
  | [first, last] => return .slice first last .null
  | [first, last, step] => return .slice first last step
  | _ => throw .mismatch

/-! ## Streams -/

/-- The items of a value, each behind its number. -/
def numbered (g : Given) : Except RunError Value := do
  match ← g.arranged 0 ["iterable", "start"] with
  | [some v, start] =>
    let first ← CollectionFunction.wholeOf (start.getD (.int 0))
    let items ← v.spreadOf
    return .stream "enumerate".toList
      (items.zipIdx.map fun p => .tuple [.int (first + p.2), p.1]) none
  | _ => throw .mismatch

/-- What goes wrong behind the shortest of some collections, if all have to be as long. -/
def unequal? (lengths : List Nat) : Option CallFault :=
  let least := (lengths.min?).getD 0
  match lengths.findIdx? (· = least) with
  | none => none
  | some 0 =>
    (lengths.findIdx? (· ≠ least)).map fun i => .unequalLengths (i + 1) false
  | some i => some (.unequalLengths (i + 1) true)

/-- The items of collections side by side, as long as all of them go on. -/
def sideBySide (g : Given) : Except RunError Value := do
  match ← g.options ["strict"] with
  | [strict] =>
    let columns ← g.values.mapM Value.spreadOf
    let lengths := columns.map List.length
    let arrays := columns.map List.toArray
    let rows := (List.range ((lengths.min?).getD 0)).map fun i =>
      Value.tuple (arrays.filterMap fun items => items[i]?)
    let ending := if strict.any Value.truth then unequal? lengths else none
    return .stream "zip".toList rows (ending.map fun f => .value (.call f))
  | _ => throw .mismatch

/-- The kind of the stream of the items of a value from the end on. -/
def reversedKind : Value → Text
  | .list _ => "list_reverseiterator".toList
  | .mapping _ => "dict_reversekeyiterator".toList
  | .view kind _ => "dict_reverse".toList ++ (kind.drop 5).dropLast ++ "iterator".toList
  | .range _ _ _ => "range_iterator".toList
  | _ => "reversed".toList

/-- The items of a value from the end on. -/
def reversed (g : Given) : Except RunError Value := do
  match ← g.placed 1 1 with
  | [.set _] => throw .mismatch
  | [.stream _ _ _] => throw .mismatch
  | [v] => return .stream (reversedKind v) (← v.spreadOf).reverse none
  | _ => throw .mismatch

/-! ## Types by name -/

/-- The type of a value, or a type of its own. -/
def typeOf (g : Given) : Except RunError Value := do
  match g.values with
  | [v] => if g.named.isEmpty then return .type v.kindWord else throw .mismatch
  | [_, _, _] => return .other
  | _ => throw .mismatch

/-- What a type makes of what it is given. -/
def make (name : Text) (g : Given) : Except RunError Value :=
  match String.ofList name with
  | "bool" => do return .bool ((← g.placed 0 1).any Value.truth)
  | "int" => whole g
  | "float" => real g
  | "complex" => complex g
  | "str" => text g
  | "bytes" => bytes g
  | "list" => do return .list (← items g)
  | "tuple" => do return .tuple (← items g)
  | "set" => do return .set (Value.distinct (← members g))
  | "frozenset" => do
    let _ ← members g
    return .other
  | "dict" => CollectionFunction.updated [] g
  | "range" => range g
  | "slice" => slice g
  | "enumerate" => numbered g
  | "zip" => sideBySide g
  | "reversed" => reversed g
  | "type" => typeOf g
  | "object" => do
    let _ ← g.placed 0 0
    return .other
  | _ => .ok .other

end Construction

end EventPipeline.Script
