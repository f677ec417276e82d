import EventPipeline.Script.Construction
import EventPipeline.Script.Feature
import EventPipeline.Script.PatternText

/-!
# Functions that every script has

What the functions give that need no value of their own: of numbers, of collections, of characters
and of what values are. `apply` goes through them by their names. Functions that reach out of the
script are not followed: nothing is known of what they give.
-/

namespace EventPipeline.Script

namespace StandingFunction

open CollectionFunction (gives wholeOf)
open Construction (failure)

/-- The one value that a function is given. -/
def one (g : Given) : Except RunError Value :=
  CollectionFunction.one g

/-! ## Numbers -/

/-- The magnitude of a number. -/
def magnitude (v : Value) : Except RunError Value :=
  match Number.ofValue? v with
  | some (.whole n) => .ok (.int n.natAbs)
  | some (.real x) => .ok (.float x.abs)
  | some (.complex z) =>
    let length := Binary64.ofFloat (Complex.hypotenuse z.re.toFloat z.im.toFloat)
    if !length.isFinite && !z.hasInfinitePart then .error .overflow else .ok (.float length)
  | none => .error .mismatch

/-- The quotient of two numbers rounded down, and what is left over. -/
def quotientAndRest (g : Given) : Except RunError Value := do
  match ← g.placed 2 2 with
  | [v, w] =>
    match Number.ofValue? v, Number.ofValue? w with
    | some x, some y =>
      let quotient ← Number.apply .dividedWhole x y
      return .tuple [quotient.toValue, (← Number.apply .remainder x y).toValue]
    | _, _ => throw .mismatch
  | _ => throw .mismatch

/-- The greatest common divisor of two numbers, and by how much of the first one it differs from a
multiple of the second one; `fuel` bounds the number of steps. -/
def inverseFrom : (fuel : Nat) → (a b : Nat) → (x y : Int) → Nat × Int
  | 0, a, _, x, _ => (a, x)
  | fuel + 1, a, b, x, y =>
    if b = 0 then (a, x) else inverseFrom fuel b (a % b) y (x - (a / b : Nat) * y)

/-- The number by which another one has to be taken to be one modulo a modulus, if there is one. -/
def inverse? (n : Int) (modulus : Nat) : Option Int :=
  let (divisor, x) := inverseFrom (2 * modulus.log2 + 4) (n.fmod modulus).toNat modulus 1 0
  if divisor = 1 then some x else none

/-- The power of a number modulo a modulus, taken along the binary digits of the exponent, of which
there are at most `count`. -/
def powerModulo (modulus : Nat) : (count : Nat) → (square exponent found : Nat) → Nat
  | 0, _, _, found => found % modulus
  | count + 1, square, exponent, found =>
    if exponent = 0 then found % modulus
    else
      powerModulo modulus count (square * square % modulus) (exponent / 2)
        (if exponent % 2 = 1 then found * square % modulus else found)

/-- The power of two whole numbers modulo a third one, whose sign it has. -/
def powerOf (n exponent modulus : Int) : Except RunError Int := do
  if modulus = 0 then failure .noModulus
  let size := modulus.natAbs
  let n ← if 0 ≤ exponent then pure n
    else match inverse? n size with
      | some m => pure m
      | none => failure .noInverse
  let exponent := exponent.natAbs
  let power : Int :=
    powerModulo size (exponent.log2 + 1) (n.fmod size).toNat exponent 1
  return power.fmod modulus

/-- The power of two numbers, modulo a third one if it is given. -/
def power (g : Given) : Except RunError Value := do
  match ← g.arranged 0 ["base", "exp", "mod"] with
  | [some v, some w, modulus] =>
    match modulus.getD .null, v, w with
    | .null, _, _ => Operator.power.apply v w
    | _, .complex _, w =>
      if (Number.ofValue? w).isSome then failure .complexModulus else throw .mismatch
    | _, v, .complex _ =>
      if v.whole?.isSome then failure .complexModulus else throw .mismatch
    | modulus, v, w => return .int (← powerOf (← wholeOf v) (← wholeOf w) (← wholeOf modulus))
  | _ => throw .mismatch

/-- A whole number rounded to one with so many zeros at the end, of two equally near ones to the one
that is an even multiple. -/
def roundedWhole (n : Int) (zeros : Nat) : Int :=
  let unit := Nat.pow 10 zeros
  let size : Int := Binary64.divNearest n.natAbs unit * unit
  if n < 0 then -size else size

/-- The number of zeros from which on all whole numbers that are kept are rounded to zero. -/
def zerosLimit : Int := 100000

/-- A number rounded to a whole number, or to so many places behind the point. -/
def rounded (v : Value) (places : Option Int) : Except RunError Value :=
  match Number.ofValue? v, places with
  | some (.whole n), none => .ok (.int n)
  | some (.whole n), some places =>
    if 0 ≤ places then .ok (.int n)
    else if places < -zerosLimit then .ok (.int 0)
    else .ok (.int (roundedWhole n (-places).toNat))
  | some (.real x), none =>
    match x.nearestInt?, x with
    | some n, _ => .ok (.int n)
    | none, .nan => .error (.value .notANumber)
    | none, _ => .error .overflow
  | some (.real x), some places =>
    let found := x.roundedTo places
    if x.isFinite && !found.isFinite then .error .overflow else .ok (.float found)
  | _, _ => .error .mismatch

/-- A number rounded as a function is given it. -/
def round (g : Given) : Except RunError Value := do
  match ← g.arranged 0 ["number", "ndigits"] with
  | [some v, places] =>
    match places.getD .null with
    | .null => rounded v none
    | places => rounded v (some (← wholeOf places))
  | _ => throw .mismatch

/-- A whole number to a base, behind the letters that stand for the base. -/
def numeralTo (base : Nat) (letter : Char) (v : Value) : Except RunError Value := do
  let n ← wholeOf v
  let digits := '0' :: letter :: Nat.toDigits base n.natAbs
  return .text (if n < 0 then '-' :: digits else digits)

/-! ## Collections -/

/-- The number of items of a value. -/
def size (v : Value) : Except RunError Value :=
  match v with
  | .stream _ _ _ => .error .mismatch
  | .range first last step =>
    let count := Value.stepCount first last step
    if Value.countLimit < count then .error .overflow else .ok (.int count)
  | v =>
    match v.items? with
    | some items => .ok (.int items.length)
    | none => .error .mismatch

/-- The items that a value gives until it fails, and the failure. -/
def itemsUntil (v : Value) : Except RunError (List Value × Option RunError) :=
  match v with
  | .stream _ items ending => .ok (items, ending)
  | v => v.spreadOf.map fun items => (items, none)

/-- What comes behind items: a value, unless they end with a failure. -/
def behind {α : Type} (ending : Option RunError) (a : α) : Except RunError α :=
  match ending with
  | some e => .error e
  | none => .ok a

/-- Whether one of the items of a value counts as `wanted`; where it hangs on a value of which
nothing is known, there is no answer. -/
def hasItem (wanted : Bool) (v : Value) : Except RunError Value := do
  let (items, ending) ← itemsUntil v
  match items.find? fun v => v.isUnknown || v.truth = wanted with
  | none => behind ending (.bool !wanted)
  | some v => return if v.isUnknown then .other else .bool wanted

/-- The sum of the items of a value, from some value on. -/
def sum (g : Given) : Except RunError Value := do
  match ← g.arranged 1 ["", "start"] with
  | [some v, start] =>
    match start.getD (.int 0) with
    | .text _ => throw .mismatch
    | .bytes _ => throw .mismatch
    | start =>
      let (items, ending) ← itemsUntil v
      behind ending (← items.foldlM Operator.plus.apply start)
  | _ => throw .mismatch

/-- The first of some items in front of which no other one comes, if that is known; an order says
what comes in front. -/
def foremost (o : Order) : (found : Value) → List Value → Except RunError (Option Value)
  | found, [] => .ok (some found)
  | found, v :: rest => do
    match ← o.holds v found with
    | none => return none
    | some isBefore => foremost o (if isBefore then v else found) rest

/-- The least or the greatest of some values. -/
def extreme (name : Text) (o : Order) (g : Given) : Except RunError Value := do
  match ← g.options ["key", "default"] with
  | [key, standing] =>
    let items ← match g.values with
      | [] => throw .mismatch
      | [v] => v.spreadOf
      | items => if standing.isSome then throw .mismatch else pure items
    match items, standing with
    | [], some v => return v
    | [], none => failure (.noItems name)
    | v :: rest, _ =>
      if !(key.getD .null).same .null then return .other
      else return (← foremost o v rest).getD .other
  | _ => throw .mismatch

/-- The items of a value in order. -/
def sorted (g : Given) : Except RunError Value := do
  match g.values with
  | [v] =>
    match ← CollectionFunction.sorted (← v.spreadOf) g with
    | some items => return .list items
    | none => return .other
  | _ => throw .mismatch

/-- The kind of the stream of the items of a value. -/
def streamKind : Value → Text
  | .text s =>
    if !s.isEmpty && s.all Text.isAscii then "str_ascii_iterator".toList
    else "str_iterator".toList
  | .mapping _ => "dict_keyiterator".toList
  | .view kind _ => kind.dropLast ++ "iterator".toList
  | v => v.kindWord ++ "_iterator".toList

/-- The stream of the items of a value. -/
def streamOf (g : Given) : Except RunError Value := do
  match ← g.placed 1 2 with
  | [.stream kind items ending] => return .stream kind items ending
  | [v] => return .stream (streamKind v) (← v.spreadOf) none
  | _ => return .other

/-- The next item of a stream, and what is left of it. -/
def next (g : Given) : Except RunError Outcome := do
  match ← g.placed 1 2 with
  | .stream kind (v :: rest) ending :: _ =>
    return { result := v, changed := some (.stream kind rest ending) }
  | .stream _ [] (some e) :: _ => throw e
  | [.stream _ [] none, standing] => return gives standing
  | [.stream _ [] none] => throw .ended
  | _ => throw .mismatch

/-! ## Characters -/

/-- The greatest number that is looked at as that of a character. -/
def characterLimit : Int := 2147483647

/-- The character of a number. -/
def characterOf (v : Value) : Except RunError Value := do
  let n ← wholeOf v
  if n < -characterLimit - 1 || characterLimit < n then throw .overflow
  if n < 0 || 0x10FFFF < n then failure .noCharacter
  return if n.toNat.isValidChar then .text [Char.ofNat n.toNat] else .other

/-- The number of a character. -/
def numberOf : Value → Except RunError Value
  | .text [c] => .ok (.int c.toNat)
  | .bytes [c] => .ok (.int c.toNat)
  | _ => .error .mismatch

/-- How a value is shown. -/
def shownBy (conversion : Conversion) (v : Value) : Except RunError Value := do
  return (← v.converted (some conversion)).getD .other

/-- A value by a pattern. -/
def formatted (g : Given) : Except RunError Value := do
  match ← g.placed 1 2 with
  | [v] => return ((← v.textBy []).map .text).getD .other
  | [v, .text pattern] => return ((← v.textBy pattern).map .text).getD .other
  | _ => throw .mismatch

/-! ## Kinds and features -/

/-- A feature of a value, or what stands for it if it is not there. -/
def feature (g : Given) : Except RunError Value := do
  match ← g.placed 2 3 with
  | v :: .text name :: standing =>
    match featureOf v name, standing with
    | .error (.lack _), [standing] => return standing
    | found, _ => found
  | _ => throw .mismatch

/-- Whether a value has a feature. -/
def hasFeature (g : Given) : Except RunError Value := do
  match ← g.placed 2 2 with
  | [v, .text name] => return .bool (featureOf v name).isOk
  | _ => throw .mismatch

/-- Whether the values of a type are values of another one as well. -/
def isWithin (kind other : Text) : Bool :=
  kind = other || other = "object".toList || (kind = "bool".toList && other = "int".toList)

mutual

/-- Whether the values of a kind are values of a type or of one of several types. -/
def isOf (kind : Text) : Value → Except RunError Bool
  | .type name => .ok (isWithin kind name)
  | .tuple choices => isOfOne kind choices
  | .union choices => isOfOne kind choices
  | .null => .ok (kind = "NoneType".toList)
  | _ => .error .mismatch

/-- Whether the values of a kind are values of one of several types. -/
def isOfOne (kind : Text) : List Value → Except RunError Bool
  | [] => .ok false
  | v :: rest => do
    if ← isOf kind v then return true else isOfOne kind rest

end

/-- Whether a value is of a type. -/
def isInstance (g : Given) : Except RunError Value := do
  match ← g.placed 2 2 with
  | [_, .null] => throw .mismatch
  | [v, choices] => return .bool (← isOf v.kindWord choices)
  | _ => throw .mismatch

/-- Whether the values of a type are values of another one; of failures that is not known. -/
def isSubtype (g : Given) : Except RunError Value := do
  match ← g.placed 2 2 with
  | [_, .null] => throw .mismatch
  | [.type kind, choices] =>
    let answer ← isOf kind choices
    return if answer || (plainFeatures? kind).isSome then .bool answer else .other
  | [_, _] => throw .mismatch
  | _ => throw .mismatch

/-- The limit below which a whole number is its own hash. -/
def hashLimit : Nat := 2305843009213693951

/-- The number by which a value is looked up. -/
def hash (v : Value) : Except RunError Value :=
  if !v.isKey then .error .mismatch
  else
    match v.whole? with
    | some n => .ok (if n = -1 then .int (-2) else if n.natAbs < hashLimit then .int n else .other)
    | none => .ok .other

/-- The options of the function that writes values for the reader. -/
def printOptions : List String := ["sep", "end", "file", "flush"]

/-! ## Functions by name -/

/-- What a function gives of one value. -/
def unary (name : Text) : Option (Value → Except RunError Value) :=
  match String.ofList name with
  | "abs" => some magnitude
  | "len" => some size
  | "bin" => some (numeralTo 2 'b')
  | "oct" => some (numeralTo 8 'o')
  | "hex" => some (numeralTo 16 'x')
  | "chr" => some characterOf
  | "ord" => some numberOf
  | "repr" => some (shownBy .shown)
  | "ascii" => some (shownBy .firstAlphabet)
  | "hash" => some hash
  | "callable" => some fun v => .ok (.bool v.isCallable)
  | "all" => some (hasItem false)
  | "any" => some (hasItem true)
  | _ => none

/-- What a function gives, and what becomes of the value that it changes. -/
def apply (name : Text) (g : Given) : Except RunError Outcome :=
  match unary name with
  | some f => do return gives (← f (← one g))
  | none =>
    match String.ofList name with
    | "divmod" => gives <$> quotientAndRest g
    | "pow" => gives <$> power g
    | "round" => gives <$> round g
    | "sum" => gives <$> sum g
    | "min" => gives <$> extreme name .less g
    | "max" => gives <$> extreme name .greater g
    | "sorted" => gives <$> sorted g
    | "iter" => gives <$> streamOf g
    | "next" => next g
    | "format" => gives <$> formatted g
    | "getattr" => gives <$> feature g
    | "hasattr" => gives <$> hasFeature g
    | "isinstance" => gives <$> isInstance g
    | "issubclass" => gives <$> isSubtype g
    | "print" => (g.options printOptions).map fun _ => gives .null
    | _ => .ok (gives .other)

end StandingFunction

end EventPipeline.Script
