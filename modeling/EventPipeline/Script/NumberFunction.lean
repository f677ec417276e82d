import EventPipeline.Script.Arithmetic
import EventPipeline.Script.Given

/-!
# Functions of numbers

What the functions give that belong to a number. None of them takes anything; of those that are not
known by their names, nothing is known.
-/

namespace EventPipeline.Script

namespace NumberFunction

/-- The number of binary digits of a magnitude. -/
def digitCount (n : Nat) : Nat :=
  if n = 0 then 0 else n.log2 + 1

/-- How many of the binary digits of a magnitude are ones; there are at most `count` digits. -/
def oneCount : (count : Nat) → (n : Nat) → Nat
  | 0, _ => 0
  | count + 1, n => n % 2 + oneCount count (n / 2)

/-- A pair of whole numbers. -/
def pair (m n : Int) : Value :=
  .tuple [.int m, .int n]

/-- The two whole numbers without a common divisor whose quotient a number is, if it is finite. -/
def ratio? (x : Binary64) : Option (Int × Int) :=
  x.units?.map fun units =>
    let divisor := Nat.gcd units.natAbs Binary64.unitsOfOne
    (units / divisor, Binary64.unitsOfOne / divisor)

/-- What a function gives that belongs to a whole number. -/
def ofWhole (n : Int) (name : String) : Value :=
  match name with
  | "bit_length" => .int (digitCount n.natAbs)
  | "bit_count" => .int (oneCount (digitCount n.natAbs) n.natAbs)
  | "conjugate" => .int n
  | "as_integer_ratio" => pair n 1
  | _ => .other

/-- What a function gives that belongs to a double-precision number. -/
def ofReal (x : Binary64) (name : String) : Except RunError Value :=
  match name with
  | "is_integer" => .ok (.bool x.toInt?.isSome)
  | "conjugate" => .ok (.float x)
  | "as_integer_ratio" =>
    match ratio? x, x with
    | some (m, n), _ => .ok (pair m n)
    | none, .nan => .error (.value (.call .noRatio))
    | none, _ => .error .overflow
  | _ => .ok .other

/-- What a function gives that belongs to a number. -/
def apply (x : Number) (name : Text) (g : Given) : Except RunError Value := do
  let v ← match x with
    | .whole n => pure (ofWhole n (String.ofList name))
    | .real x => ofReal x (String.ofList name)
    | .complex z =>
      pure (if name = "conjugate".toList then .complex ⟨z.re, z.im.neg⟩ else .other)
  if v.isUnknown then return .other
  let _ ← g.placed 0 0
  return v

end NumberFunction

end EventPipeline.Script
