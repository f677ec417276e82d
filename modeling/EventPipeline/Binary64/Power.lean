import EventPipeline.Binary64.Quotient

/-!
# Powers of double-precision numbers

The power of two numbers, and the other functions of analysis that powers of complex numbers need. A
power whose value does not hang on rounding is settled here; the rest are the values of the machine
that runs the program.
-/

namespace EventPipeline.Binary64

/-! ## The machine's numbers -/

/-- The bits of the machine's number. -/
def bits : Binary64 → UInt64
  | nan => 0x7FF8000000000000
  | infinite negative => UInt64.ofNat (rankCount + if negative then Nat.pow 2 63 else 0)
  | finite negative rank => UInt64.ofNat (rank.val + if negative then Nat.pow 2 63 else 0)

/-- The number of bits of the machine. -/
def ofBits (bits : UInt64) : Binary64 :=
  let negative := Nat.pow 2 63 ≤ bits.toNat
  let rank := bits.toNat % Nat.pow 2 63
  if h : rank < rankCount then finite negative ⟨rank, h⟩
  else if rank = rankCount then infinite negative
  else nan

/-- The machine's number. -/
def toFloat (x : Binary64) : Float :=
  Float.ofBits x.bits

/-- The number of the machine. -/
def ofFloat (x : Float) : Binary64 :=
  ofBits x.toBits

/-! ## Whole numbers -/

/-- Whether a number is whole; what is infinite is. -/
def isWhole (x : Binary64) : Bool :=
  match x.units? with
  | some u => u % unitsOfOne = 0
  | none => x != nan

/-- Whether a number is whole and odd. -/
def isOdd (x : Binary64) : Bool :=
  match x.units? with
  | some u => u % unitsOfOne = 0 && u / unitsOfOne % 2 = 1
  | none => false

/-! ## Powers -/

/-- What the power of two numbers is. -/
inductive Power
  /-- A number. -/
  | number (x : Binary64)
  /-- Zero has no such power. -/
  | zeroBase
  /-- It is no real number. -/
  | unreal
  /-- It is beyond all finite numbers. -/
  | overflow
  deriving DecidableEq, Repr

/-- The negative of a number if asked for. -/
def negIf (negative : Bool) (x : Binary64) : Binary64 :=
  if negative then x.neg else x

/-- The power of an infinite number. -/
def infinitePower (negative : Bool) (y : Binary64) : Binary64 :=
  negIf (negative && y.isOdd) (if y.isBelowZero then ofRank false 0 else infinite false)

/-- The power of which the exponent is infinite. -/
def powerToInfinity (x : Binary64) (negative : Bool) : Binary64 :=
  if x.abs = one then one
  else
    let grows := (x.abs.place?.any fun p => (Place.ofInt 1).lt p)
    if grows != negative then infinite false else ofRank false 0

/-- The power of two numbers. -/
def power (x y : Binary64) : Power :=
  if y.isZero then .number one
  else
    match x, y with
    | nan, _ => .number nan
    | x, nan => .number (if x = one then one else nan)
    | x, infinite negative => .number (powerToInfinity x negative)
    | infinite negative, y => .number (infinitePower negative y)
    | x, y =>
      if x.isZero then
        if y.isBelowZero then .zeroBase
        else .number (if y.isOdd then x else ofRank false 0)
      else if x.isNegative && !y.isWhole then .unreal
      else
        let negative := x.isNegative && y.isOdd
        if x.abs = one then .number (negIf negative one)
        else
          let magnitude := ofFloat (Float.pow x.abs.toFloat y.toFloat)
          if magnitude.isFinite then .number (negIf negative magnitude) else .overflow

end EventPipeline.Binary64
