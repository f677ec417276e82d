import EventPipeline.Script.Fault
import EventPipeline.Script.Operator
import EventPipeline.Script.Value

/-!
# Numbers of scripts

What operators make of numbers. Whole numbers are exact and as large as need be; with a
double-precision number they are rounded to one first, and with a complex number to the real part of
one. The operators on binary digits count a negative number as one with endlessly many ones in
front.
-/

namespace EventPipeline.Script

/-- A number. -/
inductive Number
  /-- A whole number. -/
  | whole (n : Int)
  /-- A double-precision number. -/
  | real (x : Binary64)
  /-- A complex number. -/
  | complex (z : Complex)
  deriving DecidableEq, Repr

namespace Number

/-- The number that a value is. -/
def ofValue? : Value → Option Number
  | .float x => some (real x)
  | .complex z => some (complex z)
  | v => v.whole?.map whole

/-- The value that a number is. -/
def toValue : Number → Value
  | whole n => .int n
  | real x => .float x
  | complex z => .complex z

/-! ## Conversions -/

/-- The double-precision number nearest to a whole number. -/
def realOfWhole (n : Int) : Except RunError Binary64 :=
  let x := Binary64.ofInt n
  if x.isFinite then .ok x else .error .overflow

/-- The double-precision number that a number is or is nearest to. -/
def toReal : Number → Except RunError Binary64
  | whole n => realOfWhole n
  | real x => .ok x
  | complex _ => .error .mismatch

/-- The complex number that a number is or is nearest to. -/
def toComplex : Number → Except RunError Complex
  | complex z => .ok z
  | x => x.toReal.map Complex.ofReal

/-- A double-precision number without its fraction. -/
def truncate (x : Binary64) : Except RunError Int :=
  match x.truncate?, x with
  | some n, _ => .ok n
  | none, .nan => .error (.value .notANumber)
  | none, _ => .error .overflow

/-! ## Binary digits -/

/-- The digits that both numbers have. -/
def bothDigits : Int → Int → Int
  | .ofNat m, .ofNat n => .ofNat (m &&& n)
  | .ofNat m, .negSucc n => .ofNat (m ^^^ (m &&& n))
  | .negSucc m, .ofNat n => .ofNat (n ^^^ (n &&& m))
  | .negSucc m, .negSucc n => .negSucc (m ||| n)

/-- The digits that exactly one of the numbers has. -/
def oneDigits : Int → Int → Int
  | .ofNat m, .ofNat n => .ofNat (m ^^^ n)
  | .ofNat m, .negSucc n => .negSucc (m ^^^ n)
  | .negSucc m, .ofNat n => .negSucc (m ^^^ n)
  | .negSucc m, .negSucc n => .ofNat (m ^^^ n)

/-- The digits that one of the numbers has. -/
def eitherDigits (m n : Int) : Int :=
  -(bothDigits (-m - 1) (-n - 1)) - 1

/-- The largest size, in binary digits, of a number that is kept. -/
def sizeLimit : Nat := 50000000

/-- The greatest number of digits that a number can be shifted by. -/
def shiftLimit : Int := 1152921504606846976

/-- A number shifted to the left. -/
def shiftedLeft (m n : Int) : Except RunError Int :=
  if n < 0 then .error (.value .negativeShift)
  else if m = 0 then .ok 0
  else if shiftLimit ≤ n then .error .overflow
  else if sizeLimit < n then .error .oversized
  else .ok (m * Int.pow 2 n.toNat)

/-- A number shifted to the right. -/
def shiftedRight (m n : Int) : Except RunError Int :=
  if n < 0 then .error (.value .negativeShift)
  else if (m.natAbs.log2 : Int) < n then .ok (if m < 0 then -1 else 0)
  else .ok (m.fdiv (Int.pow 2 n.toNat))

/-! ## Powers -/

/-- The power of two double-precision numbers; it may be a complex number. -/
def powerOfReals (x y : Binary64) : Except RunError Number :=
  match x.power y with
  | .number z => .ok (real z)
  | .zeroBase => .error .zeroDivisor
  | .overflow => .error .overflow
  | .unreal =>
    match (Complex.ofReal x).power? (Complex.ofReal y) with
    | some z => .ok (complex z)
    | none => .error .zeroDivisor

/-- The power of two whole numbers, which is a whole number only if the exponent is not negative. -/
def powerOfWholes (m n : Int) : Except RunError Number :=
  if n < 0 then do
    let x ← realOfWhole m
    let y ← realOfWhole n
    powerOfReals x y
  else if m = 0 || m = 1 then .ok (whole (if n = 0 then 1 else m))
  else if m = -1 then .ok (whole (if n % 2 = 0 then 1 else -1))
  else if sizeLimit < m.natAbs.log2 * n.toNat then .error .oversized
  else .ok (whole (Int.pow m n.toNat))

/-! ## Operators -/

/-- What two whole numbers come to. -/
def onWholes (op : Operator) (m n : Int) : Except RunError Number :=
  match op with
  | .plus => .ok (whole (m + n))
  | .minus => .ok (whole (m - n))
  | .times => .ok (whole (m * n))
  | .divided =>
    if n = 0 then .error .zeroDivisor
    else
      match Binary64.ofQuotient? m n with
      | some x => .ok (real x)
      | none => .error .overflow
  | .dividedWhole => if n = 0 then .error .zeroDivisor else .ok (whole (m.fdiv n))
  | .remainder => if n = 0 then .error .zeroDivisor else .ok (whole (m.fmod n))
  | .power => powerOfWholes m n
  | .matrixTimes => .error .mismatch
  | .shiftLeft => (shiftedLeft m n).map whole
  | .shiftRight => (shiftedRight m n).map whole
  | .both => .ok (whole (bothDigits m n))
  | .either => .ok (whole (eitherDigits m n))
  | .oneOnly => .ok (whole (oneDigits m n))

/-- What two double-precision numbers come to. -/
def onReals (op : Operator) (x y : Binary64) : Except RunError Number :=
  let divided (f : Binary64 → Binary64 → Binary64) : Except RunError Number :=
    if y.isZero then .error .zeroDivisor else .ok (real (f x y))
  match op with
  | .plus => .ok (real (x.add y))
  | .minus => .ok (real (x.add y.neg))
  | .times => .ok (real (x.mul y))
  | .divided => divided Binary64.div
  | .dividedWhole => divided Binary64.floorQuotient
  | .remainder => divided Binary64.floorRemainder
  | .power => powerOfReals x y
  | _ => .error .mismatch

/-- What two complex numbers come to. -/
def onComplexes (op : Operator) (z w : Complex) : Except RunError Number :=
  match op with
  | .plus => .ok (complex (z.add w))
  | .minus => .ok (complex (z.add w.neg))
  | .times => .ok (complex (z.mul w))
  | .divided =>
    match z.div? w with
    | some q => .ok (complex q)
    | none => .error .zeroDivisor
  | .power =>
    match z.power? w with
    | some p => if p.hasInfinitePart then .error .overflow else .ok (complex p)
    | none => .error .zeroDivisor
  | _ => .error .mismatch

/-- What two numbers come to. -/
def apply (op : Operator) (x y : Number) : Except RunError Number :=
  match x, y with
  | whole m, whole n => onWholes op m n
  | complex z, y => do onComplexes op z (← y.toComplex)
  | x, complex w => do onComplexes op (← x.toComplex) w
  | x, y => do
    let a ← x.toReal
    let b ← y.toReal
    onReals op a b

/-- What a number comes to. -/
def applySign (sign : Sign) : Number → Except RunError Number
  | whole n =>
    match sign with
    | .minus => .ok (whole (-n))
    | .complement => .ok (whole (-n - 1))
    | _ => .ok (whole n)
  | real x =>
    match sign with
    | .minus => .ok (real x.neg)
    | .complement => .error .mismatch
    | _ => .ok (real x)
  | complex z =>
    match sign with
    | .minus => .ok (complex z.neg)
    | .complement => .error .mismatch
    | _ => .ok (complex z)

end Number

end EventPipeline.Script
