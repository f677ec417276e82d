import EventPipeline.Binary64.Power
import EventPipeline.Binary64.Shortest

/-!
# Complex numbers

A complex number has two double-precision parts, and the operations round part by part. The quotient
is scaled by the larger part of the divisor, so that no square overflows. A power with a small whole
exponent is a product; any other one goes by magnitude and angle.
-/

namespace EventPipeline

/-- A complex number. -/
structure Complex where
  /-- The real part. -/
  re : Binary64
  /-- The imaginary part. -/
  im : Binary64
  deriving DecidableEq, Repr

namespace Complex

/-- A real number. -/
def ofReal (x : Binary64) : Complex :=
  ⟨x, Binary64.ofInt 0⟩

/-- Whether both parts are zeros. -/
def isZero (z : Complex) : Bool :=
  z.re.isZero && z.im.isZero

/-- Whether one of the parts is infinite. -/
def hasInfinitePart (z : Complex) : Bool :=
  let isInfinite (x : Binary64) : Bool := !x.isFinite && x != .nan
  isInfinite z.re || isInfinite z.im

/-- The negative. -/
def neg (z : Complex) : Complex :=
  ⟨z.re.neg, z.im.neg⟩

/-- The sum. -/
def add (z w : Complex) : Complex :=
  ⟨z.re.add w.re, z.im.add w.im⟩

/-- The product. -/
def mul (z w : Complex) : Complex :=
  ⟨(z.re.mul w.re).add (z.im.mul w.im).neg, (z.re.mul w.im).add (z.im.mul w.re)⟩

/-- Whether the magnitude of a number is at most that of another one. -/
def isAtMost (x y : Binary64) : Bool :=
  match x.abs.place?, y.abs.place? with
  | some a, some b => !b.lt a
  | _, _ => false

/-- The quotient, if the divisor is not zero. -/
def div? (z w : Complex) : Option Complex :=
  if isAtMost w.im w.re then
    if w.re.isZero then none
    else
      let ratio := w.im.div w.re
      let scale := w.re.add (w.im.mul ratio)
      some ⟨(z.re.add (z.im.mul ratio)).div scale, (z.im.add (z.re.mul ratio).neg).div scale⟩
  else if isAtMost w.re w.im then
    let ratio := w.re.div w.im
    let scale := (w.re.mul ratio).add w.im
    some ⟨((z.re.mul ratio).add z.im).div scale, ((z.im.mul ratio).add z.re.neg).div scale⟩
  else some ⟨.nan, .nan⟩

/-! ## Powers -/

/-- One. -/
def one : Complex :=
  ofReal Binary64.one

/-- The power to a whole exponent, by repeated squares; `count` bounds the number of squares. -/
def wholePower : (count : Nat) → (square : Complex) → (n : Nat) → (found : Complex) → Complex
  | 0, _, _, found => found
  | count + 1, square, n, found =>
    if n = 0 then found
    else
      wholePower count (square.mul square) (n / 2)
        (if n % 2 = 1 then found.mul square else found)

/-- The greatest whole exponent for which powers are products. -/
def exponentLimit : Int := 100

/-- The length of the hypotenuse of a triangle. -/
def hypotenuse (x y : Float) : Float :=
  let x := x.abs
  let y := y.abs
  let long := if x < y then y else x
  let short := if x < y then x else y
  if short == 0 then long
  else if 1e150 < long || short < 1e-150 then
    let ratio := short / long
    long * (1 + ratio * ratio).sqrt
  else (x * x + y * y).sqrt

/-- The power by magnitude and angle, if there is one. -/
def polarPower? (z w : Complex) : Option Complex :=
  if w.isZero then some one
  else if z.isZero then
    if !w.im.isZero || w.re.isBelowZero then none else some (ofReal (Binary64.ofInt 0))
  else
    let x := z.re.toFloat
    let y := z.im.toFloat
    let magnitude := hypotenuse x y
    let angle := Float.atan2 y x
    let real := w.re.toFloat
    let imaginary := w.im.toFloat
    let length := Float.pow magnitude real
    let phase := angle * real
    let turned := !w.im.isZero
    let length := if turned then length / Float.exp (angle * imaginary) else length
    let phase := if turned then phase + imaginary * Float.log magnitude else phase
    if phase.isInf then none
    else some ⟨.ofFloat (length * phase.cos), .ofFloat (length * phase.sin)⟩

/-- The power, if there is one. -/
def power? (z w : Complex) : Option Complex :=
  let small := match w.re.toInt? with
    | some n => if w.im.isZero && n.natAbs ≤ exponentLimit then some n else none
    | none => none
  match small with
  | some n =>
    let magnitude := wholePower 7 z n.natAbs one
    if 0 < n then some magnitude else one.div? magnitude
  | none => polarPower? z w

/-! ## Text -/

/-- The text of a part, without a point that nothing follows. -/
def partText (x : Binary64) : Text :=
  let s := x.toText Binary64.plainWords
  if s.endsWith ['.', '0'] then s.take (s.length - 2) else s

/-- The text of a number: without a real part that is a zero without a minus sign. -/
def text (z : Complex) : Text :=
  if z.re = Binary64.ofInt 0 then partText z.im ++ ['j']
  else
    let im := partText z.im
    let im := if im.startsWith ['-'] then im else '+' :: im
    '(' :: (partText z.re ++ im ++ ['j', ')'])

/-! ## Laws -/

/-- The negative of the negative is the number. -/
@[simp] theorem neg_neg (z : Complex) : z.neg.neg = z := by
  obtain ⟨x, y⟩ := z
  cases x <;> cases y <;> simp [neg, Binary64.neg]

end Complex

end EventPipeline
