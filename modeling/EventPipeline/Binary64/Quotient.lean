import EventPipeline.Binary64

/-!
# Quotients of double-precision numbers

The quotient of two numbers, rounded once, and the pair of a quotient that is whole and a remainder.
Of two kinds of remainder one takes the sign of the first number (`truncatedRemainder`) and is
always a number of the format; the other one takes the sign of the second (`floorRemainder`), and
goes with the quotient rounded down (`floorQuotient`).

* `ofQuotient` is the number nearest to the quotient of two integers.
* `floor` rounds down to a whole number.
-/

namespace EventPipeline.Binary64

/-! ## Parts of numbers -/

/-- Whether a number has a minus sign; zero may have one. -/
def isNegative : Binary64 → Bool
  | nan => false
  | infinite negative => negative
  | finite negative _ => negative

/-- Whether a number is a zero. -/
def isZero (x : Binary64) : Bool :=
  x.units? == some 0

/-- Whether a number comes before zero. -/
def isBelowZero (x : Binary64) : Bool :=
  x.place?.any fun p => p.lt (.ofInt 0)

/-- A zero with the sign of a number. -/
def zeroLike (x : Binary64) : Binary64 :=
  ofRank x.isNegative 0

/-- The magnitude of a number. -/
def abs : Binary64 → Binary64
  | nan => nan
  | infinite _ => infinite false
  | finite _ rank => finite false rank

/-- One. -/
def one : Binary64 :=
  ofInt 1

/-! ## Quotients -/

/-- The quotient of two numbers, of which a zero as the second one gives an infinite number. -/
def div : Binary64 → Binary64 → Binary64
  | nan, _ | _, nan => nan
  | infinite _, infinite _ => nan
  | infinite a, finite b _ => infinite (a != b)
  | finite a _, infinite b => ofRank (a != b) 0
  | finite a r, finite b s =>
    if s.val = 0 then if r.val = 0 then nan else infinite (a != b)
    else ofRatio (a != b) (unitsOfRank r) (unitsOfRank s)

/-- The number nearest to the quotient of two integers, if it is finite. -/
def ofQuotient? (m n : Int) : Option Binary64 :=
  let x := ofRatio ((m < 0) != (n < 0)) m.natAbs n.natAbs
  if x.isFinite then some x else none

/-- The greatest whole number that is not beyond a number. -/
def floor (x : Binary64) : Binary64 :=
  match x.units? with
  | none => x
  | some u => if u = 0 then x else ofInt (u.fdiv unitsOfOne)

/-! ## Remainders -/

/-- What is left of a number when another one is taken from it as often as that brings it nearer to
zero. -/
def truncatedRemainder : Binary64 → Binary64 → Binary64
  | nan, _ | _, nan => nan
  | infinite _, _ => nan
  | finite a r, infinite _ => finite a r
  | finite a r, finite _ s =>
    if s.val = 0 then nan else ofRatio a (unitsOfRank r % unitsOfRank s) unitsOfOne

/-- What is left of a number when another one is taken from it as often as the quotient rounded down
says. -/
def floorRemainder (x y : Binary64) : Binary64 :=
  let r := x.truncatedRemainder y
  if r.isZero then y.zeroLike
  else if y.isBelowZero != r.isBelowZero then r.add y
  else r

/-- The quotient rounded down: it is computed from what the remainder leaves of the first number,
and then set right by one where the rounding went wrong. -/
def floorQuotient (x y : Binary64) : Binary64 :=
  let r := x.truncatedRemainder y
  let rough := (x.add r.neg).div y
  let rough := if !r.isZero && y.isBelowZero != r.isBelowZero then rough.add one.neg else rough
  if rough.isZero then (x.div y).zeroLike
  else
    let whole := rough.floor
    let gap := rough.add whole.neg
    if (gap.place?.any fun p => (Place.exact (unitsOfOne / 2)).lt p) then whole.add one else whole

end EventPipeline.Binary64
