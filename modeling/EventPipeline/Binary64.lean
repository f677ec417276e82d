/-!
# Double-precision numbers

A double-precision number is infinite, not a number, or finite. The finite magnitudes are counted:
the magnitude of *rank* `r` is the `r`-th non-negative number of the format, so that rank `0` is
zero, rank `1` the smallest positive number, and the order of ranks is the order of magnitudes.
Every finite magnitude is a whole multiple of `2 ^ (-1074)`, and `unitsOfRank` says which one;
arithmetic is done on these multiples exactly and rounded once, by `rankNearest`.

* `rankNearest num den` is the rank nearest to `num / den`, an even significand winning a tie.
* `ofRatio`, `ofInt`, `ofDecimal` round a rational number, an integer and a decimal.
* `neg`, `add` and `mul` are the negative, the sum and the product of the format.
* `place?` puts numbers and integers on one line, on which they are compared exactly; what is not a
  number has no place there.
-/

namespace EventPipeline

/-- The number of magnitudes between two powers of two that follow each other: it is `2 ^ 52`. -/
abbrev Binary64.binade : Nat := 4503599627370496

/-- The number of finite magnitudes. -/
abbrev Binary64.rankCount : Nat := 2047 * Binary64.binade

/-- A double-precision number. -/
inductive Binary64
  /-- Not a number. -/
  | nan
  /-- An infinite number. -/
  | infinite (negative : Bool)
  /-- A finite number, by sign and rank of the magnitude. -/
  | finite (negative : Bool) (rank : Fin Binary64.rankCount)
  deriving DecidableEq, Repr

namespace Binary64

/-! ## Magnitudes -/

/-- One, as a multiple of `2 ^ (-1074)`. -/
def unitsOfOne : Nat :=
  Nat.pow 2 1074

/-- The significand of the magnitude of a rank: below the first full binade it is the rank. -/
def significandOfRank (rank : Nat) : Nat :=
  if rank / binade = 0 then rank else binade + rank % binade

/-- The number of doublings that separate a rank's unit in the last place from the smallest
positive number. -/
def scaleOfRank (rank : Nat) : Nat :=
  rank / binade - 1

/-- The magnitude of a rank, as a multiple of `2 ^ (-1074)`. -/
def unitsOfRank (rank : Nat) : Nat :=
  significandOfRank rank * Nat.pow 2 (scaleOfRank rank)

/-- The quotient rounded to the nearest natural number, a tie to the even one. -/
def divNearest (num den : Nat) : Nat :=
  let q := num / den
  let r := num % den
  if 2 * r < den then q else if den < 2 * r then q + 1 else q + q % 2

/-- The rank whose magnitude is nearest to `num / den`. Beyond the largest finite magnitude the
count of ranks goes on as if the format had no end. -/
def rankNearest (num den : Nat) : Nat :=
  let units := num * unitsOfOne
  let scale := (units / den).log2 - 52
  scale * binade + divNearest units (den * Nat.pow 2 scale)

/-! ## Rounding -/

/-- The number of a sign and a rank, infinite when there is no such finite magnitude. -/
def ofRank (negative : Bool) (rank : Nat) : Binary64 :=
  if h : rank < rankCount then finite negative ⟨rank, h⟩ else infinite negative

/-- The number nearest to `num / den`, with a sign. -/
def ofRatio (negative : Bool) (num den : Nat) : Binary64 :=
  ofRank negative (rankNearest num den)

/-- Positive zero. -/
def zero : Binary64 :=
  ofRank false 0

/-- The number nearest to an integer. -/
def ofInt (n : Int) : Binary64 :=
  ofRatio (n < 0) n.natAbs 1

/-- The number nearest to `digits * 10 ^ exponent`. A decimal that is beyond all finite magnitudes
or below half of the smallest is settled by the position of its first digit alone. -/
def ofDecimal (negative : Bool) (digits : Nat) (exponent : Int) : Binary64 :=
  let leading := (Nat.toDigits 10 digits).length + exponent
  if digits = 0 ∨ leading < -330 then ofRank negative 0
  else if 310 < leading then infinite negative
  else if 0 ≤ exponent then ofRatio negative (digits * Nat.pow 10 exponent.toNat) 1
  else ofRatio negative digits (Nat.pow 10 (-exponent).toNat)

/-! ## Exact values -/

/-- The value of a finite number as a multiple of `2 ^ (-1074)`. -/
def units? : Binary64 → Option Int
  | finite negative rank =>
    some (if negative then -(unitsOfRank rank : Int) else unitsOfRank rank)
  | _ => none

/-- Whether the number is finite. -/
def isFinite : Binary64 → Bool
  | finite _ _ => true
  | _ => false

/-- The number nearest to a whole multiple of `2 ^ (-1074)`; zero is positive. -/
def ofUnits (units : Int) : Binary64 :=
  ofRatio (units < 0) units.natAbs unitsOfOne

/-- The integer that a finite number is, if it is one. -/
def toInt? (x : Binary64) : Option Int :=
  match x.units? with
  | some u => if u % unitsOfOne = 0 then some (u / unitsOfOne) else none
  | none => none

/-- A finite number without its fraction. -/
def truncate? (x : Binary64) : Option Int :=
  x.units?.map fun u => u.tdiv unitsOfOne

/-! ## Arithmetic -/

/-- The negative of a number. -/
def neg : Binary64 → Binary64
  | nan => nan
  | infinite negative => infinite !negative
  | finite negative rank => finite (!negative) rank

/-- The sum of two numbers. Of two zeros the sum is negative only if both are. -/
def add : Binary64 → Binary64 → Binary64
  | nan, _ | _, nan => nan
  | infinite a, infinite b => if a = b then infinite a else nan
  | infinite a, finite _ _ => infinite a
  | finite _ _, infinite b => infinite b
  | finite a r, finite b s =>
    let sum : Int := (if a then -(unitsOfRank r : Int) else unitsOfRank r) +
      (if b then -(unitsOfRank s : Int) else unitsOfRank s)
    if sum = 0 then ofRank (a && b) 0 else ofUnits sum

/-- The product of two numbers. -/
def mul : Binary64 → Binary64 → Binary64
  | nan, _ | _, nan => nan
  | infinite a, infinite b => infinite (a != b)
  | infinite a, finite b r | finite b r, infinite a => if r.val = 0 then nan else infinite (a != b)
  | finite a r, finite b s =>
    ofRatio (a != b) (unitsOfRank r * unitsOfRank s) (unitsOfOne * unitsOfOne)

/-! ## Order -/

/-- A place on the extended line, at which numbers and integers can be compared exactly. -/
inductive Place
  /-- Below every number. -/
  | bottom
  /-- A multiple of `2 ^ (-1074)`. -/
  | exact (units : Int)
  /-- Above every number. -/
  | top

/-- Strict order of places. -/
def Place.lt : Place → Place → Bool
  | bottom, bottom => false
  | bottom, _ => true
  | exact u, exact v => decide (u < v)
  | exact _, top => true
  | _, _ => false

/-- The place of a number, if it has one. -/
def place? : Binary64 → Option Place
  | nan => none
  | infinite true => some .bottom
  | infinite false => some .top
  | finite negative rank =>
    some (.exact (if negative then -(unitsOfRank rank : Int) else unitsOfRank rank))

/-- The place of an integer. -/
def Place.ofInt (n : Int) : Place :=
  .exact (n * unitsOfOne)

end Binary64

end EventPipeline
