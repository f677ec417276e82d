/-!
# Operators of scripts

The operators between two values, those in front of one, and the comparisons. What they come to is
for other modules to say: `EventPipeline.Script.Arithmetic` for numbers,
`EventPipeline.Script.Order` for comparisons, and `EventPipeline.Script.Operation` for values of any
kind.
-/

namespace EventPipeline.Script

/-- An operator on two values. -/
inductive Operator
  /-- The sum, or one collection behind the other. -/
  | plus
  /-- The difference. -/
  | minus
  /-- The product, or a collection several times. -/
  | times
  /-- The quotient. -/
  | divided
  /-- The quotient rounded down. -/
  | dividedWhole
  /-- The remainder; of a text, the text with its gaps filled in. -/
  | remainder
  /-- The power. -/
  | power
  /-- The product of matrices. -/
  | matrixTimes
  /-- The number shifted to the left. -/
  | shiftLeft
  /-- The number shifted to the right. -/
  | shiftRight
  /-- What both have. -/
  | both
  /-- What one of the two has. -/
  | either
  /-- What exactly one of the two has. -/
  | oneOnly
  deriving DecidableEq, Repr

/-- An operator on one value. -/
inductive Sign
  /-- The number itself. -/
  | plus
  /-- The negative. -/
  | minus
  /-- The complement. -/
  | complement
  /-- The opposite of a truth value. -/
  | opposite
  deriving DecidableEq, Repr

/-- An order in which two values may stand. -/
inductive Order
  /-- The first value comes before the second. -/
  | less
  /-- The first value does not come after the second. -/
  | lessOrEqual
  /-- The first value comes after the second. -/
  | greater
  /-- The first value does not come before the second. -/
  | greaterOrEqual
  deriving DecidableEq, Repr

/-- A comparison of two values. -/
inductive Comparison
  /-- The values are equal. -/
  | equal
  /-- The values are not equal. -/
  | notEqual
  /-- The values stand in an order. -/
  | ordered (order : Order)
  /-- The first value is in the second. -/
  | among
  /-- The first value is not in the second. -/
  | notAmong
  /-- The values are one and the same. -/
  | identical
  /-- The values are not one and the same. -/
  | notIdentical
  deriving DecidableEq, Repr

end EventPipeline.Script
