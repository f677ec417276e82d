import EventPipeline.Binary64
import EventPipeline.Text

/-!
# Clocks

A clock shows seconds as a floating-point number. The id of a new event holds milliseconds: what the
clock shows is taken a thousand times, rounded as products are, and cut to a whole number.
-/

namespace EventPipeline

/-- Why what a clock shows is no time. -/
inductive ClockError
  /-- It is not a number. -/
  | undefined
  /-- It is infinite, or too large to be taken a thousand times. -/
  | infinite
  deriving DecidableEq, Repr

/-- The wording of a failure. -/
def ClockError.message : ClockError → Text
  | undefined => "cannot convert float NaN to integer".toList
  | infinite => "cannot convert float infinity to integer".toList

namespace Clock

/-- How many milliseconds make a second. -/
def thousand : Nat :=
  1000

/-- The milliseconds of a number of seconds. -/
def milliseconds (seconds : Binary64) : Except ClockError Int :=
  match (seconds.mul (Binary64.ofInt thousand)).truncate? with
  | some ms => .ok ms
  | none => .error (if seconds = .nan then .undefined else .infinite)

end Clock

end EventPipeline
