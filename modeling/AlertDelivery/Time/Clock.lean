import AlertDelivery.Time.Instant

/-!
# Clock readings

The clock counts seconds from its start as a binary64 number, here by its
exact value. A reading comes with the instant it stands for, to the
nearest microsecond.
-/

namespace AlertDelivery.Clock

def plus (seconds more : Rat) : Rat := ((Binary64.nearest (seconds + more)).toRat?).getD seconds

def later (a b : Rat) : Rat := if a ≤ b then b else a

/-- An amount of a unit of time as whole microseconds: the product for the
fraction is rounded to the format first, and a half then goes to the even
neighbour. -/
def microsOf (unit : Int) (amount : Rat) : Int :=
  let whole := Binary64.truncate amount
  let fraction := ((Binary64.nearest ((amount - whole) * unit)).toRat?).getD 0
  whole * unit + Binary64.roundHalfEven fraction

def wholeMicros (seconds : Rat) : Int := microsOf 1000000 seconds

/-- The instant of a reading, if the calendar reaches that far. -/
def instant? (seconds : Rat) : Option Instant :=
  Instant.clockStart.shift? (wholeMicros seconds)

structure Reading where
  seconds : Rat
  now : Instant
deriving DecidableEq

def start : Reading := ⟨0, Instant.clockStart⟩

def reading (seconds : Rat) : Reading := ⟨seconds, (instant? seconds).getD Instant.clockStart⟩

end AlertDelivery.Clock
