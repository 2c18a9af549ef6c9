import AlertDelivery.Value.Numeric
import AlertDelivery.Text.Lowercase
import AlertDelivery.Time.Instant

/-!
# Back-off

How long a failed notification waits before its next attempt. The delay
grows with the number of retries used up, by five minutes each or by
doubling, and never exceeds an hour.
-/

namespace AlertDelivery

inductive Backoff where
  | linear
  | exponential
deriving DecidableEq, Repr, Inhabited

namespace Backoff

def name : Backoff → String
  | .linear => "linear"
  | .exponential => "exponential"

/-- Reads a strategy name, whatever its case and the blanks around it. -/
def read (v : Value) : Except Fault Backoff :=
  let word := Text.lower (Text.trim v.plain)
  if word = "linear" then .ok .linear
  else if word = "exponential" then .ok .exponential
  else .error (.badValue (Text.quoted word ++ " is not a valid BackoffStrategy"))

def maxMinutes : Nat := 60
def linearStep : Nat := 5

/-- The doubling stops here: the delay is past its maximum already. -/
def exponentCeiling : Nat := 6

def minutes (strategy : Backoff) (retries : Int) : Nat :=
  let n := retries.toNat
  match strategy with
  | .exponential => min (Nat.pow 2 (min n exponentCeiling)) maxMinutes
  | .linear => min (n * linearStep) maxMinutes

/-- When the next attempt is due; none when that is past the last year. -/
def nextRetry? (strategy : Backoff) (retries : Int) (now : Instant) : Option Instant :=
  now.shift? (strategy.minutes retries * Instant.microsPerMinute)

end Backoff

end AlertDelivery
