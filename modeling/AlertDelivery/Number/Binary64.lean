/-!
# Binary64 numbers

A number of the 64-bit binary format is held by its exact value, so that
comparison and rounding are arithmetic on rationals. `Binary64.nearest`
rounds a rational to the format, ties to even; no operation here is taken
from the machine's own floating point.
-/

namespace AlertDelivery

/-- A binary64 number by value. `finite q` is meant only for a `q` that the
format holds exactly; zero with a minus sign has its own case. -/
inductive Binary64 where
  | finite (q : Rat)
  | negZero
  | posInf
  | negInf
  | nan
deriving DecidableEq, Repr, Inhabited

namespace Binary64

def power (base : Nat) (e : Int) : Rat :=
  if 0 ≤ e then (Nat.pow base e.toNat : Rat) else mkRat 1 (Nat.pow base (-e).toNat)

def twoPow (e : Int) : Rat := power 2 e

def tenPow (e : Int) : Rat := power 10 e

def roundHalfEven (q : Rat) : Int :=
  let below := q.floor
  let rest := q - below
  if rest < mkRat 1 2 then below
  else if mkRat 1 2 < rest then below + 1
  else if below % 2 = 0 then below else below + 1

/-- The exponent of the last place of a positive rational in the format:
53 significant bits, and never below 2^-1074. -/
def lastPlace (q : Rat) : Int :=
  let guess : Int := (Nat.log2 q.num.natAbs : Int) - (Nat.log2 q.den : Int) - 52
  let exact := if q < twoPow (guess + 52) then guess - 1 else guess
  max exact (-1074)

def nearest (q : Rat) : Binary64 :=
  if q = 0 then .finite 0
  else
    let size := if q < 0 then -q else q
    let e := lastPlace size
    let rounded := (roundHalfEven (size / twoPow e) : Rat) * twoPow e
    if twoPow 1024 ≤ rounded then (if q < 0 then .negInf else .posInf)
    else if rounded = 0 then (if q < 0 then .negZero else .finite 0)
    else .finite (if q < 0 then -rounded else rounded)

def toRat? : Binary64 → Option Rat
  | .finite q => some q
  | .negZero => some 0
  | _ => none

/-- Rounds an integer to the format; none when it lies beyond the largest
number. -/
def ofInt? (i : Int) : Option Binary64 :=
  match nearest i with
  | .posInf | .negInf => none
  | x => some x

def lt : Binary64 → Binary64 → Bool
  | .nan, _ | _, .nan => false
  | .negInf, y => y != .negInf
  | _, .negInf => false
  | .posInf, _ => false
  | _, .posInf => true
  | x, y => decide ((toRat? x).getD 0 < (toRat? y).getD 0)

/-- Equality of numbers: both zeros are equal and a NaN equals nothing. -/
def eqv : Binary64 → Binary64 → Bool
  | .nan, _ | _, .nan => false
  | .negZero, y => y == .negZero || y == .finite 0
  | x, .negZero => x == .finite 0
  | x, y => x == y

def le (x y : Binary64) : Bool := lt x y || eqv x y

def neg : Binary64 → Binary64
  | .finite q => if q = 0 then .negZero else .finite (-q)
  | .negZero => .finite 0
  | .posInf => .negInf
  | .negInf => .posInf
  | .nan => .nan

def isZero : Binary64 → Bool
  | .finite q => q = 0
  | .negZero => true
  | _ => false

def integral? : Binary64 → Option Int
  | .finite q => if q.den = 1 then some q.num else none
  | .negZero => some 0
  | _ => none

def truncate (q : Rat) : Int := if q < 0 then q.ceil else q.floor

/-- Rounds to decimal places on the exact value, ties to even, and then to
the format. -/
def roundPlaces (places : Nat) (q : Rat) : Binary64 :=
  nearest ((roundHalfEven (q * tenPow places) : Rat) / tenPow places)

end Binary64

end AlertDelivery
