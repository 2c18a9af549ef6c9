import AlertDelivery.Number.Binary64

/-!
# Decimal text of numbers

Numbers are written with the fewest digits that read back
(`Binary64.text`), with six significant digits (`generalText`) or with a
fixed number of places (`fixedText`). The search for the fewest digits is
exact arithmetic: on each decimal grid it tests the two neighbours of the
value against the interval of reals that round to it.
-/

namespace AlertDelivery.Decimal

/-- How many decimal digits a natural number has; none for zero. -/
def length (n : Nat) : Nat :=
  if h : n = 0 then 0 else length (n / 10) + 1
termination_by n
decreasing_by omega

/-- The exponent of the first digit of a positive rational. -/
def leading (q : Rat) : Int :=
  if 1 ≤ q then (length q.floor.toNat : Int) - 1
  else -(length ((1 / q).ceil.toNat - 1) : Int)

structure Digits where
  digits : List Char
  exponent : Int
deriving Repr

/-- The digits of `n · 10^scale`, without zeros at the end. -/
def Digits.ofScaled (n : Nat) (scale : Int) : Digits :=
  let all := (toString n).toList
  let kept := (all.reverse.dropWhile (· == '0')).reverse
  ⟨if kept.isEmpty then ['0'] else kept, scale + (all.length : Int) - 1⟩

/-- The least mantissa of 53 bits, below which the steps of the format are
half as wide. -/
def leastMantissa : Int := 4503599627370496

/-- The reals that round to a positive binary64 value, as lower end, upper
end, and whether the ends belong to it. -/
def interval (q : Rat) : Rat × Rat × Bool :=
  let e := Binary64.lastPlace q
  let unit := Binary64.twoPow e
  let m := (q / unit).floor
  let below := if m = leastMantissa ∧ -1074 < e then mkRat 1 4 else mkRat 1 2
  (q - below * unit, q + mkRat 1 2 * unit, m % 2 == 0)

def inside (range : Rat × Rat × Bool) (x : Rat) : Bool :=
  let (low, high, closed) := range
  if closed then low ≤ x && x ≤ high else low < x && x < high

/-- The nearer neighbour of `q` on the grid of `10^scale` that lies in the
interval, if one does; a tie goes to the even neighbour. -/
def onGrid (q : Rat) (range : Rat × Rat × Bool) (scale : Int) : Option Nat :=
  let step := Binary64.tenPow scale
  let low := (q / step).floor
  let nearest := Binary64.roundHalfEven (q / step)
  let other := if nearest = low then low + 1 else low
  if inside range (nearest * step) then some nearest.toNat
  else if inside range (other * step) then some other.toNat
  else none

/-- Tries one digit more each time; seventeen always suffice. -/
def search (q : Rat) (range : Rat × Rat × Bool) (first : Int) : Nat → Nat → Digits
  | 0, count => Digits.ofScaled (Binary64.roundHalfEven
      (q / Binary64.tenPow (first - count))).toNat (first - count)
  | fuel + 1, count =>
    match onGrid q range (first - count) with
    | some n => Digits.ofScaled n (first - count)
    | none => search q range first fuel (count + 1)

/-- The fewest digits that read back as the positive binary64 value. -/
def shortest (q : Rat) : Digits := search q (interval q) (leading q) 17 0

def significant (places : Nat) (q : Rat) : Digits :=
  let scale := leading q - (places - 1 : Nat)
  Digits.ofScaled (Binary64.roundHalfEven (q / Binary64.tenPow scale)).toNat scale

/-- Where positional notation ends and what follows a whole number. -/
structure Layout where
  positionalBelow : Int
  wholeMark : String

def plainLayout : Layout := ⟨16, ".0"⟩

def generalLayout : Layout := ⟨6, ""⟩

def exponentText (e : Int) : String :=
  let size := toString e.natAbs
  (if e < 0 then "e-" else "e+") ++ (if size.length < 2 then "0" ++ size else size)

def zeros (n : Nat) : List Char := List.replicate n '0'

def Layout.render (l : Layout) (d : Digits) : String :=
  let p := d.exponent
  if -4 ≤ p ∧ p < l.positionalBelow then
    if p < 0 then String.ofList ('0' :: '.' :: zeros (-p - 1).toNat ++ d.digits)
    else
      let whole := p.toNat + 1
      if d.digits.length ≤ whole then
        String.ofList (d.digits ++ zeros (whole - d.digits.length)) ++ l.wholeMark
      else String.ofList (d.digits.take whole ++ '.' :: d.digits.drop whole)
  else
    let tail := d.digits.drop 1
    String.ofList (d.digits.take 1 ++ (if tail.isEmpty then [] else '.' :: tail))
      ++ exponentText p

def fixedSize (places : Nat) (q : Rat) : String :=
  let n := (Binary64.roundHalfEven (q * Binary64.tenPow places)).toNat
  let text := (toString n).toList
  let text := zeros (places + 1 - text.length) ++ text
  let whole := text.length - places
  String.ofList (text.take whole ++ (if places = 0 then [] else '.' :: text.drop whole))

end AlertDelivery.Decimal

namespace AlertDelivery.Binary64

open Decimal

def textWith (size : Rat → String) (zero : String) : Binary64 → String
  | .finite q => if q = 0 then zero else if q < 0 then "-" ++ size (-q) else size q
  | .negZero => "-" ++ zero
  | .posInf => "inf"
  | .negInf => "-inf"
  | .nan => "nan"

def text : Binary64 → String :=
  textWith (fun q => plainLayout.render (shortest q)) "0.0"

def generalText : Binary64 → String :=
  textWith (fun q => generalLayout.render (significant 6 q)) "0"

def fixedText (places : Nat) : Binary64 → String :=
  textWith (fixedSize places) (fixedSize places 0)

end AlertDelivery.Binary64
