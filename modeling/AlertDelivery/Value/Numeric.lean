import AlertDelivery.Fault
import AlertDelivery.Number.Numeral

/-!
# Numbers among values

A value may stand for a number directly, as a truth value, or as a numeral.
`Number` is a whole number or a binary64 number; the two kinds stay apart
and compare by their exact value.
-/

namespace AlertDelivery

inductive Number where
  | whole (i : Int)
  | real (x : Binary64)
deriving DecidableEq, Repr, Inhabited

namespace Number

def toValue : Number → Value
  | .whole i => .int i
  | .real x => .real x

def ltInt (n : Number) (bound : Int) : Bool :=
  match n with
  | .whole i => i < bound
  | .real x => x.lt (.finite bound)

def gtInt (n : Number) (bound : Int) : Bool :=
  match n with
  | .whole i => bound < i
  | .real x => Binary64.lt (.finite bound) x

def leInt (n : Number) (bound : Int) : Bool :=
  match n with
  | .whole i => i ≤ bound
  | .real x => x.le (.finite bound)

/-- The number in the binary64 format; an integer too large for it counts
as an infinity. -/
def toBinary64 : Number → Binary64
  | .whole i => Binary64.nearest i
  | .real x => x

end Number

namespace Value

def number? : Value → Option Number
  | .bool b => some (.whole (if b then 1 else 0))
  | .int i => some (.whole i)
  | .real x => some (.real x)
  | _ => none

def toReal? : Value → Option (Except Fault Binary64)
  | .bool b => some (.ok (.finite (if b then 1 else 0)))
  | .int i => match Binary64.ofInt? i with
    | some x => some (.ok x)
    | none => some (.error Fault.tooLargeForReal)
  | .real x => some (.ok x)
  | .text s => (Numeral.readReal? s).map .ok
  | _ => none

/-- The refusal of a text that is no integer numeral; it shows at most 200
characters of the quoted text. -/
def intRefusal (s : String) : Numeral.Refusal → Fault
  | .malformed => .badValue ("invalid literal for int() with base 10: "
      ++ String.ofList ((Text.quoted s).toList.take 200))
  | .tooLong digits => .badValue ("Exceeds the limit (4300 digits) for integer string conversion: "
      ++ "value has " ++ toString digits
      ++ " digits; use sys.set_int_max_str_digits() to increase the limit")

/-- Reads a value as an integer, dropping the fraction of a number. -/
def toInt : Value → Except Fault Int
  | .bool b => .ok (if b then 1 else 0)
  | .int i => .ok i
  | .real (.finite q) => .ok (Binary64.truncate q)
  | .real .negZero => .ok 0
  | .real .nan => .error (.badValue "cannot convert float NaN to integer")
  | .real _ => .error (.mishap .overflow "cannot convert float infinity to integer")
  | .text s => match Numeral.readInt s with
    | .ok i => .ok i
    | .error refusal => .error (intRefusal s refusal)
  | v => .error (.mishap .type
      ("int() argument must be a string, a bytes-like object or a real number, not '"
        ++ v.kindName ++ "'"))

end Value

end AlertDelivery
