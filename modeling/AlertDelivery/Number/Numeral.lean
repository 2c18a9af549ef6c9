import AlertDelivery.Number.Binary64
import AlertDelivery.Text

/-!
# Reading numerals

A numeral may have blanks around it, a sign, decimal digits of any script
and single underscores between digits. The information separators U+001C to
U+001F are no blanks here. An integer numeral has at most 4300 digits; a
decimal numeral may also be an infinity or a NaN.
-/

namespace AlertDelivery.Numeral

open Text

def isPadding (c : Char) : Bool := isPlainBlank c || (128 ≤ c.toNat && isBlank c)

def plainDigit (c : Char) : Char :=
  match digitValue? c with
  | some d => Char.ofNat (48 + d)
  | none => c

/-- The numeral without the blanks around it, its digits as ASCII digits. -/
def plainChars (s : String) : List Char := (trimWhere isPadding s.toList).map plainDigit

def takeSign : List Char → Bool × List Char
  | '-' :: rest => (true, rest)
  | '+' :: rest => (false, rest)
  | cs => (false, cs)

/-- Digits with single underscores between them, from the front: the digits
and what follows. No digits when the front is not a digit. -/
def takeDigits : List Char → List Char × List Char
  | [] => ([], [])
  | c :: '_' :: d :: rest =>
    if isPlainDigit c && isPlainDigit d then
      let (ds, left) := takeDigits (d :: rest)
      (c :: ds, left)
    else if isPlainDigit c then ([c], '_' :: d :: rest)
    else ([], c :: '_' :: d :: rest)
  | c :: rest =>
    if isPlainDigit c then
      let (ds, left) := takeDigits rest
      (c :: ds, left)
    else ([], c :: rest)

def digitsValue (ds : List Char) : Nat :=
  ds.foldl (fun n d => 10 * n + (d.toNat - 48)) 0

def maxDigits : Nat := 4300

inductive Refusal where
  | malformed
  | tooLong (digits : Nat)
deriving Repr

def readInt (s : String) : Except Refusal Int :=
  let (minus, body) := takeSign (plainChars s)
  match takeDigits body with
  | ([], _) => .error .malformed
  | (ds, []) =>
    if maxDigits < ds.length then .error (.tooLong ds.length)
    else .ok (if minus then -(digitsValue ds : Int) else digitsValue ds)
  | _ => .error .malformed

/-- The binary64 number nearest to `n · 10^e`, settled without computing a
power when it is far outside the format. -/
def scaled (n : Nat) (e : Int) : Binary64 :=
  let size : Int := (toString n).length
  if n = 0 then .finite 0
  else if 310 < size + e then .posInf
  else if size + e < -330 then .finite 0
  else Binary64.nearest (n * Binary64.tenPow e)

/-- The exponent after `e` or `E`, if the text has one and ends with it. -/
def readExponent? : List Char → Option Int
  | [] => some 0
  | c :: rest =>
    if c == 'e' || c == 'E' then
      let (minus, body) := takeSign rest
      match takeDigits body with
      | ([], _) => none
      | (ds, []) => some (if minus then -(digitsValue ds : Int) else digitsValue ds)
      | _ => none
    else none

def readSize? (cs : List Char) : Option Binary64 :=
  let word := String.ofList (cs.map Char.toLower)
  if word == "inf" || word == "infinity" then some .posInf
  else if word == "nan" then some .nan
  else
    let (whole, rest) := takeDigits cs
    let (places, rest) := match rest with
      | '.' :: more => takeDigits more
      | _ => ([], rest)
    if whole.isEmpty && places.isEmpty then none
    else (readExponent? rest).map fun e =>
      scaled (digitsValue (whole ++ places)) (e - places.length)

def readReal? (s : String) : Option Binary64 :=
  let (minus, body) := takeSign (plainChars s)
  (readSize? body).map fun x => if minus then x.neg else x

end AlertDelivery.Numeral
