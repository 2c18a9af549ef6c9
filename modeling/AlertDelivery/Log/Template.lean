import AlertDelivery.Value.Numeric

/-!
# Message templates

A template holds directives such as `%s`, `%d` or `%.1f`, each with flags,
a width and a precision, that take the arguments one after the other or,
from a single record, by name.
-/

namespace AlertDelivery.Log

inductive Arguments where
  | positional (args : List Value)
  | named (fields : Fields)

structure Flags where
  alternate : Bool := false
  zero : Bool := false
  left : Bool := false
  space : Bool := false
  plus : Bool := false

/-- What is still to be used, and whether names were asked for. -/
structure Supply where
  left : List Value
  whole : Option Value

def tooFew : Fault := .mishap .type "not enough arguments for format string"

def Supply.next (s : Supply) : Except Fault (Value × Supply) :=
  match s.whole with
  | some v => .ok (v, { s with whole := none })
  | none => match s.left with
    | v :: rest => .ok (v, { s with left := rest })
    | [] => .error tooFew

def setFlag (f : Flags) : Char → Option Flags
  | '#' => some { f with alternate := true }
  | '0' => some { f with zero := true }
  | '-' => some { f with left := true }
  | ' ' => some { f with space := true }
  | '+' => some { f with plus := true }
  | _ => none

def takeFlags (f : Flags) : List Char → Flags × List Char
  | [] => (f, [])
  | c :: rest => match setFlag f c with
    | some g => takeFlags g rest
    | none => (f, c :: rest)

def takeCount (cs : List Char) : Nat × List Char :=
  (Numeral.digitsValue (cs.takeWhile Text.isPlainDigit), cs.dropWhile Text.isPlainDigit)

/-- Fills a text up to a width; zeros go between the sign and the digits. -/
def pad (f : Flags) (width : Nat) (sign : String) (body : String) (numeric : Bool) : String :=
  let missing := width - (sign.length + body.length)
  if f.left then sign ++ body ++ "".pushn ' ' missing
  else if f.zero && numeric then sign ++ "".pushn '0' missing ++ body
  else "".pushn ' ' missing ++ sign ++ body

def signText (f : Flags) (negative : Bool) : String :=
  if negative then "-" else if f.plus then "+" else if f.space then " " else ""

def inBase (base n : Nat) : String :=
  String.ofList (Nat.toDigits base n)

def padDigits (precision : Option Nat) (digits : String) : String :=
  "".pushn '0' (precision.getD 0 - digits.length) ++ digits

def integerArgument (v : Value) : Except Fault Int :=
  match v.number? with
  | some (.whole i) => .ok i
  | some (.real _) => v.toInt
  | none => .error (.mishap .type "%d format: a real number is required")

def wholeArgument (v : Value) : Except Fault Int :=
  match v.number? with
  | some (.whole i) => .ok i
  | _ => .error (.mishap .type "%x format: an integer is required")

def realArgument (v : Value) : Except Fault Binary64 :=
  match v.number? with
  | none => .error (.mishap .type "must be real number")
  | some _ => (v.toReal?).getD (.error (.mishap .type "must be real number"))

def scientificSize (precision : Nat) (q : Rat) : String :=
  let d := if q = 0 then ⟨['0'], 0⟩ else Decimal.significant (precision + 1) q
  let digits := d.digits ++ Decimal.zeros (precision + 1 - d.digits.length)
  String.ofList (digits.take 1 ++ (if precision = 0 then [] else '.' :: digits.drop 1))
    ++ Decimal.exponentText d.exponent

def generalSize (precision : Nat) (q : Rat) : String :=
  let places := max precision 1
  if q = 0 then "0"
  else Decimal.Layout.render ⟨places, ""⟩ (Decimal.significant places q)

def withPoint (s : String) : String :=
  let cs := s.toList
  if cs.contains '.' then s
  else String.ofList (cs.takeWhile (· != 'e') ++ '.' :: cs.dropWhile (· != 'e'))

/-- As `generalSize`, but zeros at the end stay. -/
def generalSizeKept (precision : Nat) (q : Rat) : String :=
  let places := max precision 1
  let exponent := if q = 0 then 0 else (Decimal.significant places q).exponent
  if -4 ≤ exponent ∧ exponent < places then
    Decimal.fixedSize (places - 1 - exponent).toNat q
  else scientificSize (places - 1) q

def realParts (size : Rat → String) : Binary64 → Bool × String × Bool
  | .finite q => if q < 0 then (true, size (-q), true) else (false, size q, true)
  | .negZero => (true, size 0, true)
  | .posInf => (false, "inf", false)
  | .negInf => (true, "inf", false)
  | .nan => (false, "nan", false)

def renderReal (f : Flags) (width : Nat) (size : Rat → String) (capital : Bool) (v : Value) :
    Except Fault String := do
  let x ← realArgument v
  let (negative, body, numeric) := realParts size x
  let body := if f.alternate && numeric then withPoint body else body
  let body := if capital then String.ofList (body.toList.map Char.toUpper) else body
  pure (pad f width (signText f negative) body numeric)

def renderWhole (f : Flags) (width : Nat) (precision : Option Nat) (base : Nat) (mark : String)
    (capital : Bool) (i : Int) : String :=
  let digits := padDigits precision (inBase base i.natAbs)
  let digits := if capital then String.ofList (digits.toList.map Char.toUpper) else digits
  pad f width (signText f (i < 0) ++ if f.alternate then mark else "") digits true

def cut (precision : Option Nat) (s : String) : String :=
  match precision with
  | some n => String.ofList (s.toList.take n)
  | none => s

def asciiLiteral (v : Value) : String :=
  String.ofList (v.literal.toList.flatMap fun c =>
    if c.toNat < 128 then [c]
    else if c.toNat ≤ 0xFF then '\\' :: 'x' :: Text.hexDigits 2 c.toNat
    else if c.toNat ≤ 0xFFFF then '\\' :: 'u' :: Text.hexDigits 4 c.toNat
    else '\\' :: 'U' :: Text.hexDigits 8 c.toNat)

def characterArgument (v : Value) : Except Fault String :=
  match v with
  | .text s => if s.length = 1 then .ok s else .error (.mishap .type "%c requires int or char")
  | _ => match v.number? with
    | some (.whole i) =>
      if 0 ≤ i ∧ i < 0x110000 then .ok (String.singleton (Char.ofNat i.toNat))
      else .error (.mishap .overflow "%c arg not in range(0x110000)")
    | _ => .error (.mishap .type "%c requires int or char")

/-- The fault of an unknown directive; a character that is no plain ASCII is
shown as a question mark. -/
def unsupported (c : Char) (position : Nat) : Fault :=
  let shown := if 31 ≤ c.toNat ∧ c.toNat ≤ 126 then c else '?'
  .badValue ("unsupported format character '" ++ String.singleton shown ++ "' (0x"
    ++ inBase 16 c.toNat ++ ") at index " ++ toString position)

def render (f : Flags) (width : Nat) (precision : Option Nat) (directive : Char)
    (position : Nat) (v : Value) : Except Fault String :=
  let p := precision.getD 6
  match directive with
  | 's' => .ok (pad f width "" (cut precision v.plain) false)
  | 'r' => .ok (pad f width "" (cut precision v.literal) false)
  | 'a' => .ok (pad f width "" (cut precision (asciiLiteral v)) false)
  | 'd' | 'i' | 'u' => (integerArgument v).map (renderWhole f width precision 10 "" false)
  | 'x' => (wholeArgument v).map (renderWhole f width precision 16 "0x" false)
  | 'X' => (wholeArgument v).map (renderWhole f width precision 16 "0X" true)
  | 'o' => (wholeArgument v).map (renderWhole f width precision 8 "0o" false)
  | 'c' => (characterArgument v).map fun s => pad f width "" s false
  | 'f' | 'F' => renderReal f width (Decimal.fixedSize p) (directive == 'F') v
  | 'e' | 'E' => renderReal f width (scientificSize p) (directive == 'E') v
  | 'g' | 'G' =>
    let size := if f.alternate then generalSizeKept p else generalSize p
    renderReal f width size (directive == 'G') v
  | c => .error (unsupported c position)

/-- The largest precision, and the largest width for which there is room. -/
def maxPrecision : Nat := 2147483647

def maxWidth : Nat := 9223372036854775807

/-- A width or precision: digits, or an argument where there is a star. -/
def takeAmount (what : String) (largest : Nat) (s : Supply) :
    List Char → Except Fault (Int × Supply × List Char)
  | '*' :: rest => do
    let (v, s) ← s.next
    match v.number? with
    | some (.whole i) =>
      if -(largest + 1 : Int) ≤ i ∧ i ≤ largest then pure (i, s, rest)
      else .error (.mishap .overflow (what ++ " too big"))
    | _ => .error (.mishap .type "* wants int")
  | cs =>
    let (n, rest) := takeCount cs
    if n ≤ largest then .ok (n, s, rest) else .error (.badValue (what ++ " too big"))

/-- The name in parentheses at the front, with the rest; none when the
parentheses do not close. -/
def takeName (depth : Nat) (done : List Char) : List Char → Option (String × List Char)
  | [] => none
  | ')' :: rest =>
    if depth = 0 then some (String.ofList done.reverse, rest)
    else takeName (depth - 1) (')' :: done) rest
  | '(' :: rest => takeName (depth + 1) ('(' :: done) rest
  | c :: rest => takeName depth (c :: done) rest

def chooseArgument (args : Arguments) (s : Supply) (cs : List Char) :
    Except Fault (Supply × List Char) :=
  match cs with
  | '(' :: rest => match args with
    | .positional _ => .error (.mishap .type "format requires a mapping")
    | .named fields => match takeName 0 [] rest with
      | none => .error (.badValue "incomplete format key")
      | some (name, rest) => match fields.get? name with
        | some v => .ok ({ s with whole := some v }, rest)
        | none => .error (.mishap .key name)
  | _ => .ok (s, cs)

/-- The text of one directive after its percent sign. A second percent sign
stands for itself, but only right after the first. -/
def directive (args : Arguments) (s : Supply) (total : Nat) (cs : List Char) :
    Except Fault (String × Supply × List Char) := do
  if let '%' :: rest := cs then return ("%", s, rest)
  let (s, cs) ← chooseArgument args s cs
  let (flags, cs) := takeFlags {} cs
  let (width, s, cs) ← takeAmount "width" maxWidth s cs
  let flags := if width < 0 then { flags with left := true } else flags
  let (precision, s, cs) ← match cs with
    | '.' :: rest => do
      let (n, s, rest) ← takeAmount "precision" maxPrecision s rest
      pure (some n.toNat, s, rest)
    | _ => pure (none, s, cs)
  let cs := match cs with
    | 'h' :: rest | 'l' :: rest | 'L' :: rest => rest
    | _ => cs
  match cs with
  | [] => .error (.badValue "incomplete format")
  | c :: rest =>
    let (v, s) ← s.next
    if maxPrecision < width.natAbs then .error (.mishap .memory "")
    else
      let text ← render flags width.natAbs precision c (total - rest.length - 1) v
      pure (text, s, rest)

/-- Expands a template from the front; every directive shortens it. -/
def expandFrom (args : Arguments) (total : Nat) : Nat → Supply → List Char →
    Except Fault (List String × Supply)
  | 0, s, _ => .ok ([], s)
  | _ + 1, s, [] => .ok ([], s)
  | fuel + 1, s, '%' :: rest => do
    let (text, s, rest) ← directive args s total rest
    let (texts, s) ← expandFrom args total fuel s rest
    pure (text :: texts, s)
  | fuel + 1, s, c :: rest => do
    let (texts, s) ← expandFrom args total fuel s rest
    pure (String.singleton c :: texts, s)

def expand (template : String) (args : Arguments) : Except Fault String := do
  let supply : Supply := match args with
    | .positional vs => ⟨vs, none⟩
    | .named fields => ⟨[], some (.record fields)⟩
  let cs := template.toList
  let (texts, s) ← expandFrom args cs.length (cs.length + 1) supply cs
  match args, s.left with
  | .positional _, _ :: _ =>
    .error (.mishap .type "not all arguments converted during string formatting")
  | _, _ => pure (String.join texts)

end AlertDelivery.Log
