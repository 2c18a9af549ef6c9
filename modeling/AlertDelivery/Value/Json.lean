import AlertDelivery.Value
import AlertDelivery.Number.Numeral
import AlertDelivery.Text.Encoding

/-!
# JSON text

`Json.write` writes a value on one line in ASCII, with `, ` and `: ` as
separators and escapes for every other character. `Json.read?` reads a
document; it also admits the three words for numbers that are not finite,
and of two fields with one key the last one counts.
-/

namespace AlertDelivery.Json

open Text

def unitEscape (n : Nat) : List Char := '\\' :: 'u' :: hexDigits 4 n

def escapedChar (c : Char) : List Char :=
  if c = '"' ∨ c = '\\' then ['\\', c]
  else if c = '\n' then ['\\', 'n']
  else if c = '\r' then ['\\', 'r']
  else if c = '\t' then ['\\', 't']
  else if c.toNat = 8 then ['\\', 'b']
  else if c.toNat = 12 then ['\\', 'f']
  else if 0x20 ≤ c.toNat ∧ c.toNat ≤ 0x7E then [c]
  else if c.toNat ≤ 0xFFFF then unitEscape c.toNat
  else
    let n := c.toNat - 0x10000
    unitEscape (0xD800 + n / 0x400) ++ unitEscape (0xDC00 + n % 0x400)

def writeText (s : String) : String :=
  String.ofList ('"' :: s.toList.flatMap escapedChar ++ ['"'])

def writeReal : Binary64 → String
  | .posInf => "Infinity"
  | .negInf => "-Infinity"
  | .nan => "NaN"
  | x => x.text

mutual
def write : Value → String
  | .null => "null"
  | .bool b => if b then "true" else "false"
  | .int i => toString i
  | .real x => writeReal x
  | .text s => writeText s
  | .list items => "[" ++ ", ".intercalate (writeItems items) ++ "]"
  | .record fields => "\x7b" ++ ", ".intercalate (writeFields fields) ++ "\x7d"
def writeItems : List Value → List String
  | [] => []
  | v :: rest => write v :: writeItems rest
def writeFields : List (String × Value) → List String
  | [] => []
  | (k, v) :: rest => (writeText k ++ ": " ++ write v) :: writeFields rest
end

def isSpace (c : Char) : Bool := c == ' ' || c == '\n' || c == '\r' || c == '\t'

def skipSpace (cs : List Char) : List Char := cs.dropWhile isSpace

def readUnit? : List Char → Option (Nat × List Char)
  | a :: b :: c :: d :: rest => do
    let a ← hexValue? a
    let b ← hexValue? b
    let c ← hexValue? c
    let d ← hexValue? d
    some (((a * 16 + b) * 16 + c) * 16 + d, rest)
  | _ => none

/-- The character of a unit; a high surrogate joins with the low one that
follows, and one that stands alone becomes the replacement character. -/
def joinUnit (unit : Nat) (rest : List Char) : Char × List Char :=
  if 0xD800 ≤ unit ∧ unit < 0xDC00 then
    match rest with
    | '\\' :: 'u' :: more =>
      match readUnit? more with
      | some (low, left) =>
        if 0xDC00 ≤ low ∧ low < 0xE000 then
          (Char.ofNat (0x10000 + (unit - 0xD800) * 0x400 + (low - 0xDC00)), left)
        else (Char.ofNat 0xFFFD, rest)
      | none => (Char.ofNat 0xFFFD, rest)
    | _ => (Char.ofNat 0xFFFD, rest)
  else if 0xDC00 ≤ unit ∧ unit < 0xE000 then (Char.ofNat 0xFFFD, rest)
  else (Char.ofNat unit, rest)

def shortEscape? : Char → Option Char
  | '"' => some '"'
  | '\\' => some '\\'
  | '/' => some '/'
  | 'b' => some (Char.ofNat 8)
  | 'f' => some (Char.ofNat 12)
  | 'n' => some '\n'
  | 'r' => some '\r'
  | 't' => some '\t'
  | _ => none

/-- The characters up to the closing quote, and the rest after it. -/
def readChars : Nat → List Char → List Char → Option (String × List Char)
  | 0, _, _ => none
  | _ + 1, _, [] => none
  | _ + 1, done, '"' :: rest => some (String.ofList done.reverse, rest)
  | fuel + 1, done, '\\' :: 'u' :: rest =>
    match readUnit? rest with
    | some (unit, more) =>
      let (c, left) := joinUnit unit more
      readChars fuel (c :: done) left
    | none => none
  | fuel + 1, done, '\\' :: c :: rest =>
    match shortEscape? c with
    | some d => readChars fuel (d :: done) rest
    | none => none
  | fuel + 1, done, c :: rest =>
    if c.toNat < 0x20 then none else readChars fuel (c :: done) rest

def digitRun (cs : List Char) : List Char × List Char :=
  (cs.takeWhile isPlainDigit, cs.dropWhile isPlainDigit)

/-- The digits after a decimal point; none when the front is no fraction. -/
def fraction? : List Char → Option (List Char × List Char)
  | '.' :: c :: rest => if isPlainDigit c then some (digitRun (c :: rest)) else none
  | _ => none

def exponent? : List Char → Option (Int × List Char)
  | e :: rest =>
    if e == 'e' || e == 'E' then
      let (minus, body) := Numeral.takeSign rest
      match digitRun body with
      | ([], _) => none
      | (ds, left) =>
        some (if minus then -(Numeral.digitsValue ds : Int) else Numeral.digitsValue ds, left)
    else none
  | [] => none

/-- A number without sign, as a value and its negative. -/
def readSize? (cs : List Char) : Option ((Value × Value) × List Char) :=
  let whole := match cs with
    | '0' :: rest => some (['0'], rest)
    | c :: _ => if isPlainDigit c then some (digitRun cs) else none
    | [] => none
  whole.map fun (ds, rest) =>
    let (places, rest, pointed) := match fraction? rest with
      | some (places, left) => (places, left, true)
      | none => ([], rest, false)
    let (e, rest, raised) := match exponent? rest with
      | some (e, left) => (e, left, true)
      | none => (0, rest, false)
    if pointed || raised then
      let x := Numeral.scaled (Numeral.digitsValue (ds ++ places)) (e - places.length)
      ((.real x, .real x.neg), rest)
    else
      let n := Numeral.digitsValue ds
      ((.int n, .int (-(n : Int))), rest)

def dropWord? (word : String) (cs : List Char) : Option (List Char) :=
  if word.toList.isPrefixOf cs then some (cs.drop word.length) else none

def readScalar? (cs : List Char) : Option (Value × List Char) :=
  match cs with
  | 'n' :: _ => (dropWord? "null" cs).map (.null, ·)
  | 't' :: _ => (dropWord? "true" cs).map (.bool true, ·)
  | 'f' :: _ => (dropWord? "false" cs).map (.bool false, ·)
  | 'N' :: _ => (dropWord? "NaN" cs).map (.real .nan, ·)
  | 'I' :: _ => (dropWord? "Infinity" cs).map (.real .posInf, ·)
  | '-' :: 'I' :: _ => (dropWord? "-Infinity" cs).map (.real .negInf, ·)
  | '-' :: rest => (readSize? rest).map fun ((_, v), left) => (v, left)
  | _ => (readSize? cs).map fun ((v, _), left) => (v, left)

mutual
def readValue : Nat → List Char → Option (Value × List Char)
  | 0, _ => none
  | fuel + 1, cs =>
    match skipSpace cs with
    | '"' :: rest => (readChars (fuel + 1) [] rest).map fun (s, left) => (.text s, left)
    | '[' :: rest =>
      match skipSpace rest with
      | ']' :: left => some (.list [], left)
      | _ => (readItems fuel rest).map fun (items, left) => (.list items, left)
    | '\x7b' :: rest =>
      match skipSpace rest with
      | '\x7d' :: left => some (.record [], left)
      | _ => (readFields fuel rest).map fun (fields, left) =>
        (.record (Fields.overlay [] fields), left)
    | rest => readScalar? rest
def readItems : Nat → List Char → Option (List Value × List Char)
  | 0, _ => none
  | fuel + 1, cs =>
    match readValue fuel cs with
    | none => none
    | some (v, rest) =>
      match skipSpace rest with
      | ']' :: left => some ([v], left)
      | ',' :: more => (readItems fuel more).map fun (vs, left) => (v :: vs, left)
      | _ => none
def readFields : Nat → List Char → Option (Fields × List Char)
  | 0, _ => none
  | fuel + 1, cs =>
    match skipSpace cs with
    | '"' :: rest =>
      match readChars (fuel + 1) [] rest with
      | none => none
      | some (key, rest) =>
        match skipSpace rest with
        | ':' :: rest =>
          match readValue fuel rest with
          | none => none
          | some (v, rest) =>
            match skipSpace rest with
            | '\x7d' :: left => some ([(key, v)], left)
            | ',' :: more => (readFields fuel more).map fun (fs, left) => ((key, v) :: fs, left)
            | _ => none
        | _ => none
    | _ => none
end

def read? (s : String) : Option Value :=
  let cs := s.toList
  match readValue (cs.length + 1) cs with
  | some (v, rest) => if (skipSpace rest).isEmpty then some v else none
  | none => none

end AlertDelivery.Json
