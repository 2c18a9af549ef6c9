import AlertDelivery.Text.Quoted

/-!
# Encoded texts

Query texts keep letters, digits and `_.-~`; a space becomes `+` and any
other character the percent escapes of its UTF-8 bytes. Decoding a path
reads the escapes back and leaves a percent sign without two hexadecimal
digits as it is. Base64 writes three bytes as four characters, the last of
them filled up with `=`.
-/

namespace AlertDelivery.Text

/-! ### Percent escapes -/

def isUnreserved (c : Char) : Bool := c.isAlphanum || "_.-~".toList.contains c

def percentEscape (c : Char) : List Char :=
  (String.utf8EncodeChar c).flatMap fun b =>
    '%' :: (hexDigits 2 b.toNat).map Char.toUpper

def queryEncoded (s : String) : String :=
  String.ofList (s.toList.flatMap fun c =>
    if isUnreserved c then [c] else if c = ' ' then ['+'] else percentEscape c)

def hexValue? (c : Char) : Option Nat :=
  if '0' ≤ c ∧ c ≤ '9' then some (c.toNat - 48)
  else if 'a' ≤ c ∧ c ≤ 'f' then some (c.toNat - 87)
  else if 'A' ≤ c ∧ c ≤ 'F' then some (c.toNat - 55)
  else none

def unescapedBytes : List Char → List UInt8
  | [] => []
  | '%' :: high :: low :: rest =>
    match hexValue? high, hexValue? low with
    | some h, some l => UInt8.ofNat (16 * h + l) :: unescapedBytes rest
    | _, _ => '%'.toUInt8 :: unescapedBytes (high :: low :: rest)
  | c :: rest => String.utf8EncodeChar c ++ unescapedBytes rest

def ofBytes? (bytes : List UInt8) : Option String := String.fromUTF8? ⟨bytes.toArray⟩

/-- The decoded path, or the text itself when its bytes are not UTF-8. -/
def pathDecoded (s : String) : String := (ofBytes? (unescapedBytes s.toList)).getD s

/-- A form value: `+` is a space and escapes stand for bytes. -/
def formDecoded (s : String) : String :=
  pathDecoded (String.ofList (s.toList.map fun c => if c = '+' then ' ' else c))

/-! ### Base64 -/

def sixBits (n : Nat) : Char :=
  if n < 26 then Char.ofNat (65 + n)
  else if n < 52 then Char.ofNat (71 + n)
  else if n < 62 then Char.ofNat (n - 4)
  else if n = 62 then '+' else '/'

def base64Chars : List UInt8 → List Char
  | [] => []
  | [a] =>
    let n := a.toNat * 16
    [sixBits (n / 64), sixBits (n % 64), '=', '=']
  | [a, b] =>
    let n := (a.toNat * 256 + b.toNat) * 4
    [sixBits (n / 4096), sixBits (n / 64 % 64), sixBits (n % 64), '=']
  | a :: b :: c :: rest =>
    let n := (a.toNat * 256 + b.toNat) * 256 + c.toNat
    sixBits (n / 262144) :: sixBits (n / 4096 % 64) :: sixBits (n / 64 % 64)
      :: sixBits (n % 64) :: base64Chars rest

def base64 (s : String) : String := String.ofList (base64Chars s.toUTF8.toList)

end AlertDelivery.Text
