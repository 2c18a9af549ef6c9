import AlertDelivery.Text.Quoted
import AlertDelivery.Text.Encoding
import AlertDelivery.Text

/-!
# Web addresses

The scheme and the authority of an address. Control characters and spaces
in front are dropped and tabs and line breaks are ignored. Square brackets
in the authority must pair up and hold an IPv6 address, and no character of
the authority may stand for a delimiter in compatibility form.
-/

namespace AlertDelivery.Web

open Text

structure Address where
  scheme : String
  authority : String
deriving Repr

/-- A decimal number of at most 255 in at most three digits, without a zero
in front. -/
def isOctet (cs : List Char) : Bool :=
  !cs.isEmpty && cs.length ≤ 3 && cs.all Char.isDigit
    && (cs.length == 1 || cs.head? != some '0')
    && cs.foldl (fun n c => 10 * n + (c.toNat - 48)) 0 ≤ 255

def isIPv4 (cs : List Char) : Bool :=
  let parts := splitAt '.' cs
  parts.length == 4 && parts.all isOctet

def isGroup (cs : List Char) : Bool :=
  !cs.isEmpty && cs.length ≤ 4 && cs.all fun c => (hexValue? c).isSome

/-- The groups of an address, a final IPv4 address counting as two. -/
def ipv6Groups? (cs : List Char) : Option (List (List Char)) :=
  let parts := splitAt ':' cs
  match parts.getLast? with
  | some last =>
    if last.contains '.' then
      if isIPv4 last then some (parts.dropLast ++ [['0'], ['0']]) else none
    else some parts
  | none => none

def innerGaps (parts : List (List Char)) : List Nat :=
  (List.range parts.length).filter fun i =>
    0 < i && i + 1 < parts.length && (parts[i]?.getD []).isEmpty

/-- Eight groups, or fewer with one gap for the rest. -/
def groupsFit (parts : List (List Char)) : Bool :=
  match innerGaps parts with
  | [] => parts.length == 8 && parts.all isGroup
  | [gap] =>
    let high := parts.take gap
    let low := parts.drop (gap + 1)
    let headOk := match high with
      | [] :: more => more.isEmpty
      | _ => high.all isGroup
    let tailOk := match low.reverse with
      | [] :: more => more.isEmpty
      | _ => low.all isGroup
    let count := (high.filter (!·.isEmpty)).length + (low.filter (!·.isEmpty)).length
    headOk && tailOk && count ≤ 7
  | _ => false

def isIPv6 (cs : List Char) : Bool :=
  let body := cs.takeWhile (· != '%')
  let zone := cs.drop body.length
  let zoneOk := match zone with
    | [] => true
    | _ :: name => !name.isEmpty && !name.contains '%'
  match ipv6Groups? body with
  | some parts => zoneOk && 3 ≤ (splitAt ':' body).length && parts.length ≤ 9 && groupsFit parts
  | none => false

/-- A version mark, hexadecimal digits, a point and something more. -/
def isFutureAddress : List Char → Bool
  | 'v' :: rest =>
    let digits := rest.takeWhile fun c => (hexValue? c).isSome
    !digits.isEmpty && match rest.drop digits.length with
      | '.' :: _ :: _ => true
      | _ => false
  | _ => false

def bracketProblem? (host : List Char) : Option String :=
  if host.head? == some 'v' then
    if isFutureAddress host then none else some "IPvFuture address is invalid"
  else if isIPv6 host then none
  else if isIPv4 host then some "An IPv4 address cannot be in brackets"
  else some (quoted (String.ofList host) ++ " does not appear to be an IPv4 or IPv6 address")

/-- Characters whose compatibility form holds one of `/?#@:`. -/
def delimiterForms : List Nat := [
  0x2047, 0x2048, 0x2049, 0x2100, 0x2101, 0x2105, 0x2106, 0x2A74, 0xFE13, 0xFE16, 0xFE55,
  0xFE56, 0xFE5F, 0xFE6B, 0xFF03, 0xFF0F, 0xFF1A, 0xFF1F, 0xFF20]

def authorityProblem? (cs : List Char) : Option String :=
  let opens := cs.contains '['
  let closes := cs.contains ']'
  if opens != closes then some "Invalid IPv6 URL"
  else
    let inside := (cs.dropWhile (· != '[')).drop 1
    let bracketed := if opens then bracketProblem? (inside.takeWhile (· != ']')) else none
    match bracketed with
    | some problem => some problem
    | none =>
      if cs.any fun c => delimiterForms.contains c.toNat then
        some ("netloc '" ++ String.ofList cs
          ++ "' contains invalid characters under NFKC normalization")
      else none

def isSchemeChar (c : Char) : Bool := c.isAlphanum || c == '+' || c == '-' || c == '.'

def takeScheme (cs : List Char) : String × List Char :=
  let before := cs.takeWhile (· != ':')
  match cs.drop before.length with
  | [] => ("", cs)
  | _ :: rest =>
    match before with
    | c :: _ =>
      if c.isAlpha && before.all isSchemeChar then
        (String.ofList (before.map Char.toLower), rest)
      else ("", cs)
    | [] => ("", cs)

def Address.read (s : String) : Except String Address :=
  let shown := (s.toList.dropWhile (·.toNat ≤ 0x20)).filter fun c =>
    c != '\t' && c != '\r' && c != '\n'
  let (scheme, rest) := takeScheme shown
  match rest with
  | '/' :: '/' :: body =>
    let authority := body.takeWhile fun c => c != '/' && c != '?' && c != '#'
    match authorityProblem? authority with
    | some problem => .error problem
    | none => .ok ⟨scheme, String.ofList authority⟩
  | _ => .ok ⟨scheme, ""⟩

end AlertDelivery.Web
