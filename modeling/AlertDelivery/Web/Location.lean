import AlertDelivery.Fault
import AlertDelivery.Text.Encoding

/-!
# Locations

Where a request goes, in parts. `Location.read` brings an address into its
normal form: scheme and host in lower case, no default port, no dot
segments in the path, and percent escapes for characters that may not
stand in it.
-/

namespace AlertDelivery.Web

structure Location where
  scheme : String := ""
  /-- User name and password, as written before the host. -/
  account : Option String := none
  host : String := ""
  port : Option Nat := none
  path : String := ""
  query : Option String := none
  fragment : Option String := none
deriving DecidableEq, Repr

namespace Location

def badAddress (problem : String) : Fault := .mishap .address problem

/-- Characters that stand for themselves outside the host: printing ASCII
characters without the excluded ones. -/
def isSafe (excluded : String) (c : Char) : Bool :=
  0x20 < c.toNat && c.toNat < 0x7F && !excluded.toList.contains c

def escaped (excluded : String) (cs : List Char) : String :=
  String.ofList (cs.flatMap fun c => if isSafe excluded c then [c] else Text.percentEscape c)

def pathExcluded : String := "\"#<>?\x60\x7b\x7d"
def queryExcluded : String := "\"#<>"
def fragmentExcluded : String := "\"<>\x60"

def cutAt (marks : List Char) (cs : List Char) : List Char × List Char :=
  cs.span fun c => !marks.contains c

def takeScheme (cs : List Char) : String × List Char :=
  match cs, cutAt [':', '/', '?', '#'] cs with
  | first :: _, (name, ':' :: rest) =>
    if first.isAlpha && name.all fun c => c.isAlphanum || c == '+' || c == '-' || c == '.' then
      (String.ofList (name.map Char.toLower), rest)
    else ("", cs)
  | _, _ => ("", cs)

/-- One segment of a path: a dot is dropped, and two dots take the segment
before them away. -/
def addSegment (done : List (List Char)) : List Char → List (List Char)
  | ['.'] => done
  | ['.', '.'] => if done.isEmpty || done == [[]] then done else done.dropLast
  | segment => done ++ [segment]

def segments : List Char → List (List Char)
  | [] => [[]]
  | '/' :: rest => [] :: segments rest
  | c :: rest => match segments rest with
    | first :: more => (c :: first) :: more
    | [] => [[c]]

def withoutDots (path : List Char) : List Char :=
  List.intercalate ['/'] ((segments path).foldl addSegment [])

def defaultPort : String → Option Nat
  | "http" | "ws" => some 80
  | "https" | "wss" => some 443
  | "ftp" => some 21
  | _ => none

def badPort (digits : List Char) : Fault :=
  badAddress ("Invalid port: " ++ Text.quoted (String.ofList digits))

/-- Reads a port; the default one of the scheme is left out. -/
def readPort (scheme : String) (digits : List Char) : Except Fault (Option Nat) :=
  if digits.isEmpty then .ok none
  else if digits.all Char.isDigit then
    let port := digits.foldl (fun n d => 10 * n + (d.toNat - 48)) 0
    if 65535 < port then .error (badPort digits)
    else .ok (if defaultPort scheme = some port then none else some port)
  else .error (badPort digits)

def readAuthority (l : Location) (cs : List Char) : Except Fault Location := do
  let (account, rest) := match cutAt ['@'] cs with
    | (account, '@' :: rest) => (some (String.ofList account), rest)
    | _ => (none, cs)
  let (host, port) := match rest with
    | '[' :: _ =>
      let (inside, after) := cutAt [']'] rest
      (inside ++ after.take 1, after.drop 1)
    | _ => cutAt [':', '@'] rest
  let port ← readPort l.scheme (if port.head? = some ':' then port.tail else port)
  pure { l with account, host := String.ofList (host.map Char.toLower), port }

def read (s : String) : Except Fault Location := do
  if 65536 < s.length then throw (badAddress "URL too long")
  if s.toList.any fun c => c.toNat < 0x20 || c.toNat == 0x7F then
    throw (badAddress "Invalid non-printable ASCII character in URL")
  let (scheme, cs) := takeScheme s.toList
  let start : Location := { scheme }
  let (l, cs) ← match cs with
    | '/' :: '/' :: rest =>
      let (authority, rest) := cutAt ['/', '?', '#'] rest
      (start.readAuthority authority).map fun l => (l, rest)
    | _ => pure (start, cs)
  let (path, cs) := cutAt ['?', '#'] cs
  let (query, cs) := match cs with
    | '?' :: rest =>
      let (query, rest) := cutAt ['#'] rest
      (some (escaped queryExcluded query), rest)
    | _ => (none, cs)
  let fragment := match cs with
    | '#' :: rest => some (escaped fragmentExcluded rest)
    | _ => none
  let relative := l.scheme = "" ∧ l.host = ""
  let path := if relative then '/' :: path.dropWhile (· == '/') else withoutDots path
  pure { l with path := escaped pathExcluded path, query, fragment }

def authority (l : Location) : String :=
  (match l.account with | some account => account ++ "@" | none => "") ++ l.host
    ++ (match l.port with | some port => ":" ++ toString port | none => "")

def text (l : Location) : String :=
  (if l.scheme = "" then "" else l.scheme ++ ":")
    ++ (if l.authority = "" then "" else "//" ++ l.authority)
    ++ l.path
    ++ (match l.query with | some query => "?" ++ query | none => "")
    ++ (match l.fragment with | some fragment => "#" ++ fragment | none => "")

def pairText (pair : String × String) : String :=
  Text.queryEncoded pair.1 ++ "=" ++ Text.queryEncoded pair.2

def queryPairs (query : String) : List (String × String) :=
  (query.splitOn "&").filterMap fun part =>
    match cutAt ['='] part.toList with
    | ([], []) => none
    | (name, rest) =>
      some (Text.formDecoded (String.ofList name), Text.formDecoded (String.ofList rest.tail))

def withParameters (l : Location) (pairs : List (String × String)) : Location :=
  let kept := (queryPairs (l.query.getD "")).filter fun (name, _) =>
    !pairs.any (·.1 == name)
  { l with query := some ("&".intercalate ((kept ++ pairs).map pairText)) }

end Location

end AlertDelivery.Web
