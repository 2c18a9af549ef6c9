import AlertDelivery.Fault

/-!
# Mail conversations

A letter and the steps in which it is handed to a mail relay. The library
that writes the letter may refuse a header, and a step may fail on either
side of the connection; the steps taken so far, the failing one included,
are then all that happened.
-/

namespace AlertDelivery.Mail

structure Letter where
  subject : String
  sender : String
  recipient : String
  content : String
deriving DecidableEq, Repr

def isLineEnd (c : Char) : Bool :=
  [0x0A, 0x0B, 0x0C, 0x0D, 0x1C, 0x1D, 0x1E, 0x85, 0x2028, 0x2029].contains c.toNat

/-- Whether a header has a second line. A line end at its very end begins
none. -/
def hasSecondLine (header : String) : Bool :=
  match header.toList.dropWhile fun c => !isLineEnd c with
  | [] => false
  | '\r' :: '\n' :: rest => !rest.isEmpty
  | _ :: rest => !rest.isEmpty

def badHeader : Fault :=
  .badValue "Header values may not contain linefeed or carriage return characters"

def plainLines : List Char → List Char
  | [] => []
  | '\r' :: '\n' :: rest => '\n' :: plainLines rest
  | '\r' :: rest => '\n' :: plainLines rest
  | c :: rest => c :: plainLines rest

/-- The content of a letter: lines that each end in a line feed, at least
one of them. -/
def contentOf (body : String) : String :=
  let lines := plainLines body.toList
  String.ofList (if lines.getLast? = some '\n' then lines else lines ++ ['\n'])

/-- How the library for letters reads a header: as the text that the letter
then has, or with a fault of its own. -/
structure Reader where
  subject : String → Except Fault String := .ok
  address : String → Except Fault String := .ok

def header (read : String → Except Fault String) (text : String) : Except Fault String :=
  if hasSecondLine text then .error badHeader else read text

def Letter.write (r : Reader) (sender recipient subject body : String) : Except Fault Letter := do
  let subject ← header r.subject subject
  let sender ← header r.address sender
  let recipient ← header r.address recipient
  pure { subject, sender, recipient, content := contentOf body }

inductive Step where
  | connect (host : Value) (port : Int)
  | startTls
  | login (user password : Value)
  | send (letter : Letter)
deriving DecidableEq, Repr

def timeoutSeconds : Binary64 := .finite 20

def Step.name : Step → String
  | .connect .. => "connect"
  | .startTls => "starttls"
  | .login .. => "login"
  | .send _ => "send"

def Letter.describe (l : Letter) : Value := .record [
  ("subject", .text l.subject), ("from", .text l.sender), ("to", .text l.recipient),
  ("content", .text l.content)]

def Step.describe (s : Step) : Value :=
  .list (.text s.name :: match s with
    | .connect host port => [host, .int port, .real timeoutSeconds]
    | .startTls => []
    | .login user password => [user, password]
    | .send letter => [letter.describe])

/-- A failure of the relay; a refused login comes with the reply code of the
relay and the bytes of its text. -/
def failure (kind : Mishap) (message : String) : Fault :=
  match kind with
  | .smtpAuthentication => .mishap kind ("(535, " ++ Text.quotedBytes message ++ ")")
  | _ => .mishap kind message

/-- What comes of a step: nothing, or a fault of the relay or on the way to
it, which ends the conversation. -/
abbrev Relay := Step → Option Fault

def converse (relay : Relay) : List Step → Except Fault Unit × List Step
  | [] => (.ok (), [])
  | step :: rest =>
    match relay step with
    | some fault => (.error fault, [step])
    | none =>
      let (result, taken) := converse relay rest
      (result, step :: taken)

end AlertDelivery.Mail
