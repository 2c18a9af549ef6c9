import AlertDelivery.Channel.Email
import AlertDelivery.Channel.Posting

/-!
# Delivery through a channel

One message sent through a channel of some kind: its result, and what went
over the wire on the way. `validate` is the check that a kind makes of a
configuration before it is stored.
-/

namespace AlertDelivery.Channel

inductive Wire where
  | request (r : Web.Request)
  | mail (s : Mail.Step)
deriving DecidableEq, Repr

def Wire.describe : Wire → Value
  | .request r => r.describe
  | .mail s => s.describe

/-- The servers on the other side, and the library that writes letters to
them. -/
structure Servers where
  web : Web.Request → Web.Outcome
  mail : Mail.Relay
  letters : Mail.Reader := {}

/-- The outcome of one send and what it put on the wire. -/
structure Delivery where
  result : Except Fault Unit
  wire : List Wire := []

def WebKind.send (k : WebKind) (servers : Servers) (config : Fields) (m : Message) : Delivery :=
  match k.compose config m with
  | .error fault => { result := .error fault }
  | .ok request => { result := k.accept (servers.web request), wire := [.request request] }

namespace Kind

def send (k : Kind) (servers : Servers) (config : Fields) (m : Message) : Delivery :=
  match k with
  | .email =>
    let (result, taken) := Email.send servers.letters servers.mail config m
    { result, wire := taken.map .mail }
  | .web k => k.send servers config m

def refuse (k : Kind) (field problem : String) : Except Fault Unit :=
  .error (.configInvalid k.type problem (some field))

def validatePort (v : Value) : Except Fault Unit :=
  match v.toInt with
  | .ok port =>
    if 0 < port ∧ port < 65536 then .ok () else refuse .email "port" "port out of range"
  | .error (.mishap .overflow problem) => .error (.mishap .overflow problem)
  | .error _ => refuse .email "port" "port must be a number"

/-- What a kind asks of a configuration beyond its required keys. -/
def validateOwn (k : Kind) (config : Fields) : Except Fault Unit :=
  match k with
  | .email => validatePort (config.getD "port")
  | .web .webhook =>
    let url := (config.getD "url").plain
    if url.startsWith "http://" || url.startsWith "https://" then .ok ()
    else refuse k "url" "url must be http(s)"
  | .web .twilio =>
    if isPhoneNumber (config.getD "from_number").plain then .ok ()
    else refuse k "from_number" "from_number must be E.164 (+15551234567)"
  | .web _ => .ok ()

def validate (k : Kind) (config : Fields) : Except Fault Unit := do
  checkRequired k.type k.requiredKeys config
  k.validateOwn config

end Kind

end AlertDelivery.Channel
