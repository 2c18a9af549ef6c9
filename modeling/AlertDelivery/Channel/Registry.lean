import AlertDelivery.Channel.Delivery
import AlertDelivery.Settings

/-!
# Registered channels

The channels that the service can send through at the moment, one for each
type, in the order in which the types were first registered. A channel is
of a shipped kind, or it is a rehearsed one that follows a script.
-/

namespace AlertDelivery

/-- How a channel sends. A rehearsed channel is known by its number among
the scripts of a rehearsal. -/
inductive Channel.Backend where
  | shipped (kind : Channel.Kind)
  | rehearsed (type name : String) (requiredKeys : List String) (script : Nat)
deriving DecidableEq, Repr

namespace Channel.Backend

def type : Backend → String
  | .shipped kind => kind.type
  | .rehearsed type .. => type

def name : Backend → String
  | .shipped kind => kind.displayName
  | .rehearsed type name .. => if name = "" then type else name

def requiredKeys : Backend → List String
  | .shipped kind => kind.requiredKeys
  | .rehearsed _ _ keys _ => keys

end Channel.Backend

structure Channel where
  backend : Channel.Backend
  config : Fields := []
deriving DecidableEq, Repr

namespace Channel

def type (c : Channel) : String := c.backend.type

def diagnostic (c : Channel) : String :=
  let label := match c.backend with
    | .shipped kind => kind.label
    | .rehearsed .. => "RehearsedChannel"
  "<" ++ label ++ " type=" ++ Text.quoted c.type ++ ">"

def isEnabled (c : Channel) : Bool := isComplete c.backend.requiredKeys c.config

def ofKind (kind : Kind) (config : Fields) : Channel := ⟨.shipped kind, config⟩

def validate (c : Channel) (config : Fields) : Except Fault Unit :=
  match c.backend with
  | .shipped kind => kind.validate config
  | .rehearsed type _ keys _ => checkRequired type keys config

def ofSettings (s : Settings) : List Channel :=
  [ofKind .email [
      ("host", .optional .text s.smtpHost), ("port", .int s.smtpPort),
      ("username", .optional .text s.smtpUser), ("password", .optional .text s.smtpPassword),
      ("from_address", .text s.smtpFromAddress), ("use_tls", .bool s.smtpUseTls)],
    ofKind (.web .webhook) [("url", .optional .text s.webhookUrl)],
    ofKind (.web .slack) [("webhook_url", .optional .text s.slackWebhookUrl)],
    ofKind (.web .discord) [("webhook_url", .optional .text s.discordWebhookUrl)],
    ofKind (.web .telegram) [("bot_token", .optional .text s.telegramBotToken)],
    ofKind (.web .twilio) [
      ("account_sid", .optional .text s.twilioAccountSid),
      ("auth_token", .optional .text s.twilioAuthToken),
      ("from_number", .optional .text s.twilioFromNumber)],
    ofKind (.web .gotify) [
      ("url", .optional .text s.gotifyUrl), ("token", .optional .text s.gotifyToken)],
    ofKind (.web .pushover) [("app_token", .optional .text s.pushoverAppToken)]].filter isEnabled

structure Registry where
  channels : List Channel := []
deriving DecidableEq, Repr

namespace Registry

def find? (r : Registry) (type : String) : Option Channel :=
  r.channels.find? (·.type == type)

def contains (r : Registry) (type : String) : Bool := r.channels.any (·.type == type)

def get (r : Registry) (type : String) : Except Fault Channel :=
  match r.find? type with
  | some c => .ok c
  | none => .error (.channelNotFound type)

/-- Puts a channel in the place of its type, or at the end. -/
def register (r : Registry) (c : Channel) : Registry :=
  if r.contains c.type then ⟨r.channels.map fun old => if old.type == c.type then c else old⟩
  else ⟨r.channels ++ [c]⟩

def unregister (r : Registry) (type : String) : Registry :=
  ⟨r.channels.filter (·.type != type)⟩

def configure (r : Registry) (type : String) (f : Fields → Fields) : Registry :=
  ⟨r.channels.map fun c => if c.type == type then { c with config := f c.config } else c⟩

def types (r : Registry) : List String :=
  (r.channels.map (·.type)).mergeSort fun a b => decide (a ≤ b)

def ofList (channels : List Channel) : Registry := channels.foldl register {}

end Registry

end Channel

end AlertDelivery
