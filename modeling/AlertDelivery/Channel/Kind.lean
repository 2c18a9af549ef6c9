import AlertDelivery.Fault

/-!
# Channel kinds

The kinds of channel that the service can send through: mail, and seven
services that take one web request per message.
-/

namespace AlertDelivery.Channel

inductive WebKind where
  | webhook
  | slack
  | discord
  | telegram
  | twilio
  | gotify
  | pushover
deriving DecidableEq, Repr

inductive Kind where
  | email
  | web (kind : WebKind)
deriving DecidableEq, Repr

def WebKind.type : WebKind → String
  | .webhook => "webhook"
  | .slack => "slack"
  | .discord => "discord"
  | .telegram => "telegram"
  | .twilio => "twilio"
  | .gotify => "gotify"
  | .pushover => "pushover"

namespace Kind

def type : Kind → String
  | .email => "email"
  | .web kind => kind.type

def displayName : Kind → String
  | .email => "Email (SMTP)"
  | .web .webhook => "Generic Webhook"
  | .web .slack => "Slack"
  | .web .discord => "Discord"
  | .web .telegram => "Telegram"
  | .web .twilio => "Twilio SMS"
  | .web .gotify => "Gotify"
  | .web .pushover => "Pushover"

def label : Kind → String
  | .email => "EmailChannel"
  | .web .webhook => "WebhookChannel"
  | .web .slack => "SlackChannel"
  | .web .discord => "DiscordChannel"
  | .web .telegram => "TelegramChannel"
  | .web .twilio => "TwilioSMSChannel"
  | .web .gotify => "GotifyChannel"
  | .web .pushover => "PushoverChannel"

def requiredKeys : Kind → List String
  | .email => ["host", "port", "from_address"]
  | .web .webhook => ["url"]
  | .web .slack => ["webhook_url"]
  | .web .discord => ["webhook_url"]
  | .web .telegram => ["bot_token"]
  | .web .twilio => ["account_sid", "auth_token", "from_number"]
  | .web .gotify => ["url", "token"]
  | .web .pushover => ["app_token"]

def all : List Kind :=
  [.email, .web .webhook, .web .slack, .web .discord, .web .telegram, .web .twilio,
   .web .gotify, .web .pushover]

def ofType? (s : String) : Option Kind := all.find? (·.type == s)

end Kind

def isComplete (keys : List String) (config : Fields) : Bool :=
  keys.all fun key => !(config.getD key).isUnset

def incomplete (type : String) : Fault :=
  .sendFailed type (type ++ " channel not enabled: configuration incomplete") []

def checkRequired (type : String) (keys : List String) (config : Fields) : Except Fault Unit :=
  match keys.find? fun key => (config.getD key).isUnset with
  | some key => .error (.configInvalid type ("missing required field: " ++ key) (some key))
  | none => .ok ()

end AlertDelivery.Channel
