import AlertDelivery.Channel.Kind
import AlertDelivery.Channel.Message
import AlertDelivery.Web.Exchange

/-!
# Posting a message

Channels of the web kinds send a message as one request. `compose` makes
the request from the configuration, or refuses before anything is sent;
`accept` says whether what came back is a delivery.
-/

namespace AlertDelivery.Channel

open Web (Request Outcome Location)

namespace WebKind

def fail {α : Type} (k : WebKind) (problem : String) : Except Fault α :=
  .error (.sendFailed k.type problem [])

def baseAddress : Value → Except Fault String
  | .text s => .ok (String.ofList (s.toList.reverse.dropWhile (· == '/')).reverse)
  | v => .error (.mishap .attribute ("'" ++ v.kindName ++ "' object has no attribute 'rstrip'"))

def locate : Value → Except Fault Location
  | .text s => Location.read s
  | v => .error (.mishap .type ("Invalid type for url.  Expected str or httpx.URL, got <class '"
      ++ v.kindName ++ "'>: " ++ v.literal))

def orDefault (config : Fields) (key default : String) : Value :=
  (config.get? key).getD (.text default)

mutual
def hasUnwritable : Value → Bool
  | .real x => x.toRat?.isNone
  | .list items => anyUnwritable items
  | .record fields => anyFieldUnwritable fields
  | _ => false
def anyUnwritable : List Value → Bool
  | [] => false
  | v :: rest => hasUnwritable v || anyUnwritable rest
def anyFieldUnwritable : List (String × Value) → Bool
  | [] => false
  | (_, v) :: rest => hasUnwritable v || anyFieldUnwritable rest
end

def documentRequest (location : Location) (secret : Option String) (fields : Fields) :
    Except Fault Request :=
  if anyFieldUnwritable fields then
    .error (.badValue "Out of range float values are not JSON compliant")
  else .ok { location, secret, body := .document (.record fields) }

def formRequest (location : Location) (fields : Fields) : Request :=
  { location, body := .form (fields.flatMap fun (name, v) => Web.formPairs name v) }

def isAscii (c : Char) : Bool := c.toNat < 0x80

def codeEscape (c : Char) : String :=
  String.ofList ('\\' :: if c.toNat ≤ 0xFF then 'x' :: Text.hexDigits 2 c.toNat
    else if c.toNat ≤ 0xFFFF then 'u' :: Text.hexDigits 4 c.toNat
    else 'U' :: Text.hexDigits 8 c.toNat)

/-- The fault of a header that is not ASCII text: it shows the first run of
characters that cannot be sent. -/
def notAscii (cs : List Char) : Fault :=
  let start := (cs.takeWhile isAscii).length
  let run := (cs.drop start).takeWhile fun c => !isAscii c
  let place := match run with
    | [c] => "character '" ++ codeEscape c ++ "' in position " ++ toString start
    | _ => "characters in position " ++ toString start ++ "-"
        ++ toString (start + run.length - 1)
  .mishap .encoding ("'ascii' codec can't encode " ++ place ++ ": ordinal not in range(128)")

/-- The shared secret of a webhook; only ASCII text fits into a header. -/
def headerSecret (config : Fields) : Except Fault (Option String) :=
  let secret := config.getD "secret"
  if !secret.truthy then .ok none
  else if secret.plain.toList.all isAscii then .ok (some secret.plain)
  else .error (notAscii secret.plain.toList)

def badAccount (position : Nat) (v : Value) : Fault :=
  .mishap .type ("sequence item " ++ toString position
    ++ ": expected a bytes-like object, " ++ v.kindName ++ " found")

def accountText : Value → Value → Except Fault String
  | .text user, .text password => .ok (user ++ ":" ++ password)
  | .text _, password => .error (badAccount 1 password)
  | user, _ => .error (badAccount 0 user)

def webhookRequest (config : Fields) (m : Message) : Except Fault Request := do
  let location ← locate (config.getD "url")
  let secret ← headerSecret config
  documentRequest location secret [
    ("recipient", .text m.recipient), ("subject", .text m.subject), ("body", .text m.body),
    ("metadata", .record m.metadata)]

def slackRequest (config : Fields) (m : Message) : Except Fault Request := do
  let location ← locate (config.getD "webhook_url")
  let channel := config.getD "channel"
  documentRequest location none ([("text", .text (chatText m.subject m.body))]
    ++ if channel.truthy then [("channel", channel)] else [])

def discordRequest (config : Fields) (m : Message) : Except Fault Request := do
  let location ← locate (config.getD "webhook_url")
  documentRequest location none [
    ("content", .text (discordText m.subject m.body)),
    ("username", orDefault config "username" "Weather Alerts")]

/-- The chat to write to: the recipient, or else the configured one. -/
def chatOf (config : Fields) (m : Message) : Value :=
  if m.recipient = "" then config.getD "chat_id" else .text m.recipient

def telegramRequest (config : Fields) (m : Message) : Except Fault Request := do
  let chat := chatOf config m
  if !chat.truthy then fail .telegram "no chat_id to deliver to"
  else
    let base ← baseAddress (orDefault config "api_base" "https://api.telegram.org")
    let location ← locate
      (.text (base ++ "/bot" ++ (config.getD "bot_token").plain ++ "/sendMessage"))
    documentRequest location none [
      ("chat_id", chat), ("text", .text (chatText m.subject m.body)),
      ("parse_mode", .text "Markdown")]

def twilioRequest (config : Fields) (m : Message) : Except Fault Request := do
  if !isPhoneNumber m.recipient then
    fail .twilio ("invalid phone number: " ++ Text.quoted m.recipient)
  else
    let sid := config.getD "account_sid"
    let base ← baseAddress (orDefault config "api_base" "https://api.twilio.com/2010-04-01")
    let location ← locate (.text (base ++ "/Accounts/" ++ sid.plain ++ "/Messages.json"))
    let account ← accountText sid (config.getD "auth_token")
    pure { formRequest location [
        ("To", .text m.recipient), ("From", config.getD "from_number"),
        ("Body", .text (smsText m.subject m.body))] with
      authorization := some (Request.basicAuthorization account) }

def gotifyPriority (priority : Int) : Int := max 0 (min 10 priority)

def gotifyRequest (config : Fields) (m : Message) : Except Fault Request := do
  let priority ← m.priority
  let base ← baseAddress (config.getD "url")
  let location ← locate (.text (base ++ "/message"))
  documentRequest (location.withParameters (Web.formPairs "token" (config.getD "token"))) none [
    ("title", .text m.subject), ("message", .text m.body),
    ("priority", .int (gotifyPriority priority))]

/-- Urgent from 8 on, quiet up to 2. -/
def pushoverPriority (priority : Int) : Int :=
  if 8 ≤ priority then 1 else if priority ≤ 2 then -1 else 0

def pushoverRequest (config : Fields) (m : Message) : Except Fault Request := do
  if m.recipient = "" then fail .pushover "no pushover user key"
  else
    let priority ← m.priority
    let location ← locate (orDefault config "api_url" "https://api.pushover.net/1/messages.json")
    pure (formRequest location [
      ("token", config.getD "app_token"), ("user", .text m.recipient),
      ("title", .text m.subject), ("message", .text m.body),
      ("priority", .int (pushoverPriority priority))])

/-- The request that sends a message. Nothing is sent for an incomplete
configuration or a recipient that the service cannot take. -/
def compose (k : WebKind) (config : Fields) (m : Message) : Except Fault Request :=
  if !isComplete (Kind.web k).requiredKeys config then .error (incomplete k.type)
  else match k with
    | .webhook => webhookRequest config m
    | .slack => slackRequest config m
    | .discord => discordRequest config m
    | .telegram => telegramRequest config m
    | .twilio => twilioRequest config m
    | .gotify => gotifyRequest config m
    | .pushover => pushoverRequest config m

/-- A chat service may refuse a message in a successful reply. -/
def acceptDocument : Option Value → Except Fault Unit
  | none => .error (.mishap .document "Expecting value: line 1 column 1 (char 0)")
  | some (.record fields) =>
    if (Fields.getD fields "ok").truthy then .ok ()
    else fail .telegram ("telegram rejected message: "
      ++ ((Fields.get? fields "description").getD (.text "unknown error")).plain)
  | some v => .error (.mishap .attribute ("'" ++ v.kindName ++ "' object has no attribute 'get'"))

def accept (k : WebKind) : Outcome → Except Fault Unit
  | .broken problem => fail k (k.type ++ " request failed: " ++ problem)
  | .reply status document =>
    if 200 ≤ status ∧ status ≤ 299 then
      match k with
      | .telegram => acceptDocument document
      | _ => .ok ()
    else .error (.sendFailed k.type (k.type ++ " returned HTTP " ++ toString status)
      [("status_code", .int status)])

end WebKind

end AlertDelivery.Channel
