import AlertDelivery.Value

/-!
# Channel catalogue

The channel types that the service can offer, each with the fields of its
configuration form. Most types are only announced; those with fields have a
channel of their own.
-/

namespace AlertDelivery

inductive FieldKind where
  | text
  | password
  | number
  | boolean
  | select
  | url
deriving DecidableEq, Repr

def FieldKind.name : FieldKind → String
  | .text => "text"
  | .password => "password"
  | .number => "number"
  | .boolean => "boolean"
  | .select => "select"
  | .url => "url"

def FieldKind.all : List FieldKind := [.text, .password, .number, .boolean, .select, .url]

def FieldKind.ofName? (s : String) : Option FieldKind := all.find? (·.name == s)

structure ConfigField where
  key : String
  label : String
  kind : FieldKind := .text
  required : Bool := false
  default? : Option String := none
  placeholder : String := ""
  helpText : String := ""
  options : List String := []
deriving Repr

structure ChannelDefinition where
  type : String
  name : String
  category : String
  description : String := ""
  fields : List ConfigField := []
deriving Repr

namespace ConfigField

def describe (f : ConfigField) : Value :=
  .record ([("key", .text f.key), ("label", .text f.label), ("type", .text f.kind.name),
    ("required", .bool f.required),
    ("default_value", match f.default? with | some d => .text d | none => .null),
    ("placeholder", .text f.placeholder), ("help_text", .text f.helpText)]
    ++ if f.options.isEmpty then [] else [("options", .list (f.options.map .text))])

end ConfigField

namespace ChannelDefinition

def field? (d : ChannelDefinition) (key : String) : Option ConfigField :=
  d.fields.find? (·.key == key)

def describe (d : ChannelDefinition) : Value :=
  .record [("type", .text d.type), ("name", .text d.name), ("category", .text d.category),
    ("description", .text d.description),
    ("config_fields", .list (d.fields.map ConfigField.describe))]

end ChannelDefinition

namespace Catalog

def email : ChannelDefinition where
  type := "email"
  name := "Email (SMTP)"
  category := "email"
  description := "Send notifications via email using SMTP"
  fields := [
    { key := "host", label := "SMTP Host", required := true, placeholder := "smtp.gmail.com" },
    { key := "port", label := "SMTP Port", kind := .number, required := true,
      default? := some "587" },
    { key := "username", label := "Username" },
    { key := "password", label := "Password", kind := .password },
    { key := "from_address", label := "From Address", required := true,
      placeholder := "alerts@example.com" },
    { key := "use_tls", label := "Use TLS", kind := .boolean, default? := some "true" }]

def webhook : ChannelDefinition where
  type := "webhook"
  name := "Generic Webhook"
  category := "webhook"
  description := "Send notifications to custom webhook URL"
  fields := [
    { key := "url", label := "Webhook URL", kind := .url, required := true,
      placeholder := "https://example.com/hooks/weather" },
    { key := "secret", label := "Shared Secret", kind := .password,
      helpText := "Sent as the X-Webhook-Secret header" }]

def slack : ChannelDefinition where
  type := "slack"
  name := "Slack"
  category := "messaging"
  description := "Send notifications to Slack channels"
  fields := [
    { key := "webhook_url", label := "Incoming Webhook URL", kind := .url, required := true,
      placeholder := "https://hooks.slack.com/services/..." },
    { key := "channel", label := "Channel Override", placeholder := "#weather" }]

def discord : ChannelDefinition where
  type := "discord"
  name := "Discord"
  category := "messaging"
  description := "Send notifications to Discord servers"
  fields := [
    { key := "webhook_url", label := "Webhook URL", kind := .url, required := true,
      placeholder := "https://discord.com/api/webhooks/..." },
    { key := "username", label := "Bot Username", default? := some "Weather Alerts" }]

def telegram : ChannelDefinition where
  type := "telegram"
  name := "Telegram"
  category := "messaging"
  description := "Send notifications via Telegram bot"
  fields := [
    { key := "bot_token", label := "Bot Token", kind := .password, required := true },
    { key := "chat_id", label := "Default Chat ID",
      helpText := "Used when a user has no chat id of their own" }]

def twilio : ChannelDefinition where
  type := "twilio"
  name := "Twilio SMS"
  category := "sms"
  description := "Send SMS via Twilio"
  fields := [
    { key := "account_sid", label := "Account SID", required := true },
    { key := "auth_token", label := "Auth Token", kind := .password, required := true },
    { key := "from_number", label := "From Number", required := true,
      placeholder := "+15551234567" }]

def gotify : ChannelDefinition where
  type := "gotify"
  name := "Gotify"
  category := "push"
  description := "Send push notifications via Gotify"
  fields := [
    { key := "url", label := "Server URL", kind := .url, required := true,
      placeholder := "https://gotify.example.com" },
    { key := "token", label := "Application Token", kind := .password, required := true }]

def pushover : ChannelDefinition where
  type := "pushover"
  name := "Pushover"
  category := "push"
  description := "Send push notifications via Pushover"
  fields := [
    { key := "app_token", label := "Application Token", kind := .password, required := true }]

/-- A type that is announced without a form. -/
def announced (type name category description : String) : ChannelDefinition :=
  { type, name, category, description }

def definitions : List ChannelDefinition := [
  email,
  slack,
  discord,
  telegram,
  announced "whatsapp" "WhatsApp Business" "messaging"
    "Send notifications via WhatsApp Business API",
  announced "msteams" "Microsoft Teams" "messaging" "Send notifications to Teams channels",
  announced "rocketchat" "Rocket.Chat" "messaging" "Send notifications to Rocket.Chat",
  announced "mattermost" "Mattermost" "messaging" "Send notifications to Mattermost",
  announced "matrix" "Matrix" "messaging" "Send notifications via Matrix protocol",
  twilio,
  announced "nexmo" "Vonage (Nexmo) SMS" "sms" "Send SMS via Vonage",
  announced "aws_sns" "AWS SNS" "sms" "Send SMS via Amazon SNS",
  announced "plivo" "Plivo SMS" "sms" "Send SMS via Plivo",
  announced "messagebird" "MessageBird SMS" "sms" "Send SMS via MessageBird",
  announced "fcm" "Firebase Cloud Messaging" "push" "Send push notifications via FCM",
  announced "apns" "Apple Push Notification" "push" "Send push notifications to iOS devices",
  announced "onesignal" "OneSignal" "push" "Send push notifications via OneSignal",
  pushover,
  announced "pushbullet" "Pushbullet" "push" "Send notifications via Pushbullet",
  gotify,
  webhook,
  announced "zapier" "Zapier" "webhook" "Trigger Zapier workflows",
  announced "ifttt" "IFTTT" "webhook" "Trigger IFTTT applets",
  announced "n8n" "n8n" "webhook" "Trigger n8n workflows",
  announced "twilio_voice" "Twilio Voice" "voice" "Make voice calls via Twilio",
  announced "aws_connect" "AWS Connect" "voice" "Make voice calls via Amazon Connect",
  announced "jira" "Jira" "collaboration" "Create Jira tickets",
  announced "trello" "Trello" "collaboration" "Create Trello cards",
  announced "asana" "Asana" "collaboration" "Create Asana tasks",
  announced "github" "GitHub Issues" "collaboration" "Create GitHub issues",
  announced "gitlab" "GitLab Issues" "collaboration" "Create GitLab issues",
  announced "pagerduty" "PagerDuty" "monitoring" "Create PagerDuty incidents",
  announced "opsgenie" "Opsgenie" "monitoring" "Create Opsgenie alerts",
  announced "datadog" "Datadog" "monitoring" "Send events to Datadog",
  announced "newrelic" "New Relic" "monitoring" "Send events to New Relic",
  announced "splunk" "Splunk" "monitoring" "Send events to Splunk",
  announced "elastic" "Elasticsearch" "monitoring" "Index notifications in Elasticsearch",
  announced "twitter" "Twitter" "social" "Post notifications to Twitter",
  announced "mastodon" "Mastodon" "social" "Post notifications to Mastodon"]

def find? (type : String) : Option ChannelDefinition := definitions.find? (·.type == type)

def addToGroup (groups : List (String × List ChannelDefinition)) (d : ChannelDefinition) :
    List (String × List ChannelDefinition) :=
  match groups with
  | [] => [(d.category, [d])]
  | (name, ds) :: rest =>
    if name = d.category then (name, ds ++ [d]) :: rest else (name, ds) :: addToGroup rest d

def byCategory (category : Option String) : List (String × List ChannelDefinition) :=
  let wanted := match category with
    | none | some "" => definitions
    | some name => definitions.filter (·.category == name)
  wanted.foldl addToGroup []

end Catalog

end AlertDelivery
