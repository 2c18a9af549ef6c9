import AlertDelivery.Value

/-!
# Faults

Why an operation did not succeed. The service's own faults carry a message,
a code, a status and details for the caller; a mishap is any other failure,
known by its kind and its text. `Fault.spendsRetry` tells the faults of a
single delivery attempt from those that stop the operation.
-/

namespace AlertDelivery

/-- Failures that are not part of the service's own vocabulary. -/
inductive Mishap where
  | value
  | type
  | overflow
  | attribute
  | key
  | index
  | runtime
  | system
  | timeout
  | encoding
  | document
  | smtp
  | smtpDisconnected
  | smtpAuthentication
  | refused
  | settings
  | recursion
  | integrity
  | address
  | argument
  | dialect
  | driver
  | unreachable
  | memory
deriving DecidableEq, Repr

def Mishap.name : Mishap → String
  | .value => "ValueError"
  | .type => "TypeError"
  | .overflow => "OverflowError"
  | .attribute => "AttributeError"
  | .key => "KeyError"
  | .index => "IndexError"
  | .runtime => "RuntimeError"
  | .system => "OSError"
  | .timeout => "TimeoutError"
  | .encoding => "UnicodeEncodeError"
  | .document => "JSONDecodeError"
  | .smtp => "SMTPException"
  | .smtpDisconnected => "SMTPServerDisconnected"
  | .smtpAuthentication => "SMTPAuthenticationError"
  | .refused => "ConnectionRefusedError"
  | .settings => "SettingsError"
  | .recursion => "RecursionError"
  | .integrity => "IntegrityError"
  | .address => "InvalidURL"
  | .argument => "ArgumentError"
  | .dialect => "NoSuchModuleError"
  | .driver => "InvalidRequestError"
  | .unreachable => "OperationalError"
  | .memory => "MemoryError"

def Mishap.all : List Mishap :=
  [.value, .type, .overflow, .attribute, .key, .index, .runtime, .system, .timeout, .encoding,
   .document, .smtp, .smtpDisconnected, .smtpAuthentication, .refused, .settings, .recursion,
   .integrity, .address, .argument, .dialect, .driver, .unreachable, .memory]

def Mishap.ofName? (s : String) : Option Mishap := all.find? (·.name == s)

def Mishap.isMail : Mishap → Bool
  | .system | .refused | .smtp | .smtpDisconnected | .smtpAuthentication | .timeout => true
  | _ => false

inductive Fault where
  | general (message : String) (code : String) (status : Int) (details : Fields)
  | notFound (resource : String) (identifiers : Fields)
  | invalid (message : String) (details : Fields)
  | configInvalid (channel message : String) (field : Option String)
  | channelNotFound (channel : String)
  | recipientUnresolved (channel : String) (user : Value)
  | sendFailed (channel message : String) (details : Fields)
  | storeUnavailable (operation message : String)
  | badRequest (status : Int) (message : String)
  | badSettings (problems : List (String × String))
  | mishap (kind : Mishap) (message : String)
deriving DecidableEq, Repr

namespace Fault

def fieldDetail : Option String → Fields
  | some field => if field = "" then [] else [("field", .text field)]
  | none => []

def name : Fault → String
  | .general .. => "NotificationServiceError"
  | .notFound .. => "NotFoundError"
  | .invalid .. => "ValidationError"
  | .configInvalid .. => "ConfigValidationError"
  | .channelNotFound .. => "ChannelNotFoundError"
  | .recipientUnresolved .. => "RecipientUnresolvedError"
  | .sendFailed .. => "ChannelSendError"
  | .storeUnavailable .. => "StoreUnavailableError"
  | .badRequest .. => "HTTPException"
  | .badSettings .. => "ValidationError"
  | .mishap kind _ => kind.name

def message : Fault → String
  | .general message .. => message
  | .notFound resource _ => resource ++ " not found"
  | .invalid message _ => message
  | .configInvalid channel message _ =>
    "Invalid configuration for '" ++ channel ++ "': " ++ message
  | .channelNotFound channel => "channel not found: " ++ channel
  | .recipientUnresolved channel _ => "recipient not found for channel " ++ channel
  | .sendFailed channel message _ =>
    if message = "" then channel ++ " delivery failed" else message
  | .storeUnavailable operation message =>
    "Store unavailable during " ++ operation ++ ": " ++ message
  | .badRequest _ message => message
  | .badSettings _ => ""
  | .mishap .key message => Text.quoted message
  | .mishap _ message => message

structure Notice where
  code : String
  status : Int
  details : Fields

def notice? : Fault → Option Notice
  | .general _ code status details => some ⟨code, status, details⟩
  | .notFound resource identifiers =>
    some ⟨"NOT_FOUND", 404, ("resource", .text resource) :: identifiers⟩
  | .invalid _ details => some ⟨"VALIDATION_ERROR", 422, details⟩
  | .configInvalid channel _ field =>
    some ⟨"CHANNEL_CONFIG_INVALID", 422, ("channel", .text channel) :: fieldDetail field⟩
  | .channelNotFound channel => some ⟨"CHANNEL_NOT_FOUND", 404, [("channel", .text channel)]⟩
  | .recipientUnresolved channel user =>
    some ⟨"RECIPIENT_UNRESOLVED", 422, [("channel", .text channel), ("user_id", user)]⟩
  | .sendFailed channel _ details =>
    some ⟨"CHANNEL_SEND_FAILED", 502, Fields.overlay [("channel", .text channel)] details⟩
  | .storeUnavailable operation _ =>
    some ⟨"STORE_UNAVAILABLE", 503, [("operation", .text operation)]⟩
  | .badRequest .. | .badSettings .. | .mishap .. => none

/-- The faults of a single delivery attempt: each uses up one retry. -/
def spendsRetry : Fault → Bool
  | .channelNotFound _ | .recipientUnresolved .. | .sendFailed .. => true
  | _ => false

def channel? : Fault → Option String
  | .channelNotFound channel | .sendFailed channel .. => some channel
  | _ => none

def badValue (message : String) : Fault := .mishap .value message

/-- The outcome lies outside the years that an instant can have. -/
def dateOverflow : Fault := .mishap .overflow "date value out of range"

def tooLargeForReal : Fault := .mishap .overflow "int too large to convert to float"

end Fault

end AlertDelivery
