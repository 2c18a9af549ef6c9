import AlertDelivery.Queue.Entry
import AlertDelivery.Text

/-!
# Recipients

The address a notification goes to: what the user prefers for the channel,
else the user's account address for mail, else what the notification
itself names.
-/

namespace AlertDelivery

/-- An account; only its mail address matters here. -/
structure User where
  id : Int
  username : String
  email : Option String := none
deriving DecidableEq, Repr

structure Preference where
  id : Int
  user : Int
  channel : String
  enabled : Bool := true
  config : Value := .null
deriving DecidableEq, Repr

namespace Recipient

def address? (v : Value) : Option String :=
  match v with
  | .null => none
  | _ => some (Text.trim v.plain) |>.filter (· != "")

/-- The channel for which an account's own address is used. -/
def accountChannel : String := "email"

def preferred? (preferences : List Preference) (user : Int) (channel : String) : Option String :=
  match preferences.find? fun p => p.user == user && p.channel == channel && p.enabled with
  | some p => match p.config with
    | .record fields => address? (Fields.getD fields "address")
    | _ => none
  | none => none

def account? (users : List User) (user : Int) : Option String :=
  match users.find? (·.id == user) with
  | some u => u.email.bind fun email => address? (.text email)
  | none => none

def ofUser? (users : List User) (preferences : List Preference) (user : Int)
    (channel : String) : Option String :=
  (preferred? preferences user channel).or
    (if channel = accountChannel then account? users user else none)

def named? (e : Queue.Entry) : Option String := address? (Fields.getD e.values "recipient")

def unresolved (e : Queue.Entry) : Fault :=
  .recipientUnresolved e.channel (.optional .int e.user)

end Recipient

end AlertDelivery
