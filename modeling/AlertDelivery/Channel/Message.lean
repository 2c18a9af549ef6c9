import AlertDelivery.Text
import AlertDelivery.Value.Numeric

/-!
# Messages

What a channel is asked to deliver, and the rules for its text that
several channels share.
-/

namespace AlertDelivery.Channel

structure Message where
  recipient : String
  subject : String
  body : String
  metadata : Fields := []
deriving DecidableEq, Repr

def Message.trial (recipient : String) : Message where
  recipient := recipient
  subject := "Weather notification test"
  body := "This is a test notification. If you received it, the channel is configured correctly."
  metadata := [("test", .bool true)]

def chatText (subject body : String) : String :=
  if subject = "" then body else "*" ++ subject ++ "*\n" ++ body

def shortened (limit : Nat) (s : String) : String :=
  if limit < s.length then String.ofList (s.toList.take (limit - 3)) ++ "..." else s

/-- Four segments of 160 characters. -/
def smsLimit : Nat := 640

def smsText (subject body : String) : String :=
  shortened smsLimit (if subject = "" then body else "[" ++ subject ++ "] " ++ body)

def discordLimit : Nat := 2000

def discordText (subject body : String) : String :=
  shortened discordLimit (if subject = "" then body else "**" ++ subject ++ "**\n" ++ body)

/-- An international phone number: a plus sign, a digit from 1 to 9, and
six to fourteen decimal digits; one line feed may follow. -/
def isPhoneNumber (s : String) : Bool :=
  match s.toList with
  | '+' :: first :: rest =>
    let digits := rest.takeWhile Text.isDecimalDigit
    let after := rest.dropWhile Text.isDecimalDigit
    '1' ≤ first && first ≤ '9' && 6 ≤ digits.length && digits.length ≤ 14
      && (after == [] || after == ['\n'])
  | _ => false

/-- The queue's own priority that came with a message; 5 if there is none
or it is no number. -/
def Message.priority (m : Message) : Except Fault Int :=
  match m.metadata.get? "priority" with
  | none => .ok 5
  | some v => match v.toInt with
    | .ok i => .ok i
    | .error (.mishap .overflow problem) => .error (.mishap .overflow problem)
    | .error _ => .ok 5

end AlertDelivery.Channel
