import AlertDelivery.Channel.Kind
import AlertDelivery.Channel.Message
import AlertDelivery.Mail
import AlertDelivery.Text.Lowercase

/-!
# Sending by mail

The mail channel writes a letter and hands it to the configured relay.
Encryption comes before the login and the letter, and is on unless it is
switched off.
-/

namespace AlertDelivery.Channel.Email

/-- Whether a switch is on: a text must be one of the words for it. -/
def isOn : Value → Bool
  | .text s => ["1", "true", "yes", "on"].contains (Text.lower (Text.trim s))
  | v => v.truthy

def letterOf (reader : Mail.Reader) (config : Fields) (m : Message) :
    Except Fault Mail.Letter :=
  if !isComplete Kind.email.requiredKeys config then .error (incomplete "email")
  else if !m.recipient.toList.contains '@' then
    .error (.sendFailed "email" ("invalid email address: " ++ Text.quoted m.recipient) [])
  else Mail.Letter.write reader (config.getD "from_address").plain m.recipient m.subject m.body

def usesTls (config : Fields) : Bool := isOn ((config.get? "use_tls").getD (.bool true))

def steps (config : Fields) (port : Int) (letter : Mail.Letter) : List Mail.Step :=
  let user := config.getD "username"
  [.connect (config.getD "host") port]
    ++ (if usesTls config then [.startTls] else [])
    ++ (if user.truthy then [.login user ((config.get? "password").getD (.text ""))] else [])
    ++ [.send letter]

/-- What a channel reports when the relay breaks off: a failed send for the
faults of mailing, any other fault as it is. -/
def reported : Fault → Fault
  | .mishap kind problem =>
    if kind.isMail then
      .sendFailed "email" ("failed to send email: " ++ (Fault.mishap kind problem).message) []
    else .mishap kind problem
  | fault => fault

def send (reader : Mail.Reader) (relay : Mail.Relay) (config : Fields) (m : Message) :
    Except Fault Unit × List Mail.Step :=
  match letterOf reader config m with
  | .error fault => (.error fault, [])
  | .ok letter =>
    match ((config.get? "port").getD (.int 587)).toInt with
    | .error fault => (.error fault, [])
    | .ok port =>
      let (result, taken) := Mail.converse relay (steps config port letter)
      (result.mapError reported, taken)

end AlertDelivery.Channel.Email
