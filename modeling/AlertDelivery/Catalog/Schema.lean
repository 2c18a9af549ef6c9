import AlertDelivery.Catalog
import AlertDelivery.Value.Numeric
import AlertDelivery.Text.Lowercase
import AlertDelivery.Web.Address

/-!
# Configuration schemas

`ChannelDefinition.clean` checks a configuration against the fields of a
definition and normalises it: defaults are filled in, numbers and booleans
become values of their kind, and fields that the definition does not know
stay as they are. It stops at the first field that is missing or malformed.
-/

namespace AlertDelivery

namespace ChannelDefinition

def refuse (d : ChannelDefinition) (f : ConfigField) (problem : String) : Fault :=
  .configInvalid d.type (f.key ++ problem) (some f.key)

def cleanNumber (d : ChannelDefinition) (f : ConfigField) (v : Value) : Except Fault Value :=
  match v.toReal? with
  | none => .error (d.refuse f " must be a number")
  | some (.error fault) => .error fault
  | some (.ok x) => match x.integral? with
    | some i => .ok (.int i)
    | none => .ok (.real x)

def trueWords : List String := ["true", "1", "yes", "on"]
def falseWords : List String := ["false", "0", "no", "off"]

def cleanBoolean (d : ChannelDefinition) (f : ConfigField) (v : Value) : Except Fault Value :=
  match v with
  | .bool b => .ok (.bool b)
  | _ =>
    let word := Text.lower (Text.trim v.plain)
    if trueWords.contains word then .ok (.bool true)
    else if falseWords.contains word then .ok (.bool false)
    else .error (d.refuse f " must be a boolean")

def cleanSelect (d : ChannelDefinition) (f : ConfigField) (v : Value) : Except Fault Value :=
  if f.options.isEmpty || f.options.contains v.plain then .ok (.text v.plain)
  else .error (d.refuse f (" must be one of " ++ ", ".intercalate f.options))

def cleanUrl (d : ChannelDefinition) (f : ConfigField) (v : Value) : Except Fault Value :=
  match Web.Address.read v.plain with
  | .error problem => .error (.badValue problem)
  | .ok address =>
    if (address.scheme == "http" || address.scheme == "https") && address.authority != "" then
      .ok (.text v.plain)
    else .error (d.refuse f " must be an http(s) URL")

def cleanField (d : ChannelDefinition) (f : ConfigField) (v : Value) : Except Fault Value :=
  match f.kind with
  | .number => d.cleanNumber f v
  | .boolean => d.cleanBoolean f v
  | .select => d.cleanSelect f v
  | .url => d.cleanUrl f v
  | .text | .password => .ok (.text v.plain)

/-- One step of `clean`: an unset field takes its default, is refused if it
is required, and is dropped otherwise. -/
def cleanStep (d : ChannelDefinition) (config : Fields) (f : ConfigField) :
    Except Fault Fields :=
  let given := config.getD f.key
  if given.isUnset then
    match f.default? with
    | some default => (d.cleanField f (.text default)).map (config.put f.key)
    | none =>
      if f.required then
        .error (.configInvalid d.type ("missing required field: " ++ f.key) (some f.key))
      else .ok (config.erase f.key)
  else (d.cleanField f given).map (config.put f.key)

def clean (d : ChannelDefinition) (config : Fields) : Except Fault Fields :=
  d.fields.foldlM d.cleanStep config

end ChannelDefinition

end AlertDelivery
