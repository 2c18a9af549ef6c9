import AlertDelivery.Catalog

/-!
# Masked configurations

Passwords never leave the service: a mask stands in their place, and a mask
that comes back stands for the value it was put in place of.
-/

namespace AlertDelivery.Api

def mask : String := "********"

/-- Puts the mask in the place of one field's value, if that is set. -/
def maskField (config : Fields) (f : ConfigField) : Fields :=
  if f.kind = .password ∧ (config.getD f.key).truthy then config.put f.key (.text mask)
  else config

def masked (type : String) (config : Fields) : Fields :=
  match Catalog.find? type with
  | none => config
  | some d => d.fields.foldl maskField config

/-- One field of an incoming configuration: the mask stands for the stored
value, if there is one. -/
def unmaskField (stored : Fields) (field : String × Value) : String × Value :=
  match field.2, stored.get? field.1 with
  | .text s, some old => if s = mask then (field.1, old) else field
  | _, _ => field

def unmasked (stored incoming : Fields) : Fields := incoming.map (unmaskField stored)

end AlertDelivery.Api
