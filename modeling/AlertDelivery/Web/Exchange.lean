import AlertDelivery.Text.Encoding
import AlertDelivery.Web.Location

/-!
# Web exchanges

The one request that a channel posts, and what may come of it. Only the
parts of a request that identify it are kept: where it goes, the headers
that carry secrets, and the body.
-/

namespace AlertDelivery.Web

inductive Body where
  | document (v : Value)
  | form (pairs : List (String × String))
deriving DecidableEq, Repr

structure Request where
  location : Location
  authorization : Option String := none
  secret : Option String := none
  body : Body
deriving DecidableEq, Repr

/-- What comes of a request: a reply, with its content if that is a JSON
document, or no reply at all. -/
inductive Outcome where
  | reply (status : Int) (document : Option Value)
  | broken (message : String)
deriving Repr

namespace Request

def basicAuthorization (account : String) : String := "Basic " ++ Text.base64 account

def contentType : Body → String
  | .document _ => "application/json"
  | .form _ => "application/x-www-form-urlencoded"

/-- The authorization that is sent: the given one, or else the account of
the location. -/
def sentAuthorization (r : Request) : Option String :=
  match r.authorization with
  | some authorization => some authorization
  | none => r.location.account.map fun account => basicAuthorization (Text.pathDecoded account)

def headers (r : Request) : Fields :=
  (match r.sentAuthorization with
    | some authorization => [("authorization", .text authorization)]
    | none => [])
    ++ [("content-type", .text (contentType r.body))]
    ++ (match r.secret with
      | some secret => [("x-webhook-secret", .text secret)]
      | none => [])

def describeBody : Body → Value
  | .document v => v
  | .form pairs => .list (pairs.map fun (name, value) => .list [.text name, .text value])

def describe (r : Request) : Value := .record [
  ("method", .text "POST"), ("url", .text r.location.text), ("headers", .record r.headers),
  ("body", describeBody r.body)]

end Request

/-- A value in a form or query: truth values in lower case, nothing for
null, and plain text otherwise. -/
def formText : Value → String
  | .bool b => if b then "true" else "false"
  | .null => ""
  | v => v.plain

def formPairs (name : String) : Value → List (String × String)
  | .list items => items.map fun v => (name, formText v)
  | v => [(name, formText v)]

end AlertDelivery.Web
