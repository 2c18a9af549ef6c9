import AlertDelivery.Intake
import AlertDelivery.Queue.Table

/-!
# Forms

The shapes of request bodies and query parameters. A form is read as a
whole, and every problem in it is reported with its place.
-/

namespace AlertDelivery.Api

abbrev Problems := List (String × Intake.Problem)

abbrev Checked (α : Type) := Except Problems α

namespace Checked

/-- Two parts of a form: the problems of both are kept. -/
def both {α β : Type} (a : Checked α) (b : Checked β) : Checked (α × β) :=
  match a, b with
  | .ok a, .ok b => .ok (a, b)
  | .error p, .ok _ => .error p
  | .ok _, .error q => .error q
  | .error p, .error q => .error (p ++ q)

def ofProblem {α : Type} (place : String) : Except Intake.Problem α → Checked α
  | .ok a => .ok a
  | .error p => .error [(place, p)]

/-- Every item of a list with its own place. -/
def each {α : Type} (place : String) (read : Value → Except Intake.Problem α) :
    Nat → List Value → Checked (List α)
  | _, [] => .ok []
  | n, v :: rest =>
    (both (ofProblem (place ++ "." ++ toString n) (read v)) (each place read (n + 1) rest)).map
      fun (a, more) => a :: more

end Checked

open Checked (ofProblem)

def filledText (v : Value) : Except Intake.Problem String := do
  let s ← Intake.text v
  if s = "" then .error .textTooShort else .ok s

def intBetween (low : Int) (high : Option Int) (v : Value) : Except Intake.Problem Int := do
  let i ← Intake.int v
  if i < low then .error .tooLow
  else if high.any (· < i) then .error .tooHigh
  else .ok i

def optionalInt : Value → Except Intake.Problem (Option Int)
  | .null => .ok none
  | v => (Intake.int v).map some

def record : Value → Except Intake.Problem Fields
  | .record fields => .ok fields
  | _ => .error .recordType

def required {α : Type} (body : Fields) (key : String)
    (read : Value → Except Intake.Problem α) : Checked α :=
  match body.get? key with
  | some v => ofProblem ("body." ++ key) (read v)
  | none => .error [("body." ++ key, .missing)]

def optional {α : Type} (body : Fields) (key : String) (default : α)
    (read : Value → Except Intake.Problem α) : Checked α :=
  match body.get? key with
  | some v => ofProblem ("body." ++ key) (read v)
  | none => .ok default

def bodyFields : Option Value → Checked Fields
  | none => .error [("body", .missing)]
  | some (.record fields) => .ok fields
  | some _ => .error [("body", .modelType)]

def enqueueForm (body : Option Value) : Checked Queue.Request := do
  let fields ← bodyFields body
  let parts ←
    (optional fields "user_id" none optionalInt).both <|
    (required fields "channel_type" filledText).both <|
    (optional fields "subject" "" Intake.text).both <|
    (required fields "body" filledText).both <|
    (optional fields "priority" 5 (intBetween 0 none)).both <|
    (optional fields "variables" [] record).both
    (optional fields "template_id" none optionalInt)
  let (user, channel, subject, body, priority, values, template) := parts
  pure { user, channel, subject, body, priority, values, template }

def configForm (body : Option Value) : Checked Fields := do
  required (← bodyFields body) "config" record

def testForm (body : Option Value) : Checked String := do
  optional (← bodyFields body) "recipient" "" Intake.text

def idsOf : Value → Checked (List Int)
  | .list [] => .error [("body.ids", .listTooShort)]
  | .list items => Checked.each "body.ids" Intake.int 0 items
  | _ => .error [("body.ids", .listType)]

def requeueForm (body : Option Value) : Checked (List Int) := do
  let fields ← bodyFields body
  match fields.get? "ids" with
  | some v => idsOf v
  | none => .error [("body.ids", .missing)]

def queryInt (query : List (String × String)) (key : String) (default : Int) (low : Int)
    (high : Option Int) : Checked Int :=
  match query.lookup key with
  | none => .ok default
  | some s => ofProblem ("query." ++ key) (intBetween low high (.text s))

def queryInt? (query : List (String × String)) (key : String) (low : Int) (high : Option Int) :
    Checked (Option Int) :=
  match query.lookup key with
  | none => .ok none
  | some s => (ofProblem ("query." ++ key) (intBetween low high (.text s))).map some

def pageForm (query : List (String × String)) : Checked (Int × Int) :=
  (queryInt query "limit" 50 1 (some 500)).both (queryInt query "offset" 0 0 none)

def hoursForm (query : List (String × String)) : Checked (Option Int) :=
  queryInt? query "hours" 1 (some 8760)

def entryForm (id : String) : Checked Int :=
  ofProblem "path.entry_id" (Intake.int (.text id))

end AlertDelivery.Api
