import AlertDelivery.Fault
import AlertDelivery.Time.Instant

/-!
# Queue entries

One notification for one channel, as the queue stores it and as a worker
receives it. A row may lack a subject or values and may carry a state
word of another version; an entry has every field filled in.
-/

namespace AlertDelivery

/-- Where a notification stands between its enqueueing and its end. A
`foreign` state is a stored word that is none of the known ones. -/
inductive DeliveryState where
  | created
  | queued
  | sending
  | delivered
  | failed
  | deadLetter
  | foreign (word : String)
deriving DecidableEq, Repr

namespace DeliveryState

def name : DeliveryState → String
  | .created => "created"
  | .queued => "queued"
  | .sending => "sending"
  | .delivered => "delivered"
  | .failed => "failed"
  | .deadLetter => "dead_letter"
  | .foreign word => word

def known : List DeliveryState := [.created, .queued, .sending, .delivered, .failed, .deadLetter]

def ofName? (s : String) : Option DeliveryState := known.find? (·.name == s)

def ofStored (s : String) : DeliveryState := (ofName? s).getD (.foreign s)

def unknown (s : String) : Fault :=
  .badValue (Text.quoted s ++ " is not a valid DeliveryState")

def read (s : String) : Except Fault DeliveryState :=
  match ofName? s with
  | some state => .ok state
  | none => .error (unknown s)

def isClaimable : DeliveryState → Bool
  | .created | .queued | .failed => true
  | _ => false

def isTerminal : DeliveryState → Bool
  | .delivered | .deadLetter => true
  | _ => false

end DeliveryState

namespace Queue

structure Entry where
  id : Int
  channel : String
  subject : String
  body : String
  priority : Int := 5
  state : DeliveryState := .created
  user : Option Int := none
  template : Option Int := none
  values : Fields := []
  retryCount : Int := 0
  maxRetries : Int := 3
  nextRetryAt : Option Instant := none
  deliveredAt : Option Instant := none
  failedAt : Option Instant := none
  error : Option String := none
  createdAt : Option Instant := none
  updatedAt : Option Instant := none
deriving DecidableEq

structure Row where
  id : Int
  user : Option Int := none
  channel : String
  template : Option Int := none
  priority : Int := 5
  state : DeliveryState := .created
  subject : Option String := none
  body : String
  values : Option Fields := none
  retryCount : Int := 0
  maxRetries : Int := 3
  nextRetryAt : Option Instant := none
  deliveredAt : Option Instant := none
  failedAt : Option Instant := none
  error : Option String := none
  createdAt : Instant
  updatedAt : Instant
deriving DecidableEq

/-- The row as a worker receives it: no subject is the empty subject, and
no values are none. -/
def Row.toEntry (r : Row) : Entry :=
  { id := r.id, channel := r.channel, subject := r.subject.getD "", body := r.body,
    priority := r.priority, state := r.state, user := r.user, template := r.template,
    values := r.values.getD [], retryCount := r.retryCount, maxRetries := r.maxRetries,
    nextRetryAt := r.nextRetryAt, deliveredAt := r.deliveredAt, failedAt := r.failedAt,
    error := r.error, createdAt := some r.createdAt, updatedAt := some r.updatedAt }

def Row.entry (r : Row) : Except Fault Entry :=
  match r.state with
  | .foreign word => .error (DeliveryState.unknown word)
  | _ => .ok r.toEntry

def Entry.describe (e : Entry) : Value := .record [
  ("id", .int e.id), ("user_id", .optional .int e.user), ("channel_type", .text e.channel),
  ("template_id", .optional .int e.template), ("priority", .int e.priority),
  ("state", .text e.state.name), ("subject", .text e.subject), ("body", .text e.body),
  ("variables", .record e.values), ("retry_count", .int e.retryCount),
  ("max_retries", .int e.maxRetries), ("next_retry_at", .optional Instant.toValue e.nextRetryAt),
  ("delivered_at", .optional Instant.toValue e.deliveredAt),
  ("failed_at", .optional Instant.toValue e.failedAt),
  ("error_message", .optional .text e.error), ("created_at", .optional Instant.toValue e.createdAt),
  ("updated_at", .optional Instant.toValue e.updatedAt)]

def Row.describe (r : Row) : Value := .record [
  ("id", .int r.id), ("user_id", .optional .int r.user), ("channel_type", .text r.channel),
  ("template_id", .optional .int r.template), ("priority", .int r.priority),
  ("state", .text r.state.name), ("subject", .optional .text r.subject), ("body", .text r.body),
  ("variables", .optional .record r.values), ("retry_count", .int r.retryCount),
  ("max_retries", .int r.maxRetries), ("next_retry_at", .optional Instant.toValue r.nextRetryAt),
  ("delivered_at", .optional Instant.toValue r.deliveredAt),
  ("failed_at", .optional Instant.toValue r.failedAt),
  ("error_message", .optional .text r.error), ("created_at", .text r.createdAt.text),
  ("updated_at", .text r.updatedAt.text)]

end Queue

end AlertDelivery
