import AlertDelivery.Backoff

/-!
# Delivery policy

The limits under which notifications are delivered. Stored settings with
the prefix `notifications.` overlay a base policy one field at a time; a
text that does not parse, or a value that the policy does not admit,
changes nothing.
-/

namespace AlertDelivery

structure Policy where
  maxRetries : Int := 3
  /-- How many dispatches may have a slot; a fraction counts as one more. -/
  queueWorkers : Number := .whole 5
  batchSize : Int := 100
  /-- Sends per minute; unlimited unless positive. -/
  ratePerMinute : Int := 60
  backoff : Backoff := .exponential
  sendTimeout : Number := .real (.finite 30)
deriving DecidableEq, Repr, Inhabited

namespace Policy

def tooSmall (field bound : String) : Fault := .badValue (field ++ " must be " ++ bound)

def check (p : Policy) : Except Fault Policy :=
  if p.maxRetries < 1 then .error (tooSmall "max_retries" ">= 1")
  else if p.queueWorkers.ltInt 1 then .error (tooSmall "queue_workers" ">= 1")
  else if p.batchSize < 1 then .error (tooSmall "batch_size" ">= 1")
  else if p.ratePerMinute < 0 then .error (tooSmall "rate_limit_per_min" ">= 0")
  else if p.sendTimeout.leInt 0 then .error (tooSmall "send_timeout_seconds" "> 0")
  else .ok p

def describe (p : Policy) : Fields :=
  [("max_retries", .int p.maxRetries), ("queue_workers", p.queueWorkers.toValue),
   ("batch_size", .int p.batchSize), ("rate_limit_per_min", .int p.ratePerMinute),
   ("retry_backoff", .text p.backoff.name), ("send_timeout_seconds", p.sendTimeout.toValue)]

inductive Key where
  | retryMax
  | queueWorkers
  | batchSize
  | ratePerMinute
  | backoff
  | sendTimeout
deriving DecidableEq, Repr

def Key.name : Key → String
  | .retryMax => "retry_max"
  | .queueWorkers => "queue_workers"
  | .batchSize => "batch_size"
  | .ratePerMinute => "rate_limit_per_min"
  | .backoff => "retry_backoff"
  | .sendTimeout => "send_timeout"

def Key.all : List Key :=
  [.retryMax, .queueWorkers, .batchSize, .ratePerMinute, .backoff, .sendTimeout]

def settingStart : String := "notifications."

def Key.ofSetting? (setting : String) : Option Key :=
  Key.all.find? fun k => setting == settingStart ++ k.name

/-- The policy with one field read from a text; not yet checked. -/
def set (p : Policy) (key : Key) (raw : String) : Except Fault Policy :=
  let raw := Text.trim raw
  match key with
  | .retryMax => (Value.text raw).toInt.map fun n => { p with maxRetries := n }
  | .queueWorkers => (Value.text raw).toInt.map fun n => { p with queueWorkers := .whole n }
  | .batchSize => (Value.text raw).toInt.map fun n => { p with batchSize := n }
  | .ratePerMinute => (Value.text raw).toInt.map fun n => { p with ratePerMinute := n }
  | .backoff => (Backoff.read (.text raw)).map fun b => { p with backoff := b }
  | .sendTimeout => match Numeral.readReal? raw with
    | some x => .ok { p with sendTimeout := .real x }
    | none => .error (.badValue ("could not convert string to float: " ++ Text.quoted raw))

def override (p : Policy) (setting : String) (raw : Option String) : Policy :=
  match Key.ofSetting? setting, raw with
  | some key, some text => match p.set key text >>= check with
    | .ok q => q
    | .error _ => p
  | _, _ => p

def overlay (base : Policy) (stored : List (String × Option String)) : Policy :=
  stored.foldl (fun p (setting, raw) => p.override setting raw) base

/-- A policy as it is proposed, before its fields are known to be numbers. -/
structure Draft where
  maxRetries : Value := .int 3
  queueWorkers : Value := .int 5
  batchSize : Value := .int 100
  ratePerMinute : Value := .int 60
  backoff : Backoff := .exponential
  sendTimeout : Value := .real (.finite 30)

namespace Draft

def put (d : Draft) (field : String) (v : Value) : Except Fault Draft :=
  match field with
  | "max_retries" => .ok { d with maxRetries := v }
  | "queue_workers" => .ok { d with queueWorkers := v }
  | "batch_size" => .ok { d with batchSize := v }
  | "rate_limit_per_min" => .ok { d with ratePerMinute := v }
  | "retry_backoff" => (Backoff.read v).map fun b => { d with backoff := b }
  | "send_timeout_seconds" => .ok { d with sendTimeout := v }
  | _ => .error (.mishap .type ("unexpected policy field " ++ Text.quoted field))

/-- Refuses a value that is no number or fails a comparison. -/
def require (v : Value) (fails : Number → Bool) (problem : Fault) : Except Fault Unit :=
  match v.number? with
  | none => .error (.mishap .type "values cannot be compared")
  | some n => if fails n then .error problem else .ok ()

def check (d : Draft) : Except Fault Draft := do
  require d.maxRetries (·.ltInt 1) (tooSmall "max_retries" ">= 1")
  require d.queueWorkers (·.ltInt 1) (tooSmall "queue_workers" ">= 1")
  require d.batchSize (·.ltInt 1) (tooSmall "batch_size" ">= 1")
  require d.ratePerMinute (·.ltInt 0) (tooSmall "rate_limit_per_min" ">= 0")
  require d.sendTimeout (·.leInt 0) (tooSmall "send_timeout_seconds" "> 0")
  pure d

/-- Overlays fields by name, the strategy before all others, and checks the
result. -/
def ofFields (start : Draft) (fields : Fields) : Except Fault Draft := do
  let (strategy, rest) := fields.partition (·.1 == "retry_backoff")
  (← (strategy ++ rest).foldlM (fun d (k, v) => d.put k v) start).check

def describe (d : Draft) : Fields :=
  [("max_retries", d.maxRetries), ("queue_workers", d.queueWorkers),
   ("batch_size", d.batchSize), ("rate_limit_per_min", d.ratePerMinute),
   ("retry_backoff", .text d.backoff.name), ("send_timeout_seconds", d.sendTimeout)]

/-- A number without a fraction, for the fields that the store counts with. -/
def wholeOf (v : Value) : Except Fault Int :=
  match v.number? with
  | some (.whole i) => .ok i
  | _ => .error (.mishap .type "a whole number is needed")

def toPolicy (d : Draft) : Except Fault Policy := do
  let maxRetries ← wholeOf d.maxRetries
  let batchSize ← wholeOf d.batchSize
  let ratePerMinute ← wholeOf d.ratePerMinute
  let queueWorkers := d.queueWorkers.number?.getD (.whole 0)
  let sendTimeout := d.sendTimeout.number?.getD (.whole 0)
  pure { maxRetries, queueWorkers, batchSize, ratePerMinute, backoff := d.backoff, sendTimeout }

def ofPolicy (p : Policy) : Draft :=
  { maxRetries := .int p.maxRetries, queueWorkers := p.queueWorkers.toValue,
    batchSize := .int p.batchSize, ratePerMinute := .int p.ratePerMinute,
    backoff := p.backoff, sendTimeout := p.sendTimeout.toValue }

end Draft

end Policy

end AlertDelivery
