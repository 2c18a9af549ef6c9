import AlertDelivery.Catalog
import AlertDelivery.Queue.Entry

/-!
# Channel health

What is stored about each channel type: whether the operator wants it, how
it has fared, and its configuration. `enabled` is the operator's intent
and `state` what was observed; five failures in a row trip a channel to
`failed`, and one success clears the count.
-/

namespace AlertDelivery.Channel

/-- The observed state of a channel. A `foreign` state is a stored word
that is none of the known ones. -/
inductive HealthState where
  | disabled
  | enabled
  | testing
  | failed
  | foreign (word : String)
deriving DecidableEq, Repr

namespace HealthState

def name : HealthState → String
  | .disabled => "disabled"
  | .enabled => "enabled"
  | .testing => "testing"
  | .failed => "failed"
  | .foreign word => word

def known : List HealthState := [.disabled, .enabled, .testing, .failed]

def ofStored (s : String) : HealthState := (known.find? (·.name == s)).getD (.foreign s)

def unknown (s : String) : Fault := .badValue (Text.quoted s ++ " is not a valid ChannelHealth")

end HealthState

structure Row where
  id : Int
  type : String
  name : String
  enabled : Bool := false
  state : HealthState := .disabled
  config : Option Fields := none
  lastTestAt : Option Instant := none
  lastTestResult : Option String := none
  lastError : Option String := none
  lastSuccessAt : Option Instant := none
  failureCount : Int := 0
  createdAt : Instant
  updatedAt : Instant
deriving DecidableEq

/-- So many failures in a row trip a channel to `failed`. -/
def failureThreshold : Int := 5

namespace Row

def fields (r : Row) : Fields := r.config.getD []

def enable (now : Instant) (r : Row) : Row :=
  { r with enabled := true, state := .enabled, updatedAt := now }

def disable (now : Instant) (r : Row) : Row :=
  { r with enabled := false, state := .disabled, updatedAt := now }

def beginTest (now : Instant) (r : Row) : Row := { r with state := .testing, updatedAt := now }

def passTest (now : Instant) (r : Row) : Row :=
  { r with enabled := true, state := .enabled, lastTestAt := some now,
           lastTestResult := some "success", lastSuccessAt := some now, lastError := none,
           failureCount := 0, updatedAt := now }

def failTest (error : String) (now : Instant) (r : Row) : Row :=
  { r with state := .failed, lastTestAt := some now, lastTestResult := some "failed",
           lastError := some error, failureCount := r.failureCount + 1, updatedAt := now }

/-- A success clears the count; a failed channel goes back to what the
operator wants. -/
def recordSuccess (now : Instant) (r : Row) : Row :=
  { r with lastSuccessAt := some now, failureCount := 0, updatedAt := now,
           state := if r.state ≠ .failed then r.state
             else if r.enabled then .enabled else .disabled }

def recordFailure (error : String) (now : Instant) (r : Row) : Row :=
  { r with lastError := some error, failureCount := r.failureCount + 1, updatedAt := now,
           state := if failureThreshold ≤ r.failureCount + 1 then .failed else r.state }

def configure (config : Fields) (now : Instant) (r : Row) : Row :=
  { r with config := some config, updatedAt := now }

def describe (r : Row) : Value := .record [
  ("channel_type", .text r.type), ("channel_name", .text r.name), ("enabled", .bool r.enabled),
  ("state", .text r.state.name), ("config", .optional .record r.config),
  ("last_test_at", .optional Instant.toValue r.lastTestAt),
  ("last_test_result", .optional .text r.lastTestResult),
  ("last_error", .optional .text r.lastError),
  ("last_success_at", .optional Instant.toValue r.lastSuccessAt),
  ("failure_count", .int r.failureCount), ("created_at", .text r.createdAt.text),
  ("updated_at", .text r.updatedAt.text)]

end Row

structure Health where
  type : String
  name : String
  implemented : Bool
  enabled : Bool
  state : HealthState
  failureCount : Int
  lastTestAt : Option Instant
  lastSuccessAt : Option Instant
  lastError : Option String

namespace Health

def isDispatchable (h : Health) : Bool := h.implemented && h.enabled && h.state == .enabled

def describe (h : Health) : Fields := [
  ("channel_type", .text h.type), ("channel_name", .text h.name),
  ("implemented", .bool h.implemented), ("enabled", .bool h.enabled),
  ("state", .text h.state.name), ("failure_count", .int h.failureCount),
  ("last_test_at", .optional Instant.toValue h.lastTestAt),
  ("last_success_at", .optional Instant.toValue h.lastSuccessAt),
  ("last_error", .optional .text h.lastError)]

end Health

def Row.health (r : Row) (implemented : Bool) : Except Fault Health :=
  match r.state with
  | .foreign word => .error (HealthState.unknown word)
  | _ => .ok {
      type := r.type, name := r.name, implemented, enabled := r.enabled, state := r.state,
      failureCount := r.failureCount, lastTestAt := r.lastTestAt,
      lastSuccessAt := r.lastSuccessAt, lastError := r.lastError }

def notFound (type : String) : Fault := .notFound "channel" [("channel_type", .text type)]

structure Table where
  rows : List Row := []
deriving DecidableEq

namespace Table

def nextId (t : Table) : Int := (t.rows.map (·.id)).foldl max 0 + 1

def find? (t : Table) (type : String) : Option Row := t.rows.find? (·.type == type)

def get (t : Table) (type : String) : Except Fault Row :=
  match t.find? type with
  | some r => .ok r
  | none => .error (notFound type)

def put (t : Table) (r : Row) : Table :=
  ⟨t.rows.filter (·.id < r.id) ++ r :: t.rows.filter (r.id < ·.id)⟩

def update (t : Table) (type : String) (f : Row → Row) : Table :=
  ⟨t.rows.map fun r => if r.type == type then f r else r⟩

/-- Changes the row of a type, which must exist. -/
def modify (t : Table) (type : String) (f : Row → Row) : Except Fault Table :=
  match t.find? type with
  | some _ => .ok (t.update type f)
  | none => .error (notFound type)

def addMissing (now : Instant) (t : Table) (d : ChannelDefinition) : Table :=
  match t.find? d.type with
  | some _ => t
  | none => ⟨t.rows ++ [{
      id := t.nextId, type := d.type, name := d.name, config := some [],
      createdAt := now, updatedAt := now }]⟩

def addCatalog (t : Table) (now : Instant) : Nat × Table :=
  let filled := Catalog.definitions.foldl (addMissing now) t
  (filled.rows.length - t.rows.length, filled)

def sorted (t : Table) : List Row := t.rows.mergeSort fun a b => decide (a.type ≤ b.type)

def enabledTypes (t : Table) : List String :=
  (t.sorted.filter fun r => r.enabled && r.state == .enabled).map (·.type)

def configured (t : Table) : List (String × Fields) :=
  (t.rows.filter fun r => !r.fields.isEmpty).map fun r => (r.type, r.fields)

end Table

end AlertDelivery.Channel
