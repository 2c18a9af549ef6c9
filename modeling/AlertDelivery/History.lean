import AlertDelivery.Queue.Table

/-!
# Attempt history

One record for every delivery attempt, appended and never changed. Records
leave the log only when they are older than the retention period.
-/

namespace AlertDelivery.History

/-- How an attempt ended. A `foreign` status is a stored word that is none
of the known ones. -/
inductive Status where
  | delivered
  | failed
  | deadLetter
  | foreign (word : String)
deriving DecidableEq, Repr

namespace Status

def name : Status → String
  | .delivered => "delivered"
  | .failed => "failed"
  | .deadLetter => "dead_letter"
  | .foreign word => word

def known : List Status := [.delivered, .failed, .deadLetter]

def ofName? (s : String) : Option Status := known.find? (·.name == s)

def ofStored (s : String) : Status := (ofName? s).getD (.foreign s)

def unknown (s : String) : Fault := .badValue (Text.quoted s ++ " is not a valid HistoryStatus")

def read (s : String) : Except Fault Status :=
  match ofName? s with
  | some status => .ok status
  | none => .error (unknown s)

def isError : Status → Bool
  | .failed | .deadLetter => true
  | _ => false

end Status

structure Attempt where
  id : Int
  queueId : Option Int := none
  user : Option Int := none
  channel : String
  status : Status
  subject : Option String := none
  body : Option String := none
  sentAt : Instant
  deliveredAt : Option Instant := none
  error : Option String := none
  metadata : Option Fields := none
deriving DecidableEq

structure Log where
  attempts : List Attempt := []
deriving DecidableEq

/-- An attempt as it is shown; one with a foreign status cannot be. -/
def Attempt.item (a : Attempt) : Except Fault Value :=
  match a.status with
  | .foreign word => .error (Status.unknown word)
  | _ => .ok (.record [
      ("id", .int a.id), ("queue_id", .optional .int a.queueId),
      ("user_id", .optional .int a.user), ("channel_type", .text a.channel),
      ("status", .text a.status.name), ("subject", .text (a.subject.getD "")),
      ("sent_at", .text a.sentAt.text), ("delivered_at", .optional Instant.toValue a.deliveredAt),
      ("error_message", .optional .text a.error), ("metadata", .record (a.metadata.getD []))])

/-- Every column of an attempt as it is stored. -/
def Attempt.describe (a : Attempt) : Value := .record [
  ("id", .int a.id), ("queue_id", .optional .int a.queueId), ("user_id", .optional .int a.user),
  ("channel_type", .text a.channel), ("status", .text a.status.name),
  ("subject", .optional .text a.subject), ("body", .optional .text a.body),
  ("sent_at", .text a.sentAt.text), ("delivered_at", .optional Instant.toValue a.deliveredAt),
  ("error_message", .optional .text a.error), ("metadata", .optional .record a.metadata)]

def roundedDuration : Number → Value
  | .whole i => .int i
  | .real (.finite q) => .real (Binary64.roundPlaces 1 q)
  | .real x => .real x

def metadataOf (e : Queue.Entry) (duration : Option Number) : Fields :=
  [("retry_count", .int e.retryCount), ("priority", .int e.priority)]
    ++ match duration with
      | some d => [("duration_ms", roundedDuration d)]
      | none => []

/-- Newer first, then higher id. -/
def Attempt.listedBefore (a b : Attempt) : Bool :=
  if a.sentAt ≠ b.sentAt then b.sentAt < a.sentAt else b.id ≤ a.id

namespace Log

def nextId (log : Log) : Int := (log.attempts.map (·.id)).foldl max 0 + 1

def put (log : Log) (a : Attempt) : Log :=
  ⟨log.attempts.filter (·.id < a.id) ++ a :: log.attempts.filter (a.id < ·.id)⟩

def append (log : Log) (e : Queue.Entry) (status : Status) (error : Option String)
    (duration : Option Number) (now : Instant) : Except Fault (Int × Log) := do
  Queue.storable ([e.id] ++ e.user.toList)
  let attempt : Attempt := {
    id := log.nextId, queueId := some e.id, user := e.user, channel := e.channel, status,
    subject := some e.subject, body := some e.body, sentAt := now,
    deliveredAt := if status = .delivered then some now else none, error,
    metadata := some (metadataOf e duration) }
  pure (attempt.id, ⟨log.attempts ++ [attempt]⟩)

def matching (log : Log) (channel : Option String) (status : Option Status) : List Attempt :=
  (log.attempts.filter fun a => channel.all (a.channel == ·) && status.all (a.status == ·))
    |>.mergeSort Attempt.listedBefore

def maxPageSize : Int := 500

def clampLimit (limit : Int) : Int := max 1 (min limit maxPageSize)

structure Page where
  items : List Value
  total : Nat
  limit : Int
  offset : Int

def Page.describe (p : Page) : Value := .record [
  ("items", .list p.items), ("total", .int p.total), ("limit", .int p.limit),
  ("offset", .int p.offset)]

def list (log : Log) (channel : Option String) (status : Option Status) (limit offset : Int) :
    Except Fault Page := do
  let limit := clampLimit limit
  let offset := max 0 offset
  Queue.storable [offset]
  let found := log.matching channel status
  let items ← (Queue.Table.page (some limit) offset found).mapM Attempt.item
  pure ⟨items, found.length, limit, offset⟩

def recentErrors (log : Log) (limit : Int) : Except Fault (List Value) := do
  Queue.storable [limit]
  let found := (log.attempts.filter (·.status.isError)).mergeSort Attempt.listedBefore
  (Queue.Table.page (some limit) 0 found).mapM Attempt.item

def window (log : Log) (since : Option Instant) : List Attempt :=
  log.attempts.filter fun a => since.all (· ≤ a.sentAt)

structure Summary where
  since : Option Instant
  byStatus : List (String × Nat)
  byChannel : List (String × List (String × Nat))

def distinct (names : List String) : List String := names.eraseDups

def summary (log : Log) (since : Option Instant) : Summary :=
  let found := log.window since
  { since
    byStatus := Queue.Table.tallies (found.map (·.status.name))
    byChannel := (distinct (found.map (·.channel))).map fun channel =>
      (channel, Queue.Table.tallies
        ((found.filter (·.channel == channel)).map (·.status.name))) }

namespace Summary

def total (s : Summary) : Nat := Queue.Table.countTotal s.byStatus

def delivered (s : Summary) : Nat := (s.byStatus.lookup "delivered").getD 0

/-- The value of a binary64 number, zero when it is not finite. -/
def valueOf (x : Binary64) : Rat := x.toRat?.getD 0

def deliveryRate (s : Summary) : Binary64 :=
  if s.total = 0 then .finite 0
  else Binary64.roundPlaces 2
    (valueOf (Binary64.nearest (100 * s.delivered / s.total : Rat)))

/-- What is missing to a hundred percent; zero when there are no attempts. -/
def errorRate (s : Summary) : Binary64 :=
  if s.total = 0 then .finite 0
  else Binary64.roundPlaces 2 (valueOf (Binary64.nearest (100 - valueOf s.deliveryRate)))

def describe (s : Summary) : Fields := [
  ("since", .optional Instant.toValue s.since), ("total_attempts", .int s.total),
  ("by_status", Queue.Table.showCounts s.byStatus),
  ("by_channel", .record (s.byChannel.map fun (c, counts) =>
    (c, Queue.Table.showCounts counts))),
  ("delivery_rate_percent", .real s.deliveryRate),
  ("error_rate_percent", .real s.errorRate)]

end Summary

def cleanup (log : Log) (cutoff : Instant) : Nat × Log :=
  (log.attempts.countP (·.sentAt < cutoff),
   ⟨log.attempts.filter fun a => !(a.sentAt < cutoff)⟩)

end Log

end AlertDelivery.History
