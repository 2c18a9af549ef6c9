import AlertDelivery.Backoff
import AlertDelivery.Queue.Entry

/-!
# Queue table

The stored notifications and the operations on them. Each operation is one
transaction: it answers and gives the new table, or it fails and there is
no new table. A claim takes the best eligible rows into `sending`; outcomes
apply only to a row that is still `sending`.
-/

namespace AlertDelivery.Queue

/-- Rows in the order of their ids. -/
structure Table where
  rows : List Row := []
deriving DecidableEq

def isStorable (i : Int) : Bool := -9223372036854775808 ≤ i && i ≤ 9223372036854775807

def tooLargeToStore : Fault :=
  .mishap .overflow "Python int too large to convert to SQLite INTEGER"

def storable (ints : List Int) : Except Fault Unit :=
  if ints.all isStorable then .ok () else .error tooLargeToStore

def maxVariables : Nat := 32766

def tooManyVariables (operation : String) : Fault :=
  .storeUnavailable operation "too many SQL variables"

/-- Refuses ids that a statement with some variables of its own cannot name,
each id being one more variable. -/
def nameable (operation : String) (own : Nat) (ids : List Int) : Except Fault Unit :=
  if own + ids.length ≤ maxVariables then storable ids else .error (tooManyVariables operation)

structure Request where
  user : Option Int := none
  channel : String
  subject : String := ""
  body : String := ""
  priority : Int := 5
  values : Fields := []
  maxRetries : Int := 3
  template : Option Int := none

def Request.row (q : Request) (id : Int) (now : Instant) : Row :=
  { id, user := q.user, channel := q.channel, template := q.template, priority := q.priority,
    state := .created, subject := some q.subject, body := q.body, values := some q.values,
    retryCount := 0, maxRetries := q.maxRetries, createdAt := now, updatedAt := now }

def maxErrorLength : Nat := 2000

def keptError (error : String) : String :=
  String.ofList ((if error = "" then "unknown error" else error).toList.take maxErrorLength)

namespace Row

def isEligible (now : Instant) (r : Row) : Bool :=
  r.state.isClaimable && match r.nextRetryAt with
    | none => true
    | some due => due ≤ now

/-- The order of claiming: higher priority, then older, then lower id. -/
def claimedBefore (a b : Row) : Bool :=
  if a.priority ≠ b.priority then b.priority < a.priority
  else if a.createdAt ≠ b.createdAt then a.createdAt < b.createdAt
  else a.id ≤ b.id

/-- The order of listing: newer first, then higher id. -/
def listedBefore (a b : Row) : Bool :=
  if a.createdAt ≠ b.createdAt then b.createdAt < a.createdAt else b.id ≤ a.id

def claimed (now : Instant) (r : Row) : Row := { r with state := .sending, updatedAt := now }

/-- Whether an outcome for the id applies: its row is still `sending`. -/
def isSending (id : Int) (r : Row) : Bool := r.id == id && r.state == .sending

def delivered (now : Instant) (r : Row) : Row :=
  { r with state := .delivered, deliveredAt := some now, nextRetryAt := none, updatedAt := now }

/-- A row with one more retry used up. A row whose update time would not
change takes the clock's time. -/
def spent (r : Row) (error : String) (now clock : Instant) : Row :=
  { r with
    retryCount := min (r.retryCount + 1) r.maxRetries
    error := some (keptError error)
    updatedAt := if now = r.updatedAt then clock else now }

def buried (now : Instant) (r : Row) : Row :=
  { r with state := .deadLetter, nextRetryAt := none, failedAt := some now }

def postponed (due : Instant) (r : Row) : Row :=
  { r with state := .failed, nextRetryAt := some due }

/-- A row after a failed attempt: dead when its retries are used up, and
due again after a delay otherwise. The strategy is read only in the second
case. -/
def failed (r : Row) (error : String) (strategy : Value) (now clock : Instant) :
    Except Fault Row := do
  let r := r.spent error now clock
  if r.maxRetries ≤ r.retryCount then pure (r.buried now)
  else
    let strategy ← Backoff.read strategy
    match strategy.nextRetry? r.retryCount now with
    | some due => pure (r.postponed due)
    | none => .error Fault.dateOverflow

def deliveredBefore (cutoff : Instant) (r : Row) : Bool :=
  r.state == .delivered && match r.deliveredAt with
    | some at_ => at_ < cutoff
    | none => false

def requeued (now : Instant) (r : Row) : Row :=
  { r with state := .queued, retryCount := 0, nextRetryAt := none, error := none,
           updatedAt := now }

def isDeadAmong (ids : List Int) (r : Row) : Bool :=
  ids.contains r.id && r.state == .deadLetter

def isStale (cutoff : Instant) (exclude : List Int) (r : Row) : Bool :=
  r.state == .sending && r.updatedAt < cutoff && !exclude.contains r.id

def released (now : Instant) (r : Row) : Row := { r with state := .queued, updatedAt := now }

end Row

namespace Table

def nextId (t : Table) : Int := (t.rows.map (·.id)).foldl max 0 + 1

def find? (t : Table) (id : Int) : Option Row := t.rows.find? (·.id == id)

def put (t : Table) (r : Row) : Table :=
  ⟨t.rows.filter (·.id < r.id) ++ r :: t.rows.filter (r.id < ·.id)⟩

def updateWhere (t : Table) (p : Row → Bool) (f : Row → Row) : Table :=
  ⟨t.rows.map fun r => if p r then f r else r⟩

def countWhere (t : Table) (p : Row → Bool) : Nat := t.rows.countP p

def enqueue (t : Table) (q : Request) (now : Instant) : Except Fault (Int × Table) := do
  storable (t.nextId :: (q.user.toList ++ [q.priority, q.maxRetries] ++ q.template.toList))
  pure (t.nextId, ⟨t.rows ++ [q.row t.nextId now]⟩)

def eligible (t : Table) (now : Instant) : List Row :=
  (t.rows.filter (Row.isEligible now)).mergeSort Row.claimedBefore

/-- Takes up to `limit` eligible rows into `sending`, best first. -/
def claim (t : Table) (limit : Int) (now : Instant) : Except Fault (List Entry × Table) := do
  storable [limit]
  let taken := (t.eligible now).take limit.toNat
  let ids := taken.map (·.id)
  pure (taken.map fun r => (Row.claimed now r).toEntry,
    t.updateWhere (fun r => ids.contains r.id) (Row.claimed now))

def markDelivered (t : Table) (id : Int) (now : Instant) : Except Fault (Bool × Table) := do
  storable [id]
  pure (t.rows.any (Row.isSending id), t.updateWhere (Row.isSending id) (Row.delivered now))

/-- Uses up one retry of a notification that is still `sending`, and gives
its entry; nothing happens to any other. -/
def markFailed (t : Table) (id : Int) (error : String) (strategy : Value)
    (now clock : Instant) : Except Fault (Option Entry × Table) := do
  storable [id]
  match t.rows.find? (Row.isSending id) with
  | none => pure (none, t)
  | some r =>
    let failed ← Row.failed r error strategy now clock
    pure (some failed.toEntry, t.updateWhere (Row.isSending id) fun _ => failed)

def get (t : Table) (id : Int) : Except Fault (Option Entry) := do
  storable [id]
  match t.find? id with
  | none => pure none
  | some r => r.entry.map some

def page {α : Type} (limit : Option Int) (offset : Int) (xs : List α) : List α :=
  let rest := xs.drop offset.toNat
  match limit with
  | none => rest
  | some n => if n < 0 then rest else rest.take n.toNat

/-- An empty text filters nothing. -/
def wanted (s : Option String) : Option String := s.filter (· != "")

def matching (t : Table) (state : Option DeliveryState) (channel : Option String) : List Row :=
  (t.rows.filter fun r => (state.all (r.state == ·)) && (channel.all (r.channel == ·)))
    |>.mergeSort Row.listedBefore

def list (t : Table) (state : Option DeliveryState) (channel : Option String)
    (limit : Option Int) (offset : Int) : Except Fault (List Entry) := do
  storable (limit.toList ++ [offset])
  (page limit offset (t.matching state channel)).mapM Row.entry

def tally (counts : List (String × Nat)) (key : String) : List (String × Nat) :=
  match counts with
  | [] => [(key, 1)]
  | (k, n) :: rest => if k = key then (k, n + 1) :: rest else (k, n) :: tally rest key

def tallies (keys : List String) : List (String × Nat) := keys.foldl tally []

def countTotal : List (String × Nat) → Nat
  | [] => 0
  | (_, n) :: rest => n + countTotal rest

structure Stats where
  byState : List (String × Nat)
  byChannel : List (String × Nat)
  pending : Nat
  deadLetters : Nat
deriving DecidableEq

def Stats.total (s : Stats) : Nat := countTotal s.byState

def stats (t : Table) (now : Instant) : Stats where
  byState := tallies (t.rows.map (·.state.name))
  byChannel := tallies ((t.rows.filter fun r => !r.state.isTerminal).map (·.channel))
  pending := t.countWhere (Row.isEligible now)
  deadLetters := t.countWhere (·.state == .deadLetter)

def showCounts (counts : List (String × Nat)) : Value :=
  .record (counts.map fun (k, n) => (k, .int n))

def Stats.describe (s : Stats) : Fields := [
  ("total", .int s.total), ("by_state", showCounts s.byState),
  ("by_channel", showCounts s.byChannel), ("pending", .int s.pending),
  ("dead_letters", .int s.deadLetters)]

def cleanup (t : Table) (cutoff : Instant) : Nat × Table :=
  (t.countWhere (Row.deliveredBefore cutoff),
   ⟨t.rows.filter fun r => !Row.deliveredBefore cutoff r⟩)

/-- Puts dead letters back into the queue with their counters reset; other
ids are left alone. -/
def requeue (t : Table) (ids : List Int) (now : Instant) : Except Fault (Nat × Table) := do
  nameable "requeue_dead_letters" 6 ids.eraseDups
  pure (t.countWhere (Row.isDeadAmong ids),
    t.updateWhere (Row.isDeadAmong ids) (Row.requeued now))

/-- Puts claims older than an instant back into the queue, except for the
given ids. No retry is used up. -/
def release (t : Table) (cutoff : Instant) (now : Instant) (exclude : List Int) :
    Except Fault (Nat × Table) := do
  nameable "release_stale_claims" 4 exclude
  pure (t.countWhere (Row.isStale cutoff exclude),
    t.updateWhere (Row.isStale cutoff exclude) (Row.released now))

end Table

end AlertDelivery.Queue
