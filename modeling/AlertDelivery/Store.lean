import AlertDelivery.Channel.Health
import AlertDelivery.History
import AlertDelivery.Policy
import AlertDelivery.Recipient

/-!
# Store

Everything that outlives a process: the queue, the history, the channel
rows, the accounts with their preferences, and the stored settings. Each
operation is one transaction on it. While the store is down every
transaction fails and changes nothing.
-/

namespace AlertDelivery

structure Store where
  isUp : Bool := true
  queue : Queue.Table := {}
  history : History.Log := {}
  channels : Channel.Table := {}
  users : List User := []
  preferences : List Preference := []
  settings : List (String × Option String) := []

namespace Store

/-- A computation on a store that may fail; what it has done before it
fails stays done. -/
abbrev Op := EStateM Fault Store

def down (operation : String) : Fault := .storeUnavailable operation "database is down"

/-- All of a change, or a fault and no change. -/
def transact {α : Type} (operation : String) (change : Store → Except Fault (α × Store)) :
    Op α := fun s =>
  if s.isUp then
    match change s with
    | .ok (a, s') => .ok a s'
    | .error fault => .error fault s
  else .error (down operation) s

def query {α : Type} (operation : String) (read : Store → Except Fault α) : Op α :=
  transact operation fun s => (read s).map fun a => (a, s)

def lift {α : Type} (result : Except Fault α) : Op α :=
  match result with
  | .ok a => pure a
  | .error fault => throw fault

def onQueue {α : Type} (operation : String)
    (change : Queue.Table → Except Fault (α × Queue.Table)) : Op α :=
  transact operation fun s => (change s.queue).map fun (a, queue) => (a, { s with queue })

def onHistory {α : Type} (operation : String)
    (change : History.Log → Except Fault (α × History.Log)) : Op α :=
  transact operation fun s => (change s.history).map fun (a, history) => (a, { s with history })

def onChannels {α : Type} (operation : String)
    (change : Channel.Table → Except Fault (α × Channel.Table)) : Op α :=
  transact operation fun s => (change s.channels).map fun (a, channels) => (a, { s with channels })

def cutoff (now : Instant) (days : Int) : Except Fault Instant :=
  match now.daysBefore? days with
  | some t => .ok t
  | none => .error Fault.dateOverflow

/-! ### Queue -/

def enqueue (q : Queue.Request) (now : Instant) : Op Int :=
  onQueue "enqueue" fun t => t.enqueue q now

def claim (limit : Int) (now : Instant) : Op (List Queue.Entry) :=
  if limit ≤ 0 then pure [] else onQueue "claim_batch" fun t => t.claim limit now

def markDelivered (id : Int) (now : Instant) : Op Bool :=
  onQueue "mark_delivered" fun t => t.markDelivered id now

def markFailed (id : Int) (error : String) (strategy : Value) (now clock : Instant) :
    Op (Option Queue.Entry) :=
  onQueue "mark_failed" fun t => t.markFailed id error strategy now clock

def entry (id : Int) : Op (Option Queue.Entry) := query "get_entry" fun s => s.queue.get id

/-- A page of the entries, newest first; an empty filter text filters
nothing. -/
def entries (state channel : Option String) (limit : Option Int) (offset : Int) :
    Op (List Queue.Entry) := do
  let state ← lift ((Queue.Table.wanted state).mapM DeliveryState.read)
  query "list_entries" fun s => s.queue.list state (Queue.Table.wanted channel) limit offset

def queueStats (now : Instant) : Op Queue.Table.Stats :=
  query "queue_stats" fun s => .ok (s.queue.stats now)

def cleanupQueue (days : Int) (now : Instant) : Op Nat := do
  let before ← lift (cutoff now days)
  onQueue "cleanup_delivered" fun t => .ok (t.cleanup before)

def requeue (ids : List Int) (now : Instant) : Op Nat :=
  if ids.isEmpty then pure 0 else onQueue "requeue_dead_letters" fun t => t.requeue ids now

def release (age : Int) (now : Instant) (exclude : List Int) : Op Nat := do
  match now.shift? (-age) with
  | none => throw Fault.dateOverflow
  | some before => onQueue "release_stale_claims" fun t => t.release before now exclude

/-! ### History -/

def recordAttempt (e : Queue.Entry) (status : History.Status) (error : Option String)
    (duration : Option Number) (now : Instant) : Op Int :=
  onHistory "record_history" fun log => log.append e status error duration now

def attempts (channel status : Option String) (limit offset : Int) : Op History.Log.Page := do
  let status ← lift ((Queue.Table.wanted status).mapM History.Status.read)
  query "list_history" fun s =>
    s.history.list (Queue.Table.wanted channel) status limit offset

def recentErrors (limit : Int) : Op (List Value) :=
  query "recent_errors" fun s => s.history.recentErrors limit

def summary (since : Option Instant) : Op History.Log.Summary :=
  query "history_summary" fun s => .ok (s.history.summary since)

def cleanupHistory (days : Int) (now : Instant) : Op Nat := do
  let before ← lift (cutoff now days)
  onHistory "cleanup_history" fun log => .ok (log.cleanup before)

/-! ### Channel rows -/

def modifyChannel (operation type : String) (f : Channel.Row → Channel.Row) : Op Unit :=
  onChannels operation fun t => (t.modify type f).map fun t => ((), t)

def updateChannel (operation type : String) (f : Channel.Row → Channel.Row) : Op Unit :=
  onChannels operation fun t => .ok ((), t.update type f)

def initializeChannels (now : Instant) : Op Nat :=
  onChannels "initialize_channels" fun t => .ok (t.addCatalog now)

def channelRow (operation type : String) : Op Channel.Row :=
  query operation fun s => s.channels.get type

def recordSuccess (type : String) (now : Instant) : Op Unit :=
  updateChannel "record_success" type (Channel.Row.recordSuccess now)

def recordFailure (type error : String) (now : Instant) : Op Unit :=
  updateChannel "record_failure" type (Channel.Row.recordFailure error now)

/-! ### Accounts and settings -/

def userAddress (user : Int) (channel : String) : Op (Option String) :=
  query "resolve_recipient" fun s => do
    Queue.storable [user]
    pure (Recipient.ofUser? s.users s.preferences user channel)

/-- The address of an entry: of its user, or one that it names itself. The
store is asked only for entries of a user. -/
def resolve (e : Queue.Entry) : Op String := do
  let ofUser ← match e.user with
    | some user => userAddress user e.channel
    | none => pure none
  match ofUser.or (Recipient.named? e) with
  | some address => pure address
  | none => throw (Recipient.unresolved e)

def loadPolicy (base : Policy) : Op Policy :=
  query "load_policy" fun s => .ok (base.overlay s.settings)

end Store

end AlertDelivery
