import AlertDelivery.Service

/-!
# Dispatching

One pass claims a batch and leaves it ready. A dispatch has its turn, then
begins when it has got a slot, and ends when its channel is done or was given
up; between these, anything else may happen. The outcome is written to the
queue, the history and the channel's health, in this order; a store fault
stops the writing and leaves the notification to the stale-claim sweep.

The store may go down and come up again between two operations of a tick or
of a dispatch. `Weather` says whether it is up when each of them comes to it;
without one it stays as it is.
-/

namespace AlertDelivery.Service

/-- The operations on the store in a tick, and then those in a dispatch. -/
inductive Stage where
  | sweep
  | claim
  | lookup
  | outcome
  | attempt
  | health
deriving DecidableEq, Repr

def withUp (s : Service) (isUp : Bool) : Service := { s with store := { s.store with isUp } }

/-- Whether the store is up when an operation comes to it. -/
abbrev Weather := Stage → Service → Bool

/-- The weather that the store itself makes. -/
def Weather.own : Weather := fun _ s => s.store.isUp

def Weather.run {α : Type} (w : Weather) (stage : Stage) (y : Store.Op α) : Op α := fun s =>
  onStore y (s.withUp (w stage s))

def milliseconds (start stop : Rat) : Number :=
  let seconds := ((Binary64.nearest (stop - start)).toRat?).getD 0
  .real (Binary64.nearest (seconds * 1000))

def failureText (type : String) (timeout : Number) : Fault → String
  | .mishap .timeout _ =>
    type ++ " send timed out after " ++ timeout.toBinary64.generalText ++ "s"
  | fault => if fault.spendsRetry then fault.message else fault.name ++ ": " ++ fault.message

def failureStatus (state : DeliveryState) : History.Status :=
  if state = .deadLetter then .deadLetter else .failed

/-- What a channel is given of an entry: the values, with the entry's
own id and priority. -/
def messageOf (e : Queue.Entry) (recipient : String) : Channel.Message where
  recipient := recipient
  subject := e.subject
  body := e.body
  metadata := Fields.overlay e.values [("queue_id", .int e.id), ("priority", .int e.priority)]

inductive Begun where
  | idle
  | ended
  | sending (s : Sending)

section
variable (w : Weather)

/-- Claims as much as the batch size and the rate limit admit, and counts
it. -/
def processIn (now : Instant) (t : Clock.Reading) : Op Nat := do
  let s ← get
  let (limit, worker) := s.worker.budget t.seconds
  set { s with worker }
  if limit ≤ 0 then pure 0
  else
    let entries ← w.run .claim (Store.claim limit now)
    modifyWorker (·.takeOver entries t.seconds)
    pure entries.length

def releaseStaleIn (t : Clock.Reading) : Op Nat := do
  let s ← get
  let age := s.settings.staleClaimMinutes * Instant.microsPerMinute
  w.run .sweep (Store.release age t.now s.worker.held)

def tickIn (t : Clock.Reading) : Op Nat := do
  let _ ← releaseStaleIn w t
  processIn w t.now t

/-- Writes that an attempt failed. Nothing is written for a notification
that is no longer claimed. -/
def recordFailedIn (e : Queue.Entry) (error : String) (startedAt : Rat) (t : Clock.Reading) :
    Op Unit := do
  let s ← get
  let strategy : Value := .text s.worker.policy.backoff.name
  match ← w.run .outcome (Store.markFailed e.id error strategy t.now t.now) with
  | none => pure ()
  | some updated =>
    let _ ← w.run .attempt (Store.recordAttempt updated (failureStatus updated.state) (some error)
      (some (milliseconds startedAt t.seconds)) t.now)
    w.run .health (Store.recordFailure e.channel error t.now)

def recordDeliveredIn (e : Queue.Entry) (startedAt : Rat) (t : Clock.Reading) : Op Unit := do
  let _ ← w.run .outcome (Store.markDelivered e.id t.now)
  let _ ← w.run .attempt (Store.recordAttempt e .delivered none
    (some (milliseconds startedAt t.seconds)) t.now)
  w.run .health (Store.recordSuccess e.channel t.now)

def prepareIn (e : Queue.Entry) : Op (Channel × String) := do
  let s ← get
  let channel ← lift (s.registry.get e.channel)
  let recipient ← w.run .lookup (Store.resolve e)
  pure (channel, recipient)

/-- Lets a dispatch that has a slot begin. It ends at once if it has no
channel or no recipient. -/
def beginIn (number : Nat) (t : Clock.Reading) : Op Begun := do
  let s ← get
  match s.worker.preparing? number with
  | none => pure .idle
  | some ⟨d, startedAt⟩ =>
    match ← attempt (prepareIn w d.entry) with
    | .ok (channel, recipient) =>
      let sending : Sending := {
        dispatch := d, channel, message := messageOf d.entry recipient,
        timeout := s.worker.policy.sendTimeout, startedAt }
      modifyWorker (·.beginSend sending)
      pure (.sending sending)
    | .error fault =>
      if fault.spendsRetry then
        quietly (recordFailedIn w d.entry fault.message startedAt t)
      modifyWorker (·.dismiss d)
      pure .ended

def recordResultIn (x : Sending) (result : Except Fault Unit) (t : Clock.Reading) : Op Unit :=
  let e := x.dispatch.entry
  match result with
  | .ok _ => recordDeliveredIn w e x.startedAt t
  | .error fault => recordFailedIn w e (failureText e.channel x.timeout fault) x.startedAt t

def finishIn (number : Nat) (result : Except Fault Unit) (t : Clock.Reading) : Op Unit := do
  let s ← get
  match s.worker.sending? number with
  | none => pure ()
  | some sending =>
    quietly (recordResultIn w sending result t)
    modifyWorker (·.dismiss sending.dispatch)

end

def process : Instant → Clock.Reading → Op Nat := processIn .own
def releaseStale : Clock.Reading → Op Nat := releaseStaleIn .own
def tick : Clock.Reading → Op Nat := tickIn .own

def turn (number : Nat) (t : Clock.Reading) : Op Unit := modifyWorker (·.turn number t.seconds)

def begin : Nat → Clock.Reading → Op Begun := beginIn .own
def finish : Nat → Except Fault Unit → Clock.Reading → Op Unit := finishIn .own

end AlertDelivery.Service
