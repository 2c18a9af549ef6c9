import AlertDelivery.Channel.Delivery
import AlertDelivery.Queue.Table
import AlertDelivery.Time.Clock

/-!
# Scripts

What the outside world does in a rehearsal: how the servers answer, and how
a rehearsed channel behaves on each of its sends. A player follows the
script of one rehearsed channel and remembers what went through it.
-/

namespace AlertDelivery.Rehearsal

structure WebScript where
  default : Web.Outcome := .reply 200 (some (.record [("ok", .bool true)]))
  byHost : List (String × Web.Outcome) := []

def WebScript.answer (w : WebScript) (r : Web.Request) : Web.Outcome :=
  (w.byHost.lookup r.location.host).getD w.default

def mailRelay (breakAt : Option (String × Fault)) : Mail.Relay := fun step =>
  match breakAt with
  | some (name, fault) => if step.name = name then some fault else none
  | none => none

/-- One send of a rehearsed channel: it takes a while, may take the store
down, and then has a result. -/
structure Behaviour where
  delay : Rat := 0
  takesStoreDown : Bool := false
  result : Except Fault Unit := .ok ()

/-- The behaviours of a rehearsed channel. The sends with one key follow its
list, and the last behaviour of the list repeats. -/
structure Script where
  default : Behaviour := {}
  byKey : List (String × List Behaviour) := []

structure Sent where
  at_ : Rat
  message : Channel.Message

def Sent.describe (s : Sent) : Value := .record [
  ("at", .real (Binary64.nearest s.at_)), ("recipient", .text s.message.recipient),
  ("subject", .text s.message.subject), ("body", .text s.message.body),
  ("metadata", .record s.message.metadata)]

structure Player where
  script : Script
  /-- How many sends each key has seen. -/
  counts : List (String × Nat) := []
  sent : List Sent := []
  active : Nat := 0
  maxActive : Nat := 0

namespace Player

/-- The key of a send: a channel test, or the id of the notification. -/
def keyOf (m : Channel.Message) : String :=
  if m.metadata.getD "test" = .bool true then "test" else (m.metadata.getD "queue_id").plain

def behaviourAt (s : Script) (key : String) (n : Nat) : Behaviour :=
  match s.byKey.lookup key with
  | some (first :: rest) => ((first :: rest)[n]?).getD ((first :: rest).getLast (by simp))
  | _ => s.default

def enter (p : Player) (m : Channel.Message) : Behaviour × Player :=
  let key := keyOf m
  (behaviourAt p.script key ((p.counts.lookup key).getD 0),
   { p with
      counts := Queue.Table.tally p.counts key
      active := p.active + 1
      maxActive := max p.maxActive (p.active + 1) })

def leave (p : Player) (m : Channel.Message) (result : Except Fault Unit) (seconds : Rat) :
    Player :=
  { p with
    active := p.active - 1
    sent := match result with
      | .ok _ => p.sent ++ [⟨seconds, m⟩]
      | .error _ => p.sent }

def describe (p : Player) : Value := .record [
  ("sent", .list (p.sent.map Sent.describe)), ("max_active", .int p.maxActive)]

end Player

end AlertDelivery.Rehearsal
