import AlertDelivery.Channel.Registry
import AlertDelivery.Policy
import AlertDelivery.Queue.Entry

/-!
# Delivery worker

The part of the worker that lives in memory: the claimed notifications that
wait for a slot, those that have one, the ids held by either, and the times
of recent claims. A dispatch that waits is ready for its turn or asleep. At
its turn it takes a slot if one is free and falls asleep if none is; all
that sleep are woken when a slot is given back and when the policy changes,
and have their turns after those that are ready already.
-/

namespace AlertDelivery

structure Dispatch where
  number : Nat
  entry : Queue.Entry

/-- A dispatch that has a slot, but not yet its channel and its recipient. -/
structure Preparing where
  dispatch : Dispatch
  startedAt : Rat

structure Sending where
  dispatch : Dispatch
  channel : Channel
  message : Channel.Message
  timeout : Number
  startedAt : Rat

structure Worker where
  policy : Policy
  ready : List Dispatch := []
  asleep : List Dispatch := []
  /-- How many slots are taken. -/
  active : Int := 0
  preparing : List Preparing := []
  sending : List Sending := []
  /-- The ids of claims that have not ended, each once. -/
  held : List Int := []
  /-- When the recent claims were made, oldest first. -/
  stamps : List Rat := []
  nextNumber : Nat := 0

namespace Worker

def waiting (w : Worker) : List Dispatch := w.ready ++ w.asleep

def holders (w : Worker) : List Dispatch :=
  w.preparing.map (·.dispatch) ++ w.sending.map (·.dispatch)

def inFlight (w : Worker) : Nat := w.waiting.length + w.holders.length

/-- How many dispatches have not got to their channels. -/
def unbegun (w : Worker) : Nat := w.waiting.length + w.preparing.length

def hasFreeSlot (w : Worker) : Bool := w.policy.queueWorkers.gtInt w.active

def wake (w : Worker) : Worker := { w with ready := w.ready ++ w.asleep, asleep := [] }

def setPolicy (w : Worker) (policy : Policy) : Worker := { w with policy }.wake

def rateWindow : Rat := 60

def forgetOld (w : Worker) (seconds : Rat) : Worker :=
  { w with stamps := w.stamps.dropWhile fun stamp => decide (stamp ≤ seconds - rateWindow) }

/-- How many notifications may be claimed at a time, and the worker without
the claims that no longer count. -/
def budget (w : Worker) (seconds : Rat) : Int × Worker :=
  if w.policy.ratePerMinute ≤ 0 then (w.policy.batchSize, w)
  else
    let w := w.forgetOld seconds
    (min w.policy.batchSize (max 0 (w.policy.ratePerMinute - w.stamps.length)), w)

def hold (held : List Int) (id : Int) : List Int := if held.contains id then held else held ++ [id]

def numbered (first : Nat) : List Queue.Entry → List Dispatch
  | [] => []
  | e :: rest => ⟨first, e⟩ :: numbered (first + 1) rest

/-- Takes over claimed entries: they are ready, are held, and count against
the rate limit if there is one. -/
def takeOver (w : Worker) (entries : List Queue.Entry) (seconds : Rat) : Worker :=
  { w with
    ready := w.ready ++ numbered w.nextNumber entries
    held := (entries.map (·.id)).foldl hold w.held
    stamps := if w.policy.ratePerMinute ≤ 0 then w.stamps
      else w.stamps ++ List.replicate entries.length seconds
    nextNumber := w.nextNumber + entries.length }

def ready? (w : Worker) (number : Nat) : Option Dispatch := w.ready.find? (·.number == number)

def turn (w : Worker) (number : Nat) (seconds : Rat) : Worker :=
  match w.ready? number with
  | none => w
  | some d =>
    let w := { w with ready := w.ready.filter (·.number != number) }
    if w.hasFreeSlot then
      { w with active := w.active + 1, preparing := w.preparing ++ [⟨d, seconds⟩] }
    else { w with asleep := w.asleep ++ [d] }

def preparing? (w : Worker) (number : Nat) : Option Preparing :=
  w.preparing.find? (·.dispatch.number == number)

def sending? (w : Worker) (number : Nat) : Option Sending :=
  w.sending.find? (·.dispatch.number == number)

def beginSend (w : Worker) (s : Sending) : Worker :=
  { w with
    preparing := w.preparing.filter (·.dispatch.number != s.dispatch.number)
    sending := w.sending ++ [s] }

def giveBack (w : Worker) (number : Nat) : Worker :=
  { w with
    active := w.active - 1
    preparing := w.preparing.filter (·.dispatch.number != number)
    sending := w.sending.filter (·.dispatch.number != number) }.wake

def letGo (w : Worker) (id : Int) : Worker := { w with held := w.held.filter (· != id) }

def dismiss (w : Worker) (d : Dispatch) : Worker := (w.giveBack d.number).letGo d.entry.id

end Worker

end AlertDelivery
