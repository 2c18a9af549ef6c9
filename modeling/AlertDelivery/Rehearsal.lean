import AlertDelivery.Api
import AlertDelivery.Rehearsal.Script

/-!
# Rehearsals

A service among scripted servers and channels, on a clock that moves only
when nothing else is left to do. `settle` lets every ready dispatch have its
turn, `elapse` lets time pass, and `drain` lets it pass until no dispatch is
left.
-/

namespace AlertDelivery

namespace Rehearsal

inductive Target where
  | dispatch (number : Nat)
  | trial
deriving DecidableEq

structure Timer where
  due : Rat
  target : Target
  player : Nat
  message : Channel.Message
  behaviour : Behaviour
  timedOut : Bool

end Rehearsal

structure Rehearsal where
  service : Service
  seconds : Rat := 0
  servers : Channel.Servers
  players : List Rehearsal.Player := []
  timers : List Rehearsal.Timer := []
  wire : List Channel.Wire := []
  /-- The result of the last channel test that took time. -/
  trialResult : Except Fault Unit := .ok ()
  scheduler : Option Scheduler := none
  /-- The settings that the whole application goes by. -/
  application : Settings := {}
  isServing : Bool := true

namespace Rehearsal

/-- A computation on a rehearsal that may fail; what it has done before it
fails stays done. -/
abbrev Op := EStateM Fault Rehearsal

def reading (r : Rehearsal) : Clock.Reading := Clock.reading r.seconds

def onService {α : Type} (x : Clock.Reading → Service.Op α) : Op α := fun r =>
  match x r.reading r.service with
  | .ok a service => .ok a { r with service }
  | .error fault service => .error fault { r with service }

def attempt {α : Type} (x : Op α) : Op (Except Fault α) := fun r =>
  match x r with
  | .ok a r => .ok (.ok a) r
  | .error fault r => .ok (.error fault) r

def onStore {α : Type} (x : Store.Op α) : Op α := onService fun _ => Service.onStore x

def modifyStore (f : Store → Store) : Op Unit := modify fun r =>
  { r with service := { r.service with store := f r.service.store } }

def modifyPlayer (index : Nat) (f : Player → Player) : Op Unit := modify fun r =>
  { r with players := r.players.modify index f }

def leave (player : Nat) (m : Channel.Message) (b : Behaviour) (timedOut : Bool) :
    Op (Except Fault Unit) := do
  if !timedOut && b.takesStoreDown then modifyStore fun s => { s with isUp := false }
  let result := if timedOut then .error (.mishap .timeout "") else b.result
  let r ← get
  modifyPlayer player fun p => p.leave m result r.seconds
  pure result

/-- A deadline in seconds; none for a duration without end. -/
def deadline? (seconds : Rat) (timeout : Number) : Option Rat :=
  timeout.toBinary64.toRat?.map (Clock.plus seconds)

/-- When a send with a delay ends, and whether by its deadline. -/
def ending (seconds : Rat) (delay : Rat) (timeout : Number) : Rat × Bool :=
  let done := Clock.plus seconds delay
  match deadline? seconds timeout with
  | some limit => if limit ≤ done then (limit, true) else (done, false)
  | none => (done, false)

/-- Lets a channel send a message. The result is none if it takes time; the
end of the send is then awaited for the target. -/
def play (channel : Channel) (m : Channel.Message) (timeout : Number) (target : Target) :
    Op (Option (Except Fault Unit)) := do
  match channel.backend with
  | .shipped kind =>
    let r ← get
    let delivery := kind.send r.servers channel.config m
    set { r with wire := r.wire ++ delivery.wire }
    pure (some delivery.result)
  | .rehearsed _ _ _ index =>
    let r ← get
    match r.players[index]? with
    | none => pure (some (.ok ()))
    | some player =>
      let (behaviour, player) := player.enter m
      set { r with players := r.players.set index player }
      if behaviour.delay ≤ 0 then
        (leave index m behaviour false).map some
      else
        let (due, timedOut) := ending r.seconds behaviour.delay timeout
        modify fun r => { r with timers := r.timers ++ [
          { due, target, player := index, message := m, behaviour, timedOut }] }
        pure none

def proceed (number : Nat) : Service.Begun → Op Unit
  | .idle | .ended => pure ()
  | .sending s => do
    match ← play s.channel s.message s.timeout (.dispatch number) with
    | some result => onService (Service.finish number result)
    | none => pure ()

/-- The turn of a dispatch that is ready; with a slot it begins at once. -/
def advance (number : Nat) : Op Unit := do
  onService (Service.turn number)
  let begun ← onService (Service.begin number)
  proceed number begun

def settleFor : Nat → Op Unit
  | 0 => pure ()
  | fuel + 1 => do
    let r ← get
    match r.service.worker.ready with
    | [] => pure ()
    | d :: _ =>
      advance d.number
      settleFor fuel

def settle : Op Unit := do
  let r ← get
  settleFor r.service.worker.waiting.length

/-- The timer that is due first; of several, the one set first. -/
def firstTimer? (timers : List Timer) : Option Timer :=
  match timers with
  | [] => none
  | t :: rest => match firstTimer? rest with
    | some u => if u.due < t.due then some u else some t
    | none => some t

def conclude (result : Except Fault Unit) : Target → Op Unit
  | .dispatch number => onService (Service.finish number result)
  | .trial => modify fun r => { r with trialResult := result }

def fire (t : Timer) : Op Unit := do
  modify fun r => { r with
    seconds := Clock.later r.seconds t.due, timers := r.timers.filter (·.target != t.target) }
  let result ← leave t.player t.message t.behaviour t.timedOut
  conclude result t.target
  settle

def fireUpTo (limit : Option Rat) : Nat → Op Unit
  | 0 => pure ()
  | fuel + 1 => do
    let r ← get
    match firstTimer? r.timers with
    | none => pure ()
    | some t =>
      if limit.all fun limit => t.due ≤ limit then
        fire t
        fireUpTo limit fuel
      else pure ()

/-- How many timers can fire before nothing is left: one for each that is
set, and one for each dispatch that may set one. -/
def pending (r : Rehearsal) : Nat := r.timers.length + r.service.worker.unbegun

def elapse (more : Rat) : Op Rat := do
  settle
  let r ← get
  let target := Clock.plus r.seconds more
  fireUpTo (some target) r.pending
  modify fun r => { r with seconds := Clock.later r.seconds target }
  let r ← get
  pure r.seconds

/-- Lets time pass until every dispatch has ended. -/
def drain : Op Unit := do
  settle
  let r ← get
  fireUpTo none r.pending

def awaitTrial : Nat → Op Unit
  | 0 => pure ()
  | fuel + 1 => do
    let r ← get
    if r.timers.any (·.target = .trial) then
      match firstTimer? r.timers with
      | none => pure ()
      | some t =>
        fire t
        awaitTrial fuel
    else pure ()

def test (type recipient : String) : Op Unit := do
  let channel ← onService (Service.beginTest type)
  let r ← get
  match ← play channel (Channel.Message.trial recipient) r.service.testTimeout .trial with
  | some result => onService (Service.endTest type result)
  | none =>
    let r ← get
    awaitTrial r.pending
    let r ← get
    onService (Service.endTest type r.trialResult)

def addPlayer (type name : String) (requiredKeys : List String) (config : Fields)
    (script : Script) : Op Channel := do
  let r ← get
  set { r with players := r.players ++ [Player.mk script [] [] 0 0] }
  pure ⟨.rehearsed type name requiredKeys r.players.length, config⟩

def player? (r : Rehearsal) (type : String) : Option Player := do
  let channel ← r.service.registry.find? type
  match channel.backend with
  | .rehearsed _ _ _ index => r.players[index]?
  | .shipped _ => none

def takeWire : Op (List Channel.Wire) := do
  let r ← get
  set { r with wire := [] }
  pure r.wire

end Rehearsal

end AlertDelivery
