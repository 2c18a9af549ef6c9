import AlertDelivery.Settings
import AlertDelivery.Store
import AlertDelivery.Time.Clock
import AlertDelivery.Worker

/-!
# Service

The running service: its store, its registered channels, the policy in
force and the worker. This module has the operations that producers and
the policy need; channels and dispatches have modules of their own.
-/

namespace AlertDelivery

structure Service where
  store : Store
  registry : Channel.Registry := {}
  settings : Settings := {}
  /-- The policy onto which stored settings are overlaid. -/
  base : Policy
  /-- The policy for new notifications. -/
  policy : Policy
  testTimeout : Number
  worker : Worker

namespace Service

/-- A computation on the service that may fail; what it has done before it
fails stays done. -/
abbrev Op := EStateM Fault Service

def create (store : Store) (settings : Settings) (policy : Policy) : Service :=
  { store, settings, base := policy, policy, testTimeout := policy.sendTimeout,
    worker := { policy } }

def onStore {α : Type} (x : Store.Op α) : Op α := fun s =>
  match x s.store with
  | .ok a store => .ok a { s with store }
  | .error fault store => .error fault { s with store }

def lift {α : Type} : Except Fault α → Op α
  | .ok a => pure a
  | .error fault => throw fault

def attempt {α : Type} (x : Op α) : Op (Except Fault α) := fun s =>
  match x s with
  | .ok a s => .ok (.ok a) s
  | .error fault s => .ok (.error fault) s

/-- Does what it can of a computation and forgets its fault. -/
def quietly (x : Op Unit) : Op Unit := do
  let _ ← attempt x

def modifyWorker (f : Worker → Worker) : Op Unit := modify fun s => { s with worker := f s.worker }

/-- Queues a notification; its retries are those of the policy in force. -/
def enqueue (q : Queue.Request) (t : Clock.Reading) : Op Int := do
  let s ← get
  onStore (Store.enqueue { q with maxRetries := s.policy.maxRetries } t.now)

/-- Reads the stored settings again, over the policy the service began
with. -/
def reloadPolicy : Op Policy := do
  let s ← get
  let policy ← onStore (Store.loadPolicy s.base)
  modify fun s => { s with
    policy, testTimeout := policy.sendTimeout, worker := s.worker.setPolicy policy }
  pure policy

def setWorkerPolicy (policy : Policy) : Op Unit := modifyWorker (·.setPolicy policy)

def sweep (now : Instant) : Op (Nat × Nat) := do
  let s ← get
  let queue ← onStore (Store.cleanupQueue s.settings.retentionDays now)
  let history ← onStore (Store.cleanupHistory s.settings.historyRetentionDays now)
  pure (queue, history)

end Service

end AlertDelivery
