import AlertDelivery.Service.Dispatch

/-!
# Scheduler

The scheduler drives two jobs while it runs: a pass over the queue every
few seconds, and a daily sweep. A job that finds the store down is skipped.
-/

namespace AlertDelivery

structure Scheduler where
  isRunning : Bool := false
  jobs : List String := []
deriving DecidableEq

namespace Scheduler

def processJob : String := "notifications-process"
def cleanupJob : String := "notifications-cleanup"

/-- Starts the jobs. A sweep needs an hour of the day; without one, only
the first job is known and nothing runs. -/
def start (s : Scheduler) (settings : Settings) : Except Fault Unit × Scheduler :=
  let hour := settings.cleanupHour
  if !s.jobs.isEmpty then (.ok (), s)
  else if hour < 0 then
    (.error (.badValue ("Unrecognized expression \"" ++ toString hour ++ "\" for field \"hour\"")),
      { s with jobs := [processJob] })
  else if 23 < hour then
    (.error (.badValue ("Error validating expression '" ++ toString hour
        ++ "': the last value in the range (" ++ toString hour
        ++ ") is higher than the maximum value (23)")),
      { s with jobs := [processJob] })
  else (.ok (), { isRunning := true, jobs := [cleanupJob, processJob] })

def describe (s : Scheduler) : Value := .record [
  ("running", .bool s.isRunning), ("jobs", .list (s.jobs.map .text))]

end Scheduler

namespace Service

def skipWhenDown {α : Type} (x : Op α) : Op Unit := do
  match ← attempt x with
  | .error (.storeUnavailable ..) => pure ()
  | .error fault => throw fault
  | .ok _ => pure ()

def processJobIn (w : Weather) (t : Clock.Reading) : Op Unit := skipWhenDown (tickIn w t)

def processJob : Clock.Reading → Op Unit := processJobIn .own

def cleanupJob (t : Clock.Reading) : Op Unit := skipWhenDown (sweep t.now)

end Service

end AlertDelivery
