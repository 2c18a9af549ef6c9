import AlertDelivery.Scheduler
import AlertDelivery.Service.Channels

/-!
# Health report

What a probe learns about the service: each component is healthy, degraded
or unhealthy, and the whole is as bad as its worst component.
-/

namespace AlertDelivery.HealthReport

inductive Grade where
  | healthy
  | degraded
  | unhealthy
deriving DecidableEq, Repr

def Grade.name : Grade → String
  | .healthy => "healthy"
  | .degraded => "degraded"
  | .unhealthy => "unhealthy"

structure Component where
  name : String
  grade : Grade := .healthy
  message : String := ""
  details : Fields := []

def Component.describe (c : Component) : Value :=
  .record ([("name", .text c.name), ("status", .text c.grade.name)]
    ++ (if c.message = "" then [] else [("message", .text c.message)])
    ++ (if c.details.isEmpty then [] else [("details", .record c.details)]))

structure Report where
  components : List Component

def Report.grade (r : Report) : Grade :=
  if r.components.any (·.grade = .unhealthy) then .unhealthy
  else if r.components.any (·.grade = .degraded) then .degraded
  else .healthy

/-- The version and the environment are those that the service was built
with. -/
def Report.describe (r : Report) : Value := .record [
  ("status", .text r.grade.name), ("version", .text (Settings.appVersion {})),
  ("environment", .text (Settings.environment {})),
  ("components", .list (r.components.map Component.describe))]

def listed (names : List String) : Value := .list (names.map .text)

def withoutCredentials (address : String) : String := (address.splitOn "@").getLastD ""

def checkDatabase (application : Settings) (s : Service) : Component :=
  if s.store.isUp then
    { name := "database", message := "Connection available",
      details := [("url", .text (withoutCredentials application.databaseUrl))] }
  else
    { name := "database", grade := .unhealthy,
      message := "(sqlite3.OperationalError) database is down" }

def failing (name : String) (fault : Fault) : Component :=
  { name, grade := .unhealthy, message := ((fault.message.splitOn "\n").head?).getD "" }

def channelsComponent (s : Service) (channels : List Channel.Health) : Component :=
  let failed := (channels.filter fun c => c.enabled && c.state == .failed).map (·.type)
  let active := (channels.filter (·.isDispatchable)).map (·.type)
  let (grade, message) :=
    if !failed.isEmpty then
      (Grade.degraded, "Failing channels: " ++ ", ".intercalate failed)
    else if s.registry.types.isEmpty then (.degraded, "No channel implementations registered")
    else (.healthy, toString active.length ++ " channel(s) active")
  { name := "channels", grade, message,
    details := [("active", listed active), ("failed", listed failed),
      ("implemented", listed s.registry.types)] }

def backlogLimit : Nat := 1000

def queueComponent (s : Service) (stats : Queue.Table.Stats) : Component :=
  let (grade, message) :=
    if stats.deadLetters ≠ 0 then
      (Grade.degraded, toString stats.deadLetters ++ " dead-letter entries need attention")
    else if backlogLimit < stats.pending then
      (.degraded, "Backlog of " ++ toString stats.pending ++ " pending entries")
    else (.healthy, toString stats.pending ++ " pending")
  { name := "queue", grade, message,
    details := [("pending", .int stats.pending), ("dead_letters", .int stats.deadLetters),
      ("in_flight", .int s.worker.inFlight)] }

def schedulerComponent : Option Scheduler → Component
  | none => { name := "scheduler", grade := .degraded,
              message := "Scheduler disabled; queue is only processed on demand" }
  | some scheduler =>
    if scheduler.isRunning then
      { name := "scheduler", message := "Running", details := [("jobs", listed scheduler.jobs)] }
    else { name := "scheduler", grade := .degraded, message := "Scheduler not running" }

def notStarted : Report :=
  ⟨[{ name := "pipeline", grade := .unhealthy, message := "Pipeline not started" }]⟩

def run (application : Settings) (scheduler : Option Scheduler) (t : Clock.Reading) :
    Service.Op Report := do
  let s ← get
  let channels ← match ← Service.attempt Service.allHealth with
    | .ok channels => pure (channelsComponent s channels)
    | .error fault => pure (failing "channels" fault)
  let queue ← match ← Service.attempt (Service.onStore (Store.queueStats t.now)) with
    | .ok stats => pure (queueComponent s stats)
    | .error fault => pure (failing "queue" fault)
  pure ⟨[checkDatabase application s, channels, queue, schedulerComponent scheduler]⟩

end AlertDelivery.HealthReport
