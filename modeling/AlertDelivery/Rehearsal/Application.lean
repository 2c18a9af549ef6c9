import AlertDelivery.Rehearsal

/-!
# The application in a rehearsal

What surrounds the service: requests to its admin interface, its health,
its scheduler, and the start and stop of the whole application.
-/

namespace AlertDelivery.Rehearsal

def context (r : Rehearsal) : Api.Context := ⟨r.application, r.scheduler, r.isServing⟩

def request (q : Api.Request) : Op Api.Response := do
  let r ← get
  match ← onService (Api.answer r.context q) with
  | .done response => pure response
  | .test type recipient =>
    let result ← attempt (test type recipient)
    let r ← get
    onService fun _ => Api.concludeTest r.context q type result

def health : Op HealthReport.Report := do
  let r ← get
  onService (HealthReport.run r.application r.scheduler)

/-! ### Scheduler -/

/-- The scheduler, which comes to be when it is first asked for. -/
def knownScheduler : Op Scheduler := do
  let r ← get
  let scheduler := r.scheduler.getD {}
  set { r with scheduler := some scheduler }
  pure scheduler

/-- Starts a scheduler by some settings; a scheduler that fails to start
is kept as it is then. -/
def startJobs (settings : Settings) : Op Unit := do
  let (result, scheduler) := (← knownScheduler).start settings
  modify fun r => { r with scheduler := some scheduler }
  match result with
  | .ok _ => pure ()
  | .error fault => throw fault

def stopJobs : Op Unit := modify fun r => { r with scheduler := some {} }

/-! ### Start and stop -/

/-- Outside production the tables are set up first, which needs the store. -/
def prepareStore : Op Unit := do
  let r ← get
  if r.application.isDevelopment && !r.service.store.isUp then
    throw (.mishap .unreachable "database is down")

def renewService : Op Unit := do
  let r ← get
  match Policy.ofSettings r.application with
  | .error fault => throw fault
  | .ok policy =>
    let fresh := Service.create r.service.store r.application policy
    set { r with service := { fresh with
      registry := Channel.Registry.ofList (Channel.ofSettings r.application) } }

/-- Tries a new service; the old one goes on if the new one does not
start. -/
def replaceService : Op Unit := do
  let old ← get
  match ← attempt (do renewService; onService Service.start) with
  | .ok _ => modify fun r => { r with isServing := true, scheduler := none }
  | .error fault =>
    modify fun r => { r with service := { old.service with store := r.service.store } }
    throw fault

/-- Starts the application with some settings changed: a new service on the
same store, and its scheduler if the settings want one. -/
def startApplication (changes : Fields) : Op Unit := do
  let r ← get
  match r.application.overlay changes with
  | .error fault => throw fault
  | .ok application =>
    set { r with application }
    prepareStore
    replaceService
    if application.schedulerEnabled then startJobs application

def stopApplication : Op Unit := do
  let r ← get
  if r.scheduler.isSome then stopJobs
  drain

end AlertDelivery.Rehearsal
