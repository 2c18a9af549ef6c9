import AlertDelivery.Api.Form
import AlertDelivery.Api.Mask
import AlertDelivery.Api.Route
import AlertDelivery.HealthReport

/-!
# Admin interface

The requests that producers and operators make, and the answers to them.
`answer` gives an answer at once, except to the test of a channel: that is
begun here and answered by `concludeTest` when the channel is done.
-/

namespace AlertDelivery.Api

inductive Content where
  | none
  | document (v : Value)
  | text (s : String)

structure Request where
  method : String
  /-- As sent, with percent escapes. -/
  path : String
  query : List (String × String) := []
  content : Content := .none

structure Response where
  status : Int := 200
  body : Value
  /-- Whether the id of the request is sent back; an unexpected failure
  loses it. -/
  keepsId : Bool := true

structure Context where
  settings : Settings
  scheduler : Option Scheduler
  isServing : Bool

/-- The path as it is shown: decoded, up to a query or fragment that the
decoding laid bare. -/
def shownPath (path : String) : String :=
  String.ofList (((Text.pathDecoded path).toList.takeWhile fun c => c != '?' && c != '#').filter
    fun c => c != '\n' && c != '\r' && c != '\t')

def detail (status : Int) (v : Value) : Response :=
  { status, body := .record [("detail", v)] }

def refuseForm (problems : Problems) : Response :=
  let names := problems.map fun (place, p) => (place, p.name)
  let sorted := names.mergeSort Intake.placedBefore
  detail 422 (.list (sorted.map fun (place, name) => .list [.text place, .text name]))

def isBadValue : Mishap → Bool
  | .value | .document | .encoding | .settings => true
  | _ => false

/-- The body of an error answer; where the request went is told outside
production only. -/
def errorBody (c : Context) (r : Request) (status : Int) (code message : String)
    (details : Fields) : Response :=
  { status
    body := .record [("error", .record ([
      ("code", .text code), ("message", .text message), ("status", .int status)]
      ++ (if details.isEmpty then [] else [("details", .record details)])
      ++ (if c.settings.isProduction then [] else
        [("path", .text (shownPath r.path)), ("method", .text r.method)])))] }

def refuse (c : Context) (r : Request) (fault : Fault) : Response :=
  match fault, fault.notice? with
  | .badRequest status message, _ => detail status (.text message)
  | _, some notice =>
    errorBody c r notice.status notice.code fault.message
      (if notice.code = "INTERNAL_ERROR" then [] else notice.details)
  | .mishap kind _, _ =>
    if isBadValue kind then errorBody c r 422 "VALIDATION_ERROR" fault.message []
    else { errorBody c r 500 "INTERNAL_ERROR"
      (if c.settings.debug then fault.message else "Internal server error") []
      with keepsId := false }
  | fault, none => errorBody c r 422 "VALIDATION_ERROR" fault.message []

mutual
def isWritable : Value → Bool
  | .real x => x.toRat?.isSome
  | .list items => areWritable items
  | .record fields => areFieldsWritable fields
  | _ => true
def areWritable : List Value → Bool
  | [] => true
  | v :: rest => isWritable v && areWritable rest
def areFieldsWritable : List (String × Value) → Bool
  | [] => true
  | (_, v) :: rest => isWritable v && areFieldsWritable rest
end

/-- Whether answers leave a field out for its key. -/
def isHidden (key : String) : Bool := "_sa".toList.isPrefixOf key.toList

mutual
/-- The part of a value that answers show: the encoder leaves out, at any
depth, the fields that bear the mark of the object mapper's own ones. -/
def shown : Value → Value
  | .list items => .list (shownItems items)
  | .record fields => .record (shownFields fields)
  | v => v
def shownItems : List Value → List Value
  | [] => []
  | v :: rest => shown v :: shownItems rest
def shownFields : List (String × Value) → List (String × Value)
  | [] => []
  | (k, v) :: rest =>
    if isHidden k then shownFields rest else (k, shown v) :: shownFields rest
end

def unwritable : Fault := .badValue "Out of range float values are not JSON compliant"

/-- A response as it is sent; one that cannot be written is a fault. -/
def Response.sent (c : Context) (r : Request) (response : Response) : Response :=
  let body := shown response.body
  if isWritable body then { response with body } else refuse c r unwritable

def respond (c : Context) (r : Request) (x : Service.Op Response) : Service.Op Response := do
  match ← Service.attempt x with
  | .ok response => pure (response.sent c r)
  | .error fault => pure (refuse c r fault)

def parseState : Option String → Except Fault (Option DeliveryState)
  | none => .ok none
  | some s => match DeliveryState.ofName? s with
    | some state => .ok (some state)
    | none => .error (.badRequest 400 ("Invalid state '" ++ s ++ "'. Must be one of: "
        ++ (Value.list (DeliveryState.known.map fun d => .text d.name)).literal))

def parseStatus : Option String → Except Fault (Option History.Status)
  | none => .ok none
  | some s => match History.Status.ofName? s with
    | some status => .ok (some status)
    | none => .error (.badRequest 400 ("Invalid status '" ++ s ++ "'. Must be one of: "
        ++ (Value.list (History.Status.known.map fun d => .text d.name)).literal))

def rootBody (s : Settings) : Value := .record [
  ("service", .text s.appName), ("version", .text s.appVersion),
  ("environment", .text s.environment),
  ("modules", .list (["channel-registry", "delivery-queue", "delivery-worker", "retry-backoff",
    "delivery-history"].map .text)),
  ("docs", .text "/docs")]

def definitionsBody (category : Option String) : Value := .record [
  ("categories", .record ((Catalog.byCategory category).map fun (name, ds) =>
    (name, .list (ds.map ChannelDefinition.describe))))]

def healthBody (type : String) : Service.Op Response := do
  let health ← Service.health type
  pure { body := .record health.describe }

def channelsBody : Service.Op Response := do
  let channels ← Service.allHealth
  let s ← get
  pure { body := .record [
    ("channels", .list (channels.map fun c => .record c.describe)),
    ("implemented", .list (s.registry.types.map .text)),
    ("enabled", .list ((channels.filter (·.isDispatchable)).map fun c => .text c.type))] }

def channelBody (type : String) : Service.Op Response := do
  let health ← Service.health type
  let config ← Service.storedConfig type
  let definition := match Catalog.find? type with
    | some d => d.describe
    | none => .null
  pure { body := .record (health.describe
    ++ [("definition", definition), ("config", .record (masked type config))]) }

def configure (type : String) (incoming : Fields) (t : Clock.Reading) : Service.Op Response := do
  let stored ← Service.storedConfig type
  let cleaned ← Service.updateConfig type (unmasked stored incoming) t
  pure { body := .record [
    ("channel_type", .text type), ("config", .record (masked type cleaned))] }

def enqueue (q : Queue.Request) (t : Clock.Reading) : Service.Op Response := do
  let id ← Service.enqueue q t
  let s ← get
  pure { status := 201, body := .record [
    ("id", .int id), ("state", .text DeliveryState.created.name),
    ("max_retries", .int s.policy.maxRetries)] }

def queueStats (t : Clock.Reading) : Service.Op Response := do
  let stats ← Service.onStore (Store.queueStats t.now)
  let s ← get
  pure { body := .record (stats.describe ++ [("in_flight", .int s.worker.inFlight)]) }

def listQueue (query : List (String × String)) (limit offset : Int) : Service.Op Response := do
  let state ← Service.lift (parseState (query.lookup "state"))
  let entries ← Service.onStore
    (Store.entries (state.map (·.name)) (query.lookup "channel") (some limit) offset)
  pure { body := .record [
    ("items", .list (entries.map Queue.Entry.describe)), ("limit", .int limit),
    ("offset", .int offset)] }

def entry (id : Int) : Service.Op Response := do
  match ← Service.onStore (Store.entry id) with
  | some e => pure { body := e.describe }
  | none => throw (.notFound "queue entry" [("id", .int id)])

def requeue (ids : List Int) (t : Clock.Reading) : Service.Op Response := do
  let count ← Service.onStore (Store.requeue ids t.now)
  pure { body := .record [("requested", .int ids.eraseDups.length), ("requeued", .int count)] }

def process (t : Clock.Reading) : Service.Op Response := do
  let claimed ← Service.process t.now t
  let s ← get
  pure { body := .record [("claimed", .int claimed), ("in_flight", .int s.worker.inFlight)] }

def history (query : List (String × String)) (limit offset : Int) : Service.Op Response := do
  let status ← Service.lift (parseStatus (query.lookup "status"))
  let page ← Service.onStore
    (Store.attempts (query.lookup "channel") (status.map (·.name)) limit offset)
  pure { body := page.describe }

def summary (hours : Option Int) (t : Clock.Reading) : Service.Op Response := do
  let since ← match hours with
    | none => pure none
    | some hours => match t.now.shift? (-(hours * Instant.microsPerHour)) with
      | some since => pure (some since)
      | none => throw Fault.dateOverflow
  let summary ← Service.onStore (Store.summary since)
  let errors ← Service.onStore (Store.recentErrors 10)
  pure { body := .record (summary.describe ++ [("recent_errors", .list errors)]) }

def policyBody : Service.Op Response := do
  let s ← get
  pure { body := .record s.policy.describe }

def reload : Service.Op Response := do
  let policy ← Service.reloadPolicy
  pure { body := .record policy.describe }

def report (c : Context) (t : Clock.Reading) : Service.Op HealthReport.Report :=
  if c.isServing then HealthReport.run c.settings c.scheduler t else pure HealthReport.notStarted

inductive Next where
  | done (response : Response)
  | test (type recipient : String)

def checked {α : Type} (form : Checked α) (run : α → Service.Op Response) : Service.Op Response :=
  match form with
  | .ok a => run a
  | .error problems => pure (refuseForm problems)

def run (c : Context) (r : Request) (body : Option Value) (t : Clock.Reading) :
    Route → Service.Op Response
  | .root => pure { body := rootBody c.settings }
  | .live => pure { body := .record [("status", .text "alive")] }
  | .health => do
    let report ← report c t
    pure { body := report.describe }
  | .ready => do
    let report ← report c t
    pure { status := if report.grade = .unhealthy then 503 else 200, body := report.describe }
  | .definitions => pure { body := definitionsBody (r.query.lookup "category") }
  | .enqueue => checked (enqueueForm body) fun q => enqueue q t
  | .channels => channelsBody
  | .channel type => channelBody type
  | .configure type => checked (configForm body) fun config => configure type config t
  | .enable type => do
    Service.enable type t
    healthBody type
  | .disable type => do
    Service.disable type t
    healthBody type
  | .test _ => pure { body := .null }
  | .queueStats => queueStats t
  | .queue => checked (pageForm r.query) fun (limit, offset) => listQueue r.query limit offset
  | .entry id => checked (entryForm id) entry
  | .requeue => checked (requeueForm body) fun ids => requeue ids t
  | .process => process t
  | .history => checked (pageForm r.query) fun (limit, offset) => history r.query limit offset
  | .summary => checked (hoursForm r.query) fun hours => summary hours t
  | .policy => policyBody
  | .reload => reload

def readContent : Content → Checked (Option Value)
  | .none | .text "" => .ok none
  | .document v => .ok (some v)
  | .text s => match Json.read? s with
    | some v => .ok (some v)
    | none => .error [("body", .badDocument)]

/-- The answer that sends a caller to the path without slashes at its end. -/
def elsewhere : Response := { status := 307, body := .null }

def notServing : Fault := .badRequest 503 "Notification pipeline not started."

def answer (c : Context) (r : Request) (t : Clock.Reading) : Service.Op Next := do
  let path := Text.pathDecoded r.path
  match Route.find r.method path with
  | .error fault =>
    pure (.done (if Route.isElsewhere path then elsewhere else refuse c r fault))
  | .ok route =>
    match (if route.readsBody then readContent r.content else .ok none) with
    | .error problems => pure (.done (refuseForm problems))
    | .ok body =>
      if route.needsService && !c.isServing then pure (.done (refuse c r notServing))
      else match route with
        | .test type =>
          match testForm body with
          | .error problems => pure (.done (refuseForm problems))
          | .ok recipient => pure (.test type recipient)
        | _ => (respond c r (run c r body t route)).map .done

/-- The answer to the test of a channel, given how the test went. A failed
send is part of the answer. -/
def concludeTest (c : Context) (r : Request) (type : String) (result : Except Fault Unit) :
    Service.Op Response :=
  respond c r do
    let error ← match result with
      | .ok _ => pure Value.null
      | .error (.sendFailed channel message details) =>
        pure (.text (Fault.sendFailed channel message details).message)
      | .error fault => throw fault
    let health ← Service.health type
    pure { body := .record [
      ("success", .bool (error == .null)), ("error", error),
      ("channel", .record health.describe)] }

end AlertDelivery.Api
