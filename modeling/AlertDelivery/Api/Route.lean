import AlertDelivery.Fault
import AlertDelivery.Text.Encoding
import AlertDelivery.Text

/-!
# Routes

Which operation a method and a path ask for. A path may be known with
another method only, which is a fault of its own.
-/

namespace AlertDelivery.Api

inductive Route where
  | root
  | health
  | live
  | ready
  | enqueue
  | channels
  | definitions
  | channel (type : String)
  | configure (type : String)
  | enable (type : String)
  | disable (type : String)
  | test (type : String)
  | queueStats
  | queue
  | entry (id : String)
  | requeue
  | process
  | history
  | summary
  | policy
  | reload
deriving DecidableEq, Repr

namespace Route

/-- The operations of a path below the notifications, with their methods. -/
def ofSegments : List String → List (String × Route)
  | ["enqueue"] => [("POST", .enqueue)]
  | ["channels"] => [("GET", .channels)]
  | ["channels", "definitions"] => [("GET", .definitions)]
  | ["channels", type] => [("GET", .channel type)]
  | ["channels", type, "config"] => [("PUT", .configure type)]
  | ["channels", type, "enable"] => [("POST", .enable type)]
  | ["channels", type, "disable"] => [("POST", .disable type)]
  | ["channels", type, "test"] => [("POST", .test type)]
  | ["queue"] => [("GET", .queue)]
  | ["queue", "stats"] => [("GET", .queueStats)]
  | ["queue", "requeue"] => [("GET", .entry "requeue"), ("POST", .requeue)]
  | ["queue", "process"] => [("GET", .entry "process"), ("POST", .process)]
  | ["queue", id] => [("GET", .entry id)]
  | ["history"] => [("GET", .history)]
  | ["history", "summary"] => [("GET", .summary)]
  | ["policy"] => [("GET", .policy)]
  | ["policy", "reload"] => [("POST", .reload)]
  | _ => []

def segments (path : String) : List String := (Text.splitAt '/' path.toList).map String.ofList

def ofPath (path : String) : List (String × Route) :=
  match segments path with
  | ["", ""] => [("GET", .root)]
  | ["", "health"] => [("GET", .health)]
  | ["", "health", "live"] => [("GET", .live)]
  | ["", "health", "ready"] => [("GET", .ready)]
  | "" :: "api" :: "v1" :: "notifications" :: rest =>
    if rest.contains "" then [] else ofSegments rest
  | _ => []

/-- The paths of the documentation, which know no method but reading. -/
def isDocumentation (path : String) : Bool :=
  ["/docs", "/docs/oauth2-redirect", "/redoc", "/openapi.json"].contains path

def isKnown (path : String) : Bool := !(ofPath path).isEmpty || isDocumentation path

/-- Whether a path is unknown and ends in slashes without which it is a
known one. -/
def isElsewhere (path : String) : Bool :=
  !isKnown path && path.endsWith "/"
    && isKnown (String.ofList (path.toList.reverse.dropWhile (· == '/')).reverse)

def find (method path : String) : Except Fault Route :=
  let known := ofPath path
  match known.lookup method with
  | some route => .ok route
  | none =>
    if isKnown path then .error (.badRequest 405 "Method Not Allowed")
    else .error (.badRequest 404 "Not Found")

def needsService : Route → Bool
  | .root | .health | .live | .ready | .definitions => false
  | _ => true

def readsBody : Route → Bool
  | .enqueue | .configure _ | .test _ | .requeue => true
  | _ => false

end Route

end AlertDelivery.Api
