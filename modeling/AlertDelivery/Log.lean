import AlertDelivery.Log.Template
import AlertDelivery.Settings
import AlertDelivery.Time.Clock
import AlertDelivery.Time.Instant
import AlertDelivery.Text.Lowercase

/-!
# Log lines

A log record as one JSON object on a line of ASCII, or as a coloured line
for a terminal. The delivery fields of a record are shown only where they
are set; the request context comes from outside the record.
-/

namespace AlertDelivery.Log

structure Record where
  name : String := "app"
  level : Int := 20
  template : String := ""
  args : List Value := []
  /-- Seconds since 1970. -/
  created : Rat := 0
  module : String := "worker"
  line : Int := 1
  extra : Fields := []
  failure : Option Fault := none

def deliveryKeys : List String :=
  ["queue_id", "channel", "state", "retry_count", "priority", "claimed"]

def topLevelKeys : List String := ["status_code", "endpoint", "duration_ms"]

def deliveryFields (r : Record) : Fields :=
  deliveryKeys.filterMap fun key =>
    match r.extra.get? key with
    | none | some .null => none
    | some v => some (key, v)

def levelNames : List (Int × String) :=
  [(10, "DEBUG"), (20, "INFO"), (30, "WARNING"), (40, "ERROR"), (50, "CRITICAL"),
   (0, "NOTSET")]

def levelName (level : Int) : String :=
  (levelNames.lookup level).getD ("Level " ++ toString level)

/-- The message; a template without arguments stands for itself, and a
single record gives its fields by name. -/
def message (r : Record) : Except Fault String :=
  match r.args with
  | [] => .ok r.template
  | [.record (field :: fields)] => expand r.template (.named (field :: fields))
  | args => expand r.template (.positional args)

def createdAt (r : Record) : Except Fault Instant :=
  let micros := Instant.epochMicros + Clock.wholeMicros r.created
  match Instant.ofMicros? micros with
  | some t => .ok t
  | none => .error (.badValue ("year " ++ toString (Instant.yearAt micros) ++ " is out of range"))

def jsonLine (context : Fields) (r : Record) : Except Fault String := do
  let at_ ← createdAt r
  let text ← message r
  let head : Fields :=
    [("timestamp", .text (at_.text ++ "+00:00")), ("level", .text (levelName r.level)),
     ("logger", .text r.name), ("message", .text text),
     ("source", .text (r.module ++ ":" ++ toString r.line))]
  let request : Fields := if context.isEmpty then [] else [("request", .record context)]
  let set := deliveryFields r
  let delivery : Fields := if set.isEmpty then [] else [("delivery", .record set)]
  let top := topLevelKeys.filterMap fun key => (r.extra.get? key).map fun v => (key, v)
  let failure : Fields := match r.failure with
    | some fault => [("exception",
        .record [("type", .text fault.name), ("message", .text fault.message)])]
    | none => []
  pure (Json.write (.record (head ++ request ++ delivery ++ top ++ failure)))

def colour (level : Int) : String :=
  let code := match level with
    | 10 => "36"
    | 20 => "32"
    | 30 => "33"
    | 40 => "31"
    | 50 => "35"
    | _ => "0"
  "\x1b[" ++ code ++ "m"

/-- The first eight characters of a request id, in brackets; nothing when
there is none. -/
def requestMark (context : Fields) : Except Fault String :=
  let id := context.getD "request_id"
  if !id.truthy then .ok ""
  else match id with
    | .text s => .ok (" [" ++ String.ofList (s.toList.take 8) ++ "]")
    | .list items => .ok (" [" ++ (Value.list (items.take 8)).plain ++ "]")
    | _ => .error (.mishap .type "request id cannot be cut")

def deliveryTail (r : Record) : String :=
  let set := deliveryFields r
  let id := match set.get? "queue_id" with
    | some v => ["#" ++ v.plain]
    | none => []
  let rest := (set.filter (·.1 != "queue_id")).map fun (k, v) => k ++ "=" ++ v.plain
  match id ++ rest with
  | [] => ""
  | parts => "  (" ++ " ".intercalate parts ++ ")"

def clockText (r : Record) : String :=
  let seconds := (r.created.floor % 86400).toNat
  Instant.padded 2 (seconds / 3600) ++ ":" ++ Instant.padded 2 (seconds / 60 % 60) ++ ":"
    ++ Instant.padded 2 (seconds % 60)

def prettyLine (context : Fields) (r : Record) : Except Fault String := do
  let level := levelName r.level
  let level := level ++ "".pushn ' ' (8 - level.length)
  let head := colour r.level ++ clockText r ++ " " ++ level ++ colour 0
  let mark ← requestMark context
  let text ← message r
  let failure := match r.failure with
    | some fault => "\n  " ++ fault.name ++ ": " ++ fault.message
    | none => ""
  pure (head ++ mark ++ " " ++ r.name ++ ": " ++ text ++ deliveryTail r ++ failure)

/-- The level that a name stands for in any case; information where there
is no such level. -/
def levelOf (name : String) : Int :=
  match String.ofList (name.toList.flatMap Text.capitals) with
  | "DEBUG" => 10
  | "INFO" => 20
  | "WARNING" | "WARN" => 30
  | "ERROR" => 40
  | "CRITICAL" | "FATAL" => 50
  | "NOTSET" => 0
  | _ => 20

def libraryLevel : Int := 30

/-- How logging is set up: JSON lines in production only. -/
structure Setup where
  level : Int
  json : Bool

def Setup.ofSettings (s : Settings) : Setup := ⟨levelOf s.logLevel, s.isProduction⟩

end AlertDelivery.Log
