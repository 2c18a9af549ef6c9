import AlertDelivery.Number.Numeral
import AlertDelivery.Settings
import AlertDelivery.Text.Encoding

/-!
# Database connections

The address of a database names its dialect, the driver that speaks it, the
server and the database. `Database.connect` reads an address and says how
connections to it are kept: a server gets a pool, an embedded database does
not.
-/

namespace AlertDelivery.Database

structure Address where
  dialect : String
  driver : Option String := none
  user : Option String := none
  password : Option String := none
  host : Option String := none
  port : Option Int := none
  database : Option String := none
deriving DecidableEq, Repr

namespace Address

/-- Letters, digits, underscores and the plus sign before a driver. -/
def isNameChar (c : Char) : Bool := c.isAlphanum || c == '_' || c == '+'

def cutAtFirst (mark : Char) (cs : List Char) : List Char × Option (List Char) :=
  match cs.dropWhile (· != mark) with
  | [] => (cs, none)
  | _ :: rest => (cs.takeWhile (· != mark), some rest)

/-- A part that is there only if it is not empty. -/
def filled (cs : List Char) : Option String :=
  if cs.isEmpty then none else some (String.ofList cs)

/-- User and password before an at sign, and what follows it. The user has
no colon and no slash. -/
def takeAccount (cs : List Char) : (Option String × Option String) × List Char :=
  let user := cs.takeWhile fun c => c != ':' && c != '/' && c != '@'
  let shown (cs : List Char) : Option String := some (Text.pathDecoded (String.ofList cs))
  match cs.drop user.length with
  | '@' :: rest => ((shown user, none), rest)
  | ':' :: more => match cutAtFirst '@' more with
    | (password, some rest) => ((shown user, shown password), rest)
    | (_, none) => ((none, none), cs)
  | _ => ((none, none), cs)

/-- The host, in brackets or up to a colon, and what follows it. -/
def takeHost (cs : List Char) : Option String × List Char :=
  let plain (cs : List Char) : Option String × List Char :=
    let host := cs.takeWhile fun c => c != '/' && c != ':' && c != '?'
    (filled host, cs.drop host.length)
  match cs with
  | '[' :: rest =>
    let host := rest.takeWhile fun c => c != ']' && c != '/' && c != '?'
    match rest.drop host.length with
    | ']' :: after => if host.isEmpty then plain cs else (filled host, after)
    | _ => plain cs
  | _ => plain cs

def badPort : Fault := .mishap .type "Port argument must be an integer or None"

def takePort : List Char → Except Fault (Option Int × List Char)
  | ':' :: rest =>
    let port := rest.takeWhile fun c => c != '/' && c != '?'
    if port.isEmpty then .error badPort
    else (Value.text (String.ofList port)).toInt.map fun n => (some n, rest.drop port.length)
  | cs => .ok (none, cs)

def databaseOf : List Char → Option String
  | '/' :: rest => some (String.ofList (rest.takeWhile (· != '?')))
  | _ => none

def malformed (s : String) : Fault :=
  .mishap .argument ("Could not parse a database address from " ++ Text.quoted s)

def afterSlashes? : List Char → Option (List Char)
  | ':' :: '/' :: '/' :: rest => some rest
  | _ => none

def read (s : String) : Except Fault Address := do
  let name := s.toList.takeWhile isNameChar
  match afterSlashes? (s.toList.drop name.length) with
  | none => throw (malformed s)
  | some rest =>
    if name.isEmpty then throw (malformed s)
    let (dialect, driver) := cutAtFirst '+' name
    let ((user, password), rest) := takeAccount rest
    let (host, rest) := takeHost rest
    let (port, rest) ← takePort rest
    pure { dialect := String.ofList dialect, driver := driver.map String.ofList,
           user, password, host, port, database := databaseOf rest }

def hasServer (a : Address) : Bool :=
  a.user.isSome || a.password.isSome || a.host.isSome || a.port.isSome

end Address

/-- The drivers that do not block, with their dialects. -/
def drivers : List (String × String) := [("postgresql", "asyncpg"), ("sqlite", "aiosqlite")]

structure Pool where
  size : Int
  overflow : Int
deriving DecidableEq, Repr

structure Engine where
  address : Address
  echo : Bool
  pool : Option Pool
deriving DecidableEq, Repr

/-- An embedded database is known by how its address starts. -/
def isEmbedded (s : String) : Bool := s.startsWith "sqlite"

def check (a : Address) : Except Fault Unit :=
  if !(drivers.map (·.1)).contains a.dialect then
    .error (.mishap .dialect ("unknown dialect " ++ a.dialect))
  else if a.dialect == "sqlite" && a.hasServer then
    .error (.mishap .argument "an embedded database has no server")
  else if !drivers.contains (a.dialect, a.driver.getD "") then
    .error (.mishap .driver "a driver that does not block is needed")
  else .ok ()

def connect (settings : Settings) (address : String) (echo : Bool) : Except Fault Engine := do
  let parsed ← Address.read address
  check parsed
  pure { address := parsed, echo
         pool := if isEmbedded address then none
           else some ⟨settings.databasePoolSize, settings.databaseMaxOverflow⟩ }

def ofSettings (settings : Settings) : Except Fault Engine :=
  connect settings settings.databaseUrl settings.databaseEcho

def Engine.describe (e : Engine) : Value := .record ([
  ("dialect", .text e.address.dialect), ("driver", .optional .text e.address.driver),
  ("database", .optional .text e.address.database), ("echo", .bool e.echo)]
  ++ match e.pool with
    | some pool => [("pool_size", .int pool.size), ("max_overflow", .int pool.overflow),
        ("pre_ping", .bool true)]
    | none => [])

end AlertDelivery.Database
