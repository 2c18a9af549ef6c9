import AlertDelivery.Catalog.Schema
import AlertDelivery.Service

/-!
# Channels of the service

What an operator does with channels: switching them on and off, testing
them, and changing their configuration. The stored rows and the registered
channels change together.
-/

namespace AlertDelivery.Service

def register (c : Channel) : Op Unit := modify fun s => { s with registry := s.registry.register c }

def unregister (type : String) : Op Unit :=
  modify fun s => { s with registry := s.registry.unregister type }

def initializeChannels (t : Clock.Reading) : Op Nat := onStore (Store.initializeChannels t.now)

/-- Overlays one stored configuration onto its registered channel. A type
that has none gets a channel of its kind, if the configuration is complete
and kinds may be added. Counts what it did. -/
def applyConfig (addKinds : Bool) (acc : Channel.Registry × Nat) (stored : String × Fields) :
    Channel.Registry × Nat :=
  let (registry, count) := acc
  let (type, config) := stored
  if registry.contains type then
    (registry.configure type fun live => Fields.overlay live config, count + 1)
  else match addKinds, Channel.Kind.ofType? type with
    | true, some kind =>
      let c := Channel.ofKind kind config
      if c.isEnabled then (registry.register c, count + 1) else (registry, count)
    | _, _ => (registry, count)

def applyStoredConfigs (addKinds : Bool) : Op Nat := do
  let stored ← onStore (Store.query "apply_stored_configs" fun s => .ok s.channels.configured)
  let s ← get
  let (registry, count) := stored.foldl (applyConfig addKinds) (s.registry, 0)
  set { s with registry }
  pure count

def start (t : Clock.Reading) : Op Unit := do
  let _ ← initializeChannels t
  let _ ← applyStoredConfigs true
  let _ ← reloadPolicy

def enable (type : String) (t : Clock.Reading) : Op Unit :=
  onStore (Store.modifyChannel "enable" type (Channel.Row.enable t.now))

def disable (type : String) (t : Clock.Reading) : Op Unit :=
  onStore (Store.modifyChannel "disable" type (Channel.Row.disable t.now))

def beginTest (type : String) (t : Clock.Reading) : Op Channel := do
  let s ← get
  let channel ← lift (s.registry.get type)
  onStore (Store.modifyChannel "test" type (Channel.Row.beginTest t.now))
  pure channel

def testFault (type : String) (timeout : Number) : Fault → Fault
  | .mishap .timeout _ =>
    .sendFailed type ("test timed out after " ++ timeout.toBinary64.fixedText 0 ++ "s") []
  | fault => fault

/-- Stores the outcome of a test. A fault of the channel is reported
whether or not it could be stored. -/
def endTest (type : String) (result : Except Fault Unit) (t : Clock.Reading) : Op Unit := do
  let s ← get
  match result with
  | .ok _ => onStore (Store.modifyChannel "test" type (Channel.Row.passTest t.now))
  | .error fault =>
    let fault := testFault type s.testTimeout fault
    quietly (onStore
      (Store.modifyChannel "test" type (Channel.Row.failTest fault.message t.now)))
    throw fault

def health (type : String) : Op Channel.Health := do
  let row ← onStore (Store.channelRow "channel_stats" type)
  let s ← get
  lift (row.health (s.registry.contains type))

def allHealth : Op (List Channel.Health) := do
  let rows ← onStore (Store.query "list_channels" fun s => .ok s.channels.sorted)
  let s ← get
  lift (rows.mapM fun row => row.health (s.registry.contains row.type))

def enabledTypes : Op (List String) :=
  onStore (Store.query "list_enabled" fun s => .ok s.channels.enabledTypes)

def storedConfig (type : String) : Op Fields := do
  let row ← onStore (Store.channelRow "get_config" type)
  pure row.fields

/-- The normalised configuration for a type, checked by its definition and
by its registered channel. -/
def checkedConfig (registry : Channel.Registry) (type : String) (config : Fields) :
    Except Fault Fields := do
  let definition := Catalog.find? type
  if definition.isNone && !registry.contains type then throw (Channel.notFound type)
  let cleaned ← match definition with
    | some d => d.clean config
    | none => pure config
  match registry.find? type with
  | some channel => channel.validate cleaned
  | none => pure ()
  pure cleaned

def updateConfig (type : String) (config : Fields) (t : Clock.Reading) : Op Fields := do
  let s ← get
  let cleaned ← lift (checkedConfig s.registry type config)
  onStore (Store.modifyChannel "update_config" type (Channel.Row.configure cleaned t.now))
  modify fun s => { s with registry := s.registry.configure type fun _ => cleaned }
  pure cleaned

end AlertDelivery.Service
