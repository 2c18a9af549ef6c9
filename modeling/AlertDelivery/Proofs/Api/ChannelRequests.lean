import AlertDelivery.Proofs.Api.Masking
import AlertDelivery.Proofs.Service.Configuring

/-!
# Requests about one channel

Asking for a channel is a look at its row and changes nothing. Submitting a
configuration is a look at the stored one first; what the submission stands
for by then is checked and stored. Either request is answered whatever state
the service is in.
-/

namespace AlertDelivery

namespace Service

theorem health_run (type : String) (s : Service) :
    health type s = lift (do
      let r ← s.row "channel_stats" type
      r.health (s.registry.contains type)) s :=
  run_bind_lift (channelRow_run "channel_stats" type s) fun _ _ => rfl

end Service

namespace Api

variable {s : Service} {type : String} {r : Channel.Row} {d : ChannelDefinition}
  {cleaned incoming : Fields}

def readChannel (type : String) : Request := { method := "GET", path := channelPath type }

def writeConfig (type : String) (config : Fields) : Request where
  method := "PUT"
  path := under (channelPath type) "config"
  content := .document (.record [("config", .record config)])

/-- What a channel's answer shows of its configuration. -/
def shownConfig : Next → Fields
  | .done { body := .record body, .. } => match Fields.get? body "config" with
    | some (.record config) => config
    | _ => []
  | _ => []

-- ---------------------------------------------------------------------------
-- Asking
-- ---------------------------------------------------------------------------

def channelFields (type : String) (health : Channel.Health) (config : Fields) : Fields :=
  let definition := match Catalog.find? type with
    | some d => d.describe
    | none => .null
  health.describe ++ [("definition", definition), ("config", .record (masked type config))]

def view (s : Service) (type : String) : Except Fault Response := do
  let r ← s.row "channel_stats" type
  let health ← r.health (s.registry.contains type)
  let r ← s.row "get_config" type
  pure { body := .record (channelFields type health r.fields) }

theorem channelBody_run (type : String) (s : Service) :
    channelBody type s = Service.lift (view s type) s := by
  have hconfig (health : Channel.Health) := Service.run_bind_lift
    (f := fun config =>
      (pure { body := .record (channelFields type health config) } : Service.Op Response))
    (g := fun config => .ok { body := .record (channelFields type health config) })
    (Service.storedConfig_run type s) fun _ _ => rfl
  refine (Service.run_bind_lift (Service.health_run type s) fun health _ =>
    hconfig health).trans ?_
  simp only [view, bind_assoc, pure_bind]
  rfl

theorem answer_readChannel (hd : Catalog.find? type = some d) (c : Context) (t : Clock.Reading)
    (s : Service) :
    answer c (readChannel type) t s = .ok (.done (replied c (readChannel type)
      (if c.isServing then view s type else .error notServing))) s := by
  have hroute : Route.find (readChannel type).method (Text.pathDecoded (readChannel type).path) =
      .ok (.channel type) := find_channel (catalog_nameable hd)
  rw [answer_route hroute rfl fun _ hr => by cases hr]
  cases c.isServing with
  | false => rfl
  | true =>
    have hrun : run c (readChannel type) none t (.channel type) s = Service.lift (view s type) s :=
      channelBody_run type s
    rw [if_neg (by simp), if_pos rfl, EStateM.map, respond_lift hrun]

-- ---------------------------------------------------------------------------
-- Submitting
-- ---------------------------------------------------------------------------

theorem configure_fault {fault : Fault} (h : s.row "get_config" type = .error fault)
    (incoming : Fields) (t : Clock.Reading) : configure type incoming t s = .error fault s := by
  have hstored : Service.storedConfig type s = .error fault s := by
    rw [Service.storedConfig_run, h]
    rfl
  rw [configure, run_bind_error hstored]

theorem configure_refused {fault : Fault} (h : s.HasRow type r)
    (hc : Service.checkedConfig s.registry type (unmasked r.fields incoming) = .error fault)
    (t : Clock.Reading) : configure type incoming t s = .error fault s := by
  rw [configure, run_bind_ok h.storedConfig, run_bind_error (Service.updateConfig_refused hc t)]

/-- What a submission stands for is stored as it is cleaned, and that is shown
with masks. -/
theorem configure_ok (h : s.HasRow type r)
    (hc : Service.checkedConfig s.registry type (unmasked r.fields incoming) = .ok cleaned)
    (t : Clock.Reading) :
    configure type incoming t s = .ok { body := .record [
      ("channel_type", .text type), ("config", .record (masked type cleaned))] }
      (s.configured type cleaned t.now) := by
  rw [configure, run_bind_ok h.storedConfig, run_bind_ok (Service.updateConfig_ok h hc t)]
  rfl

theorem after_configure (h : s.HasRow type r) (incoming : Fields) (t : Clock.Reading) :
    after (configure type incoming t) s =
      after (Service.updateConfig type (unmasked r.fields incoming) t) s := by
  rw [configure, after_bind_ok h.storedConfig, after_bind_pure]

theorem answer_writeConfig (hd : Catalog.find? type = some d) (c : Context) (incoming : Fields)
    (t : Clock.Reading) (s : Service) :
    answer c (writeConfig type incoming) t s = if c.isServing
      then (respond c (writeConfig type incoming) (configure type incoming t)).map .done s
      else .ok (.done (refuse c (writeConfig type incoming) notServing)) s := by
  have hroute : Route.find (writeConfig type incoming).method
      (Text.pathDecoded (writeConfig type incoming).path) = .ok (.configure type) :=
    find_configure (catalog_nameable hd)
  have hform : configForm (some (.record [("config", .record incoming)])) = .ok incoming := by
    simp [configForm, bodyFields, required, Fields.get?, record, Checked.ofProblem, bind,
      Except.bind]
  have hrun : run c (writeConfig type incoming) (some (.record [("config", .record incoming)])) t
      (.configure type) = configure type incoming t := by
    show checked (configForm (some (.record [("config", .record incoming)])))
      (fun config => configure type config t) = _
    rw [hform, checked]
  rw [answer_route hroute rfl fun _ hr => by cases hr]
  cases c.isServing with
  | false => rfl
  | true => rw [if_neg (by simp), if_pos rfl, hrun]

theorem after_writeConfig (hd : Catalog.find? type = some d) (c : Context) (incoming : Fields)
    (t : Clock.Reading) (s : Service) : after (answer c (writeConfig type incoming) t) s =
      if c.isServing then after (configure type incoming t) s else s := by
  have hanswer := answer_writeConfig hd c incoming t s
  cases hserving : c.isServing with
  | false =>
    rw [hserving] at hanswer
    exact after_ok hanswer
  | true =>
    rw [hserving, if_pos rfl] at hanswer
    rw [if_pos rfl, ← after_respond c (writeConfig type incoming), after, hanswer, after]

def withMail : Service :=
  after (Service.initializeChannels ⟨0, .first⟩)
    { Service.create {} {} {} with registry := ⟨[Channel.ofKind .email []]⟩ }

def serving : Context := { settings := {}, scheduler := none, isServing := true }

end Api

end AlertDelivery
