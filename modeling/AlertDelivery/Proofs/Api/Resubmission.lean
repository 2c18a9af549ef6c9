import AlertDelivery.Proofs.Api.ChannelRequests

/-!
# Sending back what was shown

A client reads the configuration of a channel and sends it back unchanged.
What it was shown stands for what is stored, passwords included, and what
is stored is accepted as it is; so nothing changes, and the client is shown
the same again. Fields that answers leave out are the exception: a client
never sees them, and what it sends back is without them.
-/

namespace AlertDelivery

namespace Api

variable {s s₀ s₁ : Service} {type : String} {r : Channel.Row} {d : ChannelDefinition}
  {c : Context} {config cleaned incoming : Fields} {t : Clock.Reading}

-- ---------------------------------------------------------------------------
-- Descriptions are carried
-- ---------------------------------------------------------------------------

theorem optional_carried {f : α → Value} (h : ∀ a, isCarried (f a) = true) (o : Option α) :
    isCarried (.optional f o) = true := by
  cases o with
  | none => rfl
  | some a => exact h a

theorem texts_carried (texts : List String) : areCarried (texts.map .text) = true := by
  rw [areCarried_iff, List.forall_mem_map]
  exact fun _ _ => rfl

theorem health_carried (h : Channel.Health) : areFieldsCarried h.describe = true := by
  have hinstant (o : Option Instant) : isCarried (.optional Instant.toValue o) = true :=
    optional_carried (fun _ => rfl) o
  have htext (o : Option String) : isCarried (.optional .text o) = true :=
    optional_carried (fun _ => rfl) o
  simp [Channel.Health.describe, areFieldsCarried, isCarried, isHidden, List.isPrefixOf, hinstant,
    htext]

theorem field_carried (f : ConfigField) : isCarried f.describe = true := by
  cases hd : f.default? <;> cases ho : f.options.isEmpty <;>
    simp [ConfigField.describe, areFieldsCarried, isCarried, isHidden, List.isPrefixOf, hd, ho,
      texts_carried]

theorem definition_carried (d : ChannelDefinition) : isCarried d.describe = true := by
  have hfields : areCarried (d.fields.map ConfigField.describe) = true := by
    rw [areCarried_iff, List.forall_mem_map]
    exact fun f _ => field_carried f
  simp [ChannelDefinition.describe, areFieldsCarried, isCarried, isHidden, List.isPrefixOf,
    hfields]

-- ---------------------------------------------------------------------------
-- Reading and writing one channel
-- ---------------------------------------------------------------------------

theorem view_ok (h : s.HasRow type r) (hknown : r.state ∈ Channel.HealthState.known) :
    ∃ health, view s type = .ok { body := .record (channelFields type health r.fields) } := by
  have hhealth : ∃ health, r.health (s.registry.contains type) = .ok health := by
    unfold Channel.Row.health
    split
    next hforeign =>
      rw [hforeign] at hknown
      exact absurd hknown (by simp [Channel.HealthState.known])
    next => exact ⟨_, rfl⟩
  obtain ⟨health, hhealth⟩ := hhealth
  refine ⟨health, ?_⟩
  rw [view, Service.row_ok_iff.mpr h, ok_bind, hhealth, ok_bind, Service.row_ok_iff.mpr h, ok_bind]
  rfl

theorem readChannel_ok (hd : Catalog.find? type = some d) (h : s.HasRow type r)
    (hknown : r.state ∈ Channel.HealthState.known)
    (hcarried : areFieldsCarried r.fields = true) (hserving : c.isServing = true)
    (t : Clock.Reading) :
    ∃ body : Fields, answer c (readChannel type) t s = .ok (.done { body := .record body }) s ∧
      body.get? "config" = some (.record (masked type r.fields)) := by
  obtain ⟨health, hview⟩ := view_ok h hknown
  have hfields : channelFields type health r.fields = health.describe ++
      [("definition", d.describe), ("config", .record (masked type r.fields))] := by
    rw [channelFields, hd]
  refine ⟨channelFields type health r.fields, ?_, ?_⟩
  · rw [answer_readChannel hd, if_pos hserving, hview, replied, Response.sent_of_carried]
    have hmasked := covers_carried (masked_covers type r.fields) hcarried
    rw [hfields, isCarried, areFieldsCarried_iff, List.forall_mem_append]
    refine ⟨areFieldsCarried_iff.mp (health_carried health), areFieldsCarried_iff.mp ?_⟩
    simp [areFieldsCarried, isCarried, isHidden, List.isPrefixOf, definition_carried, hmasked]
  · rw [hfields]
    simp [Channel.Health.describe, Fields.get?]

theorem writeConfig_ok (hd : Catalog.find? type = some d) (h : s.HasRow type r)
    (hc : Service.checkedConfig s.registry type (unmasked r.fields incoming) = .ok cleaned)
    (hcarried : areFieldsCarried cleaned = true) (hserving : c.isServing = true)
    (t : Clock.Reading) :
    answer c (writeConfig type incoming) t s = .ok (.done { body := .record [
      ("channel_type", .text type), ("config", .record (masked type cleaned))] })
      (s.configured type cleaned t.now) := by
  rw [answer_writeConfig hd, if_pos hserving, EStateM.map, respond_ok (configure_ok h hc t),
    replied, Response.sent_of_carried]
  have hmasked := covers_carried (masked_covers type cleaned) hcarried
  simp [areFieldsCarried, isCarried, isHidden, List.isPrefixOf, hmasked]

/-- Whoever asks for a channel is shown `shown`; sent back unchanged, that is
accepted and shown again, and the channel's configuration is then `config`,
as stored and as its registered channel has it. -/
def Survives (c : Context) (s : Service) (type : String) (config shown : Fields)
    (tRead tWrite : Clock.Reading) : Prop :=
  ∃ (body : Fields) (s' : Service),
    answer c (readChannel type) tRead s = .ok (.done { body := .record body }) s ∧
    body.get? "config" = some (.record shown) ∧
    answer c (writeConfig type shown) tWrite s = .ok (.done { body := .record [
      ("channel_type", .text type), ("config", .record shown)] }) s' ∧
    Service.storedConfig type s' = .ok config s' ∧
    s'.registry.find? type =
      (s.registry.find? type).map fun channel => { channel with config := config }

/-- What was written for a catalogued channel through the service, and is
stored still, is shown with its passwords masked and survives being sent
back so. The registered channel is of the kind, or as absent, as when it was
written, and an answer can carry the configuration. -/
theorem resubmission_changes_nothing (hd : Catalog.find? type = some d) (hconfig : config.IsProper)
    (hwritten : Service.updateConfig type config t s₀ = .ok cleaned s₁)
    (hcarried : areFieldsCarried cleaned = true)
    (hrow : s.HasRow type r) (hstored : r.fields = cleaned)
    (hknown : r.state ∈ Channel.HealthState.known)
    (hsame : s.backend? type = s₀.backend? type) (hserving : c.isServing = true)
    (tRead tWrite : Clock.Reading) :
    Survives c s type cleaned (masked type cleaned) tRead tWrite := by
  subst hstored
  obtain ⟨hagain, hproper⟩ := Service.checkedConfig_again hd hconfig
    (Service.updateConfig_checked hwritten) hsame
  obtain ⟨body, hread, hshown⟩ := readChannel_ok hd hrow hknown hcarried hserving tRead
  refine ⟨body, s.configured type r.fields tWrite.now, hread, hshown, ?_, ?_, ?_⟩
  · refine writeConfig_ok hd hrow ?_ hcarried hserving tWrite
    rw [unmasked_masked hproper.distinct]
    exact hagain
  · exact (hrow.configured r.fields tWrite.now).storedConfig
  · exact Channel.Registry.find?_configure s.registry type _

-- The mask of a password stands for the password.
example : unmasked [("password", .text "secret")] (masked "email" [("password", .text "secret")]) =
    [("password", .text "secret")] := by
  decide +kernel

def mailForm : Fields := [
  ("host", .text "mail.example.com"), ("port", .text "2525"), ("username", .text ""),
  ("password", .text "secret"), ("from_address", .text "alerts@example.com"),
  ("note", .list [.null])]

def mailConfig : Fields := [
  ("host", .text "mail.example.com"), ("port", .int 2525), ("password", .text "secret"),
  ("from_address", .text "alerts@example.com"), ("note", .list [.null]),
  ("use_tls", .bool true)]

def mailShown : Fields := [
  ("host", .text "mail.example.com"), ("port", .int 2525), ("password", .text "********"),
  ("from_address", .text "alerts@example.com"), ("note", .list [.null]),
  ("use_tls", .bool true)]

theorem withMail_row (type : String) (h : (withMail.store.channels.find? type).map (·.state) =
    some .disabled) : ∃ r, withMail.HasRow type r ∧ r.state ∈ Channel.HealthState.known := by
  obtain ⟨r, hr, hstate⟩ := Option.map_eq_some_iff.mp h
  exact ⟨r, ⟨by decide +kernel, hr⟩, hstate ▸ by decide⟩

theorem resubmission_changes_nothing_mail :
    Survives serving (withMail.configured "email" mailConfig .first) "email" mailConfig mailShown
      ⟨0, .first⟩ ⟨1, .first⟩ := by
  have hproper : mailForm.IsProper := ⟨by decide, by simp [mailForm, Value.IsProper]⟩
  obtain ⟨s₁, hwritten⟩ : ∃ s₁, Service.updateConfig "email" mailForm ⟨0, .first⟩ withMail =
    .ok mailConfig s₁ := ok_of_run' (by decide +kernel)
  obtain ⟨r, hrow, hknown⟩ := withMail_row "email" (by decide +kernel)
  have hshown : masked "email" mailConfig = mailShown := by decide +kernel
  exact hshown ▸ resubmission_changes_nothing (d := Catalog.email) rfl hproper hwritten
    (by decide +kernel) (hrow.configured mailConfig .first) rfl hknown (by decide +kernel) rfl
    ⟨0, .first⟩ ⟨1, .first⟩

/-- A configuration with a field that answers leave out. -/
def markedConfig : Fields := [("_sa_note", .text "keep")]

/-- A configuration that can be written as a document need not survive: a
field that is left out is lost. -/
theorem resubmission_not_always_neutral :
    ¬ ∀ (type : String) (d : ChannelDefinition) (config cleaned : Fields) (t : Clock.Reading)
      (s₀ s₁ s : Service) (r : Channel.Row) (c : Context) (tRead tWrite : Clock.Reading),
      Catalog.find? type = some d → config.IsProper →
      Service.updateConfig type config t s₀ = .ok cleaned s₁ →
      isWritable (.record cleaned) = true → s.HasRow type r → r.fields = cleaned →
      r.state ∈ Channel.HealthState.known → s.backend? type = s₀.backend? type →
      c.isServing = true → ∃ shown, Survives c s type cleaned shown tRead tWrite := by
  intro h
  let t : Clock.Reading := ⟨0, .first⟩
  let s := withMail.configured "whatsapp" markedConfig .first
  have hproper : markedConfig.IsProper := ⟨by decide, by simp [markedConfig, Value.IsProper]⟩
  obtain ⟨s₁, hwritten⟩ : ∃ s₁, Service.updateConfig "whatsapp" markedConfig t withMail =
    .ok markedConfig s₁ := ok_of_run' (by decide +kernel)
  obtain ⟨d, hd⟩ : ∃ d, Catalog.find? "whatsapp" = some d :=
    Option.isSome_iff_exists.mp (by decide +kernel)
  obtain ⟨r, hrow, hknown⟩ := withMail_row "whatsapp" (by decide +kernel)
  obtain ⟨shown, body, s', hread, hshown, hwrite, hstored, -⟩ :=
    h "whatsapp" d markedConfig markedConfig t withMail s₁ s _ serving t t hd hproper hwritten
      (by decide +kernel) (hrow.configured markedConfig .first) rfl hknown (by decide +kernel) rfl
  -- the answer shows an empty configuration
  obtain ⟨s₂, hnone⟩ : ∃ s₂, (do
      let seen ← answer serving (readChannel "whatsapp") t
      pure (shownConfig seen)) s = .ok [] s₂ := ok_of_run' (by decide +kernel)
  have hsame : shownConfig (.done { body := .record body }) = shown := by
    simp only [shownConfig, hshown]
  rw [run_bind_ok hread, hsame] at hnone
  cases hnone
  -- and that is what is stored when it is sent back
  obtain ⟨s₃, hlost⟩ : ∃ s₃, (do
      let _ ← answer serving (writeConfig "whatsapp" []) t
      Service.storedConfig "whatsapp") s = .ok [] s₃ := ok_of_run' (by decide +kernel)
  rw [run_bind_ok hwrite, hstored] at hlost
  cases hlost

end Api

end AlertDelivery
