import AlertDelivery.Proofs.Catalog.Required
import AlertDelivery.Proofs.Service.Configuring
import AlertDelivery.Proofs.Service.Reloading

/-!
# Restarts

A service that starts on a store brings the stored configurations to its
channels. A type without a channel gets one of its kind, which a stored
configuration is always enough for. A channel that the environment has
registered already takes every stored field over its own and keeps the rest.
-/

namespace AlertDelivery

namespace Channel

variable {type other : String} {c : Channel} {r : Registry}

namespace Registry

def ofType (r : Registry) (type : String) : List Channel := r.channels.filter (·.type == type)

theorem find?_eq_head? (r : Registry) (type : String) : r.find? type = (r.ofType type).head? :=
  List.head?_filter.symm

theorem contains_iff : r.contains type = true ↔ r.ofType type ≠ [] := by
  simp [contains, ofType, List.filter_eq_nil_iff]

theorem not_contains_iff : r.contains type = false ↔ r.ofType type = [] := by
  rw [← Bool.not_eq_true, contains_iff, not_not]

theorem ofType_configure (r : Registry) (type other : String) (f : Fields → Fields) :
    (r.configure other f).ofType type = if other = type
      then (r.ofType type).map fun c => { c with config := f c.config } else r.ofType type := by
  have htype (c : Channel) :
      (if c.type == other then { c with config := f c.config } else c).type = c.type := by
    split <;> rfl
  simp only [ofType, configure, List.filter_map, Function.comp_def, htype]
  split
  next heq =>
    refine List.map_congr_left fun c hc => ?_
    have hc : c.type = other := by simpa [heq] using (List.mem_filter.mp hc).2
    simp [hc]
  next hne =>
    refine (List.map_congr_left fun c hc => ?_).trans (List.map_id _)
    have hc : c.type = type := by simpa using (List.mem_filter.mp hc).2
    simp [hc, Ne.symm hne]

theorem ofType_register (h : r.contains c.type = false) (type : String) :
    (r.register c).ofType type = if c.type = type then [c] else r.ofType type := by
  rw [register, h, if_neg Bool.false_ne_true, ofType, List.filter_append]
  split
  next heq => simpa [heq, ofType] using not_contains_iff.mp h
  next hne => simp [hne, ofType]

end Registry

-- ---------------------------------------------------------------------------
-- Channels of the environment
-- ---------------------------------------------------------------------------

def Kind.environmentKeys : Kind → List String
  | .email => ["host", "port", "username", "password", "from_address", "use_tls"]
  | .web .webhook => ["url"]
  | .web .slack => ["webhook_url"]
  | .web .discord => ["webhook_url"]
  | .web .telegram => ["bot_token"]
  | .web .twilio => ["account_sid", "auth_token", "from_number"]
  | .web .gotify => ["url", "token"]
  | .web .pushover => ["app_token"]

theorem ofSettings_keys {settings : Settings} (h : c ∈ ofSettings settings) :
    ∃ k, c.backend = .shipped k ∧ c.config.keys = k.environmentKeys := by
  have hmem := (List.mem_filter.mp h).1
  simp only [List.mem_cons, List.not_mem_nil, or_false] at hmem
  rcases hmem with rfl | rfl | rfl | rfl | rfl | rfl | rfl | rfl <;> exact ⟨_, rfl, rfl⟩

/-- The login of a mail channel is all that a form may leave out of what the
environment says. -/
theorem Kind.environmentKeys_kept (k : Kind) : ∀ key ∈ k.environmentKeys,
    (∃ f ∈ k.definition.fields, f.key = key ∧ f.isKept = true) ∨
      k.type = "email" ∧ (key = "username" ∨ key = "password") := by
  cases k with
  | email => decide
  | web k => cases k <;> decide

theorem Kind.left_out {k : Kind} {config cleaned : Fields} {key : String}
    (hclean : k.definition.clean config = .ok cleaned) (hkey : key ∈ k.environmentKeys)
    (hout : key ∉ cleaned.keys) : k.type = "email" ∧ (key = "username" ∨ key = "password") := by
  rcases k.environmentKeys_kept key hkey with ⟨f, hf, rfl, hkept⟩ | hlogin
  · obtain ⟨v, hv, -⟩ := get?_kept hclean hf hkept
    cases (Fields.get?_eq_none_iff.mpr hout).symm.trans hv
  · exact hlogin

theorem Kind.login_mem {k : Kind} (h : k.type = "email") :
    "username" ∈ k.environmentKeys ∧ "password" ∈ k.environmentKeys := by
  have hk : some k = some .email := by rw [← k.ofType?_type, h]; rfl
  cases hk
  decide

-- ---------------------------------------------------------------------------
-- Stored configurations
-- ---------------------------------------------------------------------------

namespace Table

variable {t : Table} {config : Fields} {now : Instant} {row : Row}

def Stores (t : Table) (type : String) (config : Fields) : Prop :=
  (∃ r ∈ t.rows, r.type = type) ∧ ∀ r ∈ t.rows, r.type = type → r.fields = config

theorem stores_update (h : t.find? type = some row) (config : Fields) (now : Instant) :
    (t.update type (Row.configure config now)).Stores type config := by
  have hrow : row.type = type := by simpa using List.find?_some h
  constructor
  · refine ⟨_, List.mem_map_of_mem (List.mem_of_find?_eq_some h), ?_⟩
    simp [hrow, Row.configure]
  · intro r hr htype
    obtain ⟨old, -, rfl⟩ := List.mem_map.mp hr
    by_cases hold : (old.type == type) = true
    · rw [if_pos hold]
      rfl
    · rw [if_neg hold] at htype
      exact absurd (by simpa using htype) hold

theorem Stores.addMissing (h : t.Stores type config) (now : Instant) (d : ChannelDefinition) :
    (t.addMissing now d).Stores type config := by
  unfold Table.addMissing
  split
  · exact h
  next hmissing =>
    obtain ⟨⟨r, hr, htype⟩, hall⟩ := h
    refine ⟨⟨r, List.mem_append_left _ hr, htype⟩, fun r' hr' htype' => ?_⟩
    rcases List.mem_append.mp hr' with hr' | hr'
    · exact hall r' hr' htype'
    · -- the new row is of a type that had none
      cases List.mem_singleton.mp hr'
      have hne := List.find?_eq_none.mp hmissing r hr
      exact absurd (htype.trans htype'.symm) (by simpa using hne)

theorem Stores.addCatalog (h : t.Stores type config) (now : Instant) :
    (t.addCatalog now).2.Stores type config := by
  rw [addCatalog_snd]
  generalize Catalog.definitions = ds
  induction ds generalizing t with
  | nil => exact h
  | cons d rest ih => exact ih (h.addMissing now d)

theorem Stores.configured (h : t.Stores type config) (hne : config ≠ []) :
    (∃ p ∈ t.configured, p.1 = type) ∧ ∀ p ∈ t.configured, p.1 = type → p.2 = config := by
  obtain ⟨⟨r, hr, htype⟩, hall⟩ := h
  constructor
  · have hfields : r.fields = config := hall r hr htype
    have hset : (!r.fields.isEmpty) = true := by simpa [hfields] using hne
    exact ⟨_, List.mem_map_of_mem (List.mem_filter.mpr ⟨hr, hset⟩), htype⟩
  · intro p hp htype'
    obtain ⟨r', hr', rfl⟩ := List.mem_map.mp hp
    exact hall r' (List.mem_filter.mp hr').1 htype'

end Table

end Channel

namespace Service

open Channel (Registry Kind ofKind)

variable {s s' fresh : Service} {type : String} {config cleaned : Fields} {cs : List Channel}
  {stored : List (String × Fields)} {acc : Registry × Nat} {k : Kind} {t : Clock.Reading}

-- ---------------------------------------------------------------------------
-- Bringing configurations to channels
-- ---------------------------------------------------------------------------

/-- What a stored configuration makes of the channels of its type. -/
def bring (type : String) (config : Fields) : List Channel → List Channel
  | [] => match Kind.ofType? type with
    | some kind => if (ofKind kind config).isEnabled then [ofKind kind config] else []
    | none => []
  | c :: cs => (c :: cs).map fun c => { c with config := Fields.overlay c.config config }

theorem type_of_ofType? (h : Kind.ofType? type = some k) : k.type = type := by
  simpa using List.find?_some h

theorem ofType_applyConfig_self (acc : Registry × Nat) (p : String × Fields) :
    (applyConfig true acc p).1.ofType p.1 = bring p.1 p.2 (acc.1.ofType p.1) := by
  obtain ⟨registry, count⟩ := acc
  obtain ⟨type, config⟩ := p
  unfold applyConfig
  dsimp only
  cases hc : registry.contains type with
  | true =>
    obtain ⟨c, cs, hcs⟩ := List.exists_cons_of_ne_nil (Registry.contains_iff.mp hc)
    rw [if_pos rfl, Registry.ofType_configure, if_pos rfl, hcs, bring]
  | false =>
    have hnone := Registry.not_contains_iff.mp hc
    rw [if_neg Bool.false_ne_true, hnone, bring]
    cases hk : Kind.ofType? type with
    | none => exact hnone
    | some kind =>
      have htype : (ofKind kind config).type = type := type_of_ofType? hk
      dsimp only
      split
      · rw [Registry.ofType_register (htype ▸ hc), if_pos htype]
      · exact hnone

theorem ofType_applyConfig_ne {p : String × Fields} (hne : p.1 ≠ type) (acc : Registry × Nat) :
    (applyConfig true acc p).1.ofType type = acc.1.ofType type := by
  obtain ⟨registry, count⟩ := acc
  obtain ⟨other, config⟩ := p
  unfold applyConfig
  dsimp only
  cases hc : registry.contains other with
  | true => rw [if_pos rfl, Registry.ofType_configure, if_neg hne]
  | false =>
    rw [if_neg Bool.false_ne_true]
    cases hk : Kind.ofType? other with
    | none => rfl
    | some kind =>
      have htype : (ofKind kind config).type = other := type_of_ofType? hk
      dsimp only
      split
      · rw [Registry.ofType_register (htype ▸ hc), if_neg (htype ▸ hne)]
      · rfl

theorem bring_again (hd : config.keys.Nodup) (type : String) (cs : List Channel) :
    bring type config (bring type config cs) = bring type config cs := by
  have hself : Fields.overlay config config = config :=
    Fields.overlay_held fun p hp => Fields.get?_of_mem hd hp
  cases cs with
  | nil =>
    cases hk : Kind.ofType? type with
    | none => simp only [bring, hk]
    | some kind =>
      have hbring : bring type config [] =
          if (ofKind kind config).isEnabled then [ofKind kind config] else [] := by
        simp only [bring, hk]
      rw [hbring]
      split
      · simp only [bring, List.map_cons, List.map_nil, ofKind, hself]
      next hoff => rw [hbring, if_neg hoff]
  | cons c cs =>
    simp only [bring, List.map_cons, List.map_map, Function.comp_def, Fields.overlay_again hd]

theorem ofType_applied (hall : ∀ p ∈ stored, p.1 = type → p.2 = config)
    (h : bring type config (acc.1.ofType type) = acc.1.ofType type) :
    (stored.foldl (applyConfig true) acc).1.ofType type = acc.1.ofType type := by
  induction stored generalizing acc with
  | nil => rfl
  | cons p rest ih =>
    obtain ⟨hp, hrest⟩ := List.forall_mem_cons.mp hall
    have hstep : (applyConfig true acc p).1.ofType type = acc.1.ofType type := by
      by_cases heq : p.1 = type
      · subst heq
        rw [ofType_applyConfig_self, hp rfl, h]
      · exact ofType_applyConfig_ne heq acc
    rw [List.foldl_cons, ih hrest (by rw [hstep, h]), hstep]

theorem ofType_applyConfigs (hd : config.keys.Nodup)
    (hall : ∀ p ∈ stored, p.1 = type → p.2 = config) (hsome : ∃ p ∈ stored, p.1 = type) :
    (stored.foldl (applyConfig true) acc).1.ofType type =
      bring type config (acc.1.ofType type) := by
  induction stored generalizing acc with
  | nil =>
    obtain ⟨p, hp, -⟩ := hsome
    cases hp
  | cons p rest ih =>
    obtain ⟨hp, hrest⟩ := List.forall_mem_cons.mp hall
    rw [List.foldl_cons]
    by_cases heq : p.1 = type
    · subst heq
      have hstep := ofType_applyConfig_self acc p
      rw [hp rfl] at hstep
      rw [ofType_applied hrest (by rw [hstep, bring_again hd]), hstep]
    · have hstep := ofType_applyConfig_ne heq acc
      have hrest' : ∃ p ∈ rest, p.1 = type := by
        obtain ⟨p', hp', htype⟩ := hsome
        rcases List.mem_cons.mp hp' with rfl | hp'
        · exact absurd htype heq
        · exact ⟨p', hp', htype⟩
      rw [ih hrest hrest', hstep]

-- ---------------------------------------------------------------------------
-- Starting
-- ---------------------------------------------------------------------------

theorem initializeChannels_ok (hup : s.store.isUp = true) (t : Clock.Reading) :
    ∃ n rows, rows = (s.store.channels.addCatalog t.now).2 ∧
      initializeChannels t s = .ok n { s with store := { s.store with channels := rows } } := by
  cases hp : s.store.channels.addCatalog t.now with
  | mk n rows => exact ⟨n, rows, rfl, onStore_ok (Store.onChannels_up
      (fun table => .ok (table.addCatalog t.now)) hup (congrArg Except.ok hp))⟩

theorem applyStoredConfigs_ok (hup : s.store.isUp = true) :
    ∃ n, applyStoredConfigs true s = .ok n { s with
      registry := (s.store.channels.configured.foldl (applyConfig true) (s.registry, 0)).1 } := by
  have hq : onStore (Store.query "apply_stored_configs" fun st => .ok st.channels.configured) s =
      .ok s.store.channels.configured s :=
    onStore_ok (Store.query_up (fun st => .ok st.channels.configured) hup rfl)
  refine ⟨(s.store.channels.configured.foldl (applyConfig true) (s.registry, 0)).2, ?_⟩
  rw [applyStoredConfigs, run_bind_ok hq]
  rfl

theorem start_ok (hup : s.store.isUp = true) (t : Clock.Reading) :
    ∃ s' rows, rows = (s.store.channels.addCatalog t.now).2 ∧ start t s = .ok () s' ∧
      s'.store = { s.store with channels := rows } ∧
      s'.registry = (rows.configured.foldl (applyConfig true) (s.registry, 0)).1 := by
  obtain ⟨n, rows, hrows, hinit⟩ := initializeChannels_ok hup t
  generalize hs₁ : ({ s with store := { s.store with channels := rows } } : Service) = s₁ at hinit
  have hup₁ : s₁.store.isUp = true := hs₁ ▸ hup
  obtain ⟨m, happly⟩ := applyStoredConfigs_ok hup₁
  generalize hs₂ : ({ s₁ with registry := (s₁.store.channels.configured.foldl (applyConfig true)
    (s₁.registry, 0)).1 } : Service) = s₂ at happly
  have hup₂ : s₂.store.isUp = true := hs₂ ▸ hup₁
  obtain ⟨s', hload, hstore, hregistry⟩ : ∃ s', reloadPolicy s₂ = .ok _ s' ∧
      s'.store = s₂.store ∧ s'.registry = s₂.registry := ⟨_, reloadPolicy_up hup₂, rfl, rfl⟩
  refine ⟨s', rows, hrows, ?_, ?_, ?_⟩
  · rw [start, run_bind_ok hinit, run_bind_ok happly]
    exact discard_ok hload
  · rw [hstore, ← hs₂, ← hs₁]
  · rw [hregistry, ← hs₂, ← hs₁]

theorem start_after_update (hd : cleaned.keys.Nodup) (hne : cleaned ≠ [])
    (hwritten : updateConfig type config t s = .ok cleaned s') (hstore : fresh.store = s'.store)
    (tStart : Clock.Reading) :
    ∃ fresh', start tStart fresh = .ok () fresh' ∧
      fresh'.registry.ofType type = bring type cleaned (fresh.registry.ofType type) ∧
      storedConfig type fresh' = .ok cleaned fresh' := by
  obtain ⟨-, ⟨r, hr⟩, rfl⟩ := updateConfig_stored hwritten
  have hrow : fresh.HasRow type (r.configure cleaned t.now) := by
    rw [HasRow, hstore]
    exact hr.configured cleaned t.now
  have hstores : fresh.store.channels.Stores type cleaned := by
    rw [hstore]
    exact Channel.Table.stores_update hr.2 cleaned t.now
  obtain ⟨fresh', rows, hrows, hstart, hstore', hregistry⟩ := start_ok hrow.1 tStart
  have hrowsStore : rows.Stores type cleaned := by
    rw [hrows]
    exact hstores.addCatalog tStart.now
  obtain ⟨hsome, hall⟩ := hrowsStore.configured hne
  have hfind := Channel.Table.find?_addCatalog_of_some hrow.2 tStart.now
  rw [← hrows] at hfind
  have hrow' : fresh'.HasRow type (r.configure cleaned t.now) := by
    rw [HasRow, hstore']
    exact ⟨hrow.1, hfind⟩
  exact ⟨fresh', hstart, hregistry ▸ ofType_applyConfigs hd hall hsome, hrow'.storedConfig⟩

/-- What a form of a kind cleaned is complete, and so not empty. -/
theorem clean_ne_nil (h : k.definition.clean config = .ok cleaned) : cleaned ≠ [] := by
  rintro rfl
  have hcomplete := Kind.clean_complete h
  cases k with
  | email => cases hcomplete
  | web k => cases k <;> cases hcomplete

/-- A configuration that was accepted for a channel of the environment is its
live configuration at once. After a restart it is again, but every field of
the environment that it lacks is back. Only the login of a mail channel can
be such a field. -/
theorem restart_keeps_environment {settings : Settings} {c : Channel}
    (hc : c ∈ Channel.ofSettings settings) (hconfig : config.keys.Nodup)
    (hlive : s.backend? c.type = some c.backend)
    (hwritten : updateConfig c.type config t s = .ok cleaned s')
    (hstore : fresh.store = s'.store) (hfresh : fresh.registry.find? c.type = some c)
    (tStart : Clock.Reading) :
    s'.registry.find? c.type = some { c with config := cleaned } ∧
    ∃ fresh' live, start tStart fresh = .ok () fresh' ∧
      fresh'.registry.find? c.type = some { c with config := live } ∧
      (∀ key, live.get? key = (cleaned.get? key).or (c.config.get? key)) ∧
      (∀ key, live.get? key ≠ cleaned.get? key →
        c.type = "email" ∧ (key = "username" ∨ key = "password")) ∧
      ((∀ key, live.get? key = cleaned.get? key) ↔
        (c.type = "email" → "username" ∈ cleaned.keys ∧ "password" ∈ cleaned.keys)) := by
  obtain ⟨k, hk, hkeys⟩ := Channel.ofSettings_keys hc
  have htype : c.type = k.type := by rw [Channel.type, hk]; rfl
  obtain ⟨hchecked, -, hs'⟩ := updateConfig_stored hwritten
  have hclean : k.definition.clean config = .ok cleaned :=
    ((checkedConfig_ok_iff (htype ▸ k.find?_definition)).mp hchecked).1
  have hd : cleaned.keys.Nodup := ChannelDefinition.clean_distinct hconfig hclean
  obtain ⟨fresh', hstart, hchannels, -⟩ :=
    start_after_update hd (clean_ne_nil hclean) hwritten hstore tStart
  have hdiffers (key : String) : Fields.get? (Fields.overlay c.config cleaned) key ≠
      cleaned.get? key ↔ key ∈ k.environmentKeys ∧ key ∉ cleaned.keys :=
    hkeys ▸ Fields.get?_overlay_ne_iff hd
  refine ⟨?_, fresh', Fields.overlay c.config cleaned, hstart, ?_,
    Fields.get?_overlay hd c.config, fun key hne => ?_, ?_⟩
  · obtain ⟨old, hold, hbackend⟩ := Option.map_eq_some_iff.mp hlive
    rw [hs', configured, Channel.Registry.find?_configure, hold, Option.map_some, hbackend]
  · rw [Registry.find?_eq_head?] at hfresh ⊢
    obtain ⟨cs, hcs⟩ := List.head?_eq_some_iff.mp hfresh
    rw [hchannels, hcs]
    rfl
  · obtain ⟨hkey, hout⟩ := (hdiffers key).mp hne
    exact htype ▸ Kind.left_out hclean hkey hout
  · constructor
    · intro hsame hmail
      have hstands (key : String) (hkey : key ∈ k.environmentKeys) : key ∈ cleaned.keys := by
        by_contra hout
        exact (hdiffers key).mpr ⟨hkey, hout⟩ (hsame key)
      obtain ⟨husername, hpassword⟩ := Kind.login_mem (htype.symm.trans hmail)
      exact ⟨hstands _ husername, hstands _ hpassword⟩
    · intro hlogin key
      by_contra hne
      obtain ⟨hkey, hout⟩ := (hdiffers key).mp hne
      obtain ⟨hmail, rfl | rfl⟩ := Kind.left_out hclean hkey hout
      · exact hout (hlogin (htype.trans hmail)).1
      · exact hout (hlogin (htype.trans hmail)).2

def deployed (store : Store) (settings : Settings) : Service :=
  { Service.create store settings {} with
    registry := Registry.ofList (Channel.ofSettings settings) }

def mailEnvironment : Settings :=
  { smtpHost := some "mail.example.com", smtpUser := some "ops", smtpPassword := some "secret" }

def mailChannel : Channel := ofKind .email [
  ("host", .text "mail.example.com"), ("port", .int 587), ("username", .text "ops"),
  ("password", .text "secret"), ("from_address", .text "alerts@weather.local"),
  ("use_tls", .bool true)]

def mailService : Service :=
  after (initializeChannels ⟨0, .first⟩) (deployed {} mailEnvironment)

def relayConfig : Fields := [
  ("host", .text "relay.example.com"), ("port", .int 25),
  ("from_address", .text "alerts@example.com"), ("use_tls", .bool true)]

theorem mailService_update : updateConfig "email" relayConfig ⟨0, .first⟩ mailService =
    .ok relayConfig (mailService.configured "email" relayConfig .first) := by
  obtain ⟨r, hr⟩ := hasRow_initializeChannels (s := deployed {} mailEnvironment) rfl
    (Kind.find?_definition .email) ⟨0, .first⟩
  exact updateConfig_ok hr (by decide +kernel) ⟨0, .first⟩

theorem restart_keeps_environment_mailLogin :
    ∃ fresh' live, start ⟨1, .first⟩
        (deployed (mailService.configured "email" relayConfig .first).store mailEnvironment) =
          .ok () fresh' ∧
      fresh'.registry.find? "email" = some { mailChannel with config := live } ∧
      live.get? "host" = some (.text "relay.example.com") ∧
      live.get? "username" = some (.text "ops") := by
  have hchannel : mailChannel ∈ Channel.ofSettings mailEnvironment := by decide +kernel
  have hstore (store : Store) : (deployed store mailEnvironment).store = store := rfl
  obtain ⟨-, fresh', live, hstart, hlive, hget, -⟩ := restart_keeps_environment hchannel
    (by decide) (by decide +kernel) mailService_update (hstore _) (by decide +kernel) ⟨1, .first⟩
  exact ⟨fresh', live, hstart, hlive, hget "host", hget "username"⟩

-- A relay is moved, and the login of the environment stays.
example : bring "email" [("host", .text "relay.example.com")]
    [ofKind .email [("host", .text "mail.example.com"), ("username", .text "ops")]] =
      [ofKind .email [("host", .text "relay.example.com"), ("username", .text "ops")]] := by
  decide +kernel

/-- A restart may change the live configuration: a login that the accepted
configuration is without comes back. -/
theorem restart_not_always_neutral :
    ¬ ∀ (settings : Settings) (c live live' : Channel) (config cleaned : Fields)
      (t tStart : Clock.Reading) (s s' fresh fresh' : Service),
      c ∈ Channel.ofSettings settings → config.keys.Nodup → s.backend? c.type = some c.backend →
      updateConfig c.type config t s = .ok cleaned s' → fresh.store = s'.store →
      fresh.registry.find? c.type = some c → start tStart fresh = .ok () fresh' →
      s'.registry.find? c.type = some live → fresh'.registry.find? c.type = some live' →
      ∀ key, live'.config.get? key = live.config.get? key := by
  intro h
  let s' := mailService.configured "email" relayConfig .first
  let fresh := deployed s'.store mailEnvironment
  obtain ⟨fresh', hstart⟩ : ∃ fresh', start ⟨1, .first⟩ fresh = .ok () fresh' :=
    ok_of_run' (by decide +kernel)
  have hlive' : (after (start ⟨1, .first⟩) fresh).registry.find? "email" =
      some { mailChannel with config := Fields.overlay mailChannel.config relayConfig } := by
    decide +kernel
  rw [after_ok hstart] at hlive'
  have hsame := h mailEnvironment mailChannel { mailChannel with config := relayConfig } _
    relayConfig relayConfig ⟨0, .first⟩ ⟨1, .first⟩ mailService s' fresh fresh' (by decide +kernel)
    (by decide) (by decide +kernel) mailService_update rfl (by decide +kernel) hstart
    (by decide +kernel) hlive' "username"
  revert hsame
  decide +kernel

/-- A stored configuration is enough for a channel: whatever the form of a
kind makes of a configuration, a channel of the kind can send with it. So
once it is stored for a type without a channel, a service that starts on the
store has one channel of the type, with that configuration. -/
theorem stored_config_suffices (k : Kind) :
    ∃ d, Catalog.find? k.type = some d ∧
      (∀ config cleaned, d.clean config = .ok cleaned →
        (ofKind k cleaned).isEnabled = true ∧
          Channel.checkRequired k.type k.requiredKeys cleaned = .ok ()) ∧
      ∀ (s s' fresh : Service) (config cleaned : Fields) (t tStart : Clock.Reading),
        config.keys.Nodup → s.registry.contains k.type = false →
        updateConfig k.type config t s = .ok cleaned s' →
        fresh.store = s'.store → fresh.registry.contains k.type = false →
        ∃ fresh', start tStart fresh = .ok () fresh' ∧
          fresh'.registry.channels.filter (·.type == k.type) = [ofKind k cleaned] ∧
          storedConfig k.type fresh' = .ok cleaned fresh' := by
  refine ⟨k.definition, k.find?_definition, fun config cleaned hclean => ?_, ?_⟩
  · have hcomplete := Kind.clean_complete hclean
    exact ⟨hcomplete, Channel.checkRequired_complete hcomplete⟩
  · intro s s' fresh config cleaned t tStart hconfig hnone hwritten hstore hfresh
    have hclean : k.definition.clean config = .ok cleaned :=
      ((checkedConfig_ok_iff k.find?_definition).mp (updateConfig_checked hwritten)).1
    obtain ⟨fresh', hstart, hchannels, hstored⟩ := start_after_update
      (ChannelDefinition.clean_distinct hconfig hclean) (clean_ne_nil hclean) hwritten hstore tStart
    refine ⟨fresh', hstart, ?_, hstored⟩
    have henabled : (ofKind k cleaned).isEnabled = true := Kind.clean_complete hclean
    rw [Registry.not_contains_iff.mp hfresh, bring, k.ofType?_type] at hchannels
    dsimp only at hchannels
    rwa [if_pos henabled] at hchannels

def pushForm : Fields := [("url", .text "https://push.example.com"), ("token", .text "t0")]

theorem stored_config_suffices_push :
    (ofKind (.web .gotify) pushForm).isEnabled = true ∧
    ∃ fresh', start ⟨1, .first⟩
        (deployed (mailService.configured "gotify" pushForm .first).store mailEnvironment) =
          .ok () fresh' ∧
      fresh'.registry.channels.filter (·.type == "gotify") =
        [ofKind (.web .gotify) pushForm] := by
  obtain ⟨d, hd, henabled, hstarts⟩ := stored_config_suffices (.web .gotify)
  cases hd
  obtain ⟨r, hr⟩ : ∃ r, mailService.store.channels.find? "gotify" = some r :=
    Option.isSome_iff_exists.mp (by decide +kernel)
  have hrow : mailService.HasRow "gotify" r := ⟨by decide +kernel, hr⟩
  have hwritten : updateConfig "gotify" pushForm ⟨0, .first⟩ mailService =
      .ok pushForm (mailService.configured "gotify" pushForm .first) :=
    updateConfig_ok hrow (by decide +kernel) ⟨0, .first⟩
  obtain ⟨fresh', hstart, hchannels, -⟩ := hstarts mailService _
    (deployed (mailService.configured "gotify" pushForm .first).store mailEnvironment) pushForm
    pushForm ⟨0, .first⟩ ⟨1, .first⟩ (by decide) (by decide +kernel) hwritten rfl
    (by decide +kernel)
  exact ⟨(henabled pushForm pushForm (by decide +kernel)).1, fresh', hstart, hchannels⟩

end Service

end AlertDelivery
