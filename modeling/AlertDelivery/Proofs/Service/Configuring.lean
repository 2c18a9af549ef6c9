import AlertDelivery.Proofs.Catalog.Cleaning
import AlertDelivery.Proofs.Service.ChannelHealth

/-!
# Storing a configuration

A configuration of a catalogued type is accepted if it can be cleaned and
the registered channel, if there is one, can send with what comes out. What
was accepted once is accepted as it is by the same kind of channel.
-/

namespace AlertDelivery

namespace Channel

theorem validate_congr {a b : Channel} (h : a.backend = b.backend) (config : Fields) :
    a.validate config = b.validate config := by
  simp only [validate, h]

theorem Registry.find?_configure (r : Registry) (type : String) (f : Fields → Fields) :
    (r.configure type f).find? type =
      (r.find? type).map fun c => { c with config := f c.config } := by
  have htype (c : Channel) :
      (if c.type == type then { c with config := f c.config } else c).type = c.type := by
    split <;> rfl
  simp only [find?, configure, List.find?_map, Function.comp_def, htype]
  cases h : r.channels.find? (·.type == type) with
  | none => rfl
  | some c =>
    have hc : c.type = type := by simpa using List.find?_some h
    simp [hc]

end Channel

namespace Service

variable {s s' s₀ : Service} {type : String} {r : Channel.Row} {d : ChannelDefinition}
  {registry registry' : Channel.Registry} {config cleaned : Fields} {t : Clock.Reading}
  {fault : Fault}

def backend? (s : Service) (type : String) : Option Channel.Backend :=
  (s.registry.find? type).map (·.backend)

def row (s : Service) (operation type : String) : Except Fault Channel.Row :=
  if s.store.isUp then s.store.channels.get type else .error (Store.down operation)

theorem row_ok_iff {operation : String} : s.row operation type = .ok r ↔ s.HasRow type r := by
  unfold row HasRow Channel.Table.get
  cases s.store.isUp <;> cases s.store.channels.find? type <;> simp

theorem channelRow_run (operation type : String) (s : Service) :
    onStore (Store.channelRow operation type) s = lift (s.row operation type) s :=
  onStore_lift (Store.query_run operation (fun st => st.channels.get type) s.store)

theorem storedConfig_run (type : String) (s : Service) :
    Service.storedConfig type s = lift (do
      let r ← s.row "get_config" type
      pure r.fields) s :=
  run_bind_lift (channelRow_run "get_config" type s) fun _ _ => rfl

theorem HasRow.storedConfig (h : s.HasRow type r) :
    Service.storedConfig type s = .ok r.fields s := by
  rw [storedConfig_run, row_ok_iff.mpr h]
  rfl

-- ---------------------------------------------------------------------------
-- Checking
-- ---------------------------------------------------------------------------

theorem checkedConfig_ok_iff (hd : Catalog.find? type = some d) :
    checkedConfig registry type config = .ok cleaned ↔
      d.clean config = .ok cleaned ∧
        ∀ c, registry.find? type = some c → c.validate cleaned = .ok () := by
  simp only [checkedConfig, hd, Option.isNone_some, Bool.false_and, Bool.false_eq_true, if_false,
    bind_ok]
  constructor
  · rintro ⟨cleaned', hclean, hrest⟩
    cases hc : registry.find? type with
    | none =>
      rw [hc] at hrest
      cases pure_ok.mp hrest
      exact ⟨hclean, fun c hc => by cases hc⟩
    | some c =>
      rw [hc] at hrest
      obtain ⟨_, hlive, hpure⟩ := bind_ok.mp hrest
      cases pure_ok.mp hpure
      exact ⟨hclean, fun c' hc' => Option.some.inj hc' ▸ hlive⟩
  · rintro ⟨hclean, hlive⟩
    refine ⟨cleaned, hclean, ?_⟩
    cases hc : registry.find? type with
    | none => rfl
    | some c => exact bind_ok.mpr ⟨(), hlive c hc, rfl⟩

/-- What was accepted once is accepted as it is by the same kind of
channel. -/
theorem checkedConfig_again (hd : Catalog.find? type = some d) (hp : config.IsProper)
    (h : checkedConfig registry type config = .ok cleaned)
    (hsame : (registry'.find? type).map (·.backend) = (registry.find? type).map (·.backend)) :
    checkedConfig registry' type cleaned = .ok cleaned ∧ cleaned.IsProper := by
  obtain ⟨hclean, hlive⟩ := (checkedConfig_ok_iff hd).mp h
  obtain ⟨hagain, hproper⟩ :=
    ChannelDefinition.clean_again (Catalog.keys_nodup hd) hp hclean
  refine ⟨(checkedConfig_ok_iff hd).mpr ⟨hagain, fun c' hc' => ?_⟩, hproper⟩
  rw [hc', Option.map_some] at hsame
  obtain ⟨c, hc, hbackend⟩ := Option.map_eq_some_iff.mp hsame.symm
  rw [Channel.validate_congr hbackend.symm]
  exact hlive c hc

-- ---------------------------------------------------------------------------
-- Storing
-- ---------------------------------------------------------------------------

theorem modifyChannel_fault {operation : String} {fault : Fault} {f : Channel.Row → Channel.Row}
    (h : s.row operation type = .error fault) :
    onStore (Store.modifyChannel operation type f) s = .error fault s := by
  unfold row at h
  have hrun : Store.modifyChannel operation type f s.store = .error fault s.store := by
    cases hup : s.store.isUp with
    | false =>
      rw [hup, if_neg Bool.false_ne_true] at h
      cases h
      simp [Store.modifyChannel, Store.onChannels, Store.transact, hup]
    | true =>
      rw [hup, if_pos rfl, Channel.Table.get] at h
      split at h <;> cases h
      exact Store.modifyChannel_missing hup ‹_›
  exact onStore_error hrun

def configured (s : Service) (type : String) (config : Fields) (now : Instant) : Service :=
  { s with
    store := { s.store with
      channels := s.store.channels.update type (Channel.Row.configure config now) }
    registry := s.registry.configure type fun _ => config }

theorem updateConfig_ok (h : s.HasRow type r)
    (hc : checkedConfig s.registry type config = .ok cleaned) (t : Clock.Reading) :
    updateConfig type config t s = .ok cleaned (s.configured type cleaned t.now) := by
  have hm : onStore (Store.modifyChannel "update_config" type
      (Channel.Row.configure cleaned t.now)) s = .ok () _ :=
    onStore_ok (Store.modifyChannel_up h.1 h.2)
  rw [updateConfig, run_bind_ok (run_get _), hc, run_bind_ok (lift_ok _ _), run_bind_ok hm]
  rfl

theorem updateConfig_refused {fault : Fault}
    (hc : checkedConfig s.registry type config = .error fault) (t : Clock.Reading) :
    updateConfig type config t s = .error fault s := by
  rw [updateConfig, run_bind_ok (run_get _), hc]
  rfl

theorem updateConfig_fault {fault : Fault} (h : s.row "update_config" type = .error fault)
    (hc : checkedConfig s.registry type config = .ok cleaned) (t : Clock.Reading) :
    updateConfig type config t s = .error fault s := by
  rw [updateConfig, run_bind_ok (run_get _), hc, run_bind_ok (lift_ok _ _),
    run_bind_error (modifyChannel_fault h)]

theorem updateConfig_outcome (type : String) (config : Fields) (t : Clock.Reading) (s : Service) :
    (∃ fault, updateConfig type config t s = .error fault s) ∨
      ∃ cleaned r, checkedConfig s.registry type config = .ok cleaned ∧ s.HasRow type r ∧
        updateConfig type config t s = .ok cleaned (s.configured type cleaned t.now) := by
  cases hc : checkedConfig s.registry type config with
  | error fault => exact .inl ⟨fault, updateConfig_refused hc t⟩
  | ok cleaned =>
    cases hr : s.row "update_config" type with
    | ok r =>
      have hrow := row_ok_iff.mp hr
      exact .inr ⟨cleaned, r, rfl, hrow, updateConfig_ok hrow hc t⟩
    | error fault => exact .inl ⟨fault, updateConfig_fault hr hc t⟩

theorem updateConfig_stored (h : updateConfig type config t s = .ok cleaned s') :
    checkedConfig s.registry type config = .ok cleaned ∧ (∃ r, s.HasRow type r) ∧
      s' = s.configured type cleaned t.now := by
  rcases updateConfig_outcome type config t s with ⟨fault, he⟩ | ⟨cleaned', r, hc, hr, ho⟩
  · rw [he] at h
    cases h
  · rw [ho] at h
    cases h
    exact ⟨hc, ⟨r, hr⟩, rfl⟩

theorem updateConfig_checked (h : updateConfig type config t s = .ok cleaned s') :
    checkedConfig s.registry type config = .ok cleaned :=
  (updateConfig_stored h).1

theorem HasRow.configured (h : s.HasRow type r) (config : Fields) (now : Instant) :
    (s.configured type config now).HasRow type (r.configure config now) := by
  have hu := h.update (f := Channel.Row.configure config now) (fun _ => rfl) type
  rw [if_pos rfl] at hu
  exact hu

def storedFields (s : Service) (type : String) : Fields :=
  ((s.store.channels.find? type).map (·.fields)).getD []

theorem HasRow.storedFields (h : s.HasRow type r) : s.storedFields type = r.fields := by
  rw [Service.storedFields, h.2]
  rfl

-- ---------------------------------------------------------------------------
-- All or nothing
-- ---------------------------------------------------------------------------

/-- A configuration as the definition of its type makes it, which leaves
that of a type it does not know as it is. -/
def normalised (type : String) (config : Fields) : Except Fault Fields :=
  match Catalog.find? type with
  | some d => d.clean config
  | none => .ok config

inductive Rejects (registry : Channel.Registry) (type : String) (config : Fields) : Fault → Prop
  | unknown (hd : Catalog.find? type = none) (hc : registry.find? type = none) :
    Rejects registry type config (Channel.notFound type)
  | schema {fault : Fault} (hn : normalised type config = .error fault) :
    Rejects registry type config fault
  | channel {fault : Fault} {cleaned : Fields} {c : Channel}
      (hn : normalised type config = .ok cleaned) (hc : registry.find? type = some c)
      (hv : c.validate cleaned = .error fault) : Rejects registry type config fault

theorem checkedConfig_eq (registry : Channel.Registry) (type : String) (config : Fields) :
    checkedConfig registry type config =
      if Catalog.find? type = none ∧ registry.find? type = none then
        .error (Channel.notFound type)
      else (do
        let cleaned ← normalised type config
        match registry.find? type with
        | some c => c.validate cleaned
        | none => pure ()
        pure cleaned) := by
  have hcontains : registry.contains type = (registry.find? type).isSome := by
    rw [Channel.Registry.contains, Channel.Registry.find?, List.isSome_find?]
  unfold checkedConfig normalised
  rw [hcontains]
  cases Catalog.find? type <;> cases registry.find? type <;> rfl

theorem checkedConfig_error_iff :
    checkedConfig registry type config = .error fault ↔ Rejects registry type config fault := by
  rw [checkedConfig_eq]
  constructor
  · intro h
    split at h
    · cases h
      exact .unknown (And.left ‹_›) (And.right ‹_›)
    · rcases bind_error.mp h with hn | ⟨cleaned, hn, h⟩
      · exact .schema hn
      · cases hc : registry.find? type with
        | none =>
          rw [hc] at h
          cases h
        | some c =>
          rw [hc] at h
          rcases bind_error.mp h with hv | ⟨_, _, h⟩
          · exact .channel hn hc hv
          · cases h
  · intro h
    cases h with
    | unknown hd hc => rw [if_pos ⟨hd, hc⟩]
    | schema hn =>
      have hd : Catalog.find? type ≠ none := fun hd => by simp [normalised, hd] at hn
      rw [if_neg fun h => hd h.1, hn]
      rfl
    | channel hn hc hv =>
      have hknown : ¬ (Catalog.find? type = none ∧ registry.find? type = none) := fun h => by
        cases hc.symm.trans h.2
      rw [if_neg hknown, hn, hc, ok_bind]
      exact bind_error.mpr (.inl hv)

/-- Why a configuration is not stored: it does not pass the checks, or it
does and has no row to go to. -/
inductive Refuses (s : Service) (type : String) (config : Fields) : Fault → Prop
  | rejected {fault : Fault} (h : Rejects s.registry type config fault) :
    Refuses s type config fault
  | down {cleaned : Fields} (hc : checkedConfig s.registry type config = .ok cleaned)
      (hup : s.store.isUp = false) : Refuses s type config (Store.down "update_config")
  | missing {cleaned : Fields} (hc : checkedConfig s.registry type config = .ok cleaned)
      (hup : s.store.isUp = true) (hr : s.store.channels.find? type = none) :
    Refuses s type config (Channel.notFound type)

theorem row_error_iff {operation : String} : s.row operation type = .error fault ↔
    s.store.isUp = false ∧ fault = Store.down operation ∨
      s.store.isUp = true ∧ s.store.channels.find? type = none ∧ fault = Channel.notFound type := by
  unfold row Channel.Table.get
  cases s.store.isUp <;> cases s.store.channels.find? type <;> simp [eq_comm]

theorem updateConfig_error_iff : updateConfig type config t s = .error fault s' ↔
    s.Refuses type config fault ∧ s' = s := by
  constructor
  · intro h
    cases hc : checkedConfig s.registry type config with
    | error fault' =>
      rw [updateConfig_refused hc] at h
      cases h
      exact ⟨.rejected (checkedConfig_error_iff.mp hc), rfl⟩
    | ok cleaned =>
      cases hr : s.row "update_config" type with
      | ok r =>
        rw [updateConfig_ok (row_ok_iff.mp hr) hc] at h
        cases h
      | error fault' =>
        rw [updateConfig_fault hr hc] at h
        cases h
        rcases row_error_iff.mp hr with ⟨hup, rfl⟩ | ⟨hup, hnone, rfl⟩
        · exact ⟨.down hc hup, rfl⟩
        · exact ⟨.missing hc hup hnone, rfl⟩
  · rintro ⟨h, rfl⟩
    cases h with
    | rejected h => exact updateConfig_refused (checkedConfig_error_iff.mpr h) t
    | down hc hup => exact updateConfig_fault (row_error_iff.mpr (.inl ⟨hup, rfl⟩)) hc t
    | missing hc hup hr => exact updateConfig_fault (row_error_iff.mpr (.inr ⟨hup, hr, rfl⟩)) hc t

/-- A configuration was stored for a type and given to its channel, and
nothing else has changed. -/
structure Adopted (s s' : Service) (type : String) (config : Fields) (now : Instant) : Prop where
  row : ∃ r, s.HasRow type r ∧ s'.HasRow type { r with config := some config, updatedAt := now }
  stored : ∀ r ∈ s'.store.channels.rows, r.type = type → r.config = some config
  live : ∀ c ∈ s'.registry.channels, c.type = type → c.config = config
  backends : s'.registry.channels.map (·.backend) = s.registry.channels.map (·.backend)
  otherRows : s'.store.channels.rows.filter (·.type != type) =
    s.store.channels.rows.filter (·.type != type)
  otherChannels : s'.registry.channels.filter (·.type != type) =
    s.registry.channels.filter (·.type != type)
  rest : s' = { s with
    store := { s.store with channels := s'.store.channels }, registry := s'.registry }

theorem filter_map_ite {α : Type} {p : α → Bool} (f : α → α) (hf : ∀ x, p (f x) = p x)
    (xs : List α) : (xs.map fun x => if p x then f x else x).filter (fun x => !p x) =
      xs.filter fun x => !p x := by
  induction xs with
  | nil => rfl
  | cons x rest ih =>
    cases hp : p x <;> simp [hp, hf, ih]

theorem configured_adopted (h : s.HasRow type r) (config : Fields) (now : Instant) :
    Adopted s (s.configured type config now) type config now where
  row := ⟨r, h, h.configured config now⟩
  stored r hr htype := by
    obtain ⟨r₀, -, rfl⟩ := List.mem_map.mp hr
    split at htype
    · rw [if_pos ‹_›]
      rfl
    · simp [htype] at *
  live c hc htype := by
    obtain ⟨c₀, -, rfl⟩ := List.mem_map.mp hc
    split at htype
    · rw [if_pos ‹_›]
    · simp [htype] at *
  backends := by
    refine List.map_map.trans (List.map_congr_left fun c _ => ?_)
    simp only [Function.comp]
    split <;> rfl
  otherRows := filter_map_ite (Channel.Row.configure config now) (fun _ => rfl) _
  otherChannels := filter_map_ite (fun c : Channel => { c with config }) (fun _ => rfl) _
  rest := rfl

/-- A configuration is refused, for one of the reasons that there are, and
nothing changes at all; or it is stored as it was checked, the registered
channel of its type has it too, and nothing else has changed. -/
theorem config_update_whole (type : String) (config : Fields) (t : Clock.Reading) (s : Service) :
    (∃ fault, s.Refuses type config fault ∧ updateConfig type config t s = .error fault s) ∨
      (∀ fault, ¬ s.Refuses type config fault) ∧
        ∃ cleaned s', updateConfig type config t s = .ok cleaned s' ∧
          Adopted s s' type cleaned t.now := by
  rcases updateConfig_outcome type config t s with ⟨fault, h⟩ | ⟨cleaned, r, -, hr, h⟩
  · exact .inl ⟨fault, (updateConfig_error_iff.mp h).1, h⟩
  · refine .inr ⟨fun fault hf => ?_, cleaned, _, h, configured_adopted hr cleaned t.now⟩
    cases h.symm.trans (updateConfig_error_iff.mpr ⟨hf, rfl⟩)

end Service

end AlertDelivery
