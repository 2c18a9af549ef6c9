import AlertDelivery.Proofs.Service.Restart
import Mathlib.Data.List.Nodup

/-!
# Starting twice

A start adds a row for every type of the catalogue that has none, brings the
stored configurations to the channels, and loads the policy. The added rows
have nothing stored in them, so the configurations are those of the rows that
were there; and what a configuration has made of a channel it leaves alone.
So a service that has started is left as it is by a second start.
-/

namespace AlertDelivery

namespace Channel

variable {t : Table} {now : Instant} {d : ChannelDefinition} {ds : List ChannelDefinition}

def Row.seed (id : Int) (now : Instant) (d : ChannelDefinition) : Row where
  id := id
  type := d.type
  name := d.name
  config := some []
  createdAt := now
  updatedAt := now

namespace Table

def missing (t : Table) (ds : List ChannelDefinition) : List ChannelDefinition :=
  ds.filter fun d => (t.find? d.type).isNone

/-- The rows that are added for some definitions, with the ids that follow
those in use. -/
def seeds (t : Table) (now : Instant) (ds : List ChannelDefinition) : List Row :=
  ds.mapIdx fun i d => Row.seed (t.nextId + i) now d

theorem find?_isNone_iff {type : String} :
    (t.find? type).isNone = true ↔ ∀ r ∈ t.rows, r.type ≠ type := by
  simp [find?]

theorem nextId_append (t : Table) (now : Instant) (d : ChannelDefinition) :
    nextId ⟨t.rows ++ [Row.seed t.nextId now d]⟩ = t.nextId + 1 := by
  have hlast : nextId ⟨t.rows ++ [Row.seed t.nextId now d]⟩ =
      max ((t.rows.map (·.id)).foldl max 0) t.nextId + 1 := by
    simp only [nextId, List.map_append, List.foldl_append, List.map_cons, List.map_nil,
      List.foldl_cons, List.foldl_nil, Row.seed]
  rw [hlast, max_eq_right (by rw [nextId]; omega)]

theorem seeds_append (t : Table) (now : Instant) (d : ChannelDefinition)
    (ds : List ChannelDefinition) : Row.seed t.nextId now d ::
      seeds ⟨t.rows ++ [Row.seed t.nextId now d]⟩ now ds = t.seeds now (d :: ds) := by
  simp only [seeds, List.mapIdx_cons, nextId_append, Nat.cast_zero, add_zero, Nat.cast_succ,
    add_assoc, add_comm (1 : Int)]

theorem missing_append (hd : d.type ∉ ds.map (·.type)) (id : Int) (now : Instant) :
    missing ⟨t.rows ++ [Row.seed id now d]⟩ ds = t.missing ds := by
  refine List.filter_congr fun d' hd' => ?_
  have hne : d.type ≠ d'.type := fun heq => hd (heq ▸ List.mem_map_of_mem hd')
  rw [Bool.eq_iff_iff, find?_isNone_iff, find?_isNone_iff]
  simp [Row.seed, or_imp, forall_and, hne]

theorem rows_addMissing (hd : (ds.map (·.type)).Nodup) (t : Table) (now : Instant) :
    (ds.foldl (addMissing now) t).rows = t.rows ++ t.seeds now (t.missing ds) := by
  induction ds generalizing t with
  | nil => exact (List.append_nil _).symm
  | cons d rest ih =>
    obtain ⟨hnew, hrest⟩ := List.nodup_cons.mp hd
    rw [List.foldl_cons, ih hrest]
    cases hfind : t.find? d.type with
    | some r =>
      have hstep : t.addMissing now d = t := by rw [addMissing, hfind]
      have hskip : t.missing (d :: rest) = t.missing rest :=
        List.filter_cons_of_neg (by simp [hfind])
      rw [hstep, hskip]
    | none =>
      have hstep : t.addMissing now d = ⟨t.rows ++ [Row.seed t.nextId now d]⟩ := by
        rw [addMissing, hfind]
        rfl
      have htake : t.missing (d :: rest) = d :: t.missing rest :=
        List.filter_cons_of_pos (by simp [hfind])
      rw [hstep, missing_append hnew, htake, ← seeds_append, List.append_assoc,
        List.singleton_append]

theorem catalog_distinct : (Catalog.definitions.map (·.type)).Nodup := by decide +kernel

theorem rows_addCatalog (t : Table) (now : Instant) :
    (t.addCatalog now).2.rows = t.rows ++ t.seeds now (t.missing Catalog.definitions) := by
  rw [addCatalog_snd]
  exact rows_addMissing catalog_distinct t now

theorem mem_seeds {r : Row} (h : r ∈ t.seeds now ds) :
    ∃ id, ∃ d ∈ ds, r = Row.seed id now d := by
  obtain ⟨i, hi, rfl⟩ := List.mem_mapIdx.mp h
  exact ⟨_, _, List.getElem_mem hi, rfl⟩

theorem seeds_types (t : Table) (now : Instant) (ds : List ChannelDefinition) :
    (t.seeds now ds).map (·.type) = ds.map (·.type) :=
  List.ext_getElem (by simp [seeds]) fun i _ _ => by simp [seeds, Row.seed]

theorem missing_addCatalog (t : Table) (now : Instant) :
    (t.addCatalog now).2.missing Catalog.definitions = [] := by
  refine List.filter_eq_nil_iff.mpr fun d hd => ?_
  obtain ⟨r, hr⟩ := find?_addCatalog hd t now
  simp [hr]

theorem eq_of_rows {t' : Table} (h : t.rows = t'.rows) : t = t' := by
  cases t
  exact congrArg Table.mk h

theorem addCatalog_again (t : Table) (now later : Instant) :
    ((t.addCatalog now).2.addCatalog later).2 = (t.addCatalog now).2 :=
  eq_of_rows (by rw [rows_addCatalog, missing_addCatalog, seeds, List.mapIdx_nil, List.append_nil])

theorem configured_addCatalog (t : Table) (now : Instant) :
    (t.addCatalog now).2.configured = t.configured := by
  have hempty : (t.seeds now (t.missing Catalog.definitions)).filter
      (fun r => !r.fields.isEmpty) = [] := by
    refine List.filter_eq_nil_iff.mpr fun r hr => ?_
    obtain ⟨_, _, -, rfl⟩ := mem_seeds hr
    exact Bool.false_ne_true
  rw [configured, rows_addCatalog, List.filter_append, hempty, List.append_nil, configured]

/-- The stored configurations are by type, if the rows are. -/
theorem eq_of_configured (hd : (t.rows.map (·.type)).Nodup) {p q : String × Fields}
    (hp : p ∈ t.configured) (hq : q ∈ t.configured) (h : p.1 = q.1) : p.2 = q.2 := by
  obtain ⟨a, ha, rfl⟩ := List.mem_map.mp hp
  obtain ⟨b, hb, rfl⟩ := List.mem_map.mp hq
  have hsame : a = b :=
    List.inj_on_of_nodup_map hd (List.mem_filter.mp ha).1 (List.mem_filter.mp hb).1 h
  rw [hsame]

end Table

end Channel

namespace Service

open Channel (Registry Kind ofKind)

variable {s : Service} {acc : Registry × Nat} {p : String × Fields}
  {stored : List (String × Fields)}

-- ---------------------------------------------------------------------------
-- The configurations a second time
-- ---------------------------------------------------------------------------

theorem applyConfig_fixed (h : bring p.1 p.2 (acc.1.ofType p.1) = acc.1.ofType p.1) :
    (applyConfig true acc p).1 = acc.1 := by
  obtain ⟨registry, count⟩ := acc
  obtain ⟨type, config⟩ := p
  dsimp only at h
  unfold applyConfig
  dsimp only
  cases hc : registry.contains type with
  | true =>
    obtain ⟨c, cs, hcs⟩ := List.exists_cons_of_ne_nil (Registry.contains_iff.mp hc)
    rw [hcs, bring, ← hcs] at h
    have hkept : ∀ c ∈ registry.channels, c.type = type →
        { c with config := Fields.overlay c.config config } = c := fun c hmem htype =>
      List.map_inj_left.mp (h.trans (List.map_id _).symm) c
        (List.mem_filter.mpr ⟨hmem, by simpa using htype⟩)
    have hchannels : (registry.channels.map fun c =>
        if c.type == type then { c with config := Fields.overlay c.config config } else c) =
          registry.channels := by
      refine (List.map_congr_left fun c hmem => ?_).trans (List.map_id _)
      split
      next htype => exact hkept c hmem (by simpa using htype)
      next => rfl
    exact congrArg Registry.mk hchannels
  | false =>
    rw [Registry.not_contains_iff.mp hc, bring] at h
    cases hk : Kind.ofType? type with
    | none => rfl
    | some kind =>
      rw [hk] at h
      dsimp only at h ⊢
      split at h
      · cases h
      next hoff => rw [if_neg hoff]; rfl

theorem applyConfigs_fixed
    (h : ∀ p ∈ stored, bring p.1 p.2 (acc.1.ofType p.1) = acc.1.ofType p.1) :
    (stored.foldl (applyConfig true) acc).1 = acc.1 := by
  induction stored generalizing acc with
  | nil => rfl
  | cons p rest ih =>
    obtain ⟨hp, hrest⟩ := List.forall_mem_cons.mp h
    have hstep : (applyConfig true acc p).1 = acc.1 := applyConfig_fixed hp
    rw [List.foldl_cons, ih (by rwa [hstep]), hstep]

theorem applyConfigs_again (hone : ∀ p ∈ stored, ∀ q ∈ stored, p.1 = q.1 → p.2 = q.2)
    (hkeys : ∀ p ∈ stored, p.2.keys.Nodup) (registry : Registry) (m n : Nat) :
    (stored.foldl (applyConfig true)
        ((stored.foldl (applyConfig true) (registry, m)).1, n)).1 =
      (stored.foldl (applyConfig true) (registry, m)).1 := by
  refine applyConfigs_fixed fun p hp => ?_
  have hbrought : (stored.foldl (applyConfig true) (registry, m)).1.ofType p.1 =
      bring p.1 p.2 (registry.ofType p.1) :=
    ofType_applyConfigs (hkeys p hp) (fun q hq htype => hone q hq p hp htype) ⟨p, hp, rfl⟩
  rw [hbrought, bring_again (hkeys p hp)]

-- ---------------------------------------------------------------------------
-- The whole start a second time
-- ---------------------------------------------------------------------------

def started (s : Service) (now : Instant) : Service :=
  let policy := s.base.overlay s.store.settings
  { s with
    store := { s.store with channels := (s.store.channels.addCatalog now).2 }
    registry := (s.store.channels.configured.foldl (applyConfig true) (s.registry, 0)).1
    policy
    testTimeout := policy.sendTimeout
    worker := s.worker.setPolicy policy }

theorem started_isUp (s : Service) (now : Instant) :
    (s.started now).store.isUp = s.store.isUp := by
  simp only [started]

theorem start_run (hup : s.store.isUp = true) (t : Clock.Reading) :
    start t s = .ok () (s.started t.now) := by
  obtain ⟨n, rows, hrows, hinit⟩ := initializeChannels_ok hup t
  have hconfigured : rows.configured = s.store.channels.configured := by
    rw [hrows, Channel.Table.configured_addCatalog]
  obtain ⟨m, happly⟩ :=
    applyStoredConfigs_ok (s := { s with store := { s.store with channels := rows } }) hup
  rw [hconfigured] at happly
  rw [start, run_bind_ok hinit, run_bind_ok happly, started, ← hrows]
  exact discard_ok (reloadPolicy_up hup)

theorem started_again (hd : (s.store.channels.rows.map (·.type)).Nodup)
    (hkeys : ∀ r ∈ s.store.channels.rows, r.fields.keys.Nodup) (now later : Instant) :
    (s.started now).started later = s.started now := by
  have hconfigs : ∀ p ∈ s.store.channels.configured, p.2.keys.Nodup := by
    intro p hp
    obtain ⟨r, hr, rfl⟩ := List.mem_map.mp hp
    exact hkeys r (List.mem_filter.mp hr).1
  have hregistry := applyConfigs_again
    (fun p hp q hq => Channel.Table.eq_of_configured hd hp hq) hconfigs s.registry 0 0
  simp only [started, Channel.Table.configured_addCatalog, Channel.Table.addCatalog_again,
    hregistry, Worker.setPolicy, Worker.wake, List.append_nil]

/-- On a store that is up a start succeeds. The rows that were there stay as
they are, and the types of the catalogue that had none get one, disabled,
without a failure and with an empty configuration. A second start succeeds
too and changes nothing at all. -/
theorem start_idempotent (hup : s.store.isUp = true)
    (hd : (s.store.channels.rows.map (·.type)).Nodup)
    (hkeys : ∀ r ∈ s.store.channels.rows, r.fields.keys.Nodup) (t : Clock.Reading) :
    ∃ s' added, start t s = .ok () s' ∧
      s'.store = { s.store with channels := ⟨s.store.channels.rows ++ added⟩ } ∧
      added.map (·.type) = (Catalog.definitions.map (·.type)).filter
        (fun type => ∀ r ∈ s.store.channels.rows, r.type ≠ type) ∧
      (∀ r ∈ added, r.enabled = false ∧ r.state = .disabled ∧ r.failureCount = 0 ∧
        r.config = some []) ∧
      ∀ later, start later s' = .ok () s' := by
  refine ⟨s.started t.now,
    s.store.channels.seeds t.now (s.store.channels.missing Catalog.definitions),
    start_run hup t, ?_, ?_, ?_, fun later => ?_⟩
  · have hchannels : (s.store.channels.addCatalog t.now).2 = ⟨_⟩ :=
      Channel.Table.eq_of_rows (Channel.Table.rows_addCatalog s.store.channels t.now)
    rw [started, hchannels]
  · rw [Channel.Table.seeds_types, Channel.Table.missing, List.filter_map]
    refine congrArg _ (List.filter_congr fun d _ => ?_)
    rw [Bool.eq_iff_iff, Channel.Table.find?_isNone_iff, Function.comp, decide_eq_true_iff]
  · intro r hr
    obtain ⟨id, d, -, rfl⟩ := Channel.Table.mem_seeds hr
    exact ⟨rfl, rfl, rfl, rfl⟩
  · rw [start_run (by rwa [started_isUp]), started_again hd hkeys]

def operatedStore : Store where
  channels := ⟨[
    { id := 3, type := "gotify", name := "Gotify", config := some pushForm, createdAt := .first,
      updatedAt := .first },
    { id := 9, type := "pager", name := "Pager", enabled := true, state := .failed,
      failureCount := 6, lastError := some "no carrier", createdAt := .first,
      updatedAt := .first }]⟩
  settings := [("notifications.batch_size", some "7")]

theorem start_idempotent_operated :
    ∃ s', start ⟨0, .first⟩ (deployed operatedStore mailEnvironment) = .ok () s' ∧
      s'.store.channels.rows.take 2 = operatedStore.channels.rows ∧
      (s'.store.channels.rows.drop 2).map (·.type) =
        (Catalog.definitions.map (·.type)).filter (· ≠ "gotify") ∧
      s'.registry.channels = [mailChannel, ofKind (.web .gotify) pushForm] ∧
      s'.worker.policy.batchSize = 7 ∧ start ⟨1, .first⟩ s' = .ok () s' := by
  obtain ⟨s', added, hstart, hstore, htypes, -, hagain⟩ :=
    start_idempotent (s := deployed operatedStore mailEnvironment) rfl (by decide) (by decide)
      ⟨0, .first⟩
  have hs' := after_ok hstart
  refine ⟨s', hstart, ?_, ?_, ?_, ?_, hagain ⟨1, .first⟩⟩
  · rw [hstore]
    rfl
  · rw [hstore]
    exact htypes.trans (by decide +kernel)
  · rw [← hs']
    decide +kernel
  · rw [← hs']
    decide +kernel

end Service

end AlertDelivery
