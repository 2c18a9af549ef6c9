import AlertDelivery.Proofs.Policy.Overlay
import AlertDelivery.Proofs.Service.Run

/-!
# Reloading the policy

A service keeps the policy it began with as the base of every reload. So a
reload does not see what earlier reloads have made of the settings that
were stored then: it brings in force the overlay of the base by the settings
that are stored now, for new notifications, for the worker and for tests.
-/

namespace AlertDelivery

/-- A policy is a base with the values that some stored settings give. -/
structure Policy.IsOverlay (base : Policy) (stored : List (String × Option String)) (p : Policy) :
    Prop where
  given : ∀ x ∈ stored, ∀ key v, Gives x key v → p.field key = v
  kept : ∀ key, (∀ x ∈ stored, ∀ v, ¬Gives x key v) → p.field key = base.field key

theorem Policy.overlay_isOverlay {base : Policy} {stored : List (String × Option String)}
    (hp : base.Admissible) (hd : (stored.map (·.1)).Nodup) :
    base.IsOverlay stored (base.overlay stored) where
  given _ hx _ _ h := field_overlay_given hp hd hx h
  kept _ h := field_overlay_base hp h

namespace Service

variable {s s' : Service} {policy : Policy}

theorem reloadPolicy_up (hup : s.store.isUp = true) :
    reloadPolicy s = .ok (s.base.overlay s.store.settings)
      { s with
        policy := s.base.overlay s.store.settings
        testTimeout := (s.base.overlay s.store.settings).sendTimeout
        worker := s.worker.setPolicy (s.base.overlay s.store.settings) } := by
  have hq : onStore (Store.loadPolicy s.base) s = .ok (s.base.overlay s.store.settings) s :=
    onStore_ok (Store.query_up (fun st => .ok (s.base.overlay st.settings)) hup rfl)
  rw [reloadPolicy, run_bind_ok (run_get _), run_bind_ok hq]
  rfl

theorem reloadPolicy_down (hup : s.store.isUp = false) :
    reloadPolicy s = .error (Store.down "load_policy") s := by
  have hq : onStore (Store.loadPolicy s.base) s = .error (Store.down "load_policy") s := by
    refine onStore_error ?_
    rw [Store.loadPolicy, Store.query_run, hup]
    rfl
  rw [reloadPolicy, run_bind_ok (run_get _), run_bind_error hq]

-- ---------------------------------------------------------------------------
-- The base
-- ---------------------------------------------------------------------------

theorem releaseStale_base (t : Clock.Reading) (s : Service) :
    (after (releaseStale t) s).base = s.base := by
  rcases releaseStale_cases t s with hr | ⟨_, -, hr⟩ <;> rw [hr]
  rfl

theorem process_base (now : Instant) (t : Clock.Reading) (s : Service) :
    (after (process now t) s).base = s.base := by
  rcases process_cases now t s with ⟨_, hp⟩ | ⟨_, _, _, _, -, hp⟩ <;> rw [hp]
  rfl

theorem Ends.base {d : Dispatch} {v : Verdict} {now : Instant} (h : Ends s s' d v now) :
    s'.base = s.base := by
  obtain ⟨_, _, _, -, rfl⟩ := h
  rfl

theorem Event.apply_base (e : Event) (s : Service) : (e.apply s).base = s.base := by
  unfold Event.apply
  cases e with
  | enqueue q t =>
    rw [Event.perform, after_discard]
    rcases enqueue_cases q t s with ⟨_, he⟩ | ⟨_, _, -, he⟩
    · rw [after_error he]
    · rw [after_ok he]
      rfl
  | process now t =>
    rw [Event.perform, after_discard]
    exact process_base now t s
  | releaseStale t =>
    rw [Event.perform, after_discard]
    exact releaseStale_base t s
  | tick t =>
    rw [Event.perform, after_discard]
    rcases tick_cases t s with ht | ht <;> rw [ht]
    · exact releaseStale_base t s
    · rw [process_base, releaseStale_base]
  | requeue ids now =>
    rw [Event.perform, after_discard]
    rcases requeue_cases ids now s with ⟨_, he⟩ | ⟨_, _, -, he⟩
    · rw [after_error he]
    · rw [after_ok he]
      rfl
  | retention now =>
    rw [Event.perform, after_discard]
    rcases sweep_cases now s with hr | ⟨_, _, -, -, hr⟩ <;> rw [hr]
  | reload =>
    rw [Event.perform, after_discard]
    rcases reloadPolicy_cases s with hr | ⟨_, -, hr⟩ <;> rw [hr]
  | workerPolicy policy => rfl
  | turn number t => rfl
  | begin number t =>
    rw [Event.perform, after_discard]
    rcases begin_cases number t s with ⟨-, hb⟩ | ⟨_, -, ⟨_, -, -, -, hb⟩ | ⟨_, -, he⟩⟩
    · rw [hb]
    · rw [hb]
    · exact he.base
  | finish number result t =>
    rcases finish_cases number result t s with hf | ⟨_, -, he⟩
    · exact congrArg Service.base hf
    · exact he.base
  | outage isUp => rfl
  | arrange x => rfl

theorem run_base (s : Service) (events : List Event) : (run s events).base = s.base := by
  induction events generalizing s with
  | nil => rfl
  | cons e rest ih => exact (ih (e.apply s)).trans (e.apply_base s)

-- ---------------------------------------------------------------------------
-- Overlays and reloads
-- ---------------------------------------------------------------------------

/-- A policy that passes its check is overlaid without a fault: each field has
the value that its setting gives it, if it does, and is that of the base
otherwise. The order of the settings is of no account, and a setting that
gives nothing might as well not be there. Whatever has happened to a service
that began with the policy, a reload succeeds if the store is up, and brings
in force the overlay by the settings that are stored at the time. -/
theorem policy_overlaid {base : Policy} (hbase : base.check = .ok base) :
    (∀ stored : List (String × Option String), (stored.map (·.1)).Nodup →
      stored.foldlM (fun p x => p.overrideOrFail x.1 x.2) base = .ok (base.overlay stored) ∧
      base.IsOverlay stored (base.overlay stored) ∧
      (∀ stored', stored'.Perm stored → base.overlay stored' = base.overlay stored) ∧
      ∀ x before after, stored = before ++ x :: after → (∀ key v, ¬Policy.Gives x key v) →
        base.overlay stored = base.overlay (before ++ after)) ∧
    ∀ (store : Store) (settings : Settings) (events : List Event),
      let s := run (create store settings base) events
      (s.store.isUp = true → ∃ s', reloadPolicy s = .ok (base.overlay s.store.settings) s') ∧
      ∀ policy s', reloadPolicy s = .ok policy s' →
        policy = base.overlay s.store.settings ∧ s'.policy = policy ∧
          s'.worker.policy = policy ∧ s'.testTimeout = policy.sendTimeout := by
  have hp : base.Admissible := (Policy.check_ok_iff.mp hbase).1
  constructor
  · intro stored hd
    refine ⟨Policy.overlay_succeeds base stored, Policy.overlay_isOverlay hp hd,
      fun stored' hperm => ?_, ?_⟩
    · exact Policy.overlay_congr hp hd ((hperm.map (·.1)).nodup_iff.mpr hd) fun _ => hperm.mem_iff
    · rintro x before after rfl hidle
      exact Policy.overlay_idle hidle base before after
  · intro store settings events s
    have hkept : s.base = base := run_base _ events
    constructor
    · intro hup
      exact ⟨_, hkept ▸ reloadPolicy_up hup⟩
    · intro policy s' hreload
      cases hup : s.store.isUp with
      | false =>
        rw [reloadPolicy_down hup] at hreload
        cases hreload
      | true =>
        rw [reloadPolicy_up hup, hkept] at hreload
        cases hreload
        exact ⟨rfl, rfl, rfl, rfl⟩

def storedLimits : List (String × Option String) := [
  ("notifications.retry_max", some " 7 "), ("notifications.batch_size", some "0"),
  ("Notifications.queue_workers", some "9"), ("notifications.retry_backoff", none),
  ("notifications.send_timeout", some "nan")]

def limitsWithdrawn : List Event := [.arrange { stored := storedLimits }, .reload, .arrange {}]

theorem policy_overlaid_limitsWithdrawn :
    ({} : Policy).check = .ok {} ∧ (storedLimits.map (·.1)).Nodup ∧
      (({} : Policy).overlay storedLimits.reverse) = ({} : Policy).overlay storedLimits ∧
      (({} : Policy).overlay storedLimits).maxRetries = 7 ∧
      (({} : Policy).overlay storedLimits).batchSize = 100 ∧
      ∃ s', reloadPolicy (run (create {} {} {}) limitsWithdrawn) = .ok {} s' ∧
        s'.worker.policy = {} := by
  have hcheck : ({} : Policy).check = .ok {} := by decide +kernel
  have hd : (storedLimits.map (·.1)).Nodup := by decide
  obtain ⟨hoverlay, hreload⟩ := policy_overlaid hcheck
  obtain ⟨-, hfields, hperm, -⟩ := hoverlay storedLimits hd
  have hseven : (Value.text (Text.trim " 7 ")).toInt = .ok 7 := by decide +kernel
  have hgiven : Policy.Gives ("notifications.retry_max", some " 7 ") .retryMax (7 : Int) :=
    ⟨by decide, " 7 ", rfl, hseven, (by decide : (1 : Int) ≤ 7)⟩
  obtain ⟨hup, hagree⟩ := hreload {} {} limitsWithdrawn
  obtain ⟨s', hs'⟩ := hup (by decide +kernel)
  refine ⟨hcheck, hd, hperm _ (List.reverse_perm _), hfields.given _ (by decide) .retryMax _ hgiven,
    ?_, s', hs', (hagree _ _ hs').2.2.1⟩
  decide +kernel

end Service

end AlertDelivery
