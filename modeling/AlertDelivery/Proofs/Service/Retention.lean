import AlertDelivery.Proofs.InstantLaws
import AlertDelivery.Proofs.OpLaws
import AlertDelivery.Proofs.Queue.TableLaws

/-!
# The retention sweep

A sweep deletes what was delivered and what was attempted before its cut-offs,
and nothing else. What it deletes nobody can claim, so claims and the number of
pending rows do not see it; and what an earlier sweep deletes a later one would
delete as well.
-/

namespace AlertDelivery

-- ---------------------------------------------------------------------------
-- Cut-offs
-- ---------------------------------------------------------------------------

namespace Instant

variable {now later t : Instant} {days : Int}

def IsOlder (now : Instant) (days : Int) (t : Instant) : Prop :=
  (t.micros : Int) < now.micros - days * microsPerDay

instance (now : Instant) (days : Int) : DecidablePred (IsOlder now days) :=
  fun _ => inferInstanceAs (Decidable (_ < _))

def Reaches (now : Instant) (days : Int) : Prop :=
  ∃ cutoff : Instant, (cutoff.micros : Int) = now.micros - days * microsPerDay

theorem Reaches.cutoff (h : now.Reaches days) :
    ∃ cutoff, Store.cutoff now days = .ok cutoff ∧ ∀ t, t < cutoff ↔ now.IsOlder days t := by
  obtain ⟨cutoff, hcutoff⟩ := h
  refine ⟨cutoff, ?_, fun t => ?_⟩
  · have hshift : now.shift? (-(days * microsPerDay)) = some cutoff :=
      shift?_eq_some.mpr (by omega)
    have hdays : ¬ (maxDays < days ∨ days < -maxDays) := by
      have hnow := now.inRange
      have hrange := cutoff.inRange
      unfold limit at hnow hrange
      unfold microsPerDay at hcutoff
      unfold maxDays
      omega
    rw [Store.cutoff, daysBefore?, if_neg hdays, hshift]
  · rw [IsOlder, ← hcutoff, Int.ofNat_lt]
    rfl

theorem IsOlder.mono (h : now.IsOlder days t) (hle : now ≤ later) : later.IsOlder days t := by
  have hmicros : now.micros ≤ later.micros := hle
  unfold IsOlder at *
  omega

end Instant

theorem filter_absorb {α : Type} {p q : α → Prop} [DecidablePred p] [DecidablePred q]
    (h : ∀ a, p a → q a) (xs : List α) :
    (xs.filter fun a => ¬ p a).filter (fun a => ¬ q a) = xs.filter fun a => ¬ q a := by
  rw [List.filter_filter]
  refine List.filter_congr fun a _ => ?_
  rw [← Bool.decide_and]
  exact decide_eq_decide.mpr (and_iff_left_of_imp fun hq => mt (h a) hq)

theorem countP_filter_self {α : Type} {p : α → Prop} [DecidablePred p] (xs : List α) :
    (xs.filter fun a => ¬ p a).countP (fun a => p a) = 0 := by
  refine List.countP_eq_zero.mpr fun a ha => ?_
  simpa using (List.mem_filter.mp ha).2

-- ---------------------------------------------------------------------------
-- The queue without its old rows
-- ---------------------------------------------------------------------------

namespace Queue

def Row.IsOld (now : Instant) (days : Int) (r : Row) : Prop :=
  r.state = .delivered ∧ ∃ at_ ∈ r.deliveredAt, now.IsOlder days at_

instance (now : Instant) (days : Int) : DecidablePred (Row.IsOld now days) :=
  fun _ => inferInstanceAs (Decidable (_ ∧ _))

variable {t : Table} {r : Row} {now later cutoff : Instant} {days : Int}

theorem Row.IsOld.mono (h : r.IsOld now days) (hle : now ≤ later) : r.IsOld later days :=
  ⟨h.1, h.2.imp fun _ ⟨hat, hold⟩ => ⟨hat, hold.mono hle⟩⟩

theorem Row.deliveredBefore_eq (hcutoff : ∀ t, t < cutoff ↔ now.IsOlder days t) (r : Row) :
    r.deliveredBefore cutoff = decide (r.IsOld now days) := by
  rw [Bool.eq_iff_iff, decide_eq_true_eq, deliveredBefore, IsOld]
  cases r.deliveredAt <;> simp [hcutoff]

def Table.swept (t : Table) (now : Instant) (days : Int) : Table :=
  ⟨t.rows.filter fun r => ¬ r.IsOld now days⟩

theorem Table.cleanup_eq (hcutoff : ∀ t, t < cutoff ↔ now.IsOlder days t) (t : Table) :
    t.cleanup cutoff = (t.rows.countP fun r => r.IsOld now days, t.swept now days) := by
  have hold : Row.deliveredBefore cutoff = fun r => decide (r.IsOld now days) :=
    funext (Row.deliveredBefore_eq hcutoff)
  simp only [cleanup, countWhere, swept, hold, decide_not]

theorem Row.not_isOld (h : r.isEligible now = true) (later : Instant) (days : Int) :
    ¬ r.IsOld later days :=
  fun hold => (Row.isEligible_ne h).2.1 hold.1

/-- No row that may be claimed is swept. -/
theorem Table.filter_isEligible_swept (t : Table) (later : Instant) (days : Int) (now : Instant) :
    (t.swept later days).rows.filter (Row.isEligible now) = t.rows.filter (Row.isEligible now) := by
  rw [swept, List.filter_filter]
  refine List.filter_congr fun r _ => ?_
  cases h : r.isEligible now with
  | false => rfl
  | true => simp [Row.not_isOld h]

end Queue

namespace History

def Attempt.IsOld (now : Instant) (days : Int) (a : Attempt) : Prop := now.IsOlder days a.sentAt

instance (now : Instant) (days : Int) : DecidablePred (Attempt.IsOld now days) :=
  fun _ => inferInstanceAs (Decidable (_ < _))

variable {now cutoff : Instant} {days : Int}

def Log.swept (log : Log) (now : Instant) (days : Int) : Log :=
  ⟨log.attempts.filter fun a => ¬ a.IsOld now days⟩

theorem Log.cleanup_eq (hcutoff : ∀ t, t < cutoff ↔ now.IsOlder days t) (log : Log) :
    log.cleanup cutoff = (log.attempts.countP fun a => a.IsOld now days, log.swept now days) := by
  simp only [cleanup, swept, hcutoff, decide_not]
  rfl

end History

-- ---------------------------------------------------------------------------
-- Claims and statistics
-- ---------------------------------------------------------------------------

/-- What a computation gives, whatever it leaves. -/
def outcome (x : EStateM ε σ α) (s : σ) : Except ε α :=
  match x s with
  | .ok a _ => .ok a
  | .error e _ => .error e

namespace Store

variable {s s' : Store} {now : Instant} {days limit : Int}

theorem outcome_claim (hup : s.isUp = true) (limit : Int) (now : Instant) :
    outcome (claim limit now) s = if limit ≤ 0 then .ok [] else
      (Queue.storable [limit]).map fun _ =>
        ((s.queue.eligible now).take limit.toNat).map fun r => (r.claimed now).toEntry := by
  unfold claim
  split
  · rfl
  · cases hst : Queue.storable [limit] with
    | error fault =>
      have hclaim : s.queue.claim limit now = .error fault := by
        rw [Queue.Table.claim, hst]
        rfl
      rw [outcome, onQueue_fault (fun t => t.claim limit now) hup hclaim]
      rfl
    | ok =>
      rw [outcome, onQueue_up (fun t => t.claim limit now) hup (by
        rw [Queue.Table.claim, hst, ok_bind]
        rfl)]
      rfl

theorem claim_swept (hup : s.isUp = true) (hup' : s'.isUp = true)
    (hrows : s'.queue.rows.filter (Queue.Row.isEligible now) =
      s.queue.rows.filter (Queue.Row.isEligible now)) (limit : Int) :
    outcome (claim limit now) s' = outcome (claim limit now) s := by
  rw [outcome_claim hup, outcome_claim hup', Queue.Table.eligible, Queue.Table.eligible, hrows]

theorem pending_swept (hrows : s'.queue.rows.filter (Queue.Row.isEligible now) =
      s.queue.rows.filter (Queue.Row.isEligible now)) :
    (s'.queue.stats now).pending = (s.queue.stats now).pending := by
  simp only [Queue.Table.stats, Queue.Table.countWhere, List.countP_eq_length_filter, hrows]

theorem cleanupQueue_run (hup : s.isUp = true) (h : now.Reaches days) :
    cleanupQueue days now s = .ok (s.queue.rows.countP fun r => r.IsOld now days)
      { s with queue := s.queue.swept now days } := by
  obtain ⟨before, hbefore, hrows⟩ := h.cutoff
  rw [cleanupQueue, hbefore]
  exact onQueue_up (fun t => .ok (t.cleanup before)) hup (by rw [Queue.Table.cleanup_eq hrows])

theorem cleanupHistory_run (hup : s.isUp = true) (h : now.Reaches days) :
    cleanupHistory days now s = .ok (s.history.attempts.countP fun a => a.IsOld now days)
      { s with history := s.history.swept now days } := by
  obtain ⟨before, hbefore, hattempts⟩ := h.cutoff
  rw [cleanupHistory, hbefore]
  exact onHistory_up (fun log => .ok (log.cleanup before)) hup
    (by rw [History.Log.cleanup_eq hattempts])

end Store

-- ---------------------------------------------------------------------------
-- The sweep of both tables
-- ---------------------------------------------------------------------------

namespace Service

variable {s : Service} {now later : Instant}

structure CanSweep (s : Service) (now : Instant) : Prop where
  queue : now.Reaches s.settings.retentionDays
  history : now.Reaches s.settings.historyRetentionDays

def swept (s : Service) (now : Instant) : Service := { s with store := { s.store with
  queue := s.store.queue.swept now s.settings.retentionDays
  history := s.store.history.swept now s.settings.historyRetentionDays } }

theorem sweep_run (hup : s.store.isUp = true) (h : s.CanSweep now) :
    sweep now s = .ok
      (s.store.queue.rows.countP fun r => r.IsOld now s.settings.retentionDays,
        s.store.history.attempts.countP fun a => a.IsOld now s.settings.historyRetentionDays)
      (s.swept now) := by
  have hqueue := onStore_ok (Store.cleanupQueue_run hup h.queue)
  have hhistory := onStore_ok (s := { s with store := { s.store with
    queue := s.store.queue.swept now s.settings.retentionDays } })
    (Store.cleanupHistory_run hup h.history)
  rw [sweep, run_bind_ok (run_get s), run_bind_ok hqueue, run_bind_ok hhistory]
  rfl

theorem swept_swept (s : Service) (hle : now ≤ later) :
    (s.swept now).swept later = s.swept later := by
  have hrows : (s.store.queue.swept now s.settings.retentionDays).swept later
      s.settings.retentionDays = s.store.queue.swept later s.settings.retentionDays :=
    congrArg Queue.Table.mk (filter_absorb (fun r h => h.mono hle) s.store.queue.rows)
  have hattempts : (s.store.history.swept now s.settings.historyRetentionDays).swept later
      s.settings.historyRetentionDays =
        s.store.history.swept later s.settings.historyRetentionDays :=
    congrArg History.Log.mk (filter_absorb (fun a h => h.mono hle) s.store.history.attempts)
  simp only [swept, hrows, hattempts]

/-- A sweep deletes exactly the rows that were delivered and the attempts that
were made before its cut-offs, and counts both. Claims and the number of
pending rows are as if there had been no sweep. The same sweep once more deletes
nothing, and a later sweep leaves what it would have left without the first. -/
theorem retention_exact (hup : s.store.isUp = true) (h : s.CanSweep now) :
    ∃ s₁, Service.sweep now s = .ok
      (s.store.queue.rows.countP fun r => r.IsOld now s.settings.retentionDays,
        s.store.history.attempts.countP fun a => a.IsOld now s.settings.historyRetentionDays) s₁ ∧
    s₁ = { s with store := { s.store with
      queue := ⟨s.store.queue.rows.filter fun r => ¬ r.IsOld now s.settings.retentionDays⟩
      history := ⟨s.store.history.attempts.filter fun a =>
        ¬ a.IsOld now s.settings.historyRetentionDays⟩ } } ∧
    (∀ t, ∃ stats stats₁, Store.queueStats t s.store = .ok stats s.store ∧
      Store.queueStats t s₁.store = .ok stats₁ s₁.store ∧ stats₁.pending = stats.pending) ∧
    (∀ limit t, outcome (Store.claim limit t) s₁.store = outcome (Store.claim limit t) s.store) ∧
    Service.sweep now s₁ = .ok (0, 0) s₁ ∧
    ∀ later, now ≤ later → s.CanSweep later → ∃ counts counts₁ s₂,
      Service.sweep later s = .ok counts s₂ ∧ Service.sweep later s₁ = .ok counts₁ s₂ := by
  have heligible (t : Instant) : (s.swept now).store.queue.rows.filter (Queue.Row.isEligible t) =
      s.store.queue.rows.filter (Queue.Row.isEligible t) :=
    Queue.Table.filter_isEligible_swept ..
  refine ⟨s.swept now, sweep_run hup h, rfl, fun t => ?_, fun limit t => ?_, ?_,
    fun later hle hlater => ?_⟩
  · exact ⟨_, _, Store.query_up (fun s => .ok (s.queue.stats t)) hup rfl,
      Store.query_up (fun s => .ok (s.queue.stats t)) hup rfl, Store.pending_swept (heligible t)⟩
  · have hup' : (s.swept now).store.isUp = true := hup
    exact Store.claim_swept hup hup' (heligible t) limit
  · have hrun := sweep_run (s := s.swept now) hup
      (⟨h.queue, h.history⟩ : (s.swept now).CanSweep now)
    rwa [swept_swept s (Nat.le_refl _), show (s.swept now).settings = s.settings from rfl,
      show (s.swept now).store.queue.rows.countP _ = 0 from countP_filter_self _,
      show (s.swept now).store.history.attempts.countP _ = 0 from countP_filter_self _] at hrun
  · have hrun := sweep_run (s := s.swept now) hup
      (⟨hlater.queue, hlater.history⟩ : (s.swept now).CanSweep later)
    rw [swept_swept s hle] at hrun
    exact ⟨_, _, _, sweep_run hup hlater, hrun⟩

/-- Noon of 30 January 2026, thirty days before the clock starts. -/
def thirtyDaysBefore : Instant := ⟨63905371200000000, by decide⟩

/-- Noon of 1 December 2025, ninety days before the clock starts. -/
def ninetyDaysBefore : Instant := ⟨63900187200000000, by decide⟩

def aged : Service := create {
  queue := ⟨[
    { id := 1, channel := "email", body := "", state := .delivered, deliveredAt := some .first,
      createdAt := .first, updatedAt := .first },
    { id := 2, channel := "email", body := "", state := .delivered,
      deliveredAt := some thirtyDaysBefore, createdAt := .first, updatedAt := .first },
    { id := 3, channel := "email", body := "", createdAt := .first, updatedAt := .first }]⟩
  history := ⟨[
    { id := 1, channel := "email", status := .failed, sentAt := .first },
    { id := 2, channel := "email", status := .delivered, sentAt := ninetyDaysBefore }]⟩ } {} {}

theorem retention_exact_aged : ∃ s₁, sweep .clockStart aged = .ok (1, 1) s₁ ∧
    s₁.store.queue.rows.map (·.id) = [2, 3] ∧ s₁.store.history.attempts.map (·.id) = [2] ∧
    sweep .clockStart s₁ = .ok (0, 0) s₁ := by
  have hcan : aged.CanSweep .clockStart := ⟨⟨thirtyDaysBefore, rfl⟩, ⟨ninetyDaysBefore, rfl⟩⟩
  obtain ⟨s₁, hsweep, rfl, -, -, hagain, -⟩ := retention_exact (s := aged) rfl hcan
  exact ⟨_, hsweep, by decide +kernel, by decide +kernel, hagain⟩

end Service

end AlertDelivery
