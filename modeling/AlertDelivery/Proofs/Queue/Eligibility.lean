import AlertDelivery.Proofs.Queue.Delays
import AlertDelivery.Proofs.Queue.Journey

/-!
# Rows that come up again

No row is stranded. A claim and a sweep leave the time when a row is due as
it was, so whether a row that they queue may be claimed rests on its past:
a time that is due is either that of a failure, at most an hour ahead, or
has passed. `Timely` says so of one row, and every move keeps it.
-/

namespace AlertDelivery.Queue

def Event.time? : Event → Option Instant
  | .enqueue _ now => some now
  | .claim _ now => some now
  | .markDelivered _ now => some now
  | .markFailed _ _ _ now _ => some now
  | .requeue _ now => some now
  | .release _ now _ => some now
  | .cleanup _ now => some now
  | .store _ => none

def NoneAfter (t : Instant) (events : List Event) : Prop :=
  ∀ e ∈ events, ∀ now ∈ e.time?, now ≤ t

/-- But for a failed row, the time when a row is due has come. -/
def Timely (t : Instant) (o : Option Row) : Prop :=
  ∀ r, o = some r → r.state ≠ .failed → ∀ due, r.nextRetryAt = some due → due ≤ t

variable {s : Store} {e : Event} {events : List Event} {r r' : Row} {i age : Int}
  {exclude : List Int} {t u now clock : Instant} {text : String} {strategy : Value}

-- ---------------------------------------------------------------------------
-- When a row is due
-- ---------------------------------------------------------------------------

theorem Moved.timely (h : Moved i m e o o') (ht : ∀ now ∈ e.time?, now ≤ t) (ho : Timely t o) :
    Timely t o' := by
  rintro r' hr' hs due hdue
  cases h with
  | claimed _ hel =>
    cases hr'
    exact Nat.le_trans (hel due hdue) (ht _ rfl)
  | released hs' =>
    cases hr'
    exact ho _ rfl (by simp [hs']) due hdue
  | failed _ _ hs' =>
    cases hr'
    exact absurd hs' hs
  | buried _ hf hs' =>
    cases hr'
    rcases Row.failed_ok hf with ⟨-, rfl⟩ | ⟨-, _, _, -, -, rfl⟩
    · cases hdue
    · cases hs'
  | enqueued | delivered | requeued =>
    cases hr'
    cases hdue
  | deleted => cases hr'

theorem run_timely (hk : s.queue.Keyed) (ht : NoneAfter t events)
    (hs : Timely t (s.queue.find? i)) : Timely t ((run s events).queue.find? i) := by
  -- the bound is that of the whole run, so the order of its times does not matter
  induction events generalizing s with
  | nil => exact hs
  | cons e rest ih =>
    refine ih (e.apply_keyed hk) (fun e' he' => ht e' (List.mem_cons_of_mem e he')) ?_
    rcases e.apply_moved hk i with he | ⟨m, hm⟩
    · rwa [he]
    · exact hm.timely (ht e List.mem_cons_self) hs

theorem Row.failed_due (h : r.failed text strategy now clock = .ok r') (hs : r'.state = .failed) :
    ∃ due, r'.nextRetryAt = some due ∧
      (due.micros : Int) ≤ now.micros + 60 * Instant.microsPerMinute := by
  rcases failed_ok h with ⟨-, rfl⟩ | ⟨-, b, due, -, hdue, rfl⟩
  · cases hs
  · refine ⟨due, rfl, ?_⟩
    have hmin := b.minutes_le (r.retryCount + 1)
    rw [Backoff.nextRetry?_eq_some.mp hdue]
    simp only [Backoff.maxMinutes] at hmin
    simp only [Instant.microsPerMinute]
    omega

-- ---------------------------------------------------------------------------
-- Sweeps
-- ---------------------------------------------------------------------------

/-- Whether a sweep can pass over the ids: each of them is a variable of its
statement, beside four others, and an integer that a column can hold. -/
def CanExclude (exclude : List Int) : Prop :=
  exclude.length ≤ 32762 ∧ ∀ i ∈ exclude, isStorable i = true

theorem nameable_canExclude : nameable operation 4 exclude = .ok () ↔ CanExclude exclude := by
  rw [nameable_ok, CanExclude, maxVariables]
  exact and_congr_left' (by omega)

/-- Whether a sweep can be made: the store is there, it can compare the ids,
and the time that claims must be older than has a date. -/
def CanSweep (s : Store) (age : Int) (t : Instant) (exclude : List Int) : Prop :=
  s.isUp = true ∧ CanExclude exclude ∧ ∃ cutoff, t.shift? (-age) = some cutoff

theorem release_sweeps (hu : s.isUp = true) (hx : CanExclude exclude)
    (hc : t.shift? (-age) = some cutoff) :
    ∃ n, Store.release age t exclude s = .ok n { s with
      queue := s.queue.updateWhere (Row.isStale cutoff exclude) (Row.released t) } := by
  refine ⟨s.queue.countWhere (Row.isStale cutoff exclude), ?_⟩
  simp only [Store.release, hc]
  refine Store.onQueue_up (fun q => q.release cutoff t exclude) hu ?_
  rw [Table.release, nameable_canExclude.mpr hx]
  rfl

theorem release_fails (h : ¬ CanSweep s age t exclude) :
    ∃ fault, Store.release age t exclude s = .error fault s := by
  unfold Store.release
  cases hc : t.shift? (-age) with
  | none => exact ⟨_, rfl⟩
  | some cutoff =>
    rcases Store.onQueue_cases "release_stale_claims" (fun q => q.release cutoff t exclude) s with
      he | ⟨n, q, hu, hq, -⟩
    · exact he
    · simp only [Table.release, bind_ok] at hq
      obtain ⟨_, hs, -⟩ := hq
      exact absurd ⟨hu, nameable_canExclude.mp hs, cutoff, hc⟩ h

theorem run_release_fails (h : ¬ CanSweep (run {} events) age t exclude) :
    (run {} (events ++ [.release age t exclude])).queue = (run {} events).queue := by
  obtain ⟨fault, herr⟩ := release_fails h
  rw [run_append]
  exact congrArg Store.queue (after_error (discard_error herr))

/-- A row is `sending`, its id is none of some, and the claim that made it so
is longer ago than an age. -/
def Overdue (events : List Event) (age : Int) (t : Instant) (exclude : List Int) (r : Row) : Prop :=
  r.state = .sending ∧ r.id ∉ exclude ∧
    ∃ limit now, LastMove r.id {} events .claimed (.claim limit now) ∧
      (now.micros : Int) < t.micros - age

/-- A sweep after a run puts back the overdue rows and no others: each is as
it was but queued, and may be claimed at once. -/
def SweepExact (events : List Event) (age : Int) (t : Instant) (exclude : List Int) : Prop :=
  let before := (run {} events).queue
  let swept := (run {} (events ++ [.release age t exclude])).queue
  ∀ i, (before.find? i = none → swept.find? i = none) ∧
    ∀ r, before.find? i = some r →
      (Overdue events age t exclude r →
        swept.find? i = some (r.released t) ∧ (r.released t).retryCount = r.retryCount ∧
          (r.released t).isEligible t = true) ∧
      (¬ Overdue events age t exclude r → swept.find? i = some r)

theorem empty_keyed (events : List Event) : (run {} events).queue.Keyed :=
  run_keyed (s := {}) List.Pairwise.nil events

theorem empty_timely (ht : NoneAfter t events) (hr : (run {} events).queue.find? i = some r)
    (hs : r.state ≠ .failed) : ∀ due, r.nextRetryAt = some due → due ≤ t :=
  run_timely (s := {}) List.Pairwise.nil ht (by rintro _ ⟨⟩) r hr hs

theorem empty_last_move (hr : (run {} events).queue.find? i = some r) :
    ∃ m e before, LastMove i {} events m e ∧ Moved i m e before (some r) := by
  rcases last_move (s := {}) List.Pairwise.nil i events with h | ⟨m, e, h⟩
  · rw [h.run] at hr
    cases hr
  · obtain ⟨before, hm⟩ := h.moved
    exact ⟨m, e, before, h, hr ▸ hm⟩

/-- The time of its last change tells when a row that is `sending` was
claimed. -/
theorem overdue_iff (hr : (run {} events).queue.find? r.id = some r) :
    Overdue events age t exclude r ↔
      r.state = .sending ∧ r.id ∉ exclude ∧ (r.updatedAt.micros : Int) < t.micros - age := by
  constructor
  · rintro ⟨hs, hx, limit, now, hlast, hold⟩
    obtain ⟨before, hm⟩ := hlast.moved
    rw [hr] at hm
    obtain ⟨-, _, he⟩ := hm.to_sending hs
    cases he
    exact ⟨hs, hx, hold⟩
  · rintro ⟨hs, hx, hold⟩
    obtain ⟨m, e, before, hlast, hm⟩ := empty_last_move hr
    obtain ⟨rfl, limit, rfl⟩ := hm.to_sending hs
    exact ⟨hs, hx, limit, r.updatedAt, hlast, hold⟩

theorem isStale_iff_overdue (hc : t.shift? (-age) = some cutoff)
    (hr : (run {} events).queue.find? r.id = some r) :
    Row.isStale cutoff exclude r = true ↔ Overdue events age t exclude r := by
  have hcut : (cutoff.micros : Int) = t.micros - age := by
    rw [Instant.shift?_eq_some.mp hc]
    omega
  have hlt : r.updatedAt < cutoff ↔ (r.updatedAt.micros : Int) < t.micros - age := by
    rw [← hcut]
    exact Int.ofNat_lt.symm
  rw [overdue_iff hr, Row.isStale_iff, hlt]
  constructor
  · rintro ⟨hs, hold, hx⟩
    exact ⟨hs, hx, hold⟩
  · rintro ⟨hs, hx, hold⟩
    exact ⟨hs, hold, hx⟩

theorem sweep_exact (ht : NoneAfter t events) (hu : (run {} events).isUp = true)
    (hx : CanExclude exclude) (hc : t.shift? (-age) = some cutoff) :
    SweepExact events age t exclude := by
  intro i
  obtain ⟨n, hn⟩ := release_sweeps hu hx hc
  have hq : (run {} (events ++ [.release age t exclude])).queue =
      (run {} events).queue.updateWhere (Row.isStale cutoff exclude) (Row.released t) := by
    rw [run_append]
    exact congrArg Store.queue (after_ok (discard_ok hn))
  have hid (r : Row) (_ : r.isStale cutoff exclude = true) : (r.released t).id = r.id := rfl
  rw [hq, Table.find?_updateWhere hid]
  refine ⟨fun hnone => by rw [hnone]; rfl, fun r hr => ?_⟩
  obtain rfl := (Table.mem_rows_of_find? hr).2
  rw [hr, Option.map_some]
  refine ⟨fun hold => ?_, fun hn => ?_⟩
  · rw [if_pos ((isStale_iff_overdue hc hr).mpr hold)]
    have hdue := empty_timely ht hr (by simp [hold.1])
    exact ⟨rfl, rfl, Row.isEligible_iff.mpr ⟨.inr (.inl rfl), hdue⟩⟩
  · rw [if_neg (mt (isStale_iff_overdue hc hr).mp hn)]

theorem sweep_early (hc : t.shift? (-age) = none) (hage : (t.micros : Int) - age < Instant.limit) :
    SweepExact events age t exclude := by
  intro i
  rw [run_release_fails fun h => by simp [CanSweep, hc] at h]
  refine ⟨id, fun r hr => ⟨fun hold => ?_, fun _ => hr⟩⟩
  -- the claims would have to be from before the first year
  obtain ⟨-, -, _, now, -, hlt⟩ := hold
  rcases Instant.shift?_eq_none.mp hc with h | h <;> omega

/-- No row is stranded. After a run from the empty table, whatever becomes
of its sends and in whatever order its times stand, at a time that is not
before any of them: a new or queued row may be claimed, a failed one an hour
after its failure, and a sweep puts back the claims that are overdue and no
others. A sweep that cannot be made changes nothing. -/
theorem nothing_stranded (ht : NoneAfter t events) :
    let s : Store := run {} events
    (∀ r ∈ s.queue.rows,
      (r.state = .created ∨ r.state = .queued → r.isEligible t = true) ∧
      (r.state = .failed → ∃ text strategy now clock,
        LastMove r.id {} events .failed (.markFailed r.id text strategy now clock) ∧
        ∀ u : Instant, now.micros + 60 * Instant.microsPerMinute ≤ u.micros →
          r.isEligible u = true)) ∧
    ∀ age exclude,
      (s.isUp = true → CanExclude exclude →
        (t.micros : Int) - age < Instant.limit → SweepExact events age t exclude) ∧
      (CanSweep s age t exclude → ∃ n s', Store.release age t exclude s = .ok n s') ∧
      (¬ CanSweep s age t exclude → ∃ fault, Store.release age t exclude s = .error fault s) := by
  intro s
  refine ⟨fun r hr => ?_, fun age exclude => ⟨fun hu hx hage => ?_, ?_, release_fails⟩⟩
  · have hfind := (Table.find?_eq_some (empty_keyed events)).mpr ⟨hr, rfl⟩
    refine ⟨fun hs => ?_, fun hs => ?_⟩
    · have hcl : r.state = .created ∨ r.state = .queued ∨ r.state = .failed := by tauto
      have hne : r.state ≠ .failed := by rcases hs with hs | hs <;> simp [hs]
      exact Row.isEligible_iff.mpr ⟨hcl, empty_timely ht hfind hne⟩
    · obtain ⟨m, e, before, hlast, hm⟩ := empty_last_move hfind
      obtain ⟨rfl, r₀, text, strategy, now, clock, rfl, hf⟩ := hm.to_failed hs
      refine ⟨text, strategy, now, clock, hlast, fun u hu => ?_⟩
      obtain ⟨due, hdue, hle⟩ := Row.failed_due hf hs
      refine Row.isEligible_iff.mpr ⟨.inr (.inr hs), fun due' hdue' => ?_⟩
      obtain rfl := Option.some.inj (hdue.symm.trans hdue')
      exact Int.ofNat_le.mp (Int.le_trans hle hu)
  · cases hc : t.shift? (-age) with
    | none => exact sweep_early hc hage
    | some cutoff => exact sweep_exact ht hu hx hc
  · rintro ⟨hu, hx, cutoff, hc⟩
    obtain ⟨n, hn⟩ := release_sweeps hu hx hc
    exact ⟨n, _, hn⟩

def lostAttempt : List Event := [
  .enqueue { channel := "email" } .first, .claim 1 .first,
  .markFailed 1 "refused" (.text "linear") .first .first,
  .claim 1 ⟨300000000, by decide⟩]

theorem nothing_stranded_lostAttempt :
    NoneAfter ⟨300000001, by decide⟩ lostAttempt ∧
      SweepExact lostAttempt 0 ⟨300000001, by decide⟩ [] := by
  have ht : NoneAfter ⟨300000001, by decide⟩ lostAttempt := by
    unfold NoneAfter
    decide
  have hu : (run {} lostAttempt).isUp = true := by decide +kernel
  exact ⟨ht, ((nothing_stranded ht).2 0 []).1 hu (by simp [CanExclude]) (by decide)⟩

theorem not_sweepExact (hn : ¬ CanSweep (run {} events) age t exclude)
    (hr : (run {} events).queue.find? r.id = some r) (hold : Overdue events age t exclude r) :
    ¬ SweepExact events age t exclude := by
  intro h
  have hswept := (((h r.id).2 r hr).1 hold).1
  rw [run_release_fails hn, hr, Option.some.injEq] at hswept
  have hq : r.state = .queued := by rw [hswept]; rfl
  cases hq.symm.trans hold.1

/-- The rows that a sweep should put back stay when the time it asks for is
after the last year, when no column can hold an id that it is given, and
when the store is down. -/
theorem sweep_not_always_exact :
    ¬ SweepExact (lostAttempt.take 2) (-Instant.limit) ⟨0, by decide⟩ [] ∧
      ¬ SweepExact (lostAttempt.take 2) (-1) ⟨0, by decide⟩ [9223372036854775808] ∧
      ¬ SweepExact (lostAttempt.take 2 ++ [.store false]) (-1) ⟨0, by decide⟩ [] := by
  let lost : Row :=
    (Request.row { channel := "email" } 1 ⟨0, by decide⟩).claimed ⟨0, by decide⟩
  have hr : (run {} (lostAttempt.take 2)).queue.find? lost.id = some lost := by decide +kernel
  have hr' : (run {} (lostAttempt.take 2 ++ [.store false])).queue.find? lost.id = some lost := by
    decide +kernel
  refine ⟨not_sweepExact ?_ hr ?_, not_sweepExact ?_ hr ?_, not_sweepExact ?_ hr' ?_⟩
  · rintro ⟨-, -, cutoff, hc⟩
    cases hc
  · exact (overdue_iff hr).mpr (by decide)
  · rintro ⟨-, ⟨-, hx⟩, -⟩
    exact absurd (hx 9223372036854775808 (by simp)) (by decide)
  · exact (overdue_iff hr).mpr (by decide)
  · rintro ⟨hu, -⟩
    cases hu
  · exact (overdue_iff hr').mpr (by decide)

end AlertDelivery.Queue
