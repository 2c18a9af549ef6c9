import AlertDelivery.Proofs.Queue.Run
import AlertDelivery.Proofs.Service.Dispatches
import AlertDelivery.Service.Dispatch

/-!
# Runs of the service

Anything that happens to a running service is an `Event`. Between two
events nothing is half done, except that a dispatch may be waiting for its
turn, for a slot or for its channel: it has its turn, begins and ends in
events of its own, in whatever order, and the two halves of a tick may be
apart. For each event this module says what it does to the store and to the
worker.
-/

namespace AlertDelivery.Service

/-- What others decide about a service: its channels, its settings, and the
accounts and settings in its store. -/
structure Surroundings where
  registry : Channel.Registry := {}
  settings : Settings := {}
  channels : Channel.Table := {}
  users : List User := []
  preferences : List Preference := []
  stored : List (String × Option String) := []

def arrange (x : Surroundings) : Op Unit := modify fun s =>
  { s with
    registry := x.registry
    settings := x.settings
    store := { s.store with
      channels := x.channels, users := x.users, preferences := x.preferences,
      settings := x.stored } }

inductive Event where
  | enqueue (q : Queue.Request) (t : Clock.Reading)
  | process (now : Instant) (t : Clock.Reading)
  | releaseStale (t : Clock.Reading)
  | tick (t : Clock.Reading)
  | requeue (ids : List Int) (now : Instant)
  | retention (now : Instant)
  | reload
  | workerPolicy (policy : Policy)
  | turn (number : Nat) (t : Clock.Reading)
  | begin (number : Nat) (t : Clock.Reading)
  | finish (number : Nat) (result : Except Fault Unit) (t : Clock.Reading)
  | outage (isUp : Bool)
  | arrange (x : Surroundings)

namespace Event

def perform : Event → Op Unit
  | .enqueue q t => do let _ ← Service.enqueue q t
  | .process now t => do let _ ← Service.process now t
  | .releaseStale t => do let _ ← Service.releaseStale t
  | .tick t => do let _ ← Service.tick t
  | .requeue ids now => do let _ ← onStore (Store.requeue ids now)
  | .retention now => do let _ ← sweep now
  | .reload => do let _ ← reloadPolicy
  | .workerPolicy policy => setWorkerPolicy policy
  | .turn number t => Service.turn number t
  | .begin number t => do let _ ← Service.begin number t
  | .finish number result t => Service.finish number result t
  | .outage isUp => modify fun s => { s with store := { s.store with isUp } }
  | .arrange x => Service.arrange x

def apply (e : Event) (s : Service) : Service := after e.perform s

end Event

def run (s : Service) (events : List Event) : Service := events.foldl (fun s e => e.apply s) s

def unfinished (s : Service) : List Dispatch := s.worker.dispatches

variable {s : Service} {e : Queue.Entry} {t : Clock.Reading} {now : Instant} {d : Dispatch}
  {x : Sending}

/-- The store stays as it is when nothing else makes the weather. -/
theorem Weather.run_own (stage : Stage) (y : Store.Op α) :
    Weather.own.run stage y = onStore y := rfl

theorem Weather.run_ok {w : Weather} {y : Store.Op α} {stage : Stage}
    (h : y (s.withUp (w stage s)).store = .ok b st) :
    w.run stage y s = .ok b { s with store := st } := onStore_ok h

theorem Weather.run_error {w : Weather} {y : Store.Op α} {stage : Stage}
    (h : y (s.withUp (w stage s)).store = .error fault st) :
    w.run stage y s = .error fault { s with store := st } := onStore_error h

-- ---------------------------------------------------------------------------
-- The queue
-- ---------------------------------------------------------------------------

def withQueue (s : Service) (queue : Queue.Table) : Service :=
  { s with store := { s.store with queue } }

theorem enqueue_cases (q : Queue.Request) (t : Clock.Reading) (s : Service) :
    (∃ fault, enqueue q t s = .error fault s) ∨
      ∃ i queue, s.store.queue.enqueue { q with maxRetries := s.policy.maxRetries } t.now =
        .ok (i, queue) ∧ enqueue q t s = .ok i (s.withQueue queue) := by
  rcases Store.onQueue_cases "enqueue"
      (fun table => table.enqueue { q with maxRetries := s.policy.maxRetries } t.now) s.store with
    ⟨fault, h⟩ | ⟨i, queue, -, hc, h⟩
  · exact .inl ⟨fault, onStore_error h⟩
  · exact .inr ⟨i, queue, hc, onStore_ok h⟩

theorem requeue_cases (ids : List Int) (now : Instant) (s : Service) :
    (∃ fault, onStore (Store.requeue ids now) s = .error fault s) ∨
      ∃ n queue, (Queue.Event.requeue ids now).Does s.store.queue queue ∧
        onStore (Store.requeue ids now) s = .ok n (s.withQueue queue) := by
  cases ids with
  | nil =>
    have hnone : s.store.queue.updateWhere (Queue.Row.isDeadAmong []) (Queue.Row.requeued now) =
        s.store.queue := Queue.Table.updateWhere_none fun _ _ => rfl
    have hr : s.store.queue.requeue [] now = .ok (_, s.store.queue.updateWhere
        (Queue.Row.isDeadAmong []) (Queue.Row.requeued now)) := rfl
    rw [hnone] at hr
    exact .inr ⟨0, s.store.queue, ⟨_, hr⟩, rfl⟩
  | cons i rest =>
    rcases Store.onQueue_cases "requeue_dead_letters"
        (fun table => table.requeue (i :: rest) now) s.store with ⟨fault, h⟩ | ⟨n, queue, -, hc, h⟩
    · exact .inl ⟨fault, onStore_error h⟩
    · exact .inr ⟨n, queue, ⟨n, hc⟩, onStore_ok h⟩

theorem releaseStale_cases (t : Clock.Reading) (s : Service) :
    after (releaseStale t) s = s ∨
      ∃ queue, (Queue.Event.release (s.settings.staleClaimMinutes * Instant.microsPerMinute) t.now
          s.worker.held).Does s.store.queue queue ∧
        after (releaseStale t) s = s.withQueue queue := by
  simp only [releaseStale, releaseStaleIn, Weather.run_own, after_get_bind, after_onStore,
    Store.release]
  split
  · exact .inl rfl
  · rename_i cutoff hcut
    rcases Store.onQueue_cases "release_stale_claims"
        (fun table => table.release cutoff t.now s.worker.held) s.store with
      ⟨fault, h⟩ | ⟨n, queue, -, hc, h⟩
    · exact .inl (by rw [after_error h])
    · exact .inr ⟨queue, ⟨cutoff, n, hcut, hc⟩, by rw [after_ok h]; rfl⟩

theorem budget_worker (w : Worker) (seconds : Rat) :
    ∃ stamps, (w.budget seconds).2 = { w with stamps } := by
  unfold Worker.budget
  split
  · exact ⟨w.stamps, rfl⟩
  · exact ⟨_, rfl⟩

section
variable {limit : Int} {worker : Worker}

theorem processIn_eq (w : Weather) (hb : s.worker.budget t.seconds = (limit, worker))
    (now : Instant) : processIn w now t s = (if limit ≤ 0 then pure 0 else do
      let entries ← w.run .claim (Store.claim limit now)
      modifyWorker (·.takeOver entries t.seconds)
      pure entries.length : Op Nat) { s with worker } := by
  rw [processIn, run_bind_ok (run_get s), hb]
  rfl

/-- What a pass does with the limit that its budget leaves it. -/
theorem process_outcome (hb : s.worker.budget t.seconds = (limit, worker)) (now : Instant) :
    limit ≤ 0 ∧ process now t s = .ok 0 { s with worker } ∨
    0 < limit ∧
      ((∃ fault, Store.claim limit now s.store = .error fault s.store ∧
        process now t s = .error fault { s with worker }) ∨
      ∃ entries queue, s.store.queue.claim limit now = .ok (entries, queue) ∧
        process now t s = .ok entries.length { s.withQueue queue with
          worker := worker.takeOver entries t.seconds }) := by
  have hrun : process now t s = _ := processIn_eq .own hb now
  by_cases hlimit : limit ≤ 0
  · rw [if_pos hlimit] at hrun
    exact .inl ⟨hlimit, hrun⟩
  · rw [if_neg hlimit] at hrun
    refine .inr ⟨Int.not_le.mp hlimit, ?_⟩
    have hclaim : Store.claim limit now =
        Store.onQueue "claim_batch" fun table => table.claim limit now := if_neg hlimit
    rcases Store.onQueue_cases "claim_batch" (fun table => table.claim limit now) s.store with
      ⟨fault, hq⟩ | ⟨entries, queue, -, hc, hq⟩ <;> rw [← hclaim] at hq
    · exact .inl ⟨fault, hq, hrun.trans
        (run_bind_error (onStore_error (s := { s with worker }) hq))⟩
    · exact .inr ⟨entries, queue, hc, hrun.trans
        (run_bind_ok (onStore_ok (s := { s with worker }) hq))⟩

/-- A pass leaves everything but the rate limit alone, or claims entries
and takes them over. -/
theorem process_cases (now : Instant) (t : Clock.Reading) (s : Service) :
    (∃ stamps, after (process now t) s = { s with worker := { s.worker with stamps } }) ∨
      ∃ limit entries queue stamps, s.store.queue.claim limit now = .ok (entries, queue) ∧
        after (process now t) s = { s.withQueue queue with
          worker := { s.worker.takeOver entries t.seconds with stamps } } := by
  obtain ⟨stamps, hb⟩ := budget_worker s.worker t.seconds
  have hbudget : s.worker.budget t.seconds =
      ((s.worker.budget t.seconds).1, { s.worker with stamps }) := by rw [← hb]
  rcases process_outcome hbudget now with
    ⟨-, hp⟩ | ⟨-, ⟨fault, -, hp⟩ | ⟨entries, queue, hc, hp⟩⟩
  · exact .inl ⟨stamps, after_ok hp⟩
  · exact .inl ⟨stamps, after_error hp⟩
  · exact .inr ⟨_, entries, queue, _, hc, (after_ok hp).trans rfl⟩

end

theorem tick_cases (t : Clock.Reading) (s : Service) :
    after (tick t) s = after (releaseStale t) s ∨
      after (tick t) s = after (process t.now t) (after (releaseStale t) s) := by
  cases h : releaseStale t s with
  | ok n s' =>
    rw [after_ok h]
    exact .inr (after_bind_ok h)
  | error fault s' =>
    rw [after_error h]
    exact .inl (after_bind_error h)

-- ---------------------------------------------------------------------------
-- Retention and policies
-- ---------------------------------------------------------------------------

theorem cleanupQueue_cases (days : Int) (now : Instant) (s : Store) :
    (∃ fault, Store.cleanupQueue days now s = .error fault s) ∨
      ∃ n queue, (Queue.Event.cleanup days now).Does s.queue queue ∧
        Store.cleanupQueue days now s = .ok n { s with queue } := by
  unfold Store.cleanupQueue Store.cutoff
  cases hd : now.daysBefore? days with
  | none => exact .inl ⟨Fault.dateOverflow, rfl⟩
  | some cutoff =>
    rcases Store.onQueue_cases "cleanup_delivered" (fun table => .ok (table.cleanup cutoff)) s with
      ⟨fault, h⟩ | ⟨n, queue, -, hc, h⟩
    · exact .inl ⟨fault, h⟩
    · cases hc
      exact .inr ⟨_, _, ⟨cutoff, hd, rfl⟩, h⟩

theorem after_cleanupHistory (days : Int) (now : Instant) (s : Store) :
    ∃ history, after (Store.cleanupHistory days now) s = { s with history } ∧
      history.attempts.Sublist s.history.attempts := by
  unfold Store.cleanupHistory Store.cutoff
  cases now.daysBefore? days with
  | none => exact ⟨s.history, rfl, .refl _⟩
  | some cutoff =>
    obtain ⟨history, h, hl⟩ :=
      Store.after_onHistory "cleanup_history" (fun log => .ok (log.cleanup cutoff)) s
    refine ⟨history, h, ?_⟩
    rcases hl with rfl | ⟨n, hl⟩
    · exact .refl _
    · cases hl
      exact List.filter_sublist

theorem sweep_cases (now : Instant) (s : Service) :
    after (sweep now) s = s ∨
      ∃ queue history,
        (Queue.Event.cleanup s.settings.retentionDays now).Does s.store.queue queue ∧
        history.attempts.Sublist s.store.history.attempts ∧
        after (sweep now) s = { s with store := { s.store with queue, history } } := by
  simp only [sweep, after_get_bind]
  rcases cleanupQueue_cases s.settings.retentionDays now s.store with
    ⟨fault, h⟩ | ⟨n, queue, hd, h⟩
  · exact .inl (after_bind_error (onStore_error h))
  · obtain ⟨history, hl, hsub⟩ := after_cleanupHistory s.settings.historyRetentionDays now
      { s.store with queue }
    refine .inr ⟨queue, history, hd, hsub, ?_⟩
    rw [after_bind_ok (onStore_ok h), after_bind_pure, after_onStore, hl]

theorem reloadPolicy_cases (s : Service) :
    after reloadPolicy s = s ∨
      ∃ policy, policy = s.base.overlay s.store.settings ∧ after reloadPolicy s = { s with
        policy, testTimeout := policy.sendTimeout, worker := s.worker.setPolicy policy } := by
  simp only [reloadPolicy, after_get_bind]
  rcases Store.query_cases "load_policy" (fun st => .ok (s.base.overlay st.settings)) s.store with
    ⟨fault, h⟩ | ⟨policy, -, hc, h⟩
  · exact .inl (after_bind_error (onStore_error h))
  · cases hc
    exact .inr ⟨_, rfl, (after_bind_ok (onStore_ok h)).trans rfl⟩

-- ---------------------------------------------------------------------------
-- What is written when a dispatch ends
-- ---------------------------------------------------------------------------

/-- What a worker has to say about a dispatch when it ends. -/
inductive Verdict where
  | delivered
  | failed (text : String)
  | dropped

def Verdict.write (e : Queue.Entry) (startedAt : Rat) (t : Clock.Reading) : Verdict → Op Unit
  | .delivered => recordDeliveredIn .own e startedAt t
  | .failed text => recordFailedIn .own e text startedAt t
  | .dropped => pure ()

def Appended (log : History.Log) (e : Queue.Entry) (status : History.Status)
    (log' : History.Log) : Prop :=
  ∃ a : History.Attempt, log'.attempts = log.attempts ++ [a] ∧ a.queueId = some e.id ∧
    a.status = status

structure Tells (a : History.Attempt) (e : Queue.Entry) : Prop where
  id : a.queueId = some e.id
  user : a.user = e.user
  channel : a.channel = e.channel
  subject : a.subject = some e.subject
  body : a.body = some e.body

/-- An attempt for an entry is appended, if a column can hold its ids, and
nothing else is. -/
structure Logged (log : History.Log) (e : Queue.Entry) (status : History.Status)
    (log' : History.Log) : Prop where
  appended : (∀ i ∈ e.id :: e.user.toList, Queue.isStorable i = true) →
    Appended log e status log'
  told : ∀ a ∈ log'.attempts, a ∈ log.attempts ∨ Tells a e

/-- What a verdict makes of the queue and of the history, and why it makes
nothing of them. -/
inductive Written (s : Service) (e : Queue.Entry) (now : Instant) :
    Verdict → Queue.Table → History.Log → Prop
  | dropped : Written s e now .dropped s.store.queue s.store.history
  | down (v) (h : s.store.isUp = false) : Written s e now v s.store.queue s.store.history
  | notDelivered (h : s.store.queue.markDelivered e.id now = .error fault) :
    Written s e now .delivered s.store.queue s.store.history
  | notFailed (h : s.store.queue.markFailed e.id text (.text s.worker.policy.backoff.name) now now =
      .error fault) : Written s e now (.failed text) s.store.queue s.store.history
  | unclaimed (h : s.store.queue.markFailed e.id text (.text s.worker.policy.backoff.name) now now =
      .ok (none, queue)) : Written s e now (.failed text) queue s.store.history
  | delivered (h : s.store.queue.markDelivered e.id now = .ok (b, queue))
      (hl : Logged s.store.history e .delivered log) : Written s e now .delivered queue log
  | failed (h : s.store.queue.markFailed e.id text (.text s.worker.policy.backoff.name) now now =
      .ok (some updated, queue))
      (hl : Logged s.store.history updated (failureStatus updated.state) log) :
    Written s e now (.failed text) queue log

theorem append_cases (log : History.Log) (e : Queue.Entry) (status : History.Status)
    (error : Option String) (duration : Option Number) (now : Instant) :
    ((∀ i ∈ e.id :: e.user.toList, Queue.isStorable i = true) ∧ ∃ i a,
      log.append e status error duration now = .ok (i, ⟨log.attempts ++ [a]⟩) ∧
        Tells a e ∧ a.status = status) ∨
    (¬ (∀ i ∈ e.id :: e.user.toList, Queue.isStorable i = true) ∧
      ∃ fault, log.append e status error duration now = .error fault) := by
  cases hst : Queue.storable ([e.id] ++ e.user.toList) with
  | ok u =>
    refine .inl ⟨Queue.storable_ok.mp hst, ?_⟩
    simp only [History.Log.append, hst]
    exact ⟨_, _, rfl, ⟨rfl, rfl, rfl, rfl, rfl⟩, rfl⟩
  | error fault =>
    refine .inr ⟨fun hs => ?_, fault, ?_⟩
    · cases hst.symm.trans (Queue.storable_of_forall hs)
    · rw [History.Log.append, hst]
      rfl

theorem after_recordAttempt (hup : st.isUp = true) (e : Queue.Entry) (status : History.Status)
    (error : Option String) (duration : Option Number) (now : Instant) :
    ∃ history, after (Store.recordAttempt e status error duration now) st = { st with history } ∧
      Logged st.history e status history := by
  rcases append_cases st.history e status error duration now with
    ⟨-, i, a, ha, htells, hstat⟩ | ⟨hs, fault, hf⟩
  · refine ⟨_, after_ok (Store.onHistory_up _ hup ha), fun _ => ⟨a, rfl, htells.id, hstat⟩, ?_⟩
    intro a' ha'
    rcases List.mem_append.mp ha' with ha' | ha'
    · exact .inl ha'
    · exact .inr (List.mem_singleton.mp ha' ▸ htells)
  · obtain ⟨history, h, hl⟩ := Store.after_onHistory "record_history"
      (fun log => log.append e status error duration now) st
    rcases hl with rfl | ⟨i, hl⟩
    · exact ⟨_, h, fun hs' => absurd hs' hs, fun _ => .inl⟩
    · cases hf.symm.trans hl

theorem after_recorded (hup : s.store.isUp = true) (e : Queue.Entry) (status : History.Status)
    (error : Option String) (duration : Option Number) (now : Instant) (operation type : String)
    (f : Channel.Row → Channel.Row) :
    ∃ history channels, after (do
        let _ ← onStore (Store.recordAttempt e status error duration now)
        onStore (Store.updateChannel operation type f)) s =
      { s with store := { s.store with history, channels } } ∧
      Logged s.store.history e status history := by
  obtain ⟨history, hh, hl⟩ := after_recordAttempt hup e status error duration now
  cases h : Store.recordAttempt e status error duration now s.store with
  | ok i st =>
    rw [after_ok h] at hh
    obtain ⟨channels, hc⟩ := Store.after_updateChannel operation type f st
    refine ⟨history, channels, ?_, hl⟩
    rw [after_bind_ok (onStore_ok h), after_onStore, hc, hh]
  | error fault st =>
    rw [after_error h] at hh
    refine ⟨history, s.store.channels, ?_, hl⟩
    rw [after_bind_error (onStore_error h), hh]

section
variable {id : Int} {error : String} {strategy : Value} {clock : Instant} {queue : Queue.Table}

theorem markDelivered_up (hup : s.store.isUp = true)
    (h : s.store.queue.markDelivered id now = .ok (b, queue)) :
    onStore (Store.markDelivered id now) s = .ok b (s.withQueue queue) :=
  onStore_ok (Store.onQueue_up (fun table => table.markDelivered id now) hup h)

theorem markDelivered_fault (id : Int) (now : Instant)
    (h : s.store.isUp = true → ∃ fault, s.store.queue.markDelivered id now = .error fault) :
    ∃ fault, onStore (Store.markDelivered id now) s = .error fault s := by
  rcases Store.onQueue_cases "mark_delivered" (fun table => table.markDelivered id now) s.store with
    ⟨fault, h⟩ | ⟨_, _, hup, hc, -⟩
  · exact ⟨fault, onStore_error h⟩
  · obtain ⟨fault, hf⟩ := h hup
    cases hf.symm.trans hc

theorem markFailed_up (hup : s.store.isUp = true)
    (h : s.store.queue.markFailed id error strategy now clock = .ok (out, queue)) :
    onStore (Store.markFailed id error strategy now clock) s = .ok out (s.withQueue queue) :=
  onStore_ok (Store.onQueue_up (fun table => table.markFailed id error strategy now clock) hup h)

theorem markFailed_fault (id : Int) (error : String) (strategy : Value) (now clock : Instant)
    (h : s.store.isUp = true → ∃ fault,
      s.store.queue.markFailed id error strategy now clock = .error fault) :
    ∃ fault, onStore (Store.markFailed id error strategy now clock) s = .error fault s := by
  rcases Store.onQueue_cases "mark_failed"
      (fun table => table.markFailed id error strategy now clock) s.store with
    ⟨fault, h⟩ | ⟨_, _, hup, hc, -⟩
  · exact ⟨fault, onStore_error h⟩
  · obtain ⟨fault, hf⟩ := h hup
    cases hf.symm.trans hc

end

theorem Verdict.write_cases (v : Verdict) (e : Queue.Entry) (startedAt : Rat)
    (t : Clock.Reading) (s : Service) :
    ∃ queue history channels, after (v.write e startedAt t) s =
        { s with store := { s.store with queue, history, channels } } ∧
      Written s e t.now v queue history := by
  have hisUp : s.store.isUp = false ∨ s.store.isUp = true := by cases s.store.isUp <;> simp
  cases v with
  | dropped => exact ⟨_, _, _, rfl, .dropped⟩
  | delivered =>
    rcases hisUp with hup | hup
    · obtain ⟨fault, h⟩ := markDelivered_fault e.id t.now fun h => by cases hup.symm.trans h
      exact ⟨_, _, _, after_bind_error h, .down _ hup⟩
    · cases hm : s.store.queue.markDelivered e.id t.now with
      | error fault =>
        obtain ⟨fault, h⟩ := markDelivered_fault e.id t.now fun _ => ⟨fault, hm⟩
        exact ⟨_, _, _, after_bind_error h, .notDelivered hm⟩
      | ok p =>
        obtain ⟨history, channels, ha, hl⟩ := after_recorded (s := s.withQueue p.2) hup e .delivered
          none (some (milliseconds startedAt t.seconds)) t.now "record_success" e.channel
          (Channel.Row.recordSuccess t.now)
        exact ⟨p.2, history, channels, (after_bind_ok (markDelivered_up hup hm)).trans ha,
          .delivered hm hl⟩
  | failed text =>
    let strategy : Value := .text s.worker.policy.backoff.name
    simp only [write, recordFailedIn, Weather.run_own, after_get_bind]
    rcases hisUp with hup | hup
    · obtain ⟨fault, h⟩ := markFailed_fault e.id text strategy t.now t.now fun h => by
        cases hup.symm.trans h
      exact ⟨_, _, _, after_bind_error h, .down _ hup⟩
    · cases hm : s.store.queue.markFailed e.id text strategy t.now t.now with
      | error fault =>
        obtain ⟨fault, h⟩ := markFailed_fault e.id text strategy t.now t.now fun _ => ⟨fault, hm⟩
        exact ⟨_, _, _, after_bind_error h, .notFailed hm⟩
      | ok p =>
        obtain ⟨out, queue⟩ := p
        have hq := markFailed_up hup hm
        cases out with
        | none => exact ⟨queue, _, _, after_bind_ok hq, .unclaimed hm⟩
        | some updated =>
          obtain ⟨history, channels, ha, hl⟩ := after_recorded (s := s.withQueue queue) hup updated
            (failureStatus updated.state) (some text) (some (milliseconds startedAt t.seconds))
            t.now "record_failure" e.channel (Channel.Row.recordFailure text t.now)
          exact ⟨queue, history, channels, (after_bind_ok hq).trans ha, .failed hm hl⟩

-- ---------------------------------------------------------------------------
-- Dispatches
-- ---------------------------------------------------------------------------

/-- What a resolution answers once the user has been asked for. -/
def addressOr (e : Queue.Entry) : Option String → Store.Op String
  | some address => pure address
  | none => throw (Recipient.unresolved e)

theorem addressOr_cases (e : Queue.Entry) (found : Option String) (st : Store) :
    (∃ address, addressOr e found st = .ok address st) ∨
      ∃ fault, addressOr e found st = .error fault st := by
  cases found with
  | some address => exact .inl ⟨address, rfl⟩
  | none => exact .inr ⟨_, rfl⟩

theorem addressOr_fault {found : Option String} (h : addressOr e found st = .error fault st') :
    fault = Recipient.unresolved e := by
  cases found <;> cases h
  rfl

theorem resolve_cases (e : Queue.Entry) (st : Store) :
    (∃ address, Store.resolve e st = .ok address st) ∨
      ∃ fault, Store.resolve e st = .error fault st := by
  unfold Store.resolve
  cases e.user with
  | none => exact addressOr_cases e _ st
  | some user =>
    rcases Store.query_cases "resolve_recipient" _ st with ⟨fault, h⟩ | ⟨ofUser, -, -, h⟩
    · exact .inr ⟨fault, run_bind_error h⟩
    · rcases addressOr_cases e (ofUser.or (Recipient.named? e)) st with ⟨address, ha⟩ | ⟨fault, hf⟩
      · exact .inl ⟨address, (run_bind_ok h).trans ha⟩
      · exact .inr ⟨fault, (run_bind_ok h).trans hf⟩

def addressOf? (st : Store) (e : Queue.Entry) : Option String :=
  (e.user.bind fun user => Recipient.ofUser? st.users st.preferences user e.channel).or
    (Recipient.named? e)

theorem resolve_run (hup : st.isUp = true)
    (hu : ∀ user, e.user = some user → Queue.isStorable user = true) :
    Store.resolve e st = addressOr e (addressOf? st e) st := by
  unfold Store.resolve addressOf?
  cases huser : e.user with
  | none => rfl
  | some user =>
    have hs : Queue.storable [user] = .ok () :=
      Queue.storable_of_forall (by simpa using hu user huser)
    have hq : Store.userAddress user e.channel st =
        .ok (Recipient.ofUser? st.users st.preferences user e.channel) st :=
      Store.query_up _ hup (by rw [hs]; rfl)
    exact run_bind_ok hq

theorem resolve_eq (hup : st.isUp = true)
    (hu : ∀ i ∈ e.id :: e.user.toList, Queue.isStorable i = true) :
    Store.resolve e st = addressOr e (addressOf? st e) st :=
  resolve_run hup fun user huser => hu user (by simp [huser])

theorem resolve_fault (hup : st.isUp = true)
    (hu : ∀ i ∈ e.id :: e.user.toList, Queue.isStorable i = true)
    (h : Store.resolve e st = .error fault st') : fault = Recipient.unresolved e :=
  addressOr_fault ((resolve_eq hup hu).symm.trans h)

theorem prepareIn_cases (w : Weather) (e : Queue.Entry) (s : Service) :
    let asked := s.withUp (w .lookup s)
    (∃ channel recipient, s.registry.get e.channel = .ok channel ∧
      Store.resolve e asked.store = .ok recipient asked.store ∧
      prepareIn w e s = .ok (channel, recipient) asked) ∨
    (∃ fault, s.registry.get e.channel = .error fault ∧ prepareIn w e s = .error fault s) ∨
    ∃ fault, Store.resolve e asked.store = .error fault asked.store ∧
      prepareIn w e s = .error fault asked := by
  intro asked
  have hget : prepareIn w e s = (do
      let channel ← lift (s.registry.get e.channel)
      let recipient ← w.run .lookup (Store.resolve e)
      pure (channel, recipient) : Op (Channel × String)) s := rfl
  rw [hget]
  cases s.registry.get e.channel with
  | error fault => exact .inr (.inl ⟨fault, rfl, rfl⟩)
  | ok channel =>
    rw [run_bind_ok (lift_ok channel s)]
    rcases resolve_cases e asked.store with ⟨recipient, hr⟩ | ⟨fault, hr⟩
    · exact .inl ⟨channel, recipient, rfl, hr, run_bind_ok (Weather.run_ok hr)⟩
    · exact .inr (.inr ⟨fault, hr, run_bind_error (Weather.run_error hr)⟩)

theorem prepare_cases (e : Queue.Entry) (s : Service) :
    (∃ channel recipient, s.registry.get e.channel = .ok channel ∧
      Store.resolve e s.store = .ok recipient s.store ∧
      prepareIn .own e s = .ok (channel, recipient) s) ∨
    ∃ fault, prepareIn .own e s = .error fault s ∧
      (s.registry.get e.channel = .error fault ∨
        Store.resolve e s.store = .error fault s.store) := by
  rcases prepareIn_cases .own e s with h | ⟨fault, hc, h⟩ | ⟨fault, hr, h⟩
  · exact .inl h
  · exact .inr ⟨fault, h, .inl hc⟩
  · exact .inr ⟨fault, h, .inr hr⟩

section
variable {c : Channel} {address : String} {fault : Fault}

theorem prepare_ok (hc : s.registry.get e.channel = .ok c)
    (hr : Store.resolve e s.store = .ok address s.store) :
    prepareIn .own e s = .ok (c, address) s := by
  rcases prepare_cases e s with ⟨_, _, hc', hr', hp⟩ | ⟨_, -, hf | hf⟩
  · cases hc.symm.trans hc'
    cases hr.symm.trans hr'
    exact hp
  · cases hc.symm.trans hf
  · cases hr.symm.trans hf

theorem prepare_error (hc : s.registry.get e.channel = .ok c)
    (hr : Store.resolve e s.store = .error fault s.store) :
    prepareIn .own e s = .error fault s := by
  rcases prepare_cases e s with ⟨_, _, -, hr', -⟩ | ⟨_, hp, hf | hf⟩
  · cases hr.symm.trans hr'
  · cases hc.symm.trans hf
  · cases hr.symm.trans hf
    exact hp

end

/-- A dispatch ends: its verdict is written, its slot given back and its id
let go. -/
def Ends (s s' : Service) (d : Dispatch) (v : Verdict) (now : Instant) : Prop :=
  ∃ queue history channels, Written s d.entry now v queue history ∧
    s' = { s with
      store := { s.store with queue, history, channels }, worker := s.worker.dismiss d }

def withDismissed (s : Service) (d : Dispatch) : Service := { s with worker := s.worker.dismiss d }

theorem ends_of_write (v : Verdict) (d : Dispatch) (startedAt : Rat) (t : Clock.Reading)
    (s : Service) : Ends s ((after (v.write d.entry startedAt t) s).withDismissed d) d v t.now := by
  obtain ⟨queue, history, channels, hw, h⟩ := v.write_cases d.entry startedAt t s
  exact ⟨queue, history, channels, h, by rw [hw]; rfl⟩

def sendingOf (s : Service) (p : Preparing) (c : Channel) (address : String) : Sending where
  dispatch := p.dispatch
  channel := c
  message := messageOf p.dispatch.entry address
  timeout := s.worker.policy.sendTimeout
  startedAt := p.startedAt

section
variable {w : Weather} {p : Preparing} {number : Nat} {c : Channel} {address : String}
  {fault : Fault} {s₁ : Service}

theorem beginIn_idle (w : Weather) (hp : s.worker.preparing? number = none)
    (t : Clock.Reading) : beginIn w number t s = .ok .idle s := by
  rw [beginIn, run_bind_ok (run_get s), hp]
  rfl

theorem beginIn_sending (hp : s.worker.preparing? number = some p)
    (h : prepareIn w p.dispatch.entry s = .ok (c, address) s₁) (t : Clock.Reading) :
    beginIn w number t s = .ok (.sending (s.sendingOf p c address))
      { s₁ with worker := s₁.worker.beginSend (s.sendingOf p c address) } := by
  rw [beginIn, run_bind_ok (run_get s), hp]
  simp only [run_bind_ok (attempt_ok h)]
  rfl

theorem beginIn_ended (hp : s.worker.preparing? number = some p)
    (h : prepareIn w p.dispatch.entry s = .error fault s₁) (t : Clock.Reading) :
    beginIn w number t s = .ok .ended ((if fault.spendsRetry then
      after (recordFailedIn w p.dispatch.entry fault.message p.startedAt t) s₁
      else s₁).withDismissed p.dispatch) := by
  rw [beginIn, run_bind_ok (run_get s), hp]
  simp only [run_bind_ok (attempt_error h)]
  have hw := quietly_run (recordFailedIn w p.dispatch.entry fault.message p.startedAt t) s₁
  cases fault.spendsRetry with
  | true =>
    simp only [if_true, run_bind_ok hw]
    rfl
  | false => rfl

theorem finishIn_none (w : Weather) (hx : s.worker.sending? number = none)
    (result : Except Fault Unit) (t : Clock.Reading) : finishIn w number result t s = .ok () s := by
  rw [finishIn, run_bind_ok (run_get s), hx]
  rfl

theorem finishIn_some (w : Weather) (hx : s.worker.sending? number = some x)
    (result : Except Fault Unit) (t : Clock.Reading) : finishIn w number result t s =
      .ok () ((after (recordResultIn w x result t) s).withDismissed x.dispatch) := by
  rw [finishIn, run_bind_ok (run_get s), hx]
  simp only [run_bind_ok (quietly_run (recordResultIn w x result t) s)]
  rfl

end

theorem begin_cases (number : Nat) (t : Clock.Reading) (s : Service) :
    (s.worker.preparing? number = none ∧ after (begin number t) s = s) ∨
    ∃ p, s.worker.preparing? number = some p ∧
      ((∃ x : Sending, x.dispatch = p.dispatch ∧
          s.registry.get p.dispatch.entry.channel = .ok x.channel ∧
          Store.resolve p.dispatch.entry s.store = .ok x.message.recipient s.store ∧
          after (begin number t) s = { s with worker := s.worker.beginSend x }) ∨
        ∃ fault, (s.registry.get p.dispatch.entry.channel = .error fault ∨
            Store.resolve p.dispatch.entry s.store = .error fault s.store) ∧
          Ends s (after (begin number t) s) p.dispatch
            (if fault.spendsRetry then .failed fault.message else .dropped) t.now) := by
  cases hp : s.worker.preparing? number with
  | none => exact .inl ⟨rfl, after_ok (beginIn_idle .own hp t)⟩
  | some p =>
    refine .inr ⟨p, rfl, ?_⟩
    rcases prepare_cases p.dispatch.entry s with
      ⟨channel, recipient, hc, hr, h⟩ | ⟨fault, h, hwhy⟩
    · exact .inl ⟨s.sendingOf p channel recipient, rfl, hc, hr,
        after_ok (beginIn_sending hp h t)⟩
    · have hended : after (begin number t) s = _ := after_ok (beginIn_ended hp h t)
      refine .inr ⟨fault, hwhy, ?_⟩
      rw [hended]
      cases fault.spendsRetry with
      | true => exact ends_of_write (.failed fault.message) p.dispatch p.startedAt t s
      | false => exact ends_of_write .dropped p.dispatch p.startedAt t s

def Sending.verdict (x : Sending) : Except Fault Unit → Verdict
  | .ok _ => .delivered
  | .error fault => .failed (failureText x.dispatch.entry.channel x.timeout fault)

theorem finish_cases (number : Nat) (result : Except Fault Unit) (t : Clock.Reading)
    (s : Service) :
    after (finish number result t) s = s ∨
    ∃ x, s.worker.sending? number = some x ∧
      Ends s (after (finish number result t) s) x.dispatch (Sending.verdict x result) t.now := by
  cases hx : s.worker.sending? number with
  | none => exact .inl (after_ok (finishIn_none .own hx result t))
  | some x =>
    have hv : recordResultIn .own x result t =
        (Sending.verdict x result).write x.dispatch.entry x.startedAt t := by
      cases result <;> rfl
    have hended : after (finish number result t) s = _ := after_ok (finishIn_some .own hx result t)
    refine .inr ⟨x, rfl, ?_⟩
    rw [hended, hv]
    exact ends_of_write (Sending.verdict x result) x.dispatch x.startedAt t s

-- ---------------------------------------------------------------------------
-- The dispatches that have not ended
-- ---------------------------------------------------------------------------

section
variable {number : Nat} {p : Preparing} {s' : Service} {v : Verdict}

theorem holder_unfinished (hd : d ∈ s.worker.holders) : d ∈ s.unfinished :=
  List.mem_append_right _ hd

theorem unfinished_turn (hn : (s.unfinished.map (·.number)).Nodup) (number : Nat)
    (t : Clock.Reading) : (after (turn number t) s).unfinished.Perm s.unfinished :=
  Worker.turn_dispatches hn number t.seconds

theorem unfinished_beginSend (hn : (s.unfinished.map (·.number)).Nodup)
    (hp : s.worker.preparing? number = some p) (hx : x.dispatch = p.dispatch) :
    (unfinished { s with worker := s.worker.beginSend x }).Perm s.unfinished :=
  Worker.beginSend_dispatches hn hp hx

theorem Ends.worker (he : Ends s s' d v now) : s'.worker = s.worker.dismiss d := by
  obtain ⟨_, _, _, -, rfl⟩ := he
  rfl

theorem Ends.unfinished (he : Ends s s' d v now) (hn : (s.unfinished.map (·.number)).Nodup)
    (hd : d ∈ s.worker.holders) : s.unfinished.Perm (d :: s'.unfinished) := by
  rw [Service.unfinished, Service.unfinished, he.worker]
  exact Worker.dismiss_dispatches hn hd

end

end AlertDelivery.Service
