import AlertDelivery.Proofs.Service.Outcome

/-!
# The history as a ledger of the queue

A row counts its failed attempts since it was queued or last requeued, and
the history has one record for each. `Ledger` remembers along a run how
long the history was when an id started anew; `Books` says that queue and
history agree, and every step of a steady run keeps it.
-/

namespace AlertDelivery

open Queue (Row Table)
open History (Log)

def History.Attempt.isFor (id : Int) (a : History.Attempt) : Bool := a.queueId == some id

theorem History.Attempt.isFor_iff {a : History.Attempt} {i : Int} :
    a.isFor i = true ↔ a.queueId = some i := by
  simp [isFor]

/-- What the history says of a row that started anew after `since`
attempts. -/
structure Balanced (log : Log) (since : Nat) (r : Row) : Prop where
  spent : ((log.attempts.drop since).countP fun a => a.isFor r.id && a.status.isError : Int) =
    r.retryCount
  delivered : r.state = .delivered → ∃ older a,
    log.attempts.filter (·.isFor r.id) = older ++ [a] ∧ a.status = .delivered ∧
      ∀ b ∈ older, b.status ≠ .delivered
  undelivered : r.state ≠ .delivered → ∀ a ∈ log.attempts.filter (·.isFor r.id),
    a.status ≠ .delivered
  dead : r.state = .deadLetter → ∃ older a,
    log.attempts.filter (·.isFor r.id) = older ++ [a] ∧ a.status = .deadLetter

structure Books (log : Log) (since : Int → Nat) (t : Table) : Prop where
  known : ∀ a ∈ log.attempts, ∃ r ∈ t.rows, a.isFor r.id = true
  marked : ∀ i, since i ≤ log.attempts.length
  balanced : ∀ r ∈ t.rows, Balanced log (since r.id) r

variable {log log' : Log} {since since' : Int → Nat} {n : Nat} {t t' : Table} {r r' : Row}
  {a : History.Attempt} {now : Instant} {s : Service} {d : Dispatch} {v : Service.Verdict}
  {queue : Table}

-- ---------------------------------------------------------------------------
-- One row
-- ---------------------------------------------------------------------------

namespace Balanced

theorem moved (h : Balanced log n r) (hid : r'.id = r.id) (hc : r'.retryCount = r.retryCount)
    (hs : r.state ≠ .delivered) (hs' : r'.state ≠ .delivered ∧ r'.state ≠ .deadLetter) :
    Balanced log n r' where
  spent := by rw [hid, hc]; exact h.spent
  delivered hd := absurd hd hs'.1
  undelivered _ := hid ▸ h.undelivered hs
  dead hd := absurd hd hs'.2

theorem restarted (hu : ∀ a ∈ log.attempts.filter (·.isFor r.id), a.status ≠ .delivered)
    (hc : r.retryCount = 0) (hs : r.state ≠ .delivered ∧ r.state ≠ .deadLetter) :
    Balanced log log.attempts.length r where
  spent := by rw [List.drop_length, hc]; rfl
  delivered hd := absurd hd hs.1
  undelivered _ := hu
  dead hd := absurd hd hs.2

section
variable (ha : log'.attempts = log.attempts ++ [a])
include ha

theorem filter_append {i : Int} (hf : a.isFor i = true) :
    log'.attempts.filter (·.isFor i) = log.attempts.filter (·.isFor i) ++ [a] := by
  rw [ha, List.filter_append, List.filter_singleton, hf]
  rfl

variable (hn : n ≤ log.attempts.length)
include hn

theorem spent_append (h : Balanced log n r) (hid : r'.id = r.id)
    (hc : r'.retryCount = r.retryCount + if a.isFor r.id && a.status.isError then 1 else 0) :
    ((log'.attempts.drop n).countP fun a => a.isFor r'.id && a.status.isError : Int) =
      r'.retryCount := by
  rw [ha, List.drop_append_of_le_length hn, List.countP_append, List.countP_singleton, hid, hc,
    ← h.spent]
  split <;> simp

theorem other (h : Balanced log n r) (hf : a.isFor r.id = false) : Balanced log' n r := by
  have hfilter : log'.attempts.filter (·.isFor r.id) = log.attempts.filter (·.isFor r.id) := by
    rw [ha, List.filter_append, List.filter_singleton, hf]
    simp
  exact {
    spent := spent_append ha hn h rfl (by simp [hf])
    delivered := by rw [hfilter]; exact h.delivered
    undelivered := by rw [hfilter]; exact h.undelivered
    dead := by rw [hfilter]; exact h.dead }

theorem deliver (h : Balanced log n r) (hs : r.state ≠ .delivered) (hf : a.isFor r.id = true)
    (hstatus : a.status = .delivered) (now : Instant) : Balanced log' n (r.delivered now) where
  spent := spent_append ha hn h rfl (by simp [hstatus, History.Status.isError, Row.delivered])
  delivered _ := ⟨_, a, filter_append ha hf, hstatus, h.undelivered hs⟩
  undelivered hd := absurd rfl hd
  dead hd := by cases hd

theorem fail (h : Balanced log n r) (hsound : r.Sound) (hs : r.state = .sending)
    (hr : r.failed text strategy now clock = .ok r') (hf : a.isFor r.id = true)
    (hstatus : a.status = Service.failureStatus r'.state) : Balanced log' n r' := by
  have hfilter := filter_append ha hf
  have hid := Row.failed_id hr
  have hlt := hsound.retriesLeft (.inr (.inr hs))
  have hcount : r'.retryCount = r.retryCount + 1 := Row.failed_retryCount hr hlt
  have hstate := Row.failed_state hr
  have herror : a.status.isError = true ∧ a.status ≠ .delivered := by
    rw [hstatus]
    rcases hstate with h | h <;> rw [h] <;> exact ⟨rfl, by simp [Service.failureStatus]⟩
  have hund : r'.state ≠ .delivered := by
    rcases hstate with h | h <;> rw [h] <;> simp
  exact {
    spent := spent_append ha hn h hid (by rw [hcount, hf, herror.1]; rfl)
    delivered := fun hd => absurd hd hund
    undelivered := fun _ b hb => by
      rw [hid, hfilter] at hb
      rcases List.mem_append.mp hb with hb | hb
      · exact h.undelivered (by simp [hs]) b hb
      · rw [List.mem_singleton.mp hb]
        exact herror.2
    dead := fun hd => ⟨_, a, by rw [hid, hfilter], by rw [hstatus, hd]; rfl⟩ }

end

end Balanced

-- ---------------------------------------------------------------------------
-- The whole table
-- ---------------------------------------------------------------------------

namespace Books

theorem same {ids : List Int} (h : Books log since t) (hi : ids = []) :
    Books log (fun i => if i ∈ ids then n else since i) t := by
  simpa only [hi, List.not_mem_nil, if_false] using h

theorem of_updateWhere {p : Row → Bool} {f : Row → Row}
    (hid : ∀ r ∈ t.rows, p r = true → (f r).id = r.id)
    (hk : ∀ a ∈ log.attempts, ∃ r ∈ t.rows, a.isFor r.id = true)
    (hm : ∀ i, since i ≤ log.attempts.length)
    (hf : ∀ r ∈ t.rows, p r = true → Balanced log (since r.id) (f r))
    (hrest : ∀ r ∈ t.rows, p r = false → Balanced log (since r.id) r) :
    Books log since (t.updateWhere p f) where
  known a ha := by
    obtain ⟨r, hr, hfor⟩ := hk a ha
    cases hp : p r with
    | true => exact ⟨f r, Table.mem_updateWhere.mpr ⟨r, hr, .inl ⟨hp, rfl⟩⟩, hid r hr hp ▸ hfor⟩
    | false => exact ⟨r, Table.mem_updateWhere.mpr ⟨r, hr, .inr ⟨hp, rfl⟩⟩, hfor⟩
  marked := hm
  balanced r' hr' := by
    obtain ⟨r, hr, ⟨hp, rfl⟩ | ⟨hp, rfl⟩⟩ := Table.mem_updateWhere.mp hr'
    · exact (hid r hr hp).symm ▸ hf r hr hp
    · exact hrest r hr hp

theorem claim (h : Books log since t) (hk : t.Keyed)
    (hc : t.claim limit now = .ok (entries, t')) : Books log since t' := by
  obtain ⟨-, rfl, hel, -⟩ := Table.claim_ok hk hc
  refine of_updateWhere (fun _ _ _ => rfl) h.known h.marked (fun r hr hp => ?_)
    fun r hr _ => h.balanced r hr
  exact (h.balanced r hr).moved rfl rfl
    (Row.isEligible_ne (hel r hr (List.contains_iff_mem.mp hp))).2.1 (by simp [Row.claimed])

theorem release (h : Books log since t)
    (hr : t.release cutoff now exclude = .ok (n, t')) : Books log since t' := by
  rw [Table.release_ok hr]
  refine of_updateWhere (fun _ _ _ => rfl) h.known h.marked (fun r hr hp => ?_)
    fun r hr _ => h.balanced r hr
  have hs := (Row.isStale_iff.mp hp).1
  exact (h.balanced r hr).moved rfl rfl (by simp [hs]) (by simp [Row.released])

def deadAmong (t : Table) (ids : List Int) : List Int :=
  (t.rows.filter (Row.isDeadAmong ids)).map (·.id)

theorem requeue (h : Books log since t) (hk : t.Keyed)
    (hr : t.requeue ids now = .ok (n, t')) :
    Books log (fun i => if i ∈ deadAmong t ids then log.attempts.length else since i) t' := by
  rw [Table.requeue_ok hr]
  have hmem (r : Row) (hr : r ∈ t.rows) : r.id ∈ deadAmong t ids ↔ Row.isDeadAmong ids r := by
    refine ⟨fun hi => ?_, fun hd => List.mem_map_of_mem (List.mem_filter.mpr ⟨hr, hd⟩)⟩
    obtain ⟨r₂, hr₂, hid⟩ := List.mem_map.mp hi
    obtain ⟨hr₂, hd⟩ := List.mem_filter.mp hr₂
    rwa [← List.inj_on_of_nodup_map hk.nodup hr₂ hr hid]
  refine of_updateWhere (fun _ _ _ => rfl) h.known (fun i => ?_) (fun r hr hp => ?_)
    fun r hr hp => ?_
  · split
    · exact Nat.le_refl _
    · exact h.marked i
  · have hs := (Row.isDeadAmong_iff.mp hp).2
    rw [if_pos ((hmem r hr).mpr hp)]
    exact Balanced.restarted ((h.balanced r hr).undelivered (by simp [hs])) rfl
      (by simp [Row.requeued])
  · rw [if_neg (by simp [hmem r hr, hp])]
    exact h.balanced r hr

theorem enqueue (h : Books log since t) (he : t.enqueue q now = .ok (i, t')) :
    Books log (fun j => if j ∈ [i] then log.attempts.length else since j) t' := by
  obtain ⟨rfl, rfl, -, -⟩ := Table.enqueue_ok he
  exact {
    known := fun a ha => by
      obtain ⟨r, hr, hfor⟩ := h.known a ha
      exact ⟨r, List.mem_append_left _ hr, hfor⟩
    marked := fun j => by
      split
      · exact Nat.le_refl _
      · exact h.marked j
    balanced := fun r hr => by
      rcases List.mem_append.mp hr with hr | hr
      · have hlt := Table.id_lt_nextId hr
        rw [if_neg (by simp only [List.mem_singleton]; omega)]
        exact h.balanced r hr
      · cases List.mem_singleton.mp hr
        have hnew : (q.row t.nextId now).id ∈ [t.nextId] := List.mem_singleton_self _
        rw [if_pos hnew]
        refine Balanced.restarted (fun a ha => ?_) rfl (by simp [Queue.Request.row])
        obtain ⟨ha, hfor⟩ := List.mem_filter.mp ha
        obtain ⟨r, hr, hr'⟩ := h.known a ha
        have hid : some r.id = some t.nextId :=
          (History.Attempt.isFor_iff.mp hr').symm.trans (History.Attempt.isFor_iff.mp hfor)
        have hlt := Table.id_lt_nextId hr
        have := Option.some.inj hid
        omega }

theorem append (h : Books log since t) (hk : t.Keyed) (hr : r ∈ t.rows) (hst : r.state = .sending)
    (ha : log'.attempts = log.attempts ++ [a]) (hfor : a.isFor r.id = true) {f : Row → Row}
    (hf : (f r).id = r.id) (hb : Balanced log' (since r.id) (f r)) :
    Books log' since (t.updateWhere (Row.isSending r.id) f) := by
  have only {r₂ : Row} (hr₂ : r₂ ∈ t.rows) (hid : r₂.id = r.id) : r₂ = r :=
    List.inj_on_of_nodup_map hk.nodup hr₂ hr hid
  have hlength : log.attempts.length ≤ log'.attempts.length := by
    rw [ha, List.length_append]
    omega
  refine of_updateWhere (fun r₂ hr₂ hp => ?_) (fun b hb => ?_)
    (fun i => Nat.le_trans (h.marked i) hlength) (fun r₂ hr₂ hp => ?_) fun r₂ hr₂ hp => ?_
  · cases only hr₂ (Row.isSending_iff.mp hp).1
    exact hf
  · rw [ha] at hb
    rcases List.mem_append.mp hb with hb | hb
    · exact h.known b hb
    · exact ⟨r, hr, List.mem_singleton.mp hb ▸ hfor⟩
  · cases only hr₂ (Row.isSending_iff.mp hp).1
    exact hb
  · refine (h.balanced r₂ hr₂).other ha (h.marked _) (Bool.eq_false_iff.mpr fun hfor₂ => ?_)
    have hsame : some r₂.id = some r.id :=
      (History.Attempt.isFor_iff.mp hfor₂).symm.trans (History.Attempt.isFor_iff.mp hfor)
    cases only hr₂ (Option.some.inj hsame)
    rw [Row.isSending_iff.mpr ⟨rfl, hst⟩] at hp
    cases hp

theorem settled (h : Books s.store.history since s.store.queue) (hs : s.Steady)
    (hd : d ∈ s.unfinished) (hset : Service.Settled s d now v queue log) :
    Books log since queue := by
  obtain ⟨r, hf, hst⟩ := (Table.sends_iff_find? hs.keyed).mp (hs.sending d hd)
  obtain ⟨hr, hid⟩ := Table.mem_rows_of_find? hf
  cases hset with
  | delivered hl =>
    obtain ⟨a, ha, hqueue, hstatus⟩ := hl
    rw [← hid] at hqueue ⊢
    have hfor : a.isFor r.id = true := History.Attempt.isFor_iff.mpr hqueue
    exact h.append hs.keyed hr hst ha hfor rfl
      ((h.balanced r hr).deliver ha (h.marked _) (by simp [hst]) hfor hstatus now)
  | @failed log text r₁ r' hf₁ hs₁ hfailed hl =>
    cases hf.symm.trans hf₁
    obtain ⟨a, ha, hqueue, hstatus⟩ := hl
    have hfor : a.isFor r.id = true :=
      History.Attempt.isFor_iff.mpr (hqueue.trans (congrArg some (Row.failed_id hfailed)))
    rw [← hid]
    exact h.append (f := fun _ => r') hs.keyed hr hst ha hfor (Row.failed_id hfailed)
      ((h.balanced r hr).fail ha (h.marked _) (hs.sound r hr) hst hfailed hfor hstatus)
  | refused => exact h

end Books

-- ---------------------------------------------------------------------------
-- Runs
-- ---------------------------------------------------------------------------

namespace Service

/-- The ids that an event queues or requeues. -/
def Event.restarts (s : Service) : Event → List Int
  | .enqueue q t => match Service.enqueue q t s with
    | .ok i _ => [i]
    | .error _ _ => []
  | .requeue ids now => match onStore (Store.requeue ids now) s with
    | .ok _ _ => Books.deadAmong s.store.queue ids
    | .error _ _ => []
  | _ => []

theorem process_books (h : s.Steady) (hb : Books s.store.history since s.store.queue)
    (now : Instant) (t : Clock.Reading) :
    Books (after (process now t) s).store.history since (after (process now t) s).store.queue := by
  rcases process_cases now t s with ⟨stamps, hp⟩ | ⟨limit, entries, queue, stamps, hc, hp⟩ <;>
    rw [hp]
  · exact hb
  · exact hb.claim h.keyed hc

theorem releaseStale_books (hb : Books s.store.history since s.store.queue) (t : Clock.Reading) :
    Books (after (releaseStale t) s).store.history since
      (after (releaseStale t) s).store.queue := by
  rcases releaseStale_cases t s with hr | ⟨queue, ⟨_, _, -, hc⟩, hr⟩ <;> rw [hr]
  · exact hb
  · exact hb.release hc

theorem apply_books (h : s.Steady) (hb : Books s.store.history since s.store.queue)
    {event : Event} (he : event.Steady) :
    Books (event.apply s).store.history
      (fun i => if i ∈ event.restarts s then s.store.history.attempts.length else since i)
      (event.apply s).store.queue := by
  cases event with
  | enqueue q t =>
    rw [Event.apply, Event.perform, after_discard, Event.restarts]
    rcases enqueue_cases q t s with ⟨fault, hq⟩ | ⟨i, queue, hc, hq⟩
    · rw [after_error hq, hq]
      exact hb.same rfl
    · rw [after_ok hq, hq]
      exact hb.enqueue hc
  | requeue ids now =>
    rw [Event.apply, Event.perform, after_discard, Event.restarts]
    rcases requeue_cases ids now s with ⟨fault, hr⟩ | ⟨n, queue, ⟨_, hc⟩, hr⟩
    · rw [after_error hr, hr]
      exact hb.same rfl
    · rw [after_ok hr, hr]
      exact hb.requeue h.keyed hc
  | process now t =>
    refine Books.same ?_ rfl
    rw [Event.apply, Event.perform, after_discard]
    exact process_books h hb now t
  | releaseStale t =>
    refine Books.same ?_ rfl
    rw [Event.apply, Event.perform, after_discard]
    exact releaseStale_books hb t
  | tick t =>
    refine Books.same ?_ rfl
    rw [Event.apply, Event.perform, after_discard]
    rcases tick_cases t s with ht | ht <;> rw [ht]
    · exact releaseStale_books hb t
    · exact process_books (h.releaseStale t) (releaseStale_books hb t) t.now t
  | retention now => cases he
  | reload =>
    refine Books.same ?_ rfl
    rw [Event.apply, Event.perform, after_discard]
    rcases reloadPolicy_cases s with hr | ⟨policy, -, hr⟩ <;> rw [hr] <;> exact hb
  | workerPolicy policy => exact Books.same hb rfl
  | turn number t => exact Books.same hb rfl
  | begin number t =>
    refine Books.same ?_ rfl
    rw [Event.apply, Event.perform, after_discard]
    rcases h.begin_cases number t with
      ⟨-, hs⟩ | ⟨x, -, -, -, hst, -, -⟩ | ⟨d, hd, -, -, -, -, text, hset⟩
    · rwa [hs]
    · rwa [hst]
    · exact hb.settled h (holder_unfinished (List.mem_append_left _ hd)) hset
  | finish number result t =>
    refine Books.same ?_ rfl
    rw [Event.apply, Event.perform]
    rcases h.finish_cases number result t with hf | ⟨x, hx, -, -, hset⟩
    · rwa [hf]
    · have hholds : x.dispatch ∈ s.worker.holders :=
        List.mem_append_right _ (List.mem_map_of_mem hx)
      exact hb.settled h (holder_unfinished hholds) hset
  | outage isUp => cases he
  | arrange x => exact Books.same hb rfl

end Service

/-- A service, and how long its history was when an id was last queued or
requeued. -/
structure Ledger where
  service : Service
  since : Int → Nat := fun _ => 0

namespace Ledger

def step (l : Ledger) (event : Service.Event) : Ledger where
  service := event.apply l.service
  since i := if i ∈ event.restarts l.service then l.service.store.history.attempts.length
    else l.since i

def run (l : Ledger) (events : List Service.Event) : Ledger := events.foldl step l

theorem run_service (l : Ledger) (events : List Service.Event) :
    (l.run events).service = Service.run l.service events := by
  induction events generalizing l with
  | nil => rfl
  | cons event rest ih => exact ih (l.step event)

theorem run_books {l : Ledger} (hs : l.service.Steady)
    (hb : Books l.service.store.history l.since l.service.store.queue)
    {events : List Service.Event} (he : ∀ event ∈ events, event.Steady) :
    Books (l.run events).service.store.history (l.run events).since
      (l.run events).service.store.queue := by
  induction events generalizing l with
  | nil => exact hb
  | cons event rest ih =>
    have hfirst := he event List.mem_cons_self
    exact ih (hs.apply hfirst) (Service.apply_books hs hb hfirst)
      fun e he' => he e (List.mem_cons_of_mem _ he')

end Ledger

/-- In every steady run from an empty store, whatever comes next: a dispatch
that ends has exactly one attempt appended for it, which says what the
queue says, unless its failure is refused for want of a date. And at every
moment the history has one failed attempt for each retry that a row has
used up since it started anew, and the last attempt for a row tells whether
it is delivered or dead. -/
theorem one_attempt_per_dispatch (settings : Settings) (policy : Policy)
    (h : 1 ≤ policy.maxRetries) (events : List Service.Event)
    (he : ∀ event ∈ events, event.Steady) :
    let start := Service.create {} settings policy
    let s := Service.run start events
    (∀ event : Service.Event, event.Steady → s.Accounted event) ∧
      ∀ r ∈ s.store.queue.rows,
        Balanced s.store.history ((Ledger.run { service := start } events).since r.id) r := by
  intro start s
  have hs : start.Steady := Service.create_steady settings h
  have hb : Books start.store.history (fun _ => 0) start.store.queue := {
    known := fun a ha => by cases ha
    marked := fun _ => Nat.le_refl _
    balanced := fun r hr => by cases hr }
  have hbooks := Ledger.run_books (l := { service := start }) hs hb he
  rw [Ledger.run_service] at hbooks
  exact ⟨fun event hevent => (Service.run_steady hs he).accounted hevent, hbooks.balanced⟩

def deliveredOnce : List Service.Event := [
  .arrange { registry := { channels := [Channel.ofKind .email []] } },
  .enqueue { channel := "email", values := [("recipient", .text "a@b")] } ⟨0, .first⟩,
  .process .first ⟨0, .first⟩, .turn 0 ⟨0, .first⟩, .begin 0 ⟨0, .first⟩,
  .finish 0 (.ok ()) ⟨0, .first⟩]

theorem one_attempt_per_dispatch_deliveredOnce :
    let start := Service.create {} {} {}
    let s := Service.run start deliveredOnce
    s.store.queue.rows.map (fun r => (r.id, r.state)) = [(1, .delivered)] ∧
    s.store.history.attempts.map (fun a => (a.queueId, a.status)) = [(some 1, .delivered)] ∧
    (∀ event : Service.Event, event.Steady → s.Accounted event) ∧
      ∀ r ∈ s.store.queue.rows, Balanced s.store.history
        ((Ledger.run { service := start } deliveredOnce).since r.id) r := by
  have he : ∀ event ∈ deliveredOnce, event.Steady := by
    simp [deliveredOnce, Service.Event.Steady]
  exact ⟨by decide +kernel, by decide +kernel,
    one_attempt_per_dispatch {} {} (by decide) deliveredOnce he⟩

/-- A failure in the last minute of the calendar leaves no attempt. -/
theorem ended_not_always_recorded :
    ¬ ∀ (settings : Settings) (policy : Policy), 1 ≤ policy.maxRetries →
      ∀ events : List Service.Event, (∀ event ∈ events, event.Steady) →
      let s := Service.run (Service.create {} settings policy) events
      ∀ event : Service.Event, event.Steady → ∀ d ∈ s.unfinished,
        d ∉ (event.apply s).unfinished → ∃ a,
          (event.apply s).store.history.attempts = s.store.history.attempts ++ [a] := by
  intro h
  let events := Service.claimedOnce ++ [.turn 0 ⟨0, .first⟩]
  let s := Service.run (Service.create {} {} {}) events
  let last : Clock.Reading := ⟨0, ⟨Instant.limit - 1, by decide⟩⟩
  have he : ∀ event ∈ events, event.Steady := by
    simp [events, Service.claimedOnce, Service.Event.Steady]
  have hs : s.Steady := Service.run_steady (Service.create_steady {} (by decide)) he
  have hprepared : (s.worker.preparing? 0).isSome = true := by decide +kernel
  have hregistry : s.registry = {} := by decide +kernel
  have hids : s.worker.holders.map (·.entry.id) = [1] := by decide +kernel
  have hrow : (s.store.queue.find? 1).map (fun r => (r.retryCount, r.maxRetries)) =
      some (0, 3) := by decide +kernel
  have hbackoff : s.worker.policy.backoff = .exponential := by decide +kernel
  rcases hs.begin_cases 0 last with
    ⟨hnone, -⟩ | ⟨x, -, hchannel, -⟩ | ⟨d, hd, -, -, -, hp, -⟩
  · rw [hnone] at hprepared
    cases hprepared
  · rw [hregistry] at hchannel
    cases hchannel
  · have hholds : d ∈ s.worker.holders := List.mem_append_left _ hd
    have hu : d ∈ s.unfinished := Service.holder_unfinished hholds
    have hid : d.entry.id = 1 := List.mem_singleton.mp (hids ▸ List.mem_map_of_mem hholds)
    have happly : Service.Event.apply (.begin 0 last) s = after (Service.begin 0 last) s :=
      after_discard _ s
    have hgone : d ∉ (Service.Event.apply (.begin 0 last) s).unfinished := by
      rw [happly]
      exact (Service.ended_iff hs.toHolding hp hu).mpr rfl
    obtain ⟨a, ha⟩ := h {} {} (by decide) events he (.begin 0 last) trivial d hu hgone
    have haccount : s.Accounted (.begin 0 last) := hs.accounted trivial
    obtain ⟨t, ht, r, hf, hcase⟩ := haccount.ended d hu hgone
    have hnot : ¬ Service.Event.Delivers (.begin 0 last) s d := by
      rintro ⟨_, -, -, _, heq⟩
      cases heq
    have hover : r.Overflows s.worker.policy.backoff t.now := by
      obtain rfl : last = t := by
        rcases ht with ht | ⟨_, ht⟩
        · exact (Service.Event.begin.inj ht).2
        · cases ht
      rw [← hid, hf] at hrow
      obtain ⟨hc, hm⟩ := Prod.mk.inj (Option.some.inj hrow)
      rw [Row.Overflows, hbackoff, hc, hm]
      decide
    rcases hcase with ⟨hdel | hdate, -⟩ | ⟨-, -, -, hsame⟩
    · exact hnot hdel
    · exact hdate hover
    · rw [hsame] at ha
      exact List.cons_ne_nil _ _ (List.self_eq_append_right.mp ha)

end AlertDelivery
