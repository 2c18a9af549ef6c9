import AlertDelivery.Proofs.Service.SharedQueue

/-!
# The queue and the dispatches in one step

A tick is a sweep and a pass. Every other event makes one `Step`: it leaves
the queue and the open dispatches alone, does to the queue what it asks for,
claims, or ends one dispatch with an outcome for its id. Whatever relates
the rows to the dispatches is shown here once for each kind of step.
-/

namespace AlertDelivery

namespace Queue

def Event.IsOutcome (i : Int) : Event → Prop
  | .markDelivered id _ => id = i
  | .markFailed id _ _ _ _ => id = i
  | _ => False

end Queue

namespace Service

open Queue (Row Table)

/-- What an event asks of the queue, claims and outcomes apart. -/
def Event.asks (s : Service) : Event → Option Queue.Event
  | .enqueue q t => some (.enqueue { q with maxRetries := s.policy.maxRetries } t.now)
  | .releaseStale t =>
    some (.release (s.settings.staleClaimMinutes * Instant.microsPerMinute) t.now s.worker.held)
  | .requeue ids now => some (.requeue ids now)
  | .retention now => some (.cleanup s.settings.retentionDays now)
  | _ => none

inductive Step (s s' : Service) : Event → Prop
  | rest {e : Event} (hq : s'.store.queue = s.store.queue) (hu : s'.unfinished.Perm s.unfinished)
      (hs : (∀ now t, e ≠ .process now t) → s'.worker.stamps = s.worker.stamps) : Step s s' e
  | operate {e : Event} {q : Queue.Event} (ha : e.asks s = some q)
      (hd : q.Does s.store.queue s'.store.queue) (hw : s'.worker = s.worker) : Step s s' e
  | claim {now : Instant} {t : Clock.Reading} {limit : Int} {entries : List Queue.Entry}
      (hc : s.store.queue.claim limit now = .ok (entries, s'.store.queue))
      (hu : s'.unfinished.Perm (Worker.numbered s.worker.nextNumber entries ++ s.unfinished)) :
      Step s s' (.process now t)
  | ends {e : Event} {d : Dispatch} (hu : s.unfinished.Perm (d :: s'.unfinished))
      (hq : s'.store.queue = s.store.queue ∨
        ∃ q : Queue.Event, q.IsOutcome d.entry.id ∧ q.Does s.store.queue s'.store.queue)
      (hs : s'.worker.stamps = s.worker.stamps) : Step s s' e

variable {s s' : Service} {d : Dispatch} {v : Verdict} {now : Instant}
  {t : Clock.Reading} {event : Event} {queue : Table} {log : History.Log}

theorem written_outcome {e : Queue.Entry} (h : Written s e now v queue log) :
    queue = s.store.queue ∨
      ∃ q : Queue.Event, q.IsOutcome e.id ∧ q.Does s.store.queue queue := by
  cases h with
  | unclaimed h => exact .inr ⟨.markFailed e.id _ _ now now, rfl, _, h⟩
  | delivered h _ => exact .inr ⟨.markDelivered e.id now, rfl, _, h⟩
  | failed h _ => exact .inr ⟨.markFailed e.id _ _ now now, rfl, _, h⟩
  | _ => exact .inl rfl

namespace Step

theorem refl (s : Service) (event : Event) : Step s s event :=
  .rest rfl (.refl _) fun _ => rfl

theorem of_ends (he : Ends s s' d v now) (hn : (s.unfinished.map (·.number)).Nodup)
    (hd : d ∈ s.worker.holders) : Step s s' event := by
  have hp := he.unfinished hn hd
  obtain ⟨queue, history, channels, hw, rfl⟩ := he
  exact .ends hp (written_outcome hw) rfl

theorem process (now : Instant) (t : Clock.Reading) (s : Service) :
    Step s (after (process now t) s) (.process now t) := by
  rcases process_cases now t s with ⟨stamps, hp⟩ | ⟨limit, entries, queue, stamps, hc, hp⟩ <;>
    rw [hp]
  · exact .rest rfl (.refl _) fun h => absurd rfl (h now t)
  · exact .claim hc (s.worker.takeOver_dispatches ..)

theorem releaseStale (t : Clock.Reading) (s : Service) :
    Step s (after (releaseStale t) s) (.releaseStale t) := by
  rcases releaseStale_cases t s with hr | ⟨queue, hd, hr⟩ <;> rw [hr]
  · exact refl s _
  · exact .operate rfl hd rfl

theorem turn (hn : (s.unfinished.map (·.number)).Nodup) (number : Nat) (t : Clock.Reading) :
    Step s (after (turn number t) s) (.turn number t) :=
  .rest rfl (unfinished_turn hn number t) fun _ => s.worker.turn_stamps number t.seconds

theorem begin (hn : (s.unfinished.map (·.number)).Nodup) (number : Nat) (t : Clock.Reading) :
    Step s (after (begin number t) s) (.begin number t) := by
  rcases begin_cases number t s with ⟨-, hb⟩ | ⟨p, hp, ⟨x, hx, -, -, hb⟩ | ⟨fault, -, he⟩⟩
  · rw [hb]
    exact refl s _
  · rw [hb]
    exact .rest rfl (unfinished_beginSend hn hp hx) fun _ => rfl
  · exact of_ends he hn (Worker.preparing?_holds hp)

theorem finish (hn : (s.unfinished.map (·.number)).Nodup) (number : Nat)
    (result : Except Fault Unit) (t : Clock.Reading) :
    Step s (after (finish number result t) s) (.finish number result t) := by
  rcases finish_cases number result t s with hf | ⟨x, hx, he⟩
  · rw [hf]
    exact refl s _
  · exact of_ends he hn (Worker.sending?_holds hx)

end Step

/-- Every event is a step, but for a tick, which is a sweep and then a pass
or nothing. -/
theorem Event.steps (hn : (s.unfinished.map (·.number)).Nodup) (event : Event) :
    Step s (event.apply s) event ∨ ∃ t, event = .tick t ∧
      Step s ((Event.releaseStale t).apply s) (.releaseStale t) ∧
      Step ((Event.releaseStale t).apply s) (event.apply s) (.process t.now t) := by
  unfold Event.apply
  cases event with
  | enqueue q t =>
    rw [Event.perform, after_discard]
    rcases enqueue_cases q t s with ⟨fault, he⟩ | ⟨i, queue, hq, he⟩
    · rw [after_error he]
      exact .inl (.refl s _)
    · rw [after_ok he]
      exact .inl (.operate rfl ⟨i, hq⟩ rfl)
  | process now t =>
    rw [Event.perform, after_discard]
    exact .inl (.process now t s)
  | releaseStale t =>
    rw [Event.perform, after_discard]
    exact .inl (.releaseStale t s)
  | tick t =>
    simp only [Event.perform, after_discard]
    refine .inr ⟨t, rfl, .releaseStale t s, ?_⟩
    rcases tick_cases t s with ht | ht <;> rw [ht]
    · exact .refl _ _
    · exact .process t.now t _
  | requeue ids now =>
    rw [Event.perform, after_discard]
    rcases requeue_cases ids now s with ⟨fault, he⟩ | ⟨n, queue, hd, he⟩
    · rw [after_error he]
      exact .inl (.refl s _)
    · rw [after_ok he]
      exact .inl (.operate rfl hd rfl)
  | retention now =>
    rw [Event.perform, after_discard]
    rcases sweep_cases now s with hr | ⟨queue, history, hd, -, hr⟩ <;> rw [hr]
    · exact .inl (.refl s _)
    · exact .inl (.operate rfl hd rfl)
  | reload =>
    rw [Event.perform, after_discard]
    rcases reloadPolicy_cases s with hr | ⟨policy, -, hr⟩ <;> rw [hr]
    · exact .inl (.refl s _)
    · exact .inl (.rest rfl (.of_eq (Worker.setPolicy_dispatches _ _)) fun _ => rfl)
  | workerPolicy policy =>
    exact .inl (.rest rfl (.of_eq (Worker.setPolicy_dispatches _ _)) fun _ => rfl)
  | turn number t => exact .inl (.turn hn number t)
  | begin number t =>
    rw [Event.perform, after_discard]
    exact .inl (.begin hn number t)
  | finish number result t => exact .inl (.finish hn number result t)
  | outage isUp => exact .inl (.rest rfl (.refl _) fun _ => rfl)
  | arrange x => exact .inl (.rest rfl (.refl _) fun _ => rfl)

theorem Step.does (h : Step s s' event) : s'.store.queue = s.store.queue ∨
    ∃ q : Queue.Event, q.Does s.store.queue s'.store.queue ∧ (event.asks s = some q ∨
      (∃ limit now, q = .claim limit now) ∨ ∃ i, q.IsOutcome i) := by
  cases h with
  | rest hq => exact .inl hq
  | operate ha hd => exact .inr ⟨_, hd, .inl ha⟩
  | claim hc => exact .inr ⟨.claim _ _, ⟨_, hc⟩, .inr (.inl ⟨_, _, rfl⟩)⟩
  | ends hu hq =>
    rcases hq with hq | ⟨q, ho, hd⟩
    · exact .inl hq
    · exact .inr ⟨q, hd, .inr (.inr ⟨_, ho⟩)⟩

theorem Step.keyed (h : Step s s' event) (hk : s.store.queue.Keyed) : s'.store.queue.Keyed := by
  rcases h.does with hq | ⟨q, hd, -⟩
  · rwa [hq]
  · exact hd.keyed hk

theorem SharedEvent.keyed (hc : s.worker.Counted) (hk : s.store.queue.Keyed) (e : SharedEvent) :
    (e.apply s).store.queue.Keyed := by
  cases e with
  | foreign e =>
    rcases e.apply_cases s.store with hq | hd
    · show (e.apply s.store).queue.Keyed
      rwa [hq]
    · exact hd.keyed hk
  | own event =>
    rcases event.steps hc.numbers with hs | ⟨t, rfl, hsweep, hpass⟩
    · exact hs.keyed hk
    · exact hpass.keyed (hsweep.keyed hk)

theorem runShared_keyed (hc : s.worker.Counted) (hk : s.store.queue.Keyed)
    (events : List SharedEvent) : (runShared s events).store.queue.Keyed := by
  induction events generalizing s with
  | nil => exact hk
  | cons e rest ih => exact ih ((e.change hc).counted hc) (e.keyed hc hk)

end Service

end AlertDelivery
