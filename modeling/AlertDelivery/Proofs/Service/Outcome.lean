import AlertDelivery.Proofs.Policy.Overlay
import AlertDelivery.Proofs.Queue.RowInvariant
import AlertDelivery.Proofs.Service.Holding

/-!
# One outcome for every dispatch

In a run without outages and without retention everything that a worker
writes when a dispatch ends is written: the queue takes the verdict and the
history gets one attempt that says the same. `Settled` lists what may
become of a dispatch; a failure whose next retry has no date is the only
one that leaves no trace.
-/

namespace AlertDelivery

open Queue (Row Table)

namespace Policy

theorem check_maxRetries {p q : Policy} (h : p.check = .ok q) : 1 ≤ q.maxRetries := by
  obtain ⟨hp, rfl⟩ := check_ok_iff.mp h
  exact hp .retryMax

theorem override_maxRetries {p : Policy} (h : 1 ≤ p.maxRetries) (setting : String)
    (raw : Option String) : 1 ≤ (p.override setting raw).maxRetries := by
  unfold override
  split
  · split
    · rename_i hq
      obtain ⟨_, -, hc⟩ := bind_ok.mp hq
      exact check_maxRetries hc
    · exact h
  · exact h

theorem overlay_maxRetries {base : Policy} (h : 1 ≤ base.maxRetries)
    (stored : List (String × Option String)) : 1 ≤ (base.overlay stored).maxRetries := by
  unfold overlay
  induction stored generalizing base with
  | nil => exact h
  | cons x rest ih => exact ih (override_maxRetries h x.1 x.2)

end Policy

namespace Service

/-- The events of a run in which the store stays up and nothing is deleted. -/
def Event.Steady : Event → Prop
  | .outage _ => False
  | .retention _ => False
  | _ => True

structure Steady (s : Service) : Prop extends Holding s where
  up : s.store.isUp = true
  limits : 1 ≤ s.base.maxRetries ∧ 1 ≤ s.policy.maxRetries
  sound : ∀ r ∈ s.store.queue.rows, r.Sound
  entries : ∀ d ∈ s.unfinished, ∀ i ∈ d.entry.id :: d.entry.user.toList, Queue.isStorable i = true

inductive Settled (s : Service) (d : Dispatch) (now : Instant) :
    Verdict → Table → History.Log → Prop
  | delivered (hl : Appended s.store.history d.entry .delivered log) :
    Settled s d now .delivered
      (s.store.queue.updateWhere (Row.isSending d.entry.id) (Row.delivered now)) log
  | failed {r r' : Row} (hf : s.store.queue.find? d.entry.id = some r) (hs : r.state = .sending)
      (hr : r.failed text (.text s.worker.policy.backoff.name) now now = .ok r')
      (hl : Appended s.store.history r'.toEntry (failureStatus r'.state) log) :
    Settled s d now (.failed text)
      (s.store.queue.updateWhere (Row.isSending d.entry.id) fun _ => r') log
  | refused {r : Row} (hf : s.store.queue.find? d.entry.id = some r)
      (ho : r.Overflows s.worker.policy.backoff now) :
    Settled s d now (.failed text) s.store.queue s.store.history

variable {s s' : Service} {e : Queue.Event} {d : Dispatch} {v : Verdict} {now : Instant}
  {queue : Table} {log : History.Log} {r r' : Row} {text : String}

namespace Steady

theorem of_queue (h : s.Steady) (hd : e.Does s.store.queue queue) (hl : e.Lawful)
    (hh : (s.withQueue queue).Holding) : (s.withQueue queue).Steady where
  toHolding := hh
  up := h.up
  limits := h.limits
  sound := (hd.sound hl ⟨h.keyed, h.sound⟩).rows
  entries := h.entries

theorem process (h : s.Steady) (now : Instant) (t : Clock.Reading) :
    (after (process now t) s).Steady := by
  have hh := h.toHolding.process now t
  rcases process_cases now t s with ⟨stamps, hp⟩ | ⟨limit, entries, queue, stamps, hc, hp⟩
  · rw [hp] at hh ⊢
    exact { toHolding := hh, up := h.up, limits := h.limits, sound := h.sound,
            entries := h.entries }
  · rw [hp] at hh ⊢
    have hd : (Queue.Event.claim limit now).Does s.store.queue queue := ⟨entries, hc⟩
    refine ⟨hh, h.up, h.limits, (hd.sound trivial ⟨h.keyed, h.sound⟩).rows, fun d hd => ?_⟩
    have hperm := s.worker.takeOver_dispatches entries t.seconds stamps
    rcases List.mem_append.mp (hperm.mem_iff.mp hd) with hd | hd
    · obtain ⟨-, -, -, hrows⟩ := Table.claim_ok h.keyed hc
      obtain ⟨r, hr, he⟩ := hrows d.entry (Holding.entry_mem_numbered hd)
      rw [he]
      exact h.storable r hr
    · exact h.entries d hd

theorem releaseStale (h : s.Steady) (t : Clock.Reading) : (after (releaseStale t) s).Steady := by
  have hh := h.toHolding.releaseStale t
  rcases releaseStale_cases t s with hr | ⟨queue, hd, hr⟩
  · rwa [hr]
  · rw [hr] at hh ⊢
    exact h.of_queue hd trivial hh

theorem ends (h : s.Steady) (he : Ends s s' d v now) (hh : s'.Holding)
    (hd : d ∈ s.worker.holders) : s'.Steady := by
  have hp := he.unfinished h.numbers hd
  obtain ⟨queue, history, channels, hw, rfl⟩ := he
  obtain ⟨hmoves, -⟩ := Holding.written_frame h.keyed hw
  exact {
    toHolding := hh
    up := h.up
    limits := h.limits
    sound := hmoves.forall (fun _ _ => Row.Change.sound) h.sound
    entries := fun d' hd' => h.entries d' (hp.mem_iff.mpr (List.mem_cons_of_mem d hd')) }

theorem apply (h : s.Steady) {event : Event} (he : event.Steady) : (event.apply s).Steady := by
  have hh := h.toHolding.apply event
  unfold Event.apply at hh ⊢
  cases event with
  | enqueue q t =>
    rw [Event.perform, after_discard] at hh ⊢
    rcases enqueue_cases q t s with ⟨fault, hq⟩ | ⟨i, queue, hq, hok⟩
    · rwa [after_error hq]
    · rw [after_ok hok] at hh ⊢
      exact h.of_queue (e := .enqueue { q with maxRetries := s.policy.maxRetries } t.now) ⟨i, hq⟩
        h.limits.2 hh
  | process now t =>
    rw [Event.perform, after_discard]
    exact h.process now t
  | releaseStale t =>
    rw [Event.perform, after_discard]
    exact h.releaseStale t
  | tick t =>
    rw [Event.perform, after_discard]
    rcases tick_cases t s with ht | ht <;> rw [ht]
    · exact h.releaseStale t
    · exact (h.releaseStale t).process t.now t
  | requeue ids now =>
    rw [Event.perform, after_discard] at hh ⊢
    rcases requeue_cases ids now s with ⟨fault, hr⟩ | ⟨n, queue, hd, hr⟩
    · rwa [after_error hr]
    · rw [after_ok hr] at hh ⊢
      exact h.of_queue hd trivial hh
  | retention now => cases he
  | reload =>
    rw [Event.perform, after_discard] at hh ⊢
    rcases reloadPolicy_cases s with hr | ⟨policy, hpol, hr⟩
    · rwa [hr]
    · rw [hr] at hh ⊢
      have hlimit : 1 ≤ policy.maxRetries := hpol ▸ Policy.overlay_maxRetries h.limits.1 _
      refine ⟨hh, h.up, ⟨h.limits.1, hlimit⟩, h.sound, fun d hd => h.entries d ?_⟩
      exact (Worker.mem_setPolicy policy).mp hd
  | workerPolicy policy =>
    refine ⟨hh, h.up, h.limits, h.sound, fun d hd => h.entries d ?_⟩
    exact (Worker.mem_setPolicy policy).mp hd
  | turn number t =>
    exact ⟨hh, h.up, h.limits, h.sound, fun d hd =>
      h.entries d ((unfinished_turn h.numbers number t).mem_iff.mp hd)⟩
  | begin number t =>
    rw [Event.perform, after_discard] at hh ⊢
    rcases begin_cases number t s with ⟨-, hb⟩ | ⟨p, hp, ⟨x, hx, -, -, hb⟩ | ⟨fault, -, hend⟩⟩
    · rwa [hb]
    · rw [hb] at hh ⊢
      exact ⟨hh, h.up, h.limits, h.sound, fun d hd =>
        h.entries d ((unfinished_beginSend h.numbers hp hx).mem_iff.mp hd)⟩
    · exact h.ends hend hh (Worker.preparing?_holds hp)
  | finish number result t =>
    rcases finish_cases number result t s with hf | ⟨x, hx, hend⟩
    · exact hf.symm ▸ h
    · exact h.ends hend hh (Worker.sending?_holds hx)
  | outage isUp => cases he
  | arrange x => exact ⟨hh, h.up, h.limits, h.sound, h.entries⟩

end Steady

theorem create_steady (settings : Settings) {policy : Policy} (h : 1 ≤ policy.maxRetries) :
    (create {} settings policy).Steady where
  toHolding := create_holding settings policy
  up := rfl
  limits := ⟨h, h⟩
  sound r hr := by cases hr
  entries d hd := by cases hd

theorem run_steady (h : s.Steady) {events : List Event} (he : ∀ event ∈ events, event.Steady) :
    (run s events).Steady := by
  induction events generalizing s with
  | nil => exact h
  | cons event rest ih =>
    exact ih (h.apply (he event List.mem_cons_self)) fun e h => he e (List.mem_cons_of_mem _ h)

-- ---------------------------------------------------------------------------
-- The end of a dispatch
-- ---------------------------------------------------------------------------

theorem Holding.settled (h : s.Holding) (hup : s.store.isUp = true) (hd : d ∈ s.unfinished)
    (hids : ∀ i ∈ d.entry.id :: d.entry.user.toList, Queue.isStorable i = true)
    (hw : Written s d.entry now v queue log) (hv : v ≠ .dropped) :
    Settled s d now v queue log := by
  have hsends := h.sending d hd
  obtain ⟨r, hf, hs⟩ := (Table.sends_iff_find? h.keyed).mp hsends
  have hrow := (Table.mem_rows_of_find? hf).1
  have hid := hids d.entry.id List.mem_cons_self
  have hmark (text : String) :=
    Table.markFailed_sending h.keyed hf hs hid text (.text s.worker.policy.backoff.name) now now
  cases hw with
  | dropped => exact absurd rfl hv
  | down _ hdown => cases hup.symm.trans hdown
  | notDelivered he => cases (Table.markDelivered_sending hsends hid now).symm.trans he
  | delivered he hl =>
    cases (Table.markDelivered_sending hsends hid now).symm.trans he
    exact .delivered (hl.appended hids)
  | notFailed he =>
    rw [hmark] at he
    rcases r.failed_cases _ s.worker.policy.backoff now now with ⟨ho, -⟩ | ⟨-, r', hr⟩
    · exact .refused hf ho
    · rw [hr] at he
      cases he
  | unclaimed he =>
    rw [hmark] at he
    obtain ⟨r', -, he⟩ := map_ok.mp he
    cases he
  | failed he hl =>
    rw [hmark] at he
    obtain ⟨r', hr, he⟩ := map_ok.mp he
    cases he
    exact .failed hf hs hr (hl.appended ((Row.Change.fail hs hr).storable (h.storable r hrow)))

theorem Steady.settled (h : s.Steady) (hd : d ∈ s.unfinished)
    (hw : Written s d.entry now v queue log) (hv : v ≠ .dropped) :
    Settled s d now v queue log :=
  h.toHolding.settled h.up hd (h.entries d hd) hw hv

def Unprepared (s : Service) (e : Queue.Entry) : Prop :=
  s.registry.get e.channel = .error (.channelNotFound e.channel) ∨
    Store.resolve e s.store = .error (Recipient.unresolved e) s.store

theorem Steady.unprepared (h : s.Steady) (hd : d ∈ s.unfinished)
    (hf : s.registry.get d.entry.channel = .error fault ∨
      Store.resolve d.entry s.store = .error fault s.store) :
    fault.spendsRetry = true ∧ s.Unprepared d.entry := by
  rcases hf with hf | hf
  · have hfault : fault = .channelNotFound d.entry.channel := by
      unfold Channel.Registry.get at hf
      split at hf <;> cases hf
      rfl
    subst hfault
    exact ⟨rfl, .inl hf⟩
  · have hfault := resolve_fault h.up (h.entries d hd) hf
    subst hfault
    exact ⟨rfl, .inr hf⟩

theorem Steady.begin_cases (h : s.Steady) (number : Nat) (t : Clock.Reading) :
    (s.worker.preparing? number = none ∧ after (begin number t) s = s) ∨
    (∃ x : Sending, x.dispatch ∈ s.worker.preparing.map (·.dispatch) ∧
      s.registry.get x.dispatch.entry.channel = .ok x.channel ∧
      Store.resolve x.dispatch.entry s.store = .ok x.message.recipient s.store ∧
      (after (begin number t) s).store = s.store ∧
      (after (begin number t) s).worker.sending = s.worker.sending ++ [x] ∧
      (after (begin number t) s).unfinished.Perm s.unfinished) ∨
    ∃ d ∈ s.worker.preparing.map (·.dispatch), d.number = number ∧ s.Unprepared d.entry ∧
      (∀ x ∈ (after (begin number t) s).worker.sending, x ∈ s.worker.sending) ∧
      s.unfinished.Perm (d :: (after (begin number t) s).unfinished) ∧
      ∃ text, Settled s d t.now (.failed text) (after (begin number t) s).store.queue
        (after (begin number t) s).store.history := by
  rcases Service.begin_cases number t s with
    hidle | ⟨p, hp, ⟨x, hx, hc, hr, hb⟩ | ⟨fault, hf, hend⟩⟩
  · exact .inl hidle
  · refine .inr (.inl ⟨x, ?_, ?_, ?_, ?_⟩)
    · exact hx ▸ List.mem_map_of_mem (Worker.preparing?_mem hp).1
    · rwa [hx]
    · rwa [hx]
    · rw [hb]
      exact ⟨rfl, rfl, unfinished_beginSend h.numbers hp hx⟩
  · obtain ⟨hmem, hnumber⟩ := Worker.preparing?_mem hp
    have hholds := Worker.preparing?_holds hp
    obtain ⟨hspends, hwhy⟩ := h.unprepared (holder_unfinished hholds) hf
    have hperm := hend.unfinished h.numbers hholds
    have hworker := hend.worker
    obtain ⟨queue, history, channels, hwritten, hs'⟩ := hend
    rw [if_pos hspends] at hwritten
    refine .inr (.inr ⟨p.dispatch, List.mem_map_of_mem hmem, hnumber, hwhy, fun x hx => ?_, hperm,
      fault.message, ?_⟩)
    · rw [hworker] at hx
      exact (List.mem_filter.mp hx).1
    · rw [hs']
      exact h.settled (holder_unfinished hholds) hwritten (by simp)

theorem Steady.finish_cases (h : s.Steady) (number : Nat) (result : Except Fault Unit)
    (t : Clock.Reading) :
    after (finish number result t) s = s ∨
    ∃ x ∈ s.worker.sending, x.dispatch.number = number ∧
      s.unfinished.Perm (x.dispatch :: (after (finish number result t) s).unfinished) ∧
      Settled s x.dispatch t.now (Sending.verdict x result)
        (after (finish number result t) s).store.queue
        (after (finish number result t) s).store.history := by
  rcases Service.finish_cases number result t s with hf | ⟨x, hx, hend⟩
  · exact .inl hf
  · obtain ⟨hmem, hnumber⟩ := Worker.sending?_mem hx
    have hholds := Worker.sending?_holds hx
    have hperm := hend.unfinished h.numbers hholds
    obtain ⟨queue, history, channels, hwritten, hs'⟩ := hend
    refine .inr ⟨x, hmem, hnumber, hperm, ?_⟩
    rw [hs']
    exact h.settled (holder_unfinished hholds) hwritten
      (by cases result <;> simp [Sending.verdict])

-- ---------------------------------------------------------------------------
-- One event
-- ---------------------------------------------------------------------------

def Event.Delivers (event : Event) (s : Service) (d : Dispatch) : Prop :=
  ∃ x ∈ s.worker.sending, x.dispatch = d ∧ ∃ t, event = .finish d.number (.ok ()) t

def Recorded (s s' : Service) (d : Dispatch) (delivers : Prop) : Prop :=
  ∃ a r, s'.store.history.attempts = s.store.history.attempts ++ [a] ∧
    a.queueId = some d.entry.id ∧ s'.store.queue.find? d.entry.id = some r ∧
    (delivers ∧ a.status = .delivered ∧ r.state = .delivered ∨
      ¬ delivers ∧ (a.status = .failed ∧ r.state = .failed ∨
        a.status = .deadLetter ∧ r.state = .deadLetter))

/-- What came of a dispatch: it is recorded, except for a failure whose
retry has no date, which leaves the queue and the history as they were. -/
def Concluded (s s' : Service) (d : Dispatch) (delivers : Prop) (now : Instant) : Prop :=
  ∃ r, s.store.queue.find? d.entry.id = some r ∧
    ((delivers ∨ ¬ r.Overflows s.worker.policy.backoff now) ∧ Recorded s s' d delivers ∨
      ¬ delivers ∧ r.Overflows s.worker.policy.backoff now ∧
        s'.store.queue = s.store.queue ∧ s'.store.history = s.store.history)

theorem Settled.concluded (h : Settled s d now v queue log) (hk : s.Holding)
    (hd : d ∈ s.unfinished) {delivers : Prop} (hv : delivers ↔ v = .delivered)
    (hqueue : s'.store.queue = queue) (hlog : s'.store.history = log) :
    Concluded s s' d delivers now := by
  obtain ⟨r, hf, hs⟩ := (Table.sends_iff_find? hk.keyed).mp (hk.sending d hd)
  cases h with
  | delivered hl =>
    obtain ⟨a, ha, hid, hstatus⟩ := hl
    have hdel : delivers := hv.mpr rfl
    refine ⟨r, hf, .inl ⟨.inl hdel, a, r.delivered now, hlog ▸ ha, hid, ?_,
      .inl ⟨hdel, hstatus, rfl⟩⟩⟩
    rw [hqueue]
    exact Table.find?_updateWhere_isSending hf hs fun _ _ => rfl
  | @failed log text r₁ r' hf₁ hs₁ hr hl =>
    obtain ⟨a, ha, hid, hstatus⟩ := hl
    cases hf.symm.trans hf₁
    have hnot : ¬ delivers := fun h => by cases hv.mp h
    have hid' : ∀ r₂, Row.isSending d.entry.id r₂ = true → r'.id = r₂.id := fun r₂ hr₂ => by
      rw [Row.failed_id hr, (Table.mem_rows_of_find? hf).2, (Row.isSending_iff.mp hr₂).1]
    refine ⟨r, hf, .inl ⟨.inr (Row.not_overflows hr), a, r', hlog ▸ ha, ?_, ?_, .inr ⟨hnot, ?_⟩⟩⟩
    · rw [hid]
      exact congrArg some ((Row.failed_id hr).trans (Table.mem_rows_of_find? hf).2)
    · rw [hqueue]
      exact Table.find?_updateWhere_isSending hf hs hid'
    · rcases Row.failed_state hr with h | h <;> rw [h] at hstatus
      · exact .inl ⟨hstatus, h⟩
      · exact .inr ⟨hstatus, h⟩
  | refused hf₁ ho =>
    have hnot : ¬ delivers := fun h => by cases hv.mp h
    exact ⟨_, hf₁, .inr ⟨hnot, ho, hqueue, hlog⟩⟩

structure Accounted (s : Service) (event : Event) : Prop where
  started : ∀ x ∈ (event.apply s).worker.sending, x ∈ s.worker.sending ∨
    x.dispatch ∈ s.worker.preparing.map (·.dispatch) ∧
      s.registry.get x.dispatch.entry.channel = .ok x.channel ∧
      Store.resolve x.dispatch.entry s.store = .ok x.message.recipient s.store
  unprepared : ∀ d ∈ s.unfinished, d ∉ s.worker.sending.map (·.dispatch) →
    d ∉ (event.apply s).unfinished → s.Unprepared d.entry
  ended : ∀ d ∈ s.unfinished, d ∉ (event.apply s).unfinished →
    ∃ t, (event = .begin d.number t ∨ ∃ result, event = .finish d.number result t) ∧
      Concluded s (event.apply s) d (event.Delivers s d) t.now
  undisturbed : (∀ d ∈ s.unfinished, d ∈ (event.apply s).unfinished) →
    (event.apply s).store.history = s.store.history

structure Calm (s s' : Service) : Prop where
  sending : s'.worker.sending = s.worker.sending
  unfinished : ∀ d ∈ s.unfinished, d ∈ s'.unfinished
  history : s'.store.history = s.store.history

theorem Calm.refl (s : Service) : Calm s s := ⟨rfl, fun _ h => h, rfl⟩

theorem Calm.trans {s₁ s₂ s₃ : Service} (h : Calm s₁ s₂) (h' : Calm s₂ s₃) : Calm s₁ s₃ :=
  ⟨h'.sending.trans h.sending, fun d hd => h'.unfinished d (h.unfinished d hd),
    h'.history.trans h.history⟩

theorem Calm.accounted {event : Event} (h : Calm s (event.apply s)) : Accounted s event where
  started _ hx := .inl (h.sending ▸ hx)
  unprepared d hd _ hn := absurd (h.unfinished d hd) hn
  ended d hd hn := absurd (h.unfinished d hd) hn
  undisturbed _ := h.history

theorem process_calm (now : Instant) (t : Clock.Reading) (s : Service) :
    Calm s (after (process now t) s) := by
  rcases process_cases now t s with ⟨stamps, hp⟩ | ⟨limit, entries, queue, stamps, hc, hp⟩ <;>
    rw [hp]
  · exact ⟨rfl, fun _ h => h, rfl⟩
  · refine ⟨rfl, fun d hd => ?_, rfl⟩
    exact (s.worker.takeOver_dispatches entries t.seconds stamps).mem_iff.mpr
      (List.mem_append_right _ hd)

theorem releaseStale_calm (t : Clock.Reading) (s : Service) :
    Calm s (after (releaseStale t) s) := by
  rcases releaseStale_cases t s with hr | ⟨queue, hd, hr⟩ <;> rw [hr]
  · exact Calm.refl s
  · exact ⟨rfl, fun _ h => h, rfl⟩

theorem ended_iff (h : s.Holding) {rest : List Dispatch} {d₀ : Dispatch}
    (hp : s.unfinished.Perm (d₀ :: rest)) (hd : d ∈ s.unfinished) : d ∉ rest ↔ d = d₀ := by
  have hn := (hp.map (·.entry.id)).nodup_iff.mp h.distinct
  rw [List.map_cons, List.nodup_cons] at hn
  constructor
  · intro hr
    exact (List.mem_cons.mp (hp.mem_iff.mp hd)).resolve_right hr
  · rintro rfl hr
    exact hn.1 (List.mem_map_of_mem hr)

theorem Steady.accounted_end (h : s.Steady) {event : Event} {t : Clock.Reading}
    (hevent : event = .begin d.number t ∨ ∃ result, event = .finish d.number result t)
    (hsending : ∀ x ∈ (event.apply s).worker.sending, x ∈ s.worker.sending)
    (hp : s.unfinished.Perm (d :: (event.apply s).unfinished))
    (hset : Settled s d t.now v (event.apply s).store.queue (event.apply s).store.history)
    (hv : event.Delivers s d ↔ v = .delivered)
    (hwhy : d ∉ s.worker.sending.map (·.dispatch) → s.Unprepared d.entry) :
    Accounted s event where
  started x hx := .inl (hsending x hx)
  unprepared d' hd' hidle hn := by
    cases (ended_iff h.toHolding hp hd').mp hn
    exact hwhy hidle
  ended d' hd' hn := by
    cases (ended_iff h.toHolding hp hd').mp hn
    exact ⟨t, hevent, hset.concluded h.toHolding hd' hv rfl rfl⟩
  undisturbed hall := by
    have hd : d ∈ s.unfinished := hp.mem_iff.mpr List.mem_cons_self
    exact absurd (hall d hd) ((ended_iff h.toHolding hp hd).mpr rfl)

theorem begin_accounted (h : s.Steady) (number : Nat) (t : Clock.Reading) :
    Accounted s (.begin number t) := by
  have happly : Event.apply (.begin number t) s = after (begin number t) s := after_discard _ s
  have hcases := h.begin_cases number t
  rw [← happly] at hcases
  rcases hcases with
    ⟨-, hs⟩ | ⟨x, hx, hc, hr, hst, hsend, hp⟩ | ⟨d, -, rfl, hwhy, hsend, hp, text, hset⟩
  · have hcalm : Calm s (Event.apply (.begin number t) s) := by
      rw [hs]
      exact Calm.refl s
    exact hcalm.accounted
  · have stays {d : Dispatch} (hd : d ∈ s.unfinished) :
        d ∈ (Event.apply (.begin number t) s).unfinished := hp.mem_iff.mpr hd
    exact {
      started := fun y hy => by
        rw [hsend] at hy
        rcases List.mem_append.mp hy with hy | hy
        · exact .inl hy
        · cases List.mem_singleton.mp hy
          exact .inr ⟨hx, hc, hr⟩
      unprepared := fun d hd _ hn => absurd (stays hd) hn
      ended := fun d hd hn => absurd (stays hd) hn
      undisturbed := fun _ => by rw [hst] }
  · have hv : Event.Delivers (.begin d.number t) s d ↔ Verdict.failed text = .delivered := by
      refine ⟨?_, fun h => by cases h⟩
      rintro ⟨_, -, -, _, heq⟩
      cases heq
    exact h.accounted_end (.inl rfl) hsend hp hset hv fun _ => hwhy

theorem finish_accounted (h : s.Steady) (number : Nat) (result : Except Fault Unit)
    (t : Clock.Reading) : Accounted s (.finish number result t) := by
  have hsending : ∀ x ∈ (after (finish number result t) s).worker.sending,
      x ∈ s.worker.sending := by
    rcases Service.finish_cases number result t s with hf | ⟨y, -, hend⟩
    · rw [hf]
      exact fun _ hx => hx
    · rw [hend.worker]
      exact fun _ hx => (List.mem_filter.mp hx).1
  rcases h.finish_cases number result t with hf | ⟨x, hx, rfl, hp, hset⟩
  · have hcalm : Calm s (after (finish number result t) s) := by
      rw [hf]
      exact Calm.refl s
    exact Calm.accounted hcalm
  · have hv : Event.Delivers (.finish x.dispatch.number result t) s x.dispatch ↔
        Sending.verdict x result = .delivered := by
      constructor
      · rintro ⟨_, -, -, _, heq⟩
        cases heq
        rfl
      · intro hver
        cases result with
        | ok u => exact ⟨x, hx, rfl, t, rfl⟩
        | error fault => cases hver
    exact h.accounted_end (.inr ⟨result, rfl⟩) hsending hp hset hv fun hidle =>
      absurd (List.mem_map_of_mem hx) hidle

theorem Steady.accounted (h : s.Steady) {event : Event} (he : event.Steady) :
    Accounted s event := by
  cases event with
  | enqueue q t =>
    refine Calm.accounted ?_
    rw [Event.apply, Event.perform, after_discard]
    rcases enqueue_cases q t s with ⟨fault, hq⟩ | ⟨i, queue, -, hq⟩
    · rw [after_error hq]
      exact Calm.refl s
    · rw [after_ok hq]
      exact ⟨rfl, fun _ h => h, rfl⟩
  | process now t =>
    refine Calm.accounted ?_
    rw [Event.apply, Event.perform, after_discard]
    exact process_calm now t s
  | releaseStale t =>
    refine Calm.accounted ?_
    rw [Event.apply, Event.perform, after_discard]
    exact releaseStale_calm t s
  | tick t =>
    refine Calm.accounted ?_
    rw [Event.apply, Event.perform, after_discard]
    rcases tick_cases t s with ht | ht <;> rw [ht]
    · exact releaseStale_calm t s
    · exact (releaseStale_calm t s).trans (process_calm t.now t _)
  | requeue ids now =>
    refine Calm.accounted ?_
    rw [Event.apply, Event.perform, after_discard]
    rcases requeue_cases ids now s with ⟨fault, hr⟩ | ⟨n, queue, -, hr⟩
    · rw [after_error hr]
      exact Calm.refl s
    · rw [after_ok hr]
      exact ⟨rfl, fun _ h => h, rfl⟩
  | retention now => cases he
  | reload =>
    refine Calm.accounted ?_
    rw [Event.apply, Event.perform, after_discard]
    rcases reloadPolicy_cases s with hr | ⟨policy, -, hr⟩ <;> rw [hr]
    · exact Calm.refl s
    · exact ⟨rfl, fun d hd => (Worker.mem_setPolicy policy).mpr hd, rfl⟩
  | workerPolicy policy =>
    exact Calm.accounted ⟨rfl, fun d hd => (Worker.mem_setPolicy policy).mpr hd, rfl⟩
  | turn number t =>
    exact Calm.accounted ⟨s.worker.turn_sending number t.seconds,
      fun d hd => (unfinished_turn h.numbers number t).mem_iff.mpr hd, rfl⟩
  | begin number t => exact begin_accounted h number t
  | finish number result t => exact finish_accounted h number result t
  | outage isUp => cases he
  | arrange x => exact Calm.accounted ⟨rfl, fun _ h => h, rfl⟩

end Service

end AlertDelivery
