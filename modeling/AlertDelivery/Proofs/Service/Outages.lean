import AlertDelivery.Proofs.Service.Holding
import AlertDelivery.Scheduler
import Mathlib.Algebra.Order.Ring.Rat

/-!
# Outages cost nothing

The store may go down and come up again between any two operations of a tick
or of a dispatch. A tick that fails leaves the worker as it was, and a dispatch
ends whatever fails: it keeps neither its id nor its slot, and its row is
changed by nothing but the outcome, if that can be written.
-/

namespace AlertDelivery.Service

open Queue (Row Table)

-- ---------------------------------------------------------------------------
-- Weather
-- ---------------------------------------------------------------------------

/-- The store is down whenever an operation comes to it. -/
def Weather.Fails (w : Weather) (stage : Stage) : Prop := ∀ s, w stage s = false

variable {s s' s₁ : Service} {w : Weather} {t : Clock.Reading} {now : Instant} {e : Queue.Entry}
  {d : Dispatch} {p : Preparing} {x : Sending} {fault : Fault} {number : Nat}

-- ---------------------------------------------------------------------------
-- Ticks
-- ---------------------------------------------------------------------------

theorem dropWhile_dropWhile {p q : α → Bool} (h : ∀ a, p a = true → q a = true) (l : List α) :
    (l.dropWhile p).dropWhile q = l.dropWhile q := by
  induction l with
  | nil => rfl
  | cons a rest ih =>
    cases hp : p a with
    | true => simp [hp, h a hp, ih]
    | false => simp [List.dropWhile_cons, hp]

/-- What is forgotten for a claim would be forgotten later anyway. -/
theorem budget_counted (worker : Worker) {seconds later : Rat} (h : seconds ≤ later) :
    ((worker.budget seconds).2.forgetOld later).stamps = (worker.forgetOld later).stamps := by
  unfold Worker.budget
  split
  · rfl
  · refine dropWhile_dropWhile (fun stamp hold => ?_) worker.stamps
    simp only [decide_eq_true_eq] at hold ⊢
    exact hold.trans (sub_le_sub_right h Worker.rateWindow)

/-- But for claims that count no more, the worker is as it was, and nothing
has become `sending`. -/
structure Spared (s s' : Service) (seconds : Rat) : Prop where
  worker : s'.worker = { s.worker with stamps := s'.worker.stamps }
  counted : ∀ later, seconds ≤ later →
    (s'.worker.forgetOld later).stamps = (s.worker.forgetOld later).stamps
  rows : ∀ r ∈ s'.store.queue.rows, r.state = .sending → r ∈ s.store.queue.rows

theorem Spared.of_worker {seconds : Rat} (hw : s'.worker = s.worker)
    (hrows : ∀ r ∈ s'.store.queue.rows, r.state = .sending → r ∈ s.store.queue.rows) :
    Spared s s' seconds where
  worker := by rw [hw]
  counted later _ := by rw [hw]
  rows := hrows

theorem Spared.trans {seconds : Rat} (h : Spared s s₁ seconds) (h' : Spared s₁ s' seconds) :
    Spared s s' seconds where
  worker := by rw [h'.worker, h.worker]
  counted later hlater := (h'.counted later hlater).trans (h.counted later hlater)
  rows r hr hs := h.rows r (h'.rows r hr hs) hs

theorem releaseStale_spares (t : Clock.Reading) (s : Service) (seconds : Rat) :
    Spared s (after (releaseStale t) s) seconds := by
  rcases releaseStale_cases t s with hr | ⟨queue, ⟨cutoff, n, -, hrelease⟩, hr⟩
  · rw [hr]
    exact .of_worker rfl fun _ hr _ => hr
  · rw [hr]
    refine .of_worker rfl fun r hr hs => ?_
    rw [withQueue, Table.release_ok hrelease] at hr
    obtain ⟨r₀, hr₀, ⟨-, rfl⟩ | ⟨-, rfl⟩⟩ := Table.mem_updateWhere.mp hr
    · cases hs
    · exact hr₀

theorem process_error (h : process now t s = .error fault s') :
    s' = { s with worker := (s.worker.budget t.seconds).2 } := by
  cases hb : s.worker.budget t.seconds
  rcases process_outcome hb now with ⟨-, hp⟩ | ⟨-, ⟨_, -, hp⟩ | ⟨_, _, -, hp⟩⟩ <;>
    cases hp.symm.trans h
  rfl

theorem process_spares (h : process now t s = .error fault s') : Spared s s' t.seconds := by
  obtain ⟨stamps, hb⟩ := budget_worker s.worker t.seconds
  have hcounted (later : Rat) (hlater : t.seconds ≤ later) :
      ((s.worker.budget t.seconds).2.forgetOld later).stamps =
        (s.worker.forgetOld later).stamps := budget_counted s.worker hlater
  rw [process_error h]
  rw [hb] at hcounted ⊢
  exact ⟨rfl, hcounted, fun _ hr _ => hr⟩

theorem withUp_spares (s : Service) (isUp : Bool) (seconds : Rat) :
    Spared s (s.withUp isUp) seconds := .of_worker rfl fun _ hr _ => hr

theorem after_releaseStaleIn (w : Weather) (t : Clock.Reading) (s : Service) :
    after (releaseStaleIn w t) s = after (releaseStale t) (s.withUp (w .sweep s)) := rfl

theorem processIn_cases (w : Weather) (now : Instant) (t : Clock.Reading) (s : Service) :
    (∃ isUp, processIn w now t s = process now t (s.withUp isUp)) ∨
      processIn w now t s = .ok 0 { s with worker := (s.worker.budget t.seconds).2 } := by
  cases hb : s.worker.budget t.seconds with
  | mk limit worker =>
    let isUp := w .claim { s with worker }
    have hin := processIn_eq w hb now
    have hrun := processIn_eq (s := s.withUp isUp) .own hb now
    by_cases hlimit : limit ≤ 0
    · rw [if_pos hlimit] at hin
      exact .inr hin
    · rw [if_neg hlimit] at hin hrun
      exact .inl ⟨isUp, hin.trans hrun.symm⟩

theorem processIn_spares (h : processIn w now t s = .error fault s') :
    Spared s s' t.seconds := by
  rcases processIn_cases w now t s with ⟨isUp, hp⟩ | hp <;> rw [hp] at h
  · exact (s.withUp_spares _ _).trans (process_spares h)
  · cases h

theorem tickIn_spares (h : tickIn w t s = .error fault s') : Spared s s' t.seconds := by
  have hswept := (s.withUp_spares (w .sweep s) t.seconds).trans (releaseStale_spares t _ t.seconds)
  rw [← after_releaseStaleIn] at hswept
  cases hr : releaseStaleIn w t s with
  | error fault₁ s₁ =>
    rw [tickIn, run_bind_error hr] at h
    cases h
    rwa [after_error hr] at hswept
  | ok n s₁ =>
    rw [tickIn, run_bind_ok hr] at h
    rw [after_ok hr] at hswept
    exact hswept.trans (processIn_spares h)

theorem skipWhenDown_run {y : Op α} {operation problem : String}
    (h : y s = .error (.storeUnavailable operation problem) s') :
    skipWhenDown y s = .ok () s' := by
  rw [skipWhenDown, run_bind_ok (attempt_error h)]
  rfl

-- ---------------------------------------------------------------------------
-- What is written about a dispatch
-- ---------------------------------------------------------------------------

def LeavesQueue (y : Op α) : Prop :=
  ∀ s, (after y s).worker = s.worker ∧ (after y s).store.queue = s.store.queue

theorem LeavesQueue.bind {y : Op α} {f : α → Op β} (hy : LeavesQueue y)
    (hf : ∀ a, LeavesQueue (f a)) : LeavesQueue (y >>= f) := by
  intro s
  obtain ⟨hworker, hqueue⟩ := hy s
  cases h : y s with
  | ok a s₁ =>
    rw [after_ok h] at hworker hqueue
    rw [after_bind_ok h]
    exact ⟨(hf a s₁).1.trans hworker, (hf a s₁).2.trans hqueue⟩
  | error fault s₁ =>
    rw [after_error h] at hworker hqueue
    rw [after_bind_error h]
    exact ⟨hworker, hqueue⟩

theorem leavesQueue_run {y : Store.Op α} (h : ∀ st, (after y st).queue = st.queue)
    (w : Weather) (stage : Stage) : LeavesQueue (w.run stage y) := by
  intro s
  have hafter : after (w.run stage y) s =
      { s with store := after y (s.withUp (w stage s)).store } := after_onStore y _
  rw [hafter]
  exact ⟨rfl, h _⟩

theorem leavesQueue_recordAttempt (w : Weather) (e : Queue.Entry) (status : History.Status)
    (error : Option String) (duration : Option Number) (now : Instant) :
    LeavesQueue (w.run .attempt (Store.recordAttempt e status error duration now)) := by
  refine leavesQueue_run (fun st => ?_) w .attempt
  obtain ⟨history, h, -⟩ := Store.after_onHistory "record_history"
    (fun log => log.append e status error duration now) st
  rw [Store.recordAttempt, h]

theorem leavesQueue_updateChannel (w : Weather) (operation type : String)
    (f : Channel.Row → Channel.Row) :
    LeavesQueue (w.run .health (Store.updateChannel operation type f)) := by
  refine leavesQueue_run (fun st => ?_) w .health
  obtain ⟨channels, h⟩ := Store.after_updateChannel operation type f st
  rw [h]

/-- What was written about an entry: nothing of the worker, and of the queue
nothing but the outcome of that entry. -/
structure Noted (w : Weather) (e : Queue.Entry) (s s' : Service) : Prop where
  worker : s'.worker = s.worker
  moves : s.store.queue.Keyed → s.store.queue.Moves s'.store.queue
  others : ∀ i ≠ e.id, s.store.queue.Sends i → s'.store.queue.Sends i
  kept : w.Fails .outcome → s'.store.queue = s.store.queue

theorem Noted.of_queue (hw : s'.worker = s.worker) (hq : s'.store.queue = s.store.queue) :
    Noted w e s s' where
  worker := hw
  moves _ := hq ▸ Table.Moves.refl _
  others _ _ hs := hq ▸ hs
  kept _ := hq

theorem noted_outcome {operation : String} {change : Table → Except Fault (α × Table)}
    {rest : α → Op Unit}
    (hmoves : ∀ a queue, change s.store.queue = .ok (a, queue) → s.store.queue.Keyed →
      s.store.queue.Moves queue)
    (hothers : ∀ a queue, change s.store.queue = .ok (a, queue) → ∀ i ≠ e.id,
      s.store.queue.Sends i → queue.Sends i)
    (hrest : ∀ a, LeavesQueue (rest a)) :
    Noted w e s
      (after (w.run .outcome (Store.onQueue operation change) >>= rest) s) := by
  rcases Store.onQueue_cases operation change (s.withUp (w .outcome s)).store with
    ⟨fault, h⟩ | ⟨a, queue, hup, hc, h⟩
  · rw [after_bind_error (Weather.run_error h)]
    exact .of_queue rfl rfl
  · rw [after_bind_ok (Weather.run_ok h)]
    obtain ⟨hworker, hqueue⟩ := hrest a ((s.withUp (w .outcome s)).withQueue queue)
    exact {
      worker := hworker
      moves := fun hk => hqueue ▸ hmoves a queue hc hk
      others := fun i hi hs => hqueue ▸ hothers a queue hc i hi hs
      kept := fun hdown => by cases (hdown s).symm.trans hup }

theorem recordFailedIn_noted (w : Weather) (e : Queue.Entry) (error : String)
    (startedAt : Rat) (t : Clock.Reading) (s : Service) :
    Noted w e s (after (recordFailedIn w e error startedAt t) s) := by
  rw [recordFailedIn, after_get_bind]
  refine noted_outcome (fun _ _ hc hk => Table.markFailed_moves hk hc)
    (fun _ _ hc i hi hs => Table.markFailed_sends hc hi hs) fun updated => ?_
  cases updated with
  | none => exact fun s => ⟨rfl, rfl⟩
  | some updated =>
    exact (leavesQueue_recordAttempt w _ _ _ _ _).bind fun _ => leavesQueue_updateChannel w _ _ _

theorem recordDeliveredIn_noted (w : Weather) (e : Queue.Entry) (startedAt : Rat)
    (t : Clock.Reading) (s : Service) :
    Noted w e s (after (recordDeliveredIn w e startedAt t) s) := by
  refine noted_outcome (fun _ _ hc _ => Table.markDelivered_moves hc)
    (fun _ _ hc i hi hs => Table.markDelivered_sends hc hi hs) fun _ => ?_
  exact (leavesQueue_recordAttempt w _ _ _ _ _).bind fun _ => leavesQueue_updateChannel w _ _ _

theorem recordResultIn_noted (w : Weather) (x : Sending) (result : Except Fault Unit)
    (t : Clock.Reading) (s : Service) :
    Noted w x.dispatch.entry s (after (recordResultIn w x result t) s) := by
  cases result with
  | ok _ => exact recordDeliveredIn_noted w _ _ t s
  | error fault => exact recordFailedIn_noted w _ _ _ t s

-- ---------------------------------------------------------------------------
-- Dispatches
-- ---------------------------------------------------------------------------

/-- The user of an entry is looked for, and the store is down. -/
structure Unanswered (w : Weather) (s : Service) (e : Queue.Entry) : Prop where
  down : w.Fails .lookup
  user : e.user ≠ none
  channel : ∃ c, s.registry.get e.channel = .ok c

theorem prepareIn_unanswered (h : Unanswered w s e) :
    ∃ s', prepareIn w e s = .error (Store.down "resolve_recipient") s' := by
  obtain ⟨c, hc⟩ := h.channel
  obtain ⟨user, huser⟩ := Option.ne_none_iff_exists'.mp h.user
  let st := (s.withUp (w .lookup s)).store
  have hasked : Store.userAddress user e.channel st =
      .error (Store.down "resolve_recipient") st := by
    have hdown : ¬ st.isUp = true := Bool.eq_false_iff.mp (h.down s)
    rw [Store.userAddress, Store.query_run, if_neg hdown]
    rfl
  have hresolve : Store.resolve e st = .error (Store.down "resolve_recipient") st := by
    rw [Store.resolve, huser]
    exact run_bind_error hasked
  rcases prepareIn_cases w e s with ⟨_, _, -, hr, -⟩ | ⟨_, hf, -⟩ | ⟨_, hr, hp⟩
  · cases hr.symm.trans hresolve
  · cases hf.symm.trans hc
  · cases hr.symm.trans hresolve
    exact ⟨_, hp⟩

theorem beginIn_cases (w : Weather) (t : Clock.Reading)
    (hp : s.worker.preparing? number = some p) :
    (¬ Unanswered w s p.dispatch.entry ∧ ∃ x isUp, x.dispatch = p.dispatch ∧
      beginIn w number t s =
        .ok (.sending x) { s.withUp isUp with worker := s.worker.beginSend x }) ∨
    ∃ s₁, beginIn w number t s = .ok .ended (s₁.withDismissed p.dispatch) ∧
      Noted w p.dispatch.entry s s₁ ∧
      (Unanswered w s p.dispatch.entry → s₁.store.queue = s.store.queue) := by
  have ended (isUp : Bool) {fault : Fault}
      (h : prepareIn w p.dispatch.entry s = .error fault (s.withUp isUp)) :
      ∃ s₁, beginIn w number t s = .ok .ended (s₁.withDismissed p.dispatch) ∧
        Noted w p.dispatch.entry s s₁ ∧
        (Unanswered w s p.dispatch.entry → s₁.store.queue = s.store.queue) := by
    refine ⟨_, beginIn_ended hp h t, ?_⟩
    cases hs : fault.spendsRetry with
    | true =>
      have hrec := recordFailedIn_noted w p.dispatch.entry fault.message p.startedAt t
        (s.withUp isUp)
      refine ⟨⟨hrec.worker, hrec.moves, hrec.others, hrec.kept⟩, fun hun => ?_⟩
      -- a store that is down spends no retry
      obtain ⟨s', hdown⟩ := prepareIn_unanswered hun
      cases h.symm.trans hdown
      cases hs
    | false => exact ⟨.of_queue rfl rfl, fun _ => rfl⟩
  rcases prepareIn_cases w p.dispatch.entry s with
    ⟨channel, recipient, -, -, h⟩ | ⟨fault, -, h⟩ | ⟨fault, -, h⟩
  · refine .inl ⟨fun hun => ?_, _, _, rfl, beginIn_sending hp h t⟩
    obtain ⟨s', hdown⟩ := prepareIn_unanswered hun
    cases h.symm.trans hdown
  · exact .inr (ended s.store.isUp h)
  · exact .inr (ended (w .lookup s) h)

theorem finishIn_run (w : Weather) (result : Except Fault Unit) (t : Clock.Reading)
    (hx : s.worker.sending? number = some x) :
    ∃ s₁, finishIn w number result t s = .ok () (s₁.withDismissed x.dispatch) ∧
      Noted w x.dispatch.entry s s₁ :=
  ⟨_, finishIn_some w hx result t, recordResultIn_noted w x result t s⟩

-- ---------------------------------------------------------------------------
-- Runs
-- ---------------------------------------------------------------------------

namespace Holding

theorem withUp (h : s.Holding) (isUp : Bool) : (s.withUp isUp).Holding :=
  h.of_worker rfl (.refl _) rfl rfl

theorem processIn (h : s.Holding) (w : Weather) (now : Instant) (t : Clock.Reading) :
    (after (processIn w now t) s).Holding := by
  rcases processIn_cases w now t s with ⟨isUp, hp⟩ | hp
  · have hafter : after (Service.processIn w now t) s =
        after (Service.process now t) (s.withUp isUp) := by simp only [after, hp]
    rw [hafter]
    exact (h.withUp _).process now t
  · rw [after_ok hp]
    obtain ⟨stamps, hb⟩ := budget_worker s.worker t.seconds
    rw [hb]
    exact h.of_worker rfl (.refl _) rfl rfl

theorem tickIn (h : s.Holding) (w : Weather) (t : Clock.Reading) :
    (after (tickIn w t) s).Holding := by
  have hswept := (h.withUp (w .sweep s)).releaseStale t
  rw [← after_releaseStaleIn] at hswept
  cases hr : releaseStaleIn w t s with
  | error fault s₁ =>
    rw [after_error hr] at hswept
    rwa [Service.tickIn, after_bind_error hr]
  | ok n s₁ =>
    rw [after_ok hr] at hswept
    rw [Service.tickIn, after_bind_ok hr]
    exact hswept.processIn w t.now t

theorem noted (h : s.Holding) (hrec : Noted w d.entry s s₁) (hd : d ∈ s.worker.holders) :
    (s₁.withDismissed d).Holding :=
  h.ended (hrec.moves h.keyed) hrec.others (by rw [withDismissed, hrec.worker]) hd

theorem beginIn (h : s.Holding) (w : Weather) (number : Nat) (t : Clock.Reading) :
    (after (beginIn w number t) s).Holding := by
  cases hp : s.worker.preparing? number with
  | none =>
    rwa [after_ok (beginIn_idle w hp t)]
  | some p =>
    rcases beginIn_cases w t hp with ⟨-, x, isUp, hx, hb⟩ | ⟨s₁, hb, hrec, -⟩ <;> rw [after_ok hb]
    · exact h.of_worker rfl (unfinished_beginSend h.numbers hp hx) rfl rfl
    · exact h.noted hrec (Worker.preparing?_holds hp)

theorem finishIn (h : s.Holding) (w : Weather) (number : Nat) (result : Except Fault Unit)
    (t : Clock.Reading) : (after (finishIn w number result t) s).Holding := by
  cases hx : s.worker.sending? number with
  | none =>
    rwa [after_ok (finishIn_none w hx result t)]
  | some x =>
    obtain ⟨s₁, hf, hrec⟩ := finishIn_run w result t hx
    rw [after_ok hf]
    exact h.noted hrec (Worker.sending?_holds hx)

end Holding

inductive Moment where
  | usual (event : Event)
  | process (w : Weather) (now : Instant) (t : Clock.Reading)
  | tick (w : Weather) (t : Clock.Reading)
  | begin (w : Weather) (number : Nat) (t : Clock.Reading)
  | finish (w : Weather) (number : Nat) (result : Except Fault Unit) (t : Clock.Reading)

def Moment.apply (s : Service) : Moment → Service
  | .usual event => event.apply s
  | .process w now t => after (processIn w now t) s
  | .tick w t => after (tickIn w t) s
  | .begin w number t => after (beginIn w number t) s
  | .finish w number result t => after (finishIn w number result t) s

theorem Holding.moment (h : s.Holding) (m : Moment) : (m.apply s).Holding := by
  cases m with
  | usual event => exact h.apply event
  | process w now t => exact h.processIn w now t
  | tick w t => exact h.tickIn w t
  | begin w number t => exact h.beginIn w number t
  | finish w number result t => exact h.finishIn w number result t

def Reached (s : Service) : Prop := ∃ (settings : Settings) (policy : Policy)
  (moments : List Moment), s = moments.foldl Moment.apply (create {} settings policy)

theorem Holding.moments (h : s.Holding) (moments : List Moment) :
    (moments.foldl Moment.apply s).Holding := by
  induction moments generalizing s with
  | nil => exact h
  | cons m rest ih => exact ih (h.moment m)

theorem Reached.holding (h : s.Reached) : s.Holding := by
  obtain ⟨settings, policy, moments, rfl⟩ := h
  exact (create_holding settings policy).moments moments

/-- A dispatch has let go of its id and of its slot, and of nothing of any
other dispatch. -/
structure LetGo (s s' : Service) (d : Dispatch) : Prop where
  held : ∀ i, i ∈ s'.worker.held ↔ i ∈ s.worker.held ∧ i ≠ d.entry.id
  slot : s'.worker.active = s.worker.active - 1
  holders : s.Reached → s.worker.holders.Perm (d :: s'.worker.holders)
  waiting : s'.worker.waiting = s.worker.waiting

theorem LetGo.of_dismissed (hd : d ∈ s.worker.holders) (hw : s'.worker = s.worker.dismiss d) :
    LetGo s s' d where
  held i := by simp [hw, Worker.dismiss, Worker.letGo, Worker.giveBack, Worker.wake]
  slot := by rw [hw]; rfl
  holders h := by
    rw [hw, Worker.dismiss_holders]
    exact Worker.perm_cons_filter (Worker.numbers_holders h.holding.numbers) hd
  waiting := by rw [hw, Worker.dismiss_waiting]

structure Untouched (s s' : Service) (d : Dispatch) : Prop where
  queue : s'.store.queue = s.store.queue
  row : s.Reached → ∃ r, s'.store.queue.find? d.entry.id = some r ∧ r.state = .sending

theorem Untouched.of_unfinished (hd : d ∈ s.unfinished) (hq : s'.store.queue = s.store.queue) :
    Untouched s s' d where
  queue := hq
  row hreached := by
    have h := hreached.holding
    rw [hq]
    exact (Table.sends_iff_find? h.keyed).mp (h.sending d hd)

/-- In every weather: a pass or a tick that fails leaves the worker as it was,
and no row has become `sending`; if it is the store that fails, the job ends as
if nothing had happened. A dispatch that has a slot sends, or it ends and lets
go of its id and its slot, and so does a send that ends, whatever of it could be
written. Its row stays as it was if the user could not be looked for or the
outcome not be written. -/
theorem outages_cost_nothing (w : Weather) (t : Clock.Reading) (s : Service) :
    (∀ fault s', tickIn w t s = .error fault s' ∨
      (∃ now, processIn w now t s = .error fault s') → Spared s s' t.seconds) ∧
    (∀ operation problem s', tickIn w t s = .error (.storeUnavailable operation problem) s' →
      processJobIn w t s = .ok () s') ∧
    (∀ number p, s.worker.preparing? number = some p →
      ∃ begun s', beginIn w number t s = .ok begun s' ∧
        ((begun = .ended ∧ LetGo s s' p.dispatch) ∨
          ¬ Unanswered w s p.dispatch.entry ∧ ∃ x, begun = .sending x ∧
            x.dispatch = p.dispatch ∧ s'.worker = s.worker.beginSend x) ∧
        (Unanswered w s p.dispatch.entry ∨ w.Fails .outcome → Untouched s s' p.dispatch)) ∧
    ∀ number result x, s.worker.sending? number = some x →
      ∃ s', finishIn w number result t s = .ok () s' ∧ LetGo s s' x.dispatch ∧
        (w.Fails .outcome → Untouched s s' x.dispatch) := by
  refine ⟨?_, fun _ _ _ h => skipWhenDown_run h, fun number p hp => ?_,
    fun number result x hx => ?_⟩
  · rintro fault s' (h | ⟨now, h⟩)
    · exact tickIn_spares h
    · exact processIn_spares h
  · have hholds := Worker.preparing?_holds hp
    have hd := holder_unfinished hholds
    rcases beginIn_cases w t hp with ⟨hanswered, x, isUp, hx, hb⟩ | ⟨s₁, hb, hrec, hkept⟩
    · exact ⟨_, _, hb, .inr ⟨hanswered, x, rfl, hx, rfl⟩, fun _ => .of_unfinished hd rfl⟩
    · refine ⟨_, _, hb, .inl ⟨rfl, .of_dismissed hholds ?_⟩, fun hfails => .of_unfinished hd ?_⟩
      · rw [withDismissed, hrec.worker]
      · rcases hfails with h | h
        · exact hkept h
        · exact hrec.kept h
  · have hholds := Worker.sending?_holds hx
    obtain ⟨s₁, hf, hrec⟩ := finishIn_run w result t hx
    refine ⟨_, hf, .of_dismissed hholds ?_,
      fun h => .of_unfinished (holder_unfinished hholds) (hrec.kept h)⟩
    rw [withDismissed, hrec.worker]

/-- The store comes up for the sweep and is down for everything else. -/
def briefly : Weather := fun stage _ => stage == .sweep

def slotTaken : List Event := claimedOnce ++ [.turn 0 ⟨0, .first⟩]

theorem slotTaken_reached : (run (create {} {} {}) slotTaken).Reached := by
  refine ⟨{}, {}, slotTaken.map .usual, ?_⟩
  rw [List.foldl_map]
  rfl

theorem outages_cost_nothing_sweptOnly :
    let s := run (create {} {} {}) slotTaken
    (∃ s', processJobIn briefly ⟨60, .clockStart⟩ s = .ok () s' ∧ s'.worker.held = [1] ∧
      s'.worker.active = 1) ∧
      ∃ s', beginIn briefly 0 ⟨60, .clockStart⟩ s = .ok .ended s' ∧ 1 ∉ s'.worker.held ∧
        s'.worker.active = 0 ∧ ∃ r, s'.store.queue.find? 1 = some r ∧ r.state = .sending := by
  intro s
  obtain ⟨hspared, hjob, hbegin, -⟩ := outages_cost_nothing briefly ⟨60, .clockStart⟩ s
  have hactive : s.worker.active = 1 := by decide +kernel
  constructor
  · have hdown : (attempt (tickIn briefly ⟨60, .clockStart⟩)).run' s =
        some (.error (Store.down "claim_batch")) := by decide +kernel
    obtain ⟨s', ht⟩ := error_of_attempt hdown
    have hworker := (hspared _ s' (.inl ht)).worker
    have hheld : s.worker.held = [1] := by decide +kernel
    exact ⟨s', hjob _ _ s' ht, hworker ▸ hheld, hworker ▸ hactive⟩
  · have hprepared : (s.worker.preparing? 0).map (·.dispatch.entry.id) = some 1 := by
      decide +kernel
    obtain ⟨p, hp, hid⟩ := Option.map_eq_some_iff.mp hprepared
    obtain ⟨begun, s', hb, hends, huntouched⟩ := hbegin 0 p hp
    have hended : ((beginIn briefly 0 ⟨60, .clockStart⟩).run' s).any
        (fun | .ended => true | _ => false) = true := by decide +kernel
    rw [run'_ok hb] at hended
    rcases hends with ⟨rfl, hgo⟩ | ⟨-, x, rfl, -⟩
    · obtain ⟨r, hr, hsending⟩ := (huntouched (.inr fun _ => rfl)).row slotTaken_reached
      rw [hid] at hr
      refine ⟨s', hb, fun hheld => ((hgo.held 1).mp hheld).2 hid.symm, ?_, r, hr, hsending⟩
      rw [hgo.slot, hactive]
      rfl
    · cases hended

end AlertDelivery.Service
