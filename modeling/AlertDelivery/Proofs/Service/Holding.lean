import AlertDelivery.Proofs.Queue.Sends
import AlertDelivery.Proofs.Service.Run

/-!
# No dispatch twice

A dispatch that has not ended holds its id, and its row is `sending`. The
facts need each other: the sweep spares the ids that are held, a claim
gives no row that is `sending`, and so no id is dispatched twice.
-/

namespace AlertDelivery.Service

open Queue (Row Table)

structure Holding (s : Service) : Prop where
  keyed : s.store.queue.Keyed
  storable : ∀ r ∈ s.store.queue.rows, r.Storable
  distinct : (s.unfinished.map (·.entry.id)).Nodup
  numbers : (s.unfinished.map (·.number)).Nodup
  numbered : ∀ d ∈ s.unfinished, d.number < s.worker.nextNumber
  held : ∀ d ∈ s.unfinished, d.entry.id ∈ s.worker.held
  sending : ∀ d ∈ s.unfinished, s.store.queue.Sends d.entry.id

variable {s s' : Service} {e : Queue.Event} {d : Dispatch} {v : Verdict} {now : Instant}
  {queue : Table} {log : History.Log}

namespace Holding

theorem of_queue (h : s.Holding) (hd : e.Does s.store.queue s'.store.queue)
    (hw : s'.worker = s.worker)
    (hs : ∀ i ∈ s.worker.held, s.store.queue.Sends i → s'.store.queue.Sends i) : s'.Holding := by
  have hu : s'.unfinished = s.unfinished := by rw [unfinished, hw, unfinished]
  exact {
    keyed := hd.keyed h.keyed
    storable := hd.storable h.keyed h.storable
    distinct := hu ▸ h.distinct
    numbers := hu ▸ h.numbers
    numbered := fun d hd => hw ▸ h.numbered d (hu ▸ hd)
    held := fun d hd => hw ▸ h.held d (hu ▸ hd)
    sending := fun d hd => hs _ (h.held d (hu ▸ hd)) (h.sending d (hu ▸ hd)) }

theorem of_worker (h : s.Holding) (hq : s'.store.queue = s.store.queue)
    (hu : s'.unfinished.Perm s.unfinished) (hh : s'.worker.held = s.worker.held)
    (hn : s'.worker.nextNumber = s.worker.nextNumber) : s'.Holding where
  keyed := hq ▸ h.keyed
  storable := hq ▸ h.storable
  distinct := (hu.map _).nodup_iff.mpr h.distinct
  numbers := (hu.map _).nodup_iff.mpr h.numbers
  numbered d hd := hn ▸ h.numbered d (hu.mem_iff.mp hd)
  held d hd := hh ▸ h.held d (hu.mem_iff.mp hd)
  sending d hd := hq ▸ h.sending d (hu.mem_iff.mp hd)

-- ---------------------------------------------------------------------------
-- Claims
-- ---------------------------------------------------------------------------

theorem mem_hold {held : List Int} {i j : Int} :
    i ∈ Worker.hold held j ↔ i ∈ held ∨ i = j := by
  unfold Worker.hold
  split
  · rename_i hc
    refine ⟨.inl, ?_⟩
    rintro (h | rfl)
    · exact h
    · exact List.contains_iff_mem.mp hc
  · simp

theorem mem_foldl_hold (ids held : List Int) (i : Int) :
    i ∈ ids.foldl Worker.hold held ↔ i ∈ held ∨ i ∈ ids := by
  induction ids generalizing held with
  | nil => simp
  | cons j rest ih => rw [List.foldl_cons, ih, mem_hold, List.mem_cons, or_assoc]

theorem numbered_entry (first : Nat) (entries : List Queue.Entry) :
    (Worker.numbered first entries).map (·.entry) = entries := by
  induction entries generalizing first with
  | nil => rfl
  | cons e rest ih => rw [Worker.numbered, List.map_cons, ih]

theorem numbered_number (first : Nat) (entries : List Queue.Entry) :
    (Worker.numbered first entries).map (·.number) = List.range' first entries.length := by
  induction entries generalizing first with
  | nil => rfl
  | cons e rest ih => rw [Worker.numbered, List.map_cons, ih, List.length_cons, List.range'_succ]

theorem numbered_ids (first : Nat) (entries : List Queue.Entry) :
    (Worker.numbered first entries).map (·.entry.id) = entries.map (·.id) := by
  have h := congrArg (List.map (·.id)) (numbered_entry first entries)
  rwa [List.map_map] at h

theorem number_mem_numbered {first : Nat} {entries : List Queue.Entry}
    (h : d ∈ Worker.numbered first entries) :
    first ≤ d.number ∧ d.number < first + entries.length :=
  List.mem_range'_1.mp (numbered_number first entries ▸ List.mem_map_of_mem h)

theorem entry_mem_numbered {first : Nat} {entries : List Queue.Entry}
    (h : d ∈ Worker.numbered first entries) : d.entry ∈ entries := by
  rw [← numbered_entry first entries]
  exact List.mem_map_of_mem h

theorem process (h : s.Holding) (now : Instant) (t : Clock.Reading) :
    (after (process now t) s).Holding := by
  rcases process_cases now t s with ⟨stamps, hp⟩ | ⟨limit, entries, queue, stamps, hc, hp⟩
  · rw [hp]
    exact h.of_worker rfl (.refl _) rfl rfl
  · rw [hp]
    let taken := Worker.numbered s.worker.nextNumber entries
    have hids : taken.map (·.entry.id) = entries.map (·.id) := numbered_ids _ _
    have hnumbers : taken.map (·.number) = List.range' s.worker.nextNumber entries.length :=
      numbered_number _ _
    have hd : (Queue.Event.claim limit now).Does s.store.queue queue := ⟨entries, hc⟩
    let w : Worker := { s.worker.takeOver entries t.seconds with stamps }
    have hperm : w.dispatches.Perm (taken ++ s.unfinished) := s.worker.takeOver_dispatches ..
    have hmem (d : Dispatch) (hd : d ∈ w.dispatches) : d ∈ taken ∨ d ∈ s.unfinished :=
      List.mem_append.mp (hperm.mem_iff.mp hd)
    have hentry (d : Dispatch) (hd : d ∈ taken) : d.entry.id ∈ entries.map (·.id) :=
      hids ▸ List.mem_map_of_mem hd
    exact {
      keyed := hd.keyed h.keyed
      storable := hd.storable h.keyed h.storable
      distinct := by
        refine (hperm.map _).nodup_iff.mpr ?_
        rw [List.map_append, hids]
        refine List.nodup_append.mpr ⟨(Table.claim_ok h.keyed hc).1, h.distinct, ?_⟩
        rintro i hi _ hj rfl
        obtain ⟨d, hd, rfl⟩ := List.mem_map.mp hj
        exact Table.claim_fresh h.keyed hc hi (h.sending d hd)
      numbers := by
        refine (hperm.map _).nodup_iff.mpr ?_
        rw [List.map_append]
        refine List.nodup_append.mpr ⟨hnumbers ▸ List.nodup_range', h.numbers, ?_⟩
        rintro _ hi _ hj heq
        obtain ⟨d, hd, rfl⟩ := List.mem_map.mp hi
        obtain ⟨d', hd', rfl⟩ := List.mem_map.mp hj
        have := (number_mem_numbered hd).1
        have := h.numbered d' hd'
        omega
      numbered := fun d hd => by
        rcases hmem d hd with hd | hd
        · exact (number_mem_numbered hd).2
        · exact Nat.lt_add_right _ (h.numbered d hd)
      held := fun d hd => (mem_foldl_hold _ _ _).mpr <| by
        rcases hmem d hd with hd | hd
        · exact .inr (hentry d hd)
        · exact .inl (h.held d hd)
      sending := fun d hd => (Table.claim_sends h.keyed hc).mpr <| by
        rcases hmem d hd with hd | hd
        · exact .inr (hentry d hd)
        · exact .inl (h.sending d hd) }

theorem releaseStale (h : s.Holding) (t : Clock.Reading) : (after (releaseStale t) s).Holding := by
  rcases releaseStale_cases t s with hr | ⟨queue, hd, hr⟩
  · rwa [hr]
  · rw [hr]
    refine h.of_queue hd rfl fun i hi => ?_
    obtain ⟨_, _, -, hc⟩ := hd
    exact Table.release_sends hc hi

-- ---------------------------------------------------------------------------
-- Endings
-- ---------------------------------------------------------------------------

theorem written_frame {e : Queue.Entry} (hk : s.store.queue.Keyed)
    (h : Written s e now v queue log) : s.store.queue.Moves queue ∧
      ∀ i ≠ e.id, s.store.queue.Sends i → queue.Sends i := by
  cases h with
  | unclaimed h =>
    exact ⟨Table.markFailed_moves hk h, fun i hi => Table.markFailed_sends h hi⟩
  | delivered h _ =>
    exact ⟨Table.markDelivered_moves h, fun i hi => Table.markDelivered_sends h hi⟩
  | failed h _ => exact ⟨Table.markFailed_moves hk h, fun i hi => Table.markFailed_sends h hi⟩
  | _ => exact ⟨Table.Moves.refl _, fun _ _ hs => hs⟩

theorem ended (h : s.Holding) (hmoves : s.store.queue.Moves s'.store.queue)
    (hframe : ∀ i ≠ d.entry.id, s.store.queue.Sends i → s'.store.queue.Sends i)
    (hw : s'.worker = s.worker.dismiss d) (hd : d ∈ s.worker.holders) : s'.Holding := by
  have hp : s.unfinished.Perm (d :: s'.unfinished) := by
    rw [unfinished, unfinished, hw]
    exact Worker.dismiss_dispatches h.numbers hd
  have hsub (d' : Dispatch) (hd' : d' ∈ s'.unfinished) : d' ∈ s.unfinished :=
    hp.mem_iff.mpr (List.mem_cons_of_mem d hd')
  have hdistinct := (hp.map (·.entry.id)).nodup_iff.mp h.distinct
  rw [List.map_cons, List.nodup_cons] at hdistinct
  have hnumbers := (hp.map (·.number)).nodup_iff.mp h.numbers
  rw [List.map_cons, List.nodup_cons] at hnumbers
  have hne (d' : Dispatch) (hd' : d' ∈ s'.unfinished) : d'.entry.id ≠ d.entry.id :=
    fun heq => hdistinct.1 (heq ▸ List.mem_map_of_mem hd')
  have hheld : s'.worker.held = s.worker.held.filter (· != d.entry.id) := congrArg Worker.held hw
  have hnext : s'.worker.nextNumber = s.worker.nextNumber := by rw [hw]; rfl
  exact {
    keyed := hmoves.keyed h.keyed
    storable := hmoves.forall (fun _ _ => Row.Change.storable) h.storable
    distinct := hdistinct.2
    numbers := hnumbers.2
    numbered := fun d' hd' => hnext ▸ h.numbered d' (hsub d' hd')
    held := fun d' hd' => hheld ▸ List.mem_filter.mpr
      ⟨h.held d' (hsub d' hd'), by simpa using hne d' hd'⟩
    sending := fun d' hd' => hframe _ (hne d' hd') (h.sending d' (hsub d' hd')) }

theorem ends (h : s.Holding) (he : Ends s s' d v now) (hd : d ∈ s.worker.holders) :
    s'.Holding := by
  have hworker := he.worker
  obtain ⟨queue, history, channels, hw, rfl⟩ := he
  obtain ⟨hmoves, hframe⟩ := written_frame h.keyed hw
  exact h.ended hmoves hframe hworker hd

theorem turn (h : s.Holding) (number : Nat) (t : Clock.Reading) :
    (after (turn number t) s).Holding :=
  h.of_worker rfl (unfinished_turn h.numbers number t) (s.worker.turn_held ..)
    (s.worker.turn_nextNumber ..)

theorem begin (h : s.Holding) (number : Nat) (t : Clock.Reading) :
    (after (begin number t) s).Holding := by
  rcases begin_cases number t s with ⟨-, hb⟩ | ⟨p, hp, ⟨x, hx, -, -, hb⟩ | ⟨fault, -, he⟩⟩
  · rwa [hb]
  · rw [hb]
    exact h.of_worker rfl (unfinished_beginSend h.numbers hp hx) rfl rfl
  · exact h.ends he (Worker.preparing?_holds hp)

theorem finish (h : s.Holding) (number : Nat) (result : Except Fault Unit) (t : Clock.Reading) :
    (after (finish number result t) s).Holding := by
  rcases finish_cases number result t s with hf | ⟨x, hx, he⟩
  · rwa [hf]
  · exact h.ends he (Worker.sending?_holds hx)

theorem apply (h : s.Holding) (event : Event) : (event.apply s).Holding := by
  unfold Event.apply
  cases event with
  | enqueue q t =>
    rw [Event.perform, after_discard]
    rcases enqueue_cases q t s with ⟨fault, he⟩ | ⟨i, queue, hq, he⟩
    · rwa [after_error he]
    · rw [after_ok he]
      exact h.of_queue (e := .enqueue { q with maxRetries := s.policy.maxRetries } t.now) ⟨i, hq⟩
        rfl fun i _ => Table.enqueue_sends hq
  | process now t =>
    rw [Event.perform, after_discard]
    exact h.process now t
  | releaseStale t =>
    rw [Event.perform, after_discard]
    exact h.releaseStale t
  | tick t =>
    rw [Event.perform, after_discard]
    rcases tick_cases t s with ht | ht <;> rw [ht]
    · exact h.releaseStale t
    · exact (h.releaseStale t).process t.now t
  | requeue ids now =>
    rw [Event.perform, after_discard]
    rcases requeue_cases ids now s with ⟨fault, hr⟩ | ⟨n, queue, hd, hr⟩
    · rwa [after_error hr]
    · rw [after_ok hr]
      exact h.of_queue hd rfl fun i _ => Table.requeue_sends hd.choose_spec
  | retention now =>
    rw [Event.perform, after_discard]
    rcases sweep_cases now s with hr | ⟨queue, history, hd, -, hr⟩
    · rwa [hr]
    · rw [hr]
      refine h.of_queue hd rfl fun i _ => ?_
      obtain ⟨cutoff, -, rfl⟩ := hd
      exact Table.cleanup_sends cutoff
  | reload =>
    rw [Event.perform, after_discard]
    rcases reloadPolicy_cases s with hr | ⟨policy, -, hr⟩
    · rwa [hr]
    · rw [hr]
      exact h.of_worker rfl (.of_eq (Worker.setPolicy_dispatches _ _)) rfl rfl
  | workerPolicy policy =>
    exact h.of_worker rfl (.of_eq (Worker.setPolicy_dispatches _ _)) rfl rfl
  | turn number t => exact h.turn number t
  | begin number t =>
    rw [Event.perform, after_discard]
    exact h.begin number t
  | finish number result t => exact h.finish number result t
  | outage isUp => exact h.of_worker rfl (.refl _) rfl rfl
  | arrange x => exact h.of_worker rfl (.refl _) rfl rfl

end Holding

theorem run_holding (h : s.Holding) (events : List Event) : (run s events).Holding := by
  induction events generalizing s with
  | nil => exact h
  | cons event rest ih => exact ih (h.apply event)

theorem create_holding (settings : Settings) (policy : Policy) :
    (create {} settings policy).Holding where
  keyed := List.Pairwise.nil
  storable _ h := by cases h
  distinct := List.nodup_nil
  numbers := List.nodup_nil
  numbered _ h := by cases h
  held _ h := by cases h
  sending _ h := by cases h

/-- A row that is `sending` takes every outcome while the store is up, unless
it is a failure that leaves a retry with no date, which is refused. -/
theorem outcomes_taken {st : Store} {i : Int} {r : Row} (hk : st.queue.Keyed)
    (hf : st.queue.find? i = some r) (hs : r.state = .sending)
    (hstor : Queue.isStorable i = true) (hup : st.isUp = true) (now : Instant) :
    (∃ st', Store.markDelivered i now st = .ok true st') ∧
      ∀ (text : String) (b : Backoff) (clock : Instant),
        (¬ r.Overflows b now ∧ ∃ entry st',
          Store.markFailed i text (.text b.name) now clock st = .ok (some entry) st') ∨
        (r.Overflows b now ∧
          Store.markFailed i text (.text b.name) now clock st =
            .error Fault.dateOverflow st) := by
  constructor
  · have hsends := (Table.sends_iff_find? hk).mpr ⟨r, hf, hs⟩
    exact ⟨_, Store.onQueue_up (fun t => t.markDelivered i now) hup
      (Table.markDelivered_sending hsends hstor now)⟩
  · intro text b clock
    have hm := Table.markFailed_sending hk hf hs hstor text (.text b.name) now clock
    rcases r.failed_cases text b now clock with ⟨ho, he⟩ | ⟨ho, r', he⟩ <;> rw [he] at hm
    · exact .inr ⟨ho, Store.onQueue_fault (fun t => t.markFailed _ text _ now clock) hup hm⟩
    · exact .inl ⟨ho, _, _, Store.onQueue_up (fun t => t.markFailed _ text _ now clock) hup hm⟩

/-- At every moment of every run, no two dispatches that have not ended have
the same id, and each holds its id and its row, which is `sending`. So its
outcome is taken whenever the store is up, unless it is a failure that
leaves a retry with no date, which is refused. -/
theorem dispatches_exclusive (settings : Settings) (policy : Policy) (events : List Event) :
    let s := run (create {} settings policy) events
    (s.unfinished.map (·.entry.id)).Nodup ∧
    ∀ d ∈ s.unfinished, d.entry.id ∈ s.worker.held ∧
      ∃ r, s.store.queue.find? d.entry.id = some r ∧ r.state = .sending ∧
        (s.store.isUp = true → ∀ now,
          (∃ st, Store.markDelivered d.entry.id now s.store = .ok true st) ∧
          ∀ (text : String) (b : Backoff) (clock : Instant),
            (¬ r.Overflows b now ∧ ∃ entry st,
              Store.markFailed d.entry.id text (.text b.name) now clock s.store =
                .ok (some entry) st) ∨
            (r.Overflows b now ∧
              Store.markFailed d.entry.id text (.text b.name) now clock s.store =
                .error Fault.dateOverflow s.store)) := by
  intro s
  have h : s.Holding := run_holding (create_holding settings policy) events
  refine ⟨h.distinct, fun d hd => ⟨h.held d hd, ?_⟩⟩
  have hsends := h.sending d hd
  obtain ⟨r, hf, hs⟩ := (Table.sends_iff_find? h.keyed).mp hsends
  obtain ⟨hr, hid⟩ := Table.mem_rows_of_find? hf
  have hstor : Queue.isStorable d.entry.id = true :=
    hid ▸ h.storable r hr r.id List.mem_cons_self
  exact ⟨r, hf, hs, outcomes_taken h.keyed hf hs hstor⟩

def claimedOnce : List Event := [
  .enqueue { channel := "email" } ⟨0, .first⟩, .process .first ⟨0, .first⟩]

theorem dispatches_exclusive_claimedOnce :
    ∃ d ∈ (run (create {} {} {}) claimedOnce).unfinished, d.entry.id = 1 ∧
      ∃ st, Store.markDelivered d.entry.id ⟨1, by decide⟩
        (run (create {} {} {}) claimedOnce).store = .ok true st := by
  have hids : (run (create {} {} {}) claimedOnce).unfinished.map (·.entry.id) = [1] := by
    decide +kernel
  obtain ⟨d, hd, hid⟩ := List.mem_map.mp (hids ▸ List.mem_singleton_self 1)
  obtain ⟨-, r, -, -, h⟩ := (dispatches_exclusive {} {} claimedOnce).2 d hd
  exact ⟨d, hd, hid, (h (by decide +kernel) ⟨1, by decide⟩).1⟩

/-- A failure in the last minute of the calendar is refused. -/
theorem outcome_not_always_taken :
    ¬ ∀ (settings : Settings) (policy : Policy) (events : List Event),
      let s := run (create {} settings policy) events
      ∀ d ∈ s.unfinished, s.store.isUp = true → ∀ now (text : String) (b : Backoff) clock,
        ∃ entry st, Store.markFailed d.entry.id text (.text b.name) now clock s.store =
          .ok (some entry) st := by
  intro h
  let s := run (create {} {} {}) claimedOnce
  let last : Instant := ⟨Instant.limit - 1, by decide⟩
  have hids : s.unfinished.map (·.entry.id) = [1] := by decide +kernel
  obtain ⟨d, hd, hid⟩ : ∃ d ∈ s.unfinished, d.entry.id = 1 :=
    List.mem_map.mp (hids ▸ List.mem_singleton_self 1)
  obtain ⟨entry, st, hm⟩ :=
    h {} {} claimedOnce d hd (by decide +kernel) last "boom" .exponential last
  have hs : s.Holding := run_holding (create_holding {} {}) claimedOnce
  have hrow : (s.store.queue.find? 1).map (fun r => (r.state, r.retryCount, r.maxRetries)) =
      some (.sending, 0, 3) := by decide +kernel
  obtain ⟨r, hf, hr⟩ := Option.map_eq_some_iff.mp hrow
  simp only [Prod.mk.injEq] at hr
  have hover : r.Overflows .exponential last := by
    rw [Row.Overflows, hr.2.1, hr.2.2]
    decide
  have hmark := Table.markFailed_sending hs.keyed hf hr.1 (by decide) "boom"
    (.text Backoff.exponential.name) last last
  rcases r.failed_cases "boom" .exponential last last with ⟨-, he⟩ | ⟨hn, -⟩
  · rw [hid] at hm
    rw [he] at hmark
    cases hm.symm.trans (Store.onQueue_fault (fun t => t.markFailed 1 "boom" _ last last)
      (by decide +kernel) hmark)
  · exact hn hover

end AlertDelivery.Service
