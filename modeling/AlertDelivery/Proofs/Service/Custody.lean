import AlertDelivery.Proofs.FieldLaws
import AlertDelivery.Proofs.Queue.Journey
import AlertDelivery.Proofs.Service.Steps
import Mathlib.Data.List.Induction

/-!
# No notification is lost or altered

No operation writes the columns in which a notification says what was asked
for, and only retention deletes a row. So a notification that was accepted
stands until retention deletes it, and whatever is sent for its id is what
was asked for.
-/

namespace AlertDelivery

namespace Queue

/-- What was asked for in one row is asked for in another. -/
structure Row.Keeps (r r' : Row) : Prop where
  id : r'.id = r.id
  user : r'.user = r.user
  channel : r'.channel = r.channel
  template : r'.template = r.template
  priority : r'.priority = r.priority
  subject : r'.subject = r.subject
  body : r'.body = r.body
  values : r'.values = r.values
  maxRetries : r'.maxRetries = r.maxRetries
  createdAt : r'.createdAt = r.createdAt

/-- A row and an entry that was read of it, then or earlier. -/
def Row.Gives (r : Row) (e : Entry) : Prop := ∃ r₀ : Row, r₀.Keeps r ∧ e = r₀.toEntry

variable {t t' : Table} {r r' r₁ r₂ r₃ : Row} {e : Event} {entry : Entry}

-- ---------------------------------------------------------------------------
-- Rows
-- ---------------------------------------------------------------------------

namespace Row

theorem Keeps.refl (r : Row) : r.Keeps r := by
  constructor <;> rfl

theorem Keeps.trans (h : r₁.Keeps r₂) (h' : r₂.Keeps r₃) : r₁.Keeps r₃ where
  id := h'.id.trans h.id
  user := h'.user.trans h.user
  channel := h'.channel.trans h.channel
  template := h'.template.trans h.template
  priority := h'.priority.trans h.priority
  subject := h'.subject.trans h.subject
  body := h'.body.trans h.body
  values := h'.values.trans h.values
  maxRetries := h'.maxRetries.trans h.maxRetries
  createdAt := h'.createdAt.trans h.createdAt

theorem Change.keeps (h : Change r r') : r.Keeps r' := by
  cases h with
  | fail _ hf =>
    rcases failed_ok hf with ⟨-, rfl⟩ | ⟨-, _, _, -, -, rfl⟩ <;> constructor <;> rfl
  | _ => constructor <;> rfl

theorem Keeps.of_claimed (h : r.Keeps r') (now : Instant) : (r.claimed now).Keeps r' := by
  cases h
  constructor <;> assumption

theorem Gives.keeps (h : r.Gives entry) (hk : r.Keeps r') : r'.Gives entry := by
  obtain ⟨r₀, h, rfl⟩ := h
  exact ⟨r₀, h.trans hk, rfl⟩

theorem Gives.id_eq (h : r.Gives entry) : entry.id = r.id := by
  obtain ⟨r₀, h, rfl⟩ := h
  exact h.id.symm

theorem deliveredBefore_iff {cutoff : Instant} : r.deliveredBefore cutoff = true ↔
    r.state = .delivered ∧ ∃ at_, r.deliveredAt = some at_ ∧ at_ < cutoff := by
  unfold deliveredBefore
  cases r.deliveredAt <;> simp

end Row

-- ---------------------------------------------------------------------------
-- Operations
-- ---------------------------------------------------------------------------

theorem Table.Moves.keeps (h : t.Moves t') (hr : r ∈ t.rows) : ∃ r' ∈ t'.rows, r.Keeps r' := by
  obtain ⟨f, hf, hc⟩ := h
  refine ⟨f r, hf ▸ List.mem_map_of_mem hr, ?_⟩
  rcases hc r hr with h | h
  · rw [h]
    exact .refl r
  · exact h.keeps

theorem Event.Does.keeps (h : e.Does t t') (hk : t.Keyed) (hr : r ∈ t.rows) :
    (∃ r' ∈ t'.rows, r.Keeps r') ∨ ∃ days now cutoff, e = .cleanup days now ∧
      now.daysBefore? days = some cutoff ∧ r.deliveredBefore cutoff = true ∧
      t' = (t.cleanup cutoff).2 := by
  rcases h.cases hk with hm | ⟨q, now, -, rfl⟩ | ⟨days, now, cutoff, he, hc, ht⟩
  · exact .inl (hm.keeps hr)
  · exact .inl ⟨r, List.mem_append_left _ hr, .refl r⟩
  · cases hd : r.deliveredBefore cutoff with
    | true => exact .inr ⟨days, now, cutoff, he, hc, hd, ht⟩
    | false =>
      subst ht
      exact .inl ⟨r, List.mem_filter.mpr ⟨hr, by simp [hd]⟩, .refl r⟩

theorem Event.Does.kept (h : e.Does t t') (hk : t.Keyed) (hr : r' ∈ t'.rows) :
    (∃ r ∈ t.rows, r.Keeps r') ∨ ∃ q now, e = .enqueue q now := by
  rcases h.mem hk hr with hr | ⟨r, hr, hc⟩ | ⟨q, now, rfl, -⟩
  · exact .inl ⟨r', hr, .refl r'⟩
  · exact .inl ⟨r, hr, hc.keeps⟩
  · exact .inr ⟨q, now, rfl⟩

theorem Table.find?_cleanup {i : Int} {cutoff : Instant} (hk : t.Keyed) (hf : t.find? i = some r)
    (hd : r.deliveredBefore cutoff = true) : (t.cleanup cutoff).2.find? i = none := by
  rw [cleanup, find?_filter hk, hf, Option.filter_some_neg (by simp [hd])]

end Queue

namespace Service

open Queue (Row Table)

variable {s s' start : Service} {event : Event} {events : List Event} {r r' asked : Row}
  {t : Clock.Reading} {q : Queue.Request} {i : Int} {number : Nat} {x : Sending}
  {now cutoff : Instant}

-- ---------------------------------------------------------------------------
-- Steps
-- ---------------------------------------------------------------------------

def Expires (s : Service) (event : Event) (r : Row) : Prop :=
  ∃ now cutoff, event = .retention now ∧ now.daysBefore? s.settings.retentionDays = some cutoff ∧
    r.deliveredBefore cutoff = true

theorem Step.keeps (h : Step s s' event) (hk : s.store.queue.Keyed)
    (hr : r ∈ s.store.queue.rows) : (∃ r' ∈ s'.store.queue.rows, r.Keeps r') ∨
      Expires s event r ∧ s'.store.queue.find? r.id = none := by
  rcases h.does with hq | ⟨q, hd, hq⟩
  · exact .inl ⟨r, hq ▸ hr, .refl r⟩
  · rcases hd.keeps hk hr with hr' | ⟨days, now, cutoff, rfl, hc, hold, ht⟩
    · exact .inl hr'
    · -- of the operations that a step may make, only one that is asked for is a cleanup
      have hasks : event.asks s = some (.cleanup days now) := by
        rcases hq with ha | ⟨_, _, hn⟩ | ⟨_, ho⟩
        · exact ha
        · cases hn
        · cases ho
      have hf := (Table.find?_eq_some hk).mpr ⟨hr, rfl⟩
      cases event <;> cases hasks
      exact .inr ⟨⟨_, cutoff, rfl, hc, hold⟩, ht ▸ Table.find?_cleanup hk hf hold⟩

theorem Step.kept (h : Step s s' event) (hk : s.store.queue.Keyed)
    (hr : r' ∈ s'.store.queue.rows) :
    (∃ r ∈ s.store.queue.rows, r.Keeps r') ∨ ∃ q t, event = .enqueue q t := by
  rcases h.does with hq | ⟨q, hd, hq⟩
  · exact .inl ⟨r', hq ▸ hr, .refl r'⟩
  · rcases hd.kept hk hr with hr' | ⟨_, _, rfl⟩
    · exact .inl hr'
    · rcases hq with ha | ⟨_, _, hn⟩ | ⟨_, ho⟩
      · cases event <;> cases ha
        exact .inr ⟨_, _, rfl⟩
      · cases hn
      · cases ho

theorem Event.keeps (h : s.Holding) (event : Event) (hr : r ∈ s.store.queue.rows) :
    (∃ r' ∈ (event.apply s).store.queue.rows, r.Keeps r') ∨
      Expires s event r ∧ (event.apply s).store.queue.find? r.id = none := by
  rcases event.steps h.numbers with hs | ⟨t, rfl, hsweep, hpass⟩
  · exact hs.keeps h.keyed hr
  · rcases hsweep.keeps h.keyed hr with ⟨r₁, hr₁, hk₁⟩ | ⟨⟨_, _, he, -⟩, -⟩
    · rcases hpass.keeps (h.apply (.releaseStale t)).keyed hr₁ with
        ⟨r₂, hr₂, hk₂⟩ | ⟨⟨_, _, he, -⟩, -⟩
      · exact .inl ⟨r₂, hr₂, hk₁.trans hk₂⟩
      · cases he
    · cases he

theorem Event.kept (h : s.Holding) (event : Event)
    (hr : r' ∈ (event.apply s).store.queue.rows) :
    (∃ r ∈ s.store.queue.rows, r.Keeps r') ∨ ∃ q t, event = .enqueue q t := by
  rcases event.steps h.numbers with hs | ⟨t, rfl, hsweep, hpass⟩
  · exact hs.kept h.keyed hr
  · rcases hpass.kept (h.apply (.releaseStale t)).keyed hr with ⟨r₁, hr₁, hk₁⟩ | ⟨_, _, he⟩
    · rcases hsweep.kept h.keyed hr₁ with ⟨r, hr, hk⟩ | ⟨_, _, he⟩
      · exact .inl ⟨r, hr, hk.trans hk₁⟩
      · cases he
    · cases he

-- ---------------------------------------------------------------------------
-- Open dispatches
-- ---------------------------------------------------------------------------

/-- What is being dispatched is what its row asks for. -/
structure Faithful (s : Service) : Prop extends Holding s where
  entries : ∀ d ∈ s.unfinished, ∃ r ∈ s.store.queue.rows, r.Gives d.entry

namespace Faithful

/-- Retention spares the row of an open dispatch. -/
theorem gives_after (h : s.Faithful) (hs : Step s s' event) {d : Dispatch}
    (hd : d ∈ s.unfinished) : ∃ r ∈ s'.store.queue.rows, r.Gives d.entry := by
  obtain ⟨r, hr, hg⟩ := h.entries d hd
  rcases hs.keeps h.keyed hr with ⟨r', hr', hk⟩ | ⟨⟨_, _, -, -, hold⟩, -⟩
  · exact ⟨r', hr', hg.keeps hk⟩
  · obtain ⟨r₂, hr₂, hsending⟩ := h.sending d hd
    obtain ⟨hid, hst⟩ := Queue.Row.isSending_iff.mp hsending
    cases List.inj_on_of_nodup_map h.keyed.nodup hr hr₂ (hg.id_eq.symm.trans hid.symm)
    cases hst.symm.trans (Queue.Row.deliveredBefore_iff.mp hold).1

theorem step (h : s.Faithful) (hs : Step s s' event) (hh : s'.Holding) : s'.Faithful := by
  refine ⟨hh, fun d hd => ?_⟩
  have hold : d ∈ s.unfinished → ∃ r ∈ s'.store.queue.rows, r.Gives d.entry := h.gives_after hs
  cases hs with
  | rest hq hu => exact hold (hu.mem_iff.mp hd)
  | operate ha hdoes hw =>
    refine hold ?_
    rwa [unfinished, hw] at hd
  | @claim now _ _ entries hc hu =>
    rcases List.mem_append.mp (hu.mem_iff.mp hd) with hnew | hd
    · obtain ⟨-, -, -, hrows⟩ := Table.claim_ok h.keyed hc
      obtain ⟨r, hr, he⟩ := hrows d.entry (Holding.entry_mem_numbered hnew)
      obtain ⟨r', hr', hk⟩ := (Table.claim_moves h.keyed hc).keeps hr
      exact ⟨r', hr', _, hk.of_claimed now, he⟩
    · exact hold hd
  | ends hu => exact hold (hu.mem_iff.mpr (.tail _ hd))

theorem apply (h : s.Faithful) (event : Event) : (event.apply s).Faithful := by
  rcases event.steps h.numbers with hs | ⟨t, rfl, hsweep, hpass⟩
  · exact h.step hs (h.toHolding.apply event)
  · exact (h.step hsweep (h.toHolding.apply _)).step hpass (h.toHolding.apply (.tick t))

end Faithful

theorem run_faithful (h : s.Faithful) (events : List Event) : (run s events).Faithful := by
  induction events generalizing s with
  | nil => exact h
  | cons event rest ih => exact ih (h.apply event)

theorem create_faithful (settings : Settings) (policy : Policy) :
    (create {} settings policy).Faithful :=
  ⟨create_holding settings policy, fun _ hd => by cases hd⟩

-- ---------------------------------------------------------------------------
-- Runs
-- ---------------------------------------------------------------------------

def rowOf (s : Service) (q : Queue.Request) (t : Clock.Reading) (i : Int) : Row :=
  Queue.Request.row { q with maxRetries := s.policy.maxRetries } i t.now

def Has (s : Service) (asked : Row) : Prop :=
  ∃ r, s.store.queue.find? asked.id = some r ∧ asked.Keeps r

def Stands (s : Service) (events : List Event) (asked : Row) : Prop :=
  ∀ past, past <+: events → (run s past).Has asked

/-- The row was delivered before the days that retention keeps. -/
def Expired (s : Service) (now : Instant) (asked : Row) : Prop :=
  ∃ r at_ cutoff, s.store.queue.find? asked.id = some r ∧ r.state = .delivered ∧
    r.deliveredAt = some at_ ∧ now.daysBefore? s.settings.retentionDays = some cutoff ∧
    at_ < cutoff

theorem has_iff (hk : s.store.queue.Keyed) :
    s.Has asked ↔ ∃ r ∈ s.store.queue.rows, asked.Keeps r := by
  constructor
  · rintro ⟨r, hf, h⟩
    exact ⟨r, (Table.mem_rows_of_find? hf).1, h⟩
  · rintro ⟨r, hr, h⟩
    exact ⟨r, (Table.find?_eq_some hk).mpr ⟨hr, h.id⟩, h⟩

theorem Stands.nil (h : s.Has asked) : Stands s [] asked := by
  intro past hp
  rw [List.prefix_nil.mp hp]
  exact h

theorem Stands.cons (hs : s.Has asked) (h : Stands (event.apply s) events asked) :
    Stands s (event :: events) asked := by
  intro past hp
  cases past with
  | nil => exact hs
  | cons first past =>
    obtain ⟨rfl, hrest⟩ := List.cons_prefix_cons.mp hp
    exact h past hrest

theorem Stands.append (h : Stands s events asked) (hs : (run s (events ++ [event])).Has asked) :
    Stands s (events ++ [event]) asked := by
  intro past hp
  rcases List.prefix_concat_iff.mp hp with rfl | hp
  · exact hs
  · exact h past hp

theorem stands_or_expires (h : s.Holding) (hs : s.Has asked) (events : List Event) :
    Stands s events asked ∨ ∃ before now later, events = before ++ .retention now :: later ∧
      Stands s before asked ∧ Expired (run s before) now asked ∧
      (run s (before ++ [.retention now])).store.queue.find? asked.id = none := by
  induction events generalizing s with
  | nil => exact .inl (.nil hs)
  | cons event rest ih =>
    obtain ⟨r, hr, hkeeps⟩ := (has_iff h.keyed).mp hs
    rcases event.keeps h hr with ⟨r', hr', hkeeps'⟩ | ⟨⟨now, cutoff, rfl, hc, hold⟩, hnone⟩
    · have hs' := (has_iff (h.apply event).keyed).mpr ⟨r', hr', hkeeps.trans hkeeps'⟩
      rcases ih (h.apply event) hs' with hstands | ⟨before, now, later, rfl, hstands, hend⟩
      · exact .inl (.cons hs hstands)
      · exact .inr ⟨event :: before, now, later, rfl, .cons hs hstands, hend⟩
    · obtain ⟨hst, at_, hat, hlt⟩ := Queue.Row.deliveredBefore_iff.mp hold
      have hf := (Table.find?_eq_some h.keyed).mpr ⟨hr, hkeeps.id⟩
      rw [hkeeps.id] at hnone
      exact .inr ⟨[], now, rest, rfl, .nil hs, ⟨r, at_, cutoff, hf, hst, hat, hc, hlt⟩, hnone⟩

theorem enqueue_rows (h : enqueue q t s = .ok i s') :
    s'.store.queue.rows = s.store.queue.rows ++ [s.rowOf q t i] := by
  rcases enqueue_cases q t s with ⟨_, he⟩ | ⟨_, queue, hq, he⟩ <;> rw [he] at h <;> cases h
  obtain ⟨rfl, rfl, -⟩ := Table.enqueue_ok hq
  rfl

theorem enqueue_has (h : enqueue q t s = .ok i s') (hk : s'.store.queue.Keyed) :
    s'.Has (s.rowOf q t i) :=
  (has_iff hk).mpr ⟨_, by simp [enqueue_rows h], .refl _⟩

theorem apply_enqueue (h : enqueue q t s = .ok i s') : (Event.enqueue q t).apply s = s' := by
  rw [Event.apply, Event.perform, after_discard]
  exact after_ok h

theorem run_append (s : Service) (past rest : List Event) :
    run s (past ++ rest) = run (run s past) rest :=
  List.foldl_append

theorem run_enqueue {past : List Event} (h : enqueue q t (run start past) = .ok i s')
    (rest : List Event) : run start (past ++ .enqueue q t :: rest) = run s' rest := by
  rw [run_append, ← apply_enqueue h]
  rfl

def Traced (start : Service) (events : List Event) (r : Row) : Prop :=
  ∃ past q t rest i s', events = past ++ .enqueue q t :: rest ∧
    enqueue q t (run start past) = .ok i s' ∧
    Stands s' rest ((run start past).rowOf q t i) ∧ ((run start past).rowOf q t i).Keeps r

theorem Traced.append (h : Traced start events r)
    (hk : (run start (events ++ [event])).store.queue.Keyed)
    (hr : r' ∈ (run start (events ++ [event])).store.queue.rows) (hkeeps : r.Keeps r') :
    Traced start (events ++ [event]) r' := by
  obtain ⟨past, q, t, rest, i, s', rfl, hq, hstands, hkeeps'⟩ := h
  have hrun : run start (past ++ .enqueue q t :: rest ++ [event]) = run s' (rest ++ [event]) := by
    rw [List.append_assoc]
    exact run_enqueue hq _
  refine ⟨past, q, t, rest ++ [event], i, s', by simp, hq, hstands.append ?_, hkeeps'.trans hkeeps⟩
  rw [hrun] at hk hr
  exact (has_iff hk).mpr ⟨r', hr, hkeeps'.trans hkeeps⟩

theorem run_traced (h : start.Holding) (hnone : start.store.queue.rows = []) (events : List Event) :
    ∀ r ∈ (run start events).store.queue.rows, Traced start events r := by
  -- a row after the last event was kept by it, and so traced before, or was added by it
  induction events using List.reverseRecOn with
  | nil =>
    intro r hr
    rw [show run start [] = start from rfl, hnone] at hr
    cases hr
  | append_singleton events event ih =>
    intro r' hr'
    have hs := run_holding h events
    have hk := (run_holding h (events ++ [event])).keyed
    have hrun : run start (events ++ [event]) = event.apply (run start events) :=
      run_append start events [event]
    have old (r : Row) (hr : r ∈ (run start events).store.queue.rows) (hkeeps : r.Keeps r') :=
      (ih r hr).append hk hr' hkeeps
    rw [hrun] at hk hr'
    rcases event.kept hs hr' with ⟨r, hr, hkeeps⟩ | ⟨q, t, rfl⟩
    · exact old r hr hkeeps
    · cases he : enqueue q t (run start events) with
      | error fault s' =>
        rcases enqueue_cases q t (run start events) with ⟨_, hf⟩ | ⟨_, _, -, hf⟩ <;>
          rw [hf] at he <;> cases he
        rw [Event.apply, Event.perform, after_discard, after_error hf] at hr'
        exact old r' hr' (.refl r')
      | ok i s' =>
        rw [apply_enqueue he] at hk hr'
        rw [enqueue_rows he, List.mem_append, List.mem_singleton] at hr'
        rcases hr' with hr' | rfl
        · exact old r' hr' (.refl r')
        · exact ⟨events, q, t, [], i, s', rfl, he, .nil (enqueue_has he hk), .refl _⟩

-- ---------------------------------------------------------------------------
-- What is sent
-- ---------------------------------------------------------------------------

theorem get?_metadata (e : Queue.Entry) (recipient key : String) :
    Fields.get? (messageOf e recipient).metadata key =
      if key = "queue_id" then some (.int e.id)
      else if key = "priority" then some (.int e.priority)
      else Fields.get? e.values key := by
  have hm : (messageOf e recipient).metadata =
      Fields.put (Fields.put e.values "queue_id" (.int e.id)) "priority" (.int e.priority) := rfl
  rw [hm, Fields.get?_put, Fields.get?_put]
  by_cases hq : key = "queue_id"
  · simp [hq]
  · by_cases hp : key = "priority"
    · simp [hp]
    · simp [hq, hp, Ne.symm hq, Ne.symm hp]

/-- A send that begins is of a dispatch that has a slot, and its message is
that of the entry. -/
theorem begin_sending (h : begin number t s = .ok (.sending x) s') :
    x.dispatch ∈ s.unfinished ∧
      ∃ recipient, x.message = messageOf x.dispatch.entry recipient := by
  cases hp : s.worker.preparing? number with
  | none => cases h.symm.trans (beginIn_idle .own hp t)
  | some p =>
    rcases prepare_cases p.dispatch.entry s with
      ⟨channel, recipient, -, -, hok⟩ | ⟨fault, herr, -⟩
    · cases h.symm.trans (beginIn_sending hp hok t)
      exact ⟨holder_unfinished (Worker.preparing?_holds hp), recipient, rfl⟩
    · cases h.symm.trans (beginIn_ended hp herr t)

/-- Whatever comes of the run, a notification that was accepted stands, with
everything that was asked for, until it expires and retention deletes it; and
what a channel is given for an id is what was asked for by the notification
that stands under it. -/
theorem notifications_kept (settings : Settings) (policy : Policy) (events : List Event) :
    let start := create {} settings policy
    (∀ past q t rest i s', events = past ++ .enqueue q t :: rest →
      enqueue q t (run start past) = .ok i s' →
      let asked := (run start past).rowOf q t i
      Stands s' rest asked ∨ ∃ before now later, rest = before ++ .retention now :: later ∧
        Stands s' before asked ∧ Expired (run s' before) now asked ∧
        (run s' (before ++ [.retention now])).store.queue.find? i = none) ∧
    ∀ number t x s'', begin number t (run start events) = .ok (.sending x) s'' →
      ∃ past q t rest i s', events = past ++ .enqueue q t :: rest ∧
        enqueue q t (run start past) = .ok i s' ∧
        Stands s' rest ((run start past).rowOf q t i) ∧
        x.dispatch.entry.id = i ∧ x.message.subject = q.subject ∧ x.message.body = q.body ∧
        ∀ key, Fields.get? x.message.metadata key =
          if key = "queue_id" then some (.int i)
          else if key = "priority" then some (.int q.priority)
          else Fields.get? q.values key := by
  intro start
  have h : start.Faithful := create_faithful settings policy
  constructor
  · intro past q t rest i s' _ hq
    have hs' : s'.Holding := by
      rw [← apply_enqueue hq]
      exact (run_holding h.toHolding past).apply _
    exact stands_or_expires hs' (enqueue_has hq hs'.keyed) rest
  · intro number t x s'' hb
    obtain ⟨hd, recipient, hm⟩ := begin_sending hb
    obtain ⟨r, hr, r₀, hgives, hentry⟩ := (run_faithful h events).entries _ hd
    obtain ⟨past, q, t, rest, i, s', hevents, hq, hstands, hasked⟩ :=
      run_traced h.toHolding rfl events r hr
    have hid : r.id = i := hasked.id
    have hpriority : r.priority = q.priority := hasked.priority
    have hsubject : r.subject = some q.subject := hasked.subject
    have hbody : r.body = q.body := hasked.body
    have hvalues : r.values = some q.values := hasked.values
    rw [hm, hentry]
    refine ⟨past, q, t, rest, i, s', hevents, hq, hstands, ?_, ?_, ?_, ?_⟩
    · exact hgives.id.symm.trans hid
    · simp [messageOf, Row.toEntry, ← hgives.subject, hsubject]
    · simp [messageOf, Row.toEntry, ← hgives.body, hbody]
    · intro key
      rw [get?_metadata]
      simp [Row.toEntry, ← hgives.id, hid, ← hgives.priority, hpriority, ← hgives.values, hvalues]

def Begun.sending? : Begun → Option Sending
  | .sending x => some x
  | _ => none

def storm : Queue.Request :=
  { channel := "email", subject := "Storm",
    values := [("recipient", .text "a@b"), ("queue_id", .int 99)] }

def stormQueued : List Event := [
  .arrange { registry := ⟨[⟨.rehearsed "email" "" [] 0, []⟩]⟩ },
  .enqueue storm ⟨0, .first⟩, .process .first ⟨0, .first⟩, .turn 0 ⟨0, .first⟩]

/-- It stands through the pass that claims it, and is sent with its own id. -/
theorem notifications_kept_storm :
    let s := run (create {} {} {}) (stormQueued.take 1)
    (∃ i s', enqueue storm ⟨0, .first⟩ s = .ok i s' ∧
      Stands s' (stormQueued.drop 2) (s.rowOf storm ⟨0, .first⟩ i)) ∧
    ∃ x s'', begin 0 ⟨0, .first⟩ (run (create {} {} {}) stormQueued) =
        .ok (.sending x) s'' ∧ Fields.get? x.message.metadata "queue_id" = some (.int 1) := by
  intro s
  obtain ⟨hstands, hsends⟩ := notifications_kept {} {} stormQueued
  constructor
  · have hid : (enqueue storm ⟨0, .first⟩).run' s = some 1 := by decide +kernel
    obtain ⟨s', hq⟩ := ok_of_run' hid
    refine ⟨1, s', hq, ?_⟩
    rcases hstands _ storm _ _ 1 s' rfl hq with h | ⟨before, now, later, hrest, -⟩
    · exact h
    · have hmem : Event.retention now ∈ stormQueued.drop 2 := by simp [stormQueued, hrest]
      simp [stormQueued] at hmem
  · have hx : (((begin 0 ⟨0, .first⟩).run' (run (create {} {} {}) stormQueued)).bind
        Begun.sending?).map (·.dispatch.entry.id) = some 1 := by decide +kernel
    obtain ⟨x, hx, hid⟩ := Option.map_eq_some_iff.mp hx
    obtain ⟨begun, hb, hx⟩ := Option.bind_eq_some_iff.mp hx
    obtain ⟨s'', hb⟩ := ok_of_run' hb
    cases begun <;> cases hx
    obtain ⟨_, _, _, _, i, _, _, _, _, hi, _, _, hkeys⟩ := hsends _ _ x s'' hb
    refine ⟨x, s'', hb, ?_⟩
    rw [hkeys, if_pos rfl, ← hi, hid]

end Service

end AlertDelivery
