import AlertDelivery.Proofs.Service.Holding

/-!
# A worker whose queue others work on

Others may do anything to the queue of a service, sweeps that spare none of
its claims included. They leave its worker alone, and each event of its own
makes of the worker one that may come `Next`. What this does to the
dispatches that have not ended and to the held ids is a `Change`.
-/

namespace AlertDelivery

namespace Worker

/-- What an event is to a worker: that a dispatch has its turn, that one
begins, or anything else. -/
inductive Cue where
  | turn (number : Nat)
  | begin
  | other

def Cue.turn? : Cue → Option Nat
  | .turn number => some number
  | _ => none

inductive Next (w : Worker) : Cue → Worker → Prop
  | stay {cue : Cue} (stamps : List Rat) : Next w cue { w with stamps }
  | policy {cue : Cue} (policy : Policy) : Next w cue (w.setPolicy policy)
  | claim {cue : Cue} (entries : List Queue.Entry) (seconds : Rat) (stamps : List Rat) :
      Next w cue { w.takeOver entries seconds with stamps }
  | turn (number : Nat) (seconds : Rat) : Next w (.turn number) (w.turn number seconds)
  | start {number : Nat} {p : Preparing} {x : Sending} (hp : w.preparing? number = some p)
      (hx : x.dispatch = p.dispatch) : Next w .begin (w.beginSend x)
  | ends {cue : Cue} {d : Dispatch} (hd : d ∈ w.holders) : Next w cue (w.dismiss d)

theorem Next.refl (w : Worker) (cue : Cue) : w.Next cue w := .stay w.stamps

end Worker

namespace Service

inductive SharedEvent where
  | own (e : Event)
  | foreign (e : Queue.Event)

def Event.cue : Event → Worker.Cue
  | .turn number _ => .turn number
  | .begin .. => .begin
  | _ => .other

def SharedEvent.cue : SharedEvent → Worker.Cue
  | .own e => e.cue
  | .foreign _ => .other

def SharedEvent.apply : SharedEvent → Service → Service
  | .own e, s => e.apply s
  | .foreign e, s => { s with store := e.apply s.store }

def runShared (s : Service) (events : List SharedEvent) : Service :=
  events.foldl (fun s e => e.apply s) s

variable {s : Service} {cue : Worker.Cue}

theorem runShared_append (s : Service) (past rest : List SharedEvent) :
    runShared s (past ++ rest) = runShared (runShared s past) rest :=
  List.foldl_append

-- ---------------------------------------------------------------------------
-- Events
-- ---------------------------------------------------------------------------

theorem begin_next (number : Nat) (t : Clock.Reading) (s : Service) :
    s.worker.Next .begin (after (begin number t) s).worker := by
  rcases begin_cases number t s with ⟨-, hb⟩ | ⟨p, hp, ⟨x, hx, -, -, hb⟩ | ⟨fault, -, he⟩⟩
  · rw [hb]
    exact .refl _ _
  · rw [hb]
    exact .start hp hx
  · rw [he.worker]
    exact .ends (Worker.preparing?_holds hp)

theorem finish_next (number : Nat) (result : Except Fault Unit) (t : Clock.Reading)
    (s : Service) : s.worker.Next cue (after (finish number result t) s).worker := by
  rcases finish_cases number result t s with hf | ⟨x, hx, he⟩
  · rw [hf]
    exact .refl _ _
  · rw [he.worker]
    exact .ends (Worker.sending?_holds hx)

theorem process_next (now : Instant) (t : Clock.Reading) (s : Service) :
    s.worker.Next cue (after (process now t) s).worker := by
  rcases process_cases now t s with ⟨stamps, hp⟩ | ⟨_, entries, _, stamps, -, hp⟩ <;> rw [hp]
  · exact .stay stamps
  · exact .claim entries t.seconds stamps

theorem releaseStale_worker (t : Clock.Reading) (s : Service) :
    (after (releaseStale t) s).worker = s.worker := by
  rcases releaseStale_cases t s with hr | ⟨_, -, hr⟩ <;> rw [hr]
  rfl

theorem Event.next (e : Event) (s : Service) : s.worker.Next e.cue (e.apply s).worker := by
  unfold Event.apply
  cases e with
  | enqueue q t =>
    rw [Event.perform, after_discard]
    rcases enqueue_cases q t s with ⟨_, he⟩ | ⟨_, _, -, he⟩
    · rw [after_error he]
      exact .refl _ _
    · rw [after_ok he]
      exact .refl _ _
  | process now t =>
    rw [Event.perform, after_discard]
    exact process_next now t s
  | releaseStale t =>
    rw [Event.perform, after_discard, releaseStale_worker]
    exact .refl _ _
  | tick t =>
    rw [Event.perform, after_discard]
    have hr := releaseStale_worker t s
    rcases tick_cases t s with ht | ht <;> rw [ht]
    · rw [hr]
      exact .refl _ _
    · exact hr ▸ process_next t.now t _
  | requeue ids now =>
    rw [Event.perform, after_discard]
    rcases requeue_cases ids now s with ⟨_, he⟩ | ⟨_, _, -, he⟩
    · rw [after_error he]
      exact .refl _ _
    · rw [after_ok he]
      exact .refl _ _
  | retention now =>
    rw [Event.perform, after_discard]
    rcases sweep_cases now s with hr | ⟨_, _, -, -, hr⟩ <;> rw [hr] <;> exact .refl _ _
  | reload =>
    rw [Event.perform, after_discard]
    rcases reloadPolicy_cases s with hr | ⟨policy, -, hr⟩ <;> rw [hr]
    · exact .refl _ _
    · exact .policy policy
  | workerPolicy policy => exact .policy policy
  | turn number t => exact .turn number t.seconds
  | begin number t =>
    rw [Event.perform, after_discard]
    exact begin_next number t s
  | finish number result t => exact finish_next number result t s
  | outage isUp => exact .refl _ _
  | arrange x => exact .refl _ _

theorem SharedEvent.next (e : SharedEvent) (s : Service) :
    s.worker.Next e.cue (e.apply s).worker := by
  cases e with
  | own e => exact e.next s
  | foreign e => exact .refl _ _

end Service

-- ---------------------------------------------------------------------------
-- Dispatches and held ids
-- ---------------------------------------------------------------------------

namespace Worker

variable {w w' : Worker} {cue : Cue}

/-- The dispatches have numbers of their own, all given out, and no id is held
but theirs. -/
structure Counted (w : Worker) : Prop where
  numbers : (w.dispatches.map (·.number)).Nodup
  numbered : ∀ d ∈ w.dispatches, d.number < w.nextNumber
  held : ∀ i ∈ w.held, ∃ d ∈ w.dispatches, d.entry.id = i

/-- What an event does to the dispatches that have not ended, with the held
ids: nothing, or entries are claimed, or one dispatch ends. -/
inductive Change (w w' : Worker) : Prop
  | none (hp : w'.dispatches.Perm w.dispatches) (hh : w'.held = w.held)
      (hn : w'.nextNumber = w.nextNumber)
  | claim (entries : List Queue.Entry)
      (hp : w'.dispatches.Perm (numbered w.nextNumber entries ++ w.dispatches))
      (hh : w'.held = (entries.map (·.id)).foldl hold w.held)
      (hn : w'.nextNumber = w.nextNumber + entries.length)
  | ending (d : Dispatch) (hp : w.dispatches.Perm (d :: w'.dispatches))
      (hh : w'.held = w.held.filter (· != d.entry.id)) (hn : w'.nextNumber = w.nextNumber)

theorem Next.change (h : w.Next cue w') (hc : w.Counted) : w.Change w' := by
  cases h with
  | stay stamps => exact .none (.refl _) rfl rfl
  | policy policy => exact .none (.of_eq (setPolicy_dispatches w policy)) rfl rfl
  | claim entries seconds stamps =>
    exact .claim entries (w.takeOver_dispatches entries seconds stamps) rfl rfl
  | turn number seconds =>
    exact .none (turn_dispatches hc.numbers number seconds) (turn_held ..) (turn_nextNumber ..)
  | start hp hx => exact .none (beginSend_dispatches hc.numbers hp hx) rfl rfl
  | ends hd => exact .ending _ (dismiss_dispatches hc.numbers hd) rfl rfl

namespace Change

theorem counted (h : w.Change w') (hc : w.Counted) : w'.Counted := by
  cases h with
  | none hp hh hn =>
    exact {
      numbers := (hp.map _).nodup_iff.mpr hc.numbers
      numbered := fun d hd => hn ▸ hc.numbered d (hp.mem_iff.mp hd)
      held := fun i hi => by
        obtain ⟨d, hd, hid⟩ := hc.held i (hh ▸ hi)
        exact ⟨d, hp.mem_iff.mpr hd, hid⟩ }
  | claim entries hp hh hn =>
    exact {
      numbers := by
        refine (hp.map _).nodup_iff.mpr ?_
        rw [List.map_append, Service.Holding.numbered_number]
        refine List.nodup_append.mpr ⟨List.nodup_range', hc.numbers, ?_⟩
        rintro _ hi _ hj rfl
        obtain ⟨d, hd, rfl⟩ := List.mem_map.mp hj
        have hge := (List.mem_range'_1.mp hi).1
        have hlt := hc.numbered d hd
        omega
      numbered := fun d hd => by
        rw [hn]
        rcases List.mem_append.mp (hp.mem_iff.mp hd) with hd | hd
        · exact (Service.Holding.number_mem_numbered hd).2
        · exact Nat.lt_add_right _ (hc.numbered d hd)
      held := fun i hi => by
        rcases (Service.Holding.mem_foldl_hold _ _ i).mp (hh ▸ hi) with hi | hi
        · obtain ⟨d, hd, hid⟩ := hc.held i hi
          exact ⟨d, hp.mem_iff.mpr (List.mem_append_right _ hd), hid⟩
        · rw [← Service.Holding.numbered_ids w.nextNumber] at hi
          obtain ⟨d, hd, hid⟩ := List.mem_map.mp hi
          exact ⟨d, hp.mem_iff.mpr (List.mem_append_left _ hd), hid⟩ }
  | ending ended hp hh hn =>
    have hnodup := (hp.map (·.number)).nodup_iff.mp hc.numbers
    rw [List.map_cons, List.nodup_cons] at hnodup
    exact {
      numbers := hnodup.2
      numbered := fun d hd => hn ▸ hc.numbered d (hp.mem_iff.mpr (.tail _ hd))
      held := fun i hi => by
        rw [hh, List.mem_filter, bne_iff_ne] at hi
        obtain ⟨d, hd, hid⟩ := hc.held i hi.1
        rcases List.mem_cons.mp (hp.mem_iff.mp hd) with rfl | hd
        · exact absurd hid.symm hi.2
        · exact ⟨d, hd, hid⟩ }

theorem nextNumber_le (h : w.Change w') : w.nextNumber ≤ w'.nextNumber := by
  cases h with
  | none _ _ hn => omega
  | claim _ _ _ hn => omega
  | ending _ _ _ hn => omega

end Change

end Worker

namespace Service

variable {s start : Service}

theorem create_counted (store : Store) (settings : Settings) (policy : Policy) :
    (create store settings policy).worker.Counted where
  numbers := List.nodup_nil
  numbered _ h := by cases h
  held _ h := by cases h

theorem SharedEvent.change (e : SharedEvent) (hc : s.worker.Counted) :
    s.worker.Change (e.apply s).worker :=
  (e.next s).change hc

theorem runShared_counted (hc : start.worker.Counted) (events : List SharedEvent) :
    (runShared start events).worker.Counted := by
  induction events generalizing start with
  | nil => exact hc
  | cons e rest ih => exact ih ((e.change hc).counted hc)

theorem runShared_nextNumber (hc : start.worker.Counted) (events : List SharedEvent) :
    start.worker.nextNumber ≤ (runShared start events).worker.nextNumber := by
  induction events generalizing start with
  | nil => exact Nat.le_refl _
  | cons e rest ih =>
    have h := e.change hc
    exact Nat.le_trans h.nextNumber_le (ih (h.counted hc))

end Service

end AlertDelivery
