import AlertDelivery.Proofs.Service.SharedQueue
import Mathlib.Data.List.Induction

/-!
# The slots of a worker

`Watched` looks at a run of a service and notes what comes to the wait for a
slot, what leaves it and what gives its slot back, by what it sees of the
worker before and after each event. Of every run it sees the same: a dispatch
leaves the wait only while the policy has a slot for it, nobody sleeps while
one is free, and each dispatch has its slot still or has given it back once.

They leave the wait in the order of their claims as long as whoever sleeps is
woken when none is ready. One that is ready already has its turn before those
that are woken, and may take the slot that they were woken for.
-/

namespace AlertDelivery

def Dispatch.without (ds gone : List Dispatch) : List Dispatch :=
  ds.filter fun d => !gone.any (·.number == d.number)

namespace Worker

def arrivals (w w' : Worker) : List Dispatch := Dispatch.without w'.waiting w.waiting

/-- The dispatches that leave the wait for a slot between two moments. -/
def admissions (w w' : Worker) : List Dispatch := Dispatch.without w.waiting w'.waiting

def returns (w w' : Worker) : List Dispatch := Dispatch.without w.holders w'.holders

/-- The slots are counted, and whoever sleeps finds none free. -/
structure Kept (w : Worker) : Prop extends Counted w where
  active : w.active = w.holders.length
  full : w.asleep ≠ [] → w.hasFreeSlot = false

end Worker

open Dispatch (without)
open scoped List

variable {ds gone rest : List Dispatch} {d : Dispatch} {w w' : Worker} {cue : Worker.Cue}

-- ---------------------------------------------------------------------------
-- Lists of dispatches
-- ---------------------------------------------------------------------------

namespace Dispatch

theorem without_self (h : ∀ d ∈ ds, d ∈ gone) : without ds gone = [] :=
  List.filter_eq_nil_iff.mpr fun d hd => by simpa using ⟨d, h d hd, rfl⟩

theorem without_eq (h : ∀ d ∈ ds, ∀ g ∈ gone, g.number ≠ d.number) : without ds gone = ds :=
  List.filter_eq_self.mpr fun d hd => by simpa using h d hd

theorem without_append (ds ds' gone : List Dispatch) :
    without (ds ++ ds') gone = without ds gone ++ without ds' gone :=
  List.filter_append ds ds'

theorem without_one (hn : (ds.map (·.number)).Nodup) (h : ds.Perm (d :: rest)) :
    without ds rest = [d] := by
  have hnumbers := (h.map (·.number)).nodup_iff.mp hn
  rw [List.map_cons, List.nodup_cons] at hnumbers
  have hd : without [d] rest = [d] := without_eq fun g hg d' hd' heq => by
    rw [List.mem_singleton.mp hg] at heq
    exact hnumbers.1 (heq ▸ List.mem_map_of_mem hd')
  have hrest : without rest rest = [] := without_self fun _ => id
  have hleft : without (d :: rest) rest = [d] := by
    rw [← List.singleton_append, without_append, hd, hrest, List.append_nil]
  exact List.perm_singleton.mp (hleft ▸ h.filter _)

end Dispatch

-- ---------------------------------------------------------------------------
-- One event
-- ---------------------------------------------------------------------------

namespace Worker

theorem Kept.waiting (hk : w.Kept) : (w.waiting.map (·.number)).Nodup := by
  have h := hk.numbers
  rw [dispatches, List.map_append] at h
  exact (List.nodup_append.mp h).1

theorem Kept.hasFreeSlot (hk : w.Kept) :
    w.hasFreeSlot = w.policy.queueWorkers.gtInt w.holders.length := by
  rw [Worker.hasFreeSlot, hk.active]

theorem Kept.awake (hk : w.Kept) (hf : w.hasFreeSlot = true) : w.asleep = [] := by
  by_contra hne
  cases hf.symm.trans (hk.full hne)

theorem Kept.ended (hk : w.Kept) (hnone : w.dispatches = []) : w.active = 0 ∧ w.held = [] := by
  constructor
  · rw [hk.active, (List.append_eq_nil_iff.mp hnone).2]
    rfl
  · refine List.eq_nil_iff_forall_not_mem.mpr fun i hi => ?_
    obtain ⟨d, hd, -⟩ := hk.held i hi
    rw [hnone] at hd
    cases hd

theorem Next.kept (h : w.Next cue w') (hk : w.Kept) : w'.Kept := by
  have hc := (h.change hk.toCounted).counted hk.toCounted
  cases h with
  | stay stamps => exact ⟨hc, hk.active, hk.full⟩
  | policy policy => exact ⟨hc, hk.active, fun hne => absurd rfl hne⟩
  | claim entries seconds stamps => exact ⟨hc, hk.active, hk.full⟩
  | turn number seconds =>
    rcases w.turn_cases number seconds with ⟨-, h⟩ | ⟨d, -, ⟨hf, h⟩ | ⟨hf, h⟩⟩
    · rwa [h]
    · rw [h] at hc ⊢
      refine ⟨hc, ?_, fun hne => absurd (hk.awake hf) hne⟩
      have hlength := congrArg Int.ofNat (w.holders_preparing ⟨d, seconds⟩).length_eq
      exact (congrArg (· + 1) hk.active).trans hlength.symm
    · rw [h] at hc ⊢
      exact ⟨hc, hk.active, fun _ => hf⟩
  | start hp hx =>
    refine ⟨hc, ?_, hk.full⟩
    rw [(beginSend_holders hk.numbers hp hx).length_eq]
    exact hk.active
  | @ends _ d hd =>
    refine ⟨hc, ?_, fun hne => absurd rfl hne⟩
    have hlength := (perm_cons_filter (numbers_holders hk.numbers) hd).length_eq
    have hactive : (w.dismiss d).active = w.active - 1 := rfl
    rw [List.length_cons, ← dismiss_holders] at hlength
    rw [hactive, hk.active]
    omega

/-- What an event does to those that wait for a slot and to those that have
one. -/
inductive Flow (w w' : Worker) : Prop
  | stay (hw : w'.waiting.Perm w.waiting) (hh : w'.holders.Perm w.holders)
      (hn : w'.nextNumber = w.nextNumber)
  | arrive (entries : List Queue.Entry)
      (hw : w'.waiting = w.ready ++ numbered w.nextNumber entries ++ w.asleep)
      (hh : w'.holders = w.holders) (hn : w'.nextNumber = w.nextNumber + entries.length)
  | start (d : Dispatch) (hf : w.hasFreeSlot = true) (hw : w.waiting.Perm (d :: w'.waiting))
      (hh : w'.holders.Perm (d :: w.holders)) (hn : w'.nextNumber = w.nextNumber)
      (hp : w'.policy = w.policy)
  | giveBack (d : Dispatch) (hw : w'.waiting = w.waiting) (hh : w.holders.Perm (d :: w'.holders))
      (hn : w'.nextNumber = w.nextNumber)

theorem Next.flow (h : w.Next cue w') (hc : w.Counted) : w.Flow w' := by
  cases h with
  | stay stamps => exact .stay (.refl _) (.refl _) rfl
  | policy policy => exact .stay (.of_eq (setPolicy_waiting w policy)) (.refl _) rfl
  | claim entries seconds stamps => exact .arrive entries rfl rfl rfl
  | turn number seconds =>
    rcases w.turn_cases number seconds with ⟨-, h⟩ | ⟨d, hd, hcase⟩
    · rw [h]
      exact .stay (.refl _) (.refl _) rfl
    · have hready := (ready_perm (numbers_ready hc.numbers) hd).append_right w.asleep
      rcases hcase with ⟨hf, h⟩ | ⟨-, h⟩ <;> rw [h]
      · exact .start d hf hready (w.holders_preparing ⟨d, seconds⟩) rfl rfl
      · refine .stay (.trans ?_ hready.symm) (.refl _) rfl
        rw [Worker.waiting, ← List.append_assoc]
        exact List.perm_append_singleton d _
  | start hp hx => exact .stay (.refl _) (beginSend_holders hc.numbers hp hx) rfl
  | @ends _ d hd =>
    refine .giveBack d (dismiss_waiting w d) ?_ rfl
    rw [dismiss_holders]
    exact perm_cons_filter (numbers_holders hc.numbers) hd

theorem arrivals_nil (h : ∀ d ∈ w'.waiting, d ∈ w.waiting) : w.arrivals w' = [] :=
  Dispatch.without_self h

theorem admissions_nil (h : ∀ d ∈ w.waiting, d ∈ w'.waiting) : w.admissions w' = [] :=
  Dispatch.without_self h

theorem arrivals_numbered (hc : w.Counted) {entries : List Queue.Entry}
    (hw : w'.waiting = w.ready ++ numbered w.nextNumber entries ++ w.asleep) :
    w.arrivals w' = numbered w.nextNumber entries := by
  have hready : without w.ready w.waiting = [] :=
    Dispatch.without_self fun _ => List.mem_append_left _
  have hasleep : without w.asleep w.waiting = [] :=
    Dispatch.without_self fun _ => List.mem_append_right _
  have hnew : without (numbered w.nextNumber entries) w.waiting =
      numbered w.nextNumber entries := Dispatch.without_eq fun d hd g hg heq => by
    have hlt := hc.numbered g (List.mem_append_left _ hg)
    have hge := (Service.Holding.number_mem_numbered hd).1
    omega
  rw [arrivals, hw, Dispatch.without_append, Dispatch.without_append, hready, hasleep, hnew,
    List.nil_append, List.append_nil]

structure Balanced (w w' : Worker) : Prop where
  numbered : (w.arrivals w').map (·.number) =
    List.range' w.nextNumber (w'.nextNumber - w.nextNumber)
  waiting : (w.waiting ++ w.arrivals w').Perm (w.admissions w' ++ w'.waiting)
  holders : (w.holders ++ w.admissions w').Perm (w.returns w' ++ w'.holders)

theorem Flow.balanced (h : w.Flow w') (hk : w.Kept) : w.Balanced w' := by
  cases h with
  | stay hw hh hn =>
    have ha : w.arrivals w' = [] := arrivals_nil fun d hd => hw.mem_iff.mp hd
    have hd : w.admissions w' = [] := admissions_nil fun d hd => hw.mem_iff.mpr hd
    have hr : w.returns w' = [] := Dispatch.without_self fun d hd => hh.mem_iff.mpr hd
    constructor
    · rw [ha, hn, Nat.sub_self]
      rfl
    · rw [ha, hd, List.append_nil]
      exact hw.symm
    · rw [hd, hr, List.append_nil]
      exact hh.symm
  | arrive entries hw hh hn =>
    have ha := arrivals_numbered hk.toCounted hw
    have hmid : (w.waiting ++ Worker.numbered w.nextNumber entries).Perm w'.waiting := by
      rw [hw, Worker.waiting, List.append_assoc, List.append_assoc]
      exact List.perm_append_comm.append_left w.ready
    have hd : w.admissions w' = [] :=
      admissions_nil fun d hd => hmid.mem_iff.mp (List.mem_append_left _ hd)
    have hr : w.returns w' = [] := Dispatch.without_self fun d hd => hh ▸ hd
    constructor
    · rw [ha, hn, Nat.add_sub_cancel_left, Service.Holding.numbered_number]
    · rwa [ha, hd]
    · rw [hd, hr, hh, List.append_nil]
      exact .refl _
  | start d _ hw hh hn =>
    have ha : w.arrivals w' = [] :=
      arrivals_nil fun d hd => hw.mem_iff.mpr (List.mem_cons_of_mem _ hd)
    have hd : w.admissions w' = [d] := Dispatch.without_one hk.waiting hw
    have hr : w.returns w' = [] :=
      Dispatch.without_self fun d hd => hh.mem_iff.mpr (List.mem_cons_of_mem _ hd)
    constructor
    · rw [ha, hn, Nat.sub_self]
      rfl
    · rwa [ha, hd, List.append_nil]
    · rw [hd, hr]
      exact (List.perm_append_singleton d _).trans hh.symm
  | giveBack d hw hh hn =>
    have ha : w.arrivals w' = [] := arrivals_nil fun d hd => hw ▸ hd
    have hd : w.admissions w' = [] := admissions_nil fun d hd => hw ▸ hd
    have hr : w.returns w' = [d] := Dispatch.without_one (numbers_holders hk.numbers) hh
    constructor
    · rw [ha, hn, Nat.sub_self]
      rfl
    · rw [ha, hd, hw, List.append_nil]
      exact .refl _
    · rwa [hd, hr, List.append_nil]

theorem Next.admits (h : w.Next cue w') (hk : w.Kept) (hd : d ∈ w.admissions w') :
    w.admissions w' = [d] ∧ w'.holders.Perm (d :: w.holders) ∧ w'.policy = w.policy ∧
      w.policy.queueWorkers.gtInt w.holders.length = true ∧ w.asleep = [] := by
  have hsame (hsub : ∀ d ∈ w.waiting, d ∈ w'.waiting) : d ∈ ([] : List Dispatch) :=
    Dispatch.without_self hsub ▸ hd
  cases h.flow hk.toCounted with
  | stay hw => exact nomatch hsame fun d hd => hw.mem_iff.mpr hd
  | arrive entries hw =>
    refine nomatch hsame fun d hd => ?_
    rw [hw]
    simp only [waiting, List.mem_append] at hd ⊢
    tauto
  | start admitted hf hw hh _ hp =>
    have hadmits : w.admissions w' = [admitted] := Dispatch.without_one hk.waiting hw
    rw [hadmits] at hd ⊢
    cases List.mem_singleton.mp hd
    exact ⟨rfl, hh, hp, hk.hasFreeSlot ▸ hf, hk.awake hf⟩
  | giveBack _ hw => exact nomatch hsame fun d hd => hw ▸ hd

theorem Kept.turn_first (hk : w.Kept) (hr : w.ready = d :: rest) (seconds : Rat) :
    w.turn d.number seconds = if w.hasFreeSlot then
        { w with
          ready := rest, active := w.active + 1, preparing := w.preparing ++ [⟨d, seconds⟩] }
      else { w with ready := rest, asleep := w.asleep ++ [d] } := by
  have hd : w.ready? d.number = some d := by simp [ready?, hr]
  have hn := numbers_ready hk.numbers
  rw [hr, List.map_cons, List.nodup_cons] at hn
  have hrest : w.ready.filter (·.number != d.number) = rest := by
    rw [hr, List.filter_cons_of_neg (by simp)]
    exact List.filter_eq_self.mpr fun c hc => bne_iff_ne.mpr fun heq =>
      hn.1 (heq ▸ List.mem_map_of_mem hc)
  rcases w.turn_cases d.number seconds with ⟨hnone, -⟩ | ⟨d', hd', hcase⟩
  · cases hd.symm.trans hnone
  · cases hd.symm.trans hd'
    rw [hrest] at hcase
    rcases hcase with ⟨hf, h⟩ | ⟨hf, h⟩ <;> simp [h, hf]

theorem Kept.turn_inOrder (hk : w.Kept) (hr : w.ready = d :: rest) (seconds : Rat) :
    w.asleep ++ w.ready ++ w.arrivals (w.turn d.number seconds) =
      w.admissions (w.turn d.number seconds) ++
        ((w.turn d.number seconds).asleep ++ (w.turn d.number seconds).ready) := by
  have hwaiting : w.waiting = d :: (rest ++ w.asleep) := congrArg (· ++ w.asleep) hr
  have h := hk.turn_first hr seconds
  cases hf : w.hasFreeSlot with
  | true =>
    rw [if_pos hf] at h
    have hleft : w.waiting = d :: (w.turn d.number seconds).waiting := by rw [h, hwaiting]; rfl
    have ha : w.arrivals (w.turn d.number seconds) = [] :=
      arrivals_nil fun d hd => hleft ▸ List.mem_cons_of_mem _ hd
    have hadmit : w.admissions (w.turn d.number seconds) = [d] :=
      Dispatch.without_one hk.waiting (.of_eq hleft)
    rw [ha, hadmit, h, hk.awake hf, hr, List.append_nil]
    rfl
  | false =>
    rw [if_neg (by simp [hf])] at h
    have hmoved : (w.turn d.number seconds).waiting ~ w.waiting := by
      rw [h, hwaiting, Worker.waiting, ← List.append_assoc]
      exact List.perm_append_singleton d _
    rw [arrivals_nil fun d hd => hmoved.mem_iff.mp hd,
      admissions_nil fun d hd => hmoved.mem_iff.mpr hd, h, hr]
    simp

/-- With the first of those that are ready having its turn, and whoever sleeps
woken when none is ready, the wait is left at one end and joined at the
other. -/
theorem Next.inOrder (h : w.Next cue w') (hk : w.Kept)
    (hfirst : ∀ number ∈ cue.turn?, ∀ d ∈ w.ready.head?, d.number = number)
    (hwake : w.asleep ≠ [] → w'.asleep = [] → w.ready = []) :
    w.asleep ++ w.ready ++ w.arrivals w' = w.admissions w' ++ (w'.asleep ++ w'.ready) := by
  have same (hw : w'.waiting = w.waiting) (hline : w'.asleep ++ w'.ready = w.asleep ++ w.ready) :
      w.asleep ++ w.ready ++ w.arrivals w' = w.admissions w' ++ (w'.asleep ++ w'.ready) := by
    rw [arrivals_nil fun d hd => hw ▸ hd, admissions_nil fun d hd => hw ▸ hd, hline,
      List.append_nil, List.nil_append]
  have woken (hasleep : w'.asleep = []) (hready : w'.ready = w.waiting) :
      w'.asleep ++ w'.ready = w.asleep ++ w.ready := by
    rw [hasleep, hready, waiting, List.nil_append]
    by_cases hnone : w.asleep = []
    · rw [hnone, List.append_nil, List.nil_append]
    · rw [hwake hnone hasleep, List.append_nil, List.nil_append]
  cases h with
  | stay stamps => exact same rfl rfl
  | policy policy => exact same (setPolicy_waiting w policy) (woken rfl rfl)
  | claim entries seconds stamps =>
    rw [arrivals_numbered hk.toCounted rfl, admissions_nil, List.append_assoc]
    · rfl
    · intro d hd
      rcases List.mem_append.mp hd with hd | hd
      · exact List.mem_append_left _ (List.mem_append_left _ hd)
      · exact List.mem_append_right _ hd
  | turn number seconds =>
    cases hr : w.ready with
    | nil =>
      have hidle : w.turn number seconds = w := by simp [Worker.turn, ready?, hr]
      rw [← hr]
      exact same (congrArg Worker.waiting hidle) (by rw [hidle])
    | cons d rest =>
      obtain rfl : d.number = number := hfirst number rfl d (by simp [hr])
      rw [← hr]
      exact hk.turn_inOrder hr seconds
  | start hp hx => exact same rfl rfl
  | @ends _ d hd => exact same (dismiss_waiting w d) (woken rfl rfl)

end Worker

-- ---------------------------------------------------------------------------
-- Runs
-- ---------------------------------------------------------------------------

namespace Service

/-- A service in the course of a run, with what was seen of its slots: the
dispatches as they were claimed, as they left the wait, and as they gave
their slots back. -/
structure Watched where
  service : Service
  claimed : List Dispatch := []
  admitted : List Dispatch := []
  returned : List Dispatch := []

def Watched.step (x : Watched) (e : SharedEvent) : Watched :=
  let w := x.service.worker
  let w' := (e.apply x.service).worker
  { service := e.apply x.service
    claimed := x.claimed ++ w.arrivals w'
    admitted := x.admitted ++ w.admissions w'
    returned := x.returned ++ w.returns w' }

def watch (s : Service) (events : List SharedEvent) : Watched :=
  events.foldl Watched.step { service := s }

/-- The dispatches are claimed one by one; each has left the wait, once, or
waits; and each that has left it has its slot still or has given it back,
once. -/
structure Watched.Fair (x : Watched) : Prop where
  numbered : x.claimed.map (·.number) = List.range x.service.worker.nextNumber
  admitted : x.claimed.Perm (x.admitted ++ x.service.worker.waiting)
  returned : x.admitted.Perm (x.returned ++ x.service.worker.holders)

variable {s start : Service} {x : Watched} {e : SharedEvent} {events : List SharedEvent}

theorem Watched.Fair.step (h : x.Fair) (hk : x.service.worker.Kept) (e : SharedEvent) :
    (x.step e).Fair := by
  let w := x.service.worker
  let w' := (e.apply x.service).worker
  have hnext := e.next x.service
  have hb := (hnext.flow hk.toCounted).balanced hk
  have hle := (hnext.change hk.toCounted).nextNumber_le
  constructor
  · have happend := @List.range'_append_1 0 w.nextNumber (w'.nextNumber - w.nextNumber)
    rw [Nat.zero_add, Nat.add_sub_cancel' hle] at happend
    simp only [Watched.step, List.map_append, h.numbered, hb.numbered, List.range_eq_range']
    exact happend
  · calc x.claimed ++ w.arrivals w'
      _ ~ x.admitted ++ w.waiting ++ w.arrivals w' := h.admitted.append_right _
      _ = x.admitted ++ (w.waiting ++ w.arrivals w') := List.append_assoc ..
      _ ~ x.admitted ++ (w.admissions w' ++ w'.waiting) := hb.waiting.append_left _
      _ = x.admitted ++ w.admissions w' ++ w'.waiting := (List.append_assoc ..).symm
  · calc x.admitted ++ w.admissions w'
      _ ~ x.returned ++ w.holders ++ w.admissions w' := h.returned.append_right _
      _ = x.returned ++ (w.holders ++ w.admissions w') := List.append_assoc ..
      _ ~ x.returned ++ (w.returns w' ++ w'.holders) := hb.holders.append_left _
      _ = x.returned ++ w.returns w' ++ w'.holders := (List.append_assoc ..).symm

theorem watch_append (s : Service) (events : List SharedEvent) (e : SharedEvent) :
    watch s (events ++ [e]) = (watch s events).step e := List.foldl_concat ..

theorem watch_service (s : Service) (events : List SharedEvent) :
    (watch s events).service = runShared s events := by
  induction events using List.reverseRecOn with
  | nil => rfl
  | append_singleton events e ih =>
    rw [runShared_append, watch_append]
    exact congrArg e.apply ih

theorem create_kept (store : Store) (settings : Settings) (policy : Policy) :
    (create store settings policy).worker.Kept :=
  ⟨create_counted store settings policy, rfl, fun hne => absurd rfl hne⟩

theorem runShared_kept (hk : start.worker.Kept) (events : List SharedEvent) :
    (runShared start events).worker.Kept := by
  induction events generalizing start with
  | nil => exact hk
  | cons e rest ih => exact ih ((e.next start).kept hk)

theorem watch_kept (hk : start.worker.Kept) (events : List SharedEvent) :
    (watch start events).service.worker.Kept :=
  watch_service start events ▸ runShared_kept hk events

theorem watch_fair (store : Store) (settings : Settings) (policy : Policy)
    (events : List SharedEvent) : (watch (create store settings policy) events).Fair := by
  induction events using List.reverseRecOn with
  | nil => exact ⟨rfl, .refl _, .refl _⟩
  | append_singleton events e ih =>
    rw [watch_append]
    exact ih.step (watch_kept (create_kept store settings policy) events) e

-- ---------------------------------------------------------------------------
-- The order of the claims
-- ---------------------------------------------------------------------------

def SharedEvent.TakesFirst (e : SharedEvent) (s : Service) : Prop :=
  ∀ number ∈ e.cue.turn?, ∀ d ∈ s.worker.ready.head?, d.number = number

instance (e : SharedEvent) (s : Service) : Decidable (e.TakesFirst s) :=
  inferInstanceAs (Decidable (∀ number ∈ _, ∀ d ∈ _, _))

/-- Nobody is overtaken: whoever sleeps is woken only when none is ready. -/
structure SharedEvent.Orderly (e : SharedEvent) (s : Service) : Prop where
  takesFirst : e.TakesFirst s
  wakesLast : s.worker.asleep ≠ [] → (e.apply s).worker.asleep = [] → s.worker.ready = []

def Throughout (P : SharedEvent → Service → Prop) (s : Service) : List SharedEvent → Prop
  | [] => True
  | e :: rest => P e s ∧ Throughout P (e.apply s) rest

instance decidableThroughout {P : SharedEvent → Service → Prop} [∀ e s, Decidable (P e s)] :
    (s : Service) → (events : List SharedEvent) → Decidable (Throughout P s events)
  | _, [] => isTrue trivial
  | s, e :: rest =>
    have : Decidable (Throughout P (e.apply s) rest) := decidableThroughout _ rest
    inferInstanceAs (Decidable (P e s ∧ Throughout P (e.apply s) rest))

theorem throughout_append {P : SharedEvent → Service → Prop} {later : List SharedEvent} :
    Throughout P s (events ++ later) ↔
      Throughout P s events ∧ Throughout P (runShared s events) later := by
  induction events generalizing s with
  | nil => exact (iff_of_eq (true_and _)).symm
  | cons e rest ih => exact (and_congr_right fun _ => ih).trans and_assoc.symm

theorem watch_inOrder (hk : start.worker.Kept) (hidle : start.worker.waiting = [])
    (ho : Throughout SharedEvent.Orderly start events) :
    let x := watch start events
    x.admitted ++ (x.service.worker.asleep ++ x.service.worker.ready) = x.claimed := by
  induction events using List.reverseRecOn with
  | nil =>
    obtain ⟨hready, hasleep⟩ := List.append_eq_nil_iff.mp hidle
    simp [watch, hready, hasleep]
  | append_singleton events e ih =>
    obtain ⟨hbefore, hlast, -⟩ := throughout_append.mp ho
    rw [← watch_service] at hlast
    have hline := (e.next _).inOrder (watch_kept hk events) hlast.takesFirst hlast.wakesLast
    rw [watch_append]
    simp only [Watched.step]
    rw [List.append_assoc]
    refine (congrArg _ hline.symm).trans ?_
    rw [← List.append_assoc, ih hbefore]

end Service

end AlertDelivery
