import AlertDelivery.Proofs.Service.Steps
import Mathlib.Algebra.Order.Ring.Rat
import Mathlib.Data.List.Induction

/-!
# The rate limit

A worker remembers when it claimed, and forgets what has left the window of
one minute. On a clock that never decreases it so remembers exactly the
claims in the window, whatever came in between: what it may still claim is
the limit in force less the claims of the window.
-/

namespace AlertDelivery

-- ---------------------------------------------------------------------------
-- Windows
-- ---------------------------------------------------------------------------

def inWindow (time x : Rat) : Bool := decide (time - Worker.rateWindow < x) && decide (x ≤ time)

variable {time a : Rat} {times old : List Rat}

theorem inWindow_iff {x : Rat} :
    inWindow time x = true ↔ time - Worker.rateWindow < x ∧ x ≤ time := by
  simp [inWindow]

theorem countP_window_early (h : ∀ x ∈ times, x ≤ time - Worker.rateWindow) :
    times.countP (inWindow time) = 0 := by
  rw [List.countP_eq_zero]
  intro x hx hin
  exact absurd (inWindow_iff.mp hin).1 (not_lt.mpr (h x hx))

theorem countP_window_late (h : ∀ x ∈ times, time - Worker.rateWindow < x)
    (hle : ∀ x ∈ times, x ≤ time) : times.countP (inWindow time) = times.length := by
  rw [List.countP_eq_length]
  intro x hx
  exact inWindow_iff.mpr ⟨h x hx, hle x hx⟩

theorem lt_of_mem_dropWhile (hs : times.Pairwise (· ≤ ·)) {x : Rat}
    (hx : x ∈ times.dropWhile fun y => decide (y ≤ a)) : a < x := by
  induction times with
  | nil => cases hx
  | cons y rest ih =>
    obtain ⟨hy, hrest⟩ := List.pairwise_cons.mp hs
    by_cases hle : y ≤ a
    · rw [List.dropWhile_cons_of_pos (by simpa using hle)] at hx
      exact ih hrest hx
    · rw [List.dropWhile_cons_of_neg (by simpa using hle)] at hx
      rcases List.mem_cons.mp hx with rfl | hx
      · exact not_le.mp hle
      · exact (not_le.mp hle).trans_le (hy x hx)

theorem le_of_mem_takeWhile {x : Rat} (hx : x ∈ times.takeWhile fun y => decide (y ≤ a)) :
    x ≤ a := by
  have h :=
    List.all_eq_true.mp (List.all_takeWhile (p := fun y => decide (y ≤ a)) (l := times)) x hx
  simpa using h

-- ---------------------------------------------------------------------------
-- Claims
-- ---------------------------------------------------------------------------

namespace Queue

variable {t t' : Table} {limit : Int} {now : Instant} {entries : List Entry}

theorem Table.claim_length (h : t.claim limit now = .ok (entries, t')) :
    entries.length = min limit.toNat (t.countWhere (Row.isEligible now)) := by
  simp only [claim, bind_ok, pure_ok, Prod.mk.injEq] at h
  obtain ⟨_, -, rfl, -⟩ := h
  rw [List.length_map, List.length_take, eligible, List.length_mergeSort, countWhere,
    List.countP_eq_length_filter]

theorem Table.claim_storable (h : isStorable limit = true) (t : Table) (now : Instant) :
    ∃ p, t.claim limit now = .ok p := by
  have hs : storable [limit] = .ok () := storable_of_forall (by simpa using h)
  simp only [claim, hs]
  exact ⟨_, rfl⟩

/-- A change that makes a condition true where it was false adds as many rows
as it changes. -/
theorem Table.countWhere_updateWhere {p q : Row → Bool} {f : Row → Row}
    (h : ∀ r ∈ t.rows, p r = true → q (f r) = true ∧ q r = false) :
    (t.updateWhere p f).countWhere q = t.countWhere q + t.countWhere p := by
  obtain ⟨rows⟩ := t
  simp only [updateWhere, countWhere] at h ⊢
  induction rows with
  | nil => rfl
  | cons r rest ih =>
    have hrest := ih fun r' hr' => h r' (.tail _ hr')
    rw [List.map_cons, List.countP_cons, List.countP_cons, List.countP_cons, hrest]
    cases hp : p r with
    | true =>
      obtain ⟨hf, hr⟩ := h r List.mem_cons_self hp
      simp only [if_true, hf, hr, Bool.false_eq_true, if_false]
      omega
    | false =>
      simp only [Bool.false_eq_true, if_false]
      omega

theorem Table.claim_count (hk : t.Keyed) (h : t.claim limit now = .ok (entries, t')) :
    t'.countWhere (·.state == .sending) =
      t.countWhere (·.state == .sending) + entries.length := by
  obtain ⟨hnodup, rfl, hel, hrows⟩ := claim_ok hk h
  let ids := entries.map (·.id)
  let isTaken : Row → Bool := fun r => ids.contains r.id
  -- the taken rows are as many as their ids, which stand each in one row
  have hperm : ((t.rows.filter isTaken).map (·.id)).Perm ids := by
    refine (List.perm_ext_iff_of_nodup (hk.nodup.sublist (List.filter_sublist.map _)) hnodup).mpr ?_
    intro i
    constructor
    · intro hi
      obtain ⟨r, hr, rfl⟩ := List.mem_map.mp hi
      exact List.contains_iff_mem.mp (List.mem_filter.mp hr).2
    · intro hi
      obtain ⟨e, he, rfl⟩ := List.mem_map.mp hi
      obtain ⟨r, hr, rfl⟩ := hrows e he
      exact List.mem_map.mpr ⟨r, List.mem_filter.mpr ⟨hr, List.contains_iff_mem.mpr hi⟩, rfl⟩
  have htaken : t.rows.countP isTaken = entries.length := by
    rw [List.countP_eq_length_filter, ← List.length_map (·.id), hperm.length_eq, List.length_map]
  rw [countWhere_updateWhere fun r hr ht => ⟨rfl, ?_⟩]
  · rw [← htaken]
    rfl
  · have hne := (Row.isEligible_ne (hel r hr (List.contains_iff_mem.mp ht))).1
    simpa using hne

end Queue

namespace Service

open Queue (Row Table)

variable {s s' start : Service} {now : Instant} {t : Clock.Reading} {e : SharedEvent}
  {events : List SharedEvent} {passes claims : List Rat} {w w' : Worker}

def recent (s : Service) (time : Rat) : List Rat := (s.worker.forgetOld time).stamps

def room (s : Service) (time : Rat) : Int :=
  min s.worker.policy.batchSize
    (max 0 (s.worker.policy.ratePerMinute - (s.recent time).length))

theorem room_toNat (s : Service) (time : Rat) : (s.room time).toNat =
    min s.worker.policy.batchSize.toNat
      (s.worker.policy.ratePerMinute - (s.recent time).length).toNat := by
  unfold room
  omega

theorem budget_limited (h : 1 ≤ s.worker.policy.ratePerMinute) (time : Rat) :
    s.worker.budget time = (s.room time, s.worker.forgetOld time) := by
  unfold Worker.budget
  rw [if_neg (by omega)]
  rfl

/-- What a pass that gets through does: it claims what there is room for. -/
structure Passed (s s' : Service) (now : Instant) (t : Clock.Reading) (n : Nat) : Prop where
  stamps : s'.worker.stamps = s.recent t.seconds ++ List.replicate n t.seconds
  count : n = min (s.room t.seconds).toNat (s.store.queue.countWhere (Row.isEligible now))
  sending : s.store.queue.Keyed → s'.store.queue.countWhere (·.state == .sending) =
    s.store.queue.countWhere (·.state == .sending) + n

theorem process_limited (h : 1 ≤ s.worker.policy.ratePerMinute) (now : Instant)
    (t : Clock.Reading) :
    (∃ fault s', process now t s = .error fault s' ∧
      s'.worker.stamps = s.recent t.seconds ∧ 0 < s.room t.seconds ∧
      (s.store.isUp = true → Queue.isStorable (s.room t.seconds) = false)) ∨
    ∃ n s', process now t s = .ok n s' ∧ Passed s s' now t n := by
  rcases process_outcome (budget_limited h t.seconds) now with
    ⟨hroom, hp⟩ | ⟨hroom, ⟨fault, hq, hp⟩ | ⟨entries, queue, hc, hp⟩⟩
  · have hzero : (s.room t.seconds).toNat = 0 := by omega
    refine .inr ⟨0, _, hp, ?_, ?_, fun _ => rfl⟩
    · simp [recent]
    · simp [hzero]
  · refine .inl ⟨fault, _, hp, rfl, hroom, fun hup => ?_⟩
    have hclaim : Store.claim (s.room t.seconds) now =
        Store.onQueue "claim_batch" fun table => table.claim (s.room t.seconds) now :=
      if_neg (not_le.mpr hroom)
    rw [Bool.eq_false_iff]
    intro hst
    obtain ⟨p, hclaimed⟩ := Table.claim_storable hst s.store.queue now
    rw [hclaim, Store.onQueue_up (fun table => table.claim (s.room t.seconds) now) hup hclaimed]
      at hq
    cases hq
  · have hrate : ¬ (s.worker.forgetOld t.seconds).policy.ratePerMinute ≤ 0 :=
      not_le.mpr (zero_lt_one.trans_le h)
    refine .inr ⟨entries.length, _, hp, ?_, ?_, ?_⟩
    · simp only [Worker.takeOver, if_neg hrate]
      rfl
    · exact Table.claim_length hc
    · intro hk
      exact Table.claim_count hk hc

-- ---------------------------------------------------------------------------
-- One event
-- ---------------------------------------------------------------------------

/-- When a pass runs, by the clock that counts the claims. -/
def SharedEvent.passAt : SharedEvent → Option Rat
  | .own (.process _ t) => some t.seconds
  | .own (.tick t) => some t.seconds
  | _ => none

def claimed (t : Clock.Reading) : EStateM.Result Fault Service Nat → List Rat
  | .ok n _ => List.replicate n t.seconds
  | .error _ _ => []

def SharedEvent.claimTimes (s : Service) : SharedEvent → List Rat
  | .own (.process now t) => claimed t (process now t s)
  | .own (.tick t) => claimed t (tick t s)
  | _ => []

def claimTimes (s : Service) : List SharedEvent → List Rat
  | [] => []
  | e :: rest => e.claimTimes s ++ claimTimes (e.apply s) rest

theorem claimTimes_append (s : Service) (past rest : List SharedEvent) :
    claimTimes s (past ++ rest) = claimTimes s past ++ claimTimes (runShared s past) rest := by
  induction past generalizing s with
  | nil => rfl
  | cons e past ih =>
    rw [List.cons_append, claimTimes, claimTimes, ih, List.append_assoc]
    rfl

/-- When an event makes claims that count: those of a worker with a limit. -/
def SharedEvent.countedTimes (s : Service) (e : SharedEvent) : List Rat :=
  if s.worker.policy.ratePerMinute ≤ 0 then [] else e.claimTimes s

def countedTimes (s : Service) : List SharedEvent → List Rat
  | [] => []
  | e :: rest => e.countedTimes s ++ countedTimes (e.apply s) rest

theorem countedTimes_append (s : Service) (past rest : List SharedEvent) :
    countedTimes s (past ++ rest) =
      countedTimes s past ++ countedTimes (runShared s past) rest := by
  induction past generalizing s with
  | nil => rfl
  | cons e past ih =>
    rw [List.cons_append, countedTimes, countedTimes, ih, List.append_assoc]
    rfl

/-- What an event does to the recent claims: the old ones are forgotten, the
new ones added. -/
structure Slides (w w' : Worker) (pass : Option Rat) (claims : List Rat) : Prop where
  kept : ∃ gone kept, w.stamps = gone ++ kept ∧ w'.stamps = kept ++ claims ∧
    ∀ x ∈ gone, ∃ time ∈ pass, x ≤ time - Worker.rateWindow
  now : ∀ x ∈ claims, pass = some x

theorem Slides.still (h : w'.stamps = w.stamps) (pass : Option Rat) : Slides w w' pass [] where
  kept := ⟨[], w.stamps, rfl, by rw [h, List.append_nil], fun _ hx => by cases hx⟩
  now _ hx := by cases hx

theorem Slides.pass (h : w'.stamps = (w.forgetOld time).stamps ++ List.replicate n time) :
    Slides w w' (some time) (List.replicate n time) where
  kept := ⟨_, _, List.takeWhile_append_dropWhile.symm, h,
    fun _ hx => ⟨time, rfl, le_of_mem_takeWhile hx⟩⟩
  now x hx := by rw [List.eq_of_mem_replicate hx]

theorem Slides.window (h : Slides w w' (some time) claims) :
    claims.countP (inWindow time) = claims.length := by
  refine List.countP_eq_length.mpr fun x hx => inWindow_iff.mpr ?_
  cases h.now x hx
  have hwindow : 0 < Worker.rateWindow := by decide
  exact ⟨sub_lt_self _ hwindow, le_refl _⟩

theorem process_slides (h : 1 ≤ s.worker.policy.ratePerMinute) (now : Instant)
    (t : Clock.Reading) : Slides s.worker (after (process now t) s).worker (some t.seconds)
      (claimed t (process now t s)) := by
  rcases process_limited h now t with ⟨fault, s', hp, hs, -⟩ | ⟨n, s', hp, hpassed⟩
  · rw [after_error hp, hp]
    exact .pass (n := 0) (hs.trans (List.append_nil _).symm)
  · rw [after_ok hp, hp]
    exact .pass hpassed.stamps

theorem Step.stamps (h : Step s s' event) (hne : ∀ now t, event ≠ .process now t) :
    s'.worker.stamps = s.worker.stamps := by
  cases h with
  | rest _ _ hs => exact hs hne
  | operate _ _ hw => rw [hw]
  | claim => exact absurd rfl (hne _ _)
  | ends _ _ hs => exact hs

theorem SharedEvent.slides (hc : s.worker.Counted) (h : 1 ≤ s.worker.policy.ratePerMinute)
    (e : SharedEvent) : Slides s.worker (e.apply s).worker e.passAt (e.claimTimes s) := by
  cases e with
  | foreign e => exact .still rfl none
  | own event =>
    cases event with
    | process now t =>
      have hp := process_slides h now t
      rwa [← after_discard (process now t)] at hp
    | tick t =>
      have hw := releaseStale_worker t s
      cases hr : releaseStale t s with
      | error fault s₁ =>
        have ht : tick t s = .error fault s₁ := run_bind_error hr
        rw [after_error hr] at hw
        simp only [SharedEvent.apply, Event.apply, Event.perform, after_discard, after_error ht,
          claimTimes, ht, claimed]
        exact .still (by rw [hw]) _
      | ok n s₁ =>
        have ht : tick t s = process t.now t s₁ := run_bind_ok hr
        rw [after_ok hr] at hw
        have hp := process_slides (s := s₁) (by rwa [hw]) t.now t
        simp only [SharedEvent.apply, Event.apply, Event.perform, after_discard, claimTimes, ht]
        rw [after, ht, ← after, ← hw]
        exact hp
    | _ =>
      rcases Event.steps hc.numbers _ with hs | ⟨t, he, -⟩
      · exact .still (hs.stamps (by simp)) none
      · cases he

theorem process_unlimited (h : s.worker.policy.ratePerMinute ≤ 0) (now : Instant)
    (t : Clock.Reading) : (after (process now t) s).worker.stamps = s.worker.stamps := by
  have hbudget : s.worker.budget t.seconds = (s.worker.policy.batchSize, s.worker) := if_pos h
  rcases process_outcome hbudget now with
    ⟨-, hp⟩ | ⟨-, ⟨fault, -, hp⟩ | ⟨entries, queue, -, hp⟩⟩
  · rw [after_ok hp]
  · rw [after_error hp]
  · rw [after_ok hp]
    simp only [Worker.takeOver, if_pos h]

theorem SharedEvent.stamps_unlimited (hc : s.worker.Counted)
    (h : s.worker.policy.ratePerMinute ≤ 0) (e : SharedEvent) :
    (e.apply s).worker.stamps = s.worker.stamps := by
  cases e with
  | foreign e => rfl
  | own event =>
    cases event with
    | process now t =>
      rw [← process_unlimited h now t, ← after_discard]
      rfl
    | tick t =>
      have hw := releaseStale_worker t s
      have hp := process_unlimited (s := after (releaseStale t) s) (by rwa [hw]) t.now t
      simp only [SharedEvent.apply, Event.apply, Event.perform, after_discard]
      rcases tick_cases t s with ht | ht <;> rw [ht]
      · rw [hw]
      · rw [hp, hw]
    | _ =>
      rcases Event.steps hc.numbers _ with hs | ⟨t, he, -⟩
      · exact hs.stamps (by simp)
      · cases he

theorem SharedEvent.slides_counted (hc : s.worker.Counted) (e : SharedEvent) :
    Slides s.worker (e.apply s).worker e.passAt (e.countedTimes s) := by
  unfold countedTimes
  split
  · exact .still (e.stamps_unlimited hc ‹_›) _
  · exact e.slides hc (by omega)

theorem claimed_le (h : 1 ≤ s.worker.policy.ratePerMinute) (now : Instant) (t : Clock.Reading) :
    (claimed t (process now t s)).length ≤ (s.room t.seconds).toNat := by
  rcases process_limited h now t with ⟨fault, s', hp, -⟩ | ⟨n, s', hp, hpassed⟩ <;> rw [hp]
  · exact Nat.zero_le _
  · rw [claimed, List.length_replicate, hpassed.count]
    exact Nat.min_le_left _ _

theorem SharedEvent.claimTimes_le (h : 1 ≤ s.worker.policy.ratePerMinute)
    (he : e.passAt = some time) : (e.claimTimes s).length ≤ (s.room time).toNat := by
  cases e with
  | foreign e => cases he
  | own event =>
    cases event with
    | process now t =>
      cases he
      exact claimed_le h now t
    | tick t =>
      cases he
      have hw := releaseStale_worker t s
      cases hr : releaseStale t s with
      | error fault s₁ =>
        have ht : tick t s = .error fault s₁ := run_bind_error hr
        simp only [claimTimes, ht]
        exact Nat.zero_le _
      | ok n s₁ =>
        have ht : tick t s = process t.now t s₁ := run_bind_ok hr
        rw [after_ok hr] at hw
        have hroom : s₁.room t.seconds = s.room t.seconds := by
          simp only [room, recent, hw]
        simp only [claimTimes, ht, ← hroom]
        exact claimed_le (hw ▸ h) t.now t
    | _ => cases he

-- ---------------------------------------------------------------------------
-- Runs
-- ---------------------------------------------------------------------------

def passTimes (events : List SharedEvent) : List Rat := events.filterMap SharedEvent.passAt

def Limited (s : Service) (events : List SharedEvent) : Prop :=
  ∀ past, past <+: events → 1 ≤ (runShared s past).worker.policy.ratePerMinute

/-- A worker remembers its claims, but for some that left the window of a
pass. -/
structure Windowed (w : Worker) (passes claims : List Rat) : Prop where
  past : ∀ x ∈ claims, x ∈ passes
  sorted : claims.Pairwise (· ≤ ·)
  kept : ∃ old, claims = old ++ w.stamps ∧
    ∀ x ∈ old, ∃ time ∈ passes, x ≤ time - Worker.rateWindow

namespace Windowed

theorem slides (h : Windowed w passes claims) {pass : Option Rat} {new : List Rat}
    (hs : Slides w w' pass new) (hclock : (passes ++ pass.toList).Pairwise (· ≤ ·)) :
    Windowed w' (passes ++ pass.toList) (claims ++ new) where
  past x hx := by
    rcases List.mem_append.mp hx with hx | hx
    · exact List.mem_append_left _ (h.past x hx)
    · exact List.mem_append_right _ (by simp [hs.now x hx])
  sorted := by
    refine List.pairwise_append.mpr ⟨h.sorted, ?_, ?_⟩
    · refine List.pairwise_of_forall_mem_list fun x hx y hy => ?_
      rw [Option.some.inj ((hs.now x hx).symm.trans (hs.now y hy))]
    · intro x hx y hy
      exact (List.pairwise_append.mp hclock).2.2 x (h.past x hx) y (by simp [hs.now y hy])
  kept := by
    obtain ⟨old, hclaims, hold⟩ := h.kept
    obtain ⟨gone, kept, hw, hw', hgone⟩ := hs.kept
    refine ⟨old ++ gone, by simp [hclaims, hw, hw'], fun x hx => ?_⟩
    rcases List.mem_append.mp hx with hx | hx
    · obtain ⟨time, ht, hle⟩ := hold x hx
      exact ⟨time, List.mem_append_left _ ht, hle⟩
    · obtain ⟨time, ht, hle⟩ := hgone x hx
      exact ⟨time, List.mem_append_right _ (by simpa using ht), hle⟩

theorem recent (h : Windowed w passes claims) (hle : ∀ x ∈ passes, x ≤ time) :
    (w.forgetOld time).stamps.length = claims.countP (inWindow time) := by
  obtain ⟨old, hclaims, hold⟩ := h.kept
  let isOld : Rat → Bool := fun x => decide (x ≤ time - Worker.rateWindow)
  have hstamps : w.stamps = w.stamps.takeWhile isOld ++ w.stamps.dropWhile isOld :=
    List.takeWhile_append_dropWhile.symm
  have hsorted : w.stamps.Pairwise (· ≤ ·) := by
    have hs := h.sorted
    rw [hclaims] at hs
    exact (List.pairwise_append.mp hs).2.1
  have hearly : ∀ x ∈ old, x ≤ time - Worker.rateWindow := by
    intro x hx
    obtain ⟨p, hp, hxp⟩ := hold x hx
    exact hxp.trans (sub_le_sub_right (hle p hp) _)
  have hlate : ∀ x ∈ w.stamps.dropWhile isOld, x ≤ time := by
    intro x hx
    have hmem : x ∈ claims := by
      rw [hclaims]
      exact List.mem_append_right _ ((List.dropWhile_sublist _).mem hx)
    exact hle x (h.past x hmem)
  -- both what was forgotten and what now would be has left the window
  rw [hclaims, List.countP_append, countP_window_early hearly]
  conv_rhs => rw [hstamps]
  rw [List.countP_append, countP_window_early fun x hx => le_of_mem_takeWhile hx,
    countP_window_late (fun x hx => lt_of_mem_dropWhile hsorted hx) hlate]
  simp [Worker.forgetOld]

end Windowed

/-- A worker remembers the claims that count, whatever limits it had when. -/
theorem runShared_remembers (hc : start.worker.Counted) (hnone : start.worker.stamps = [])
    (hclock : (passTimes events).Pairwise (· ≤ ·)) :
    Windowed (runShared start events).worker (passTimes events) (countedTimes start events) := by
  -- the worker that an event meets is the one that the events before it left
  induction events using List.reverseRecOn with
  | nil =>
    have hkept : ∃ old, [] = old ++ start.worker.stamps ∧
        ∀ x ∈ old, ∃ time ∈ ([] : List Rat), x ≤ time - Worker.rateWindow :=
      ⟨[], hnone.symm, fun _ hx => by cases hx⟩
    exact ⟨fun _ hx => (by cases hx), List.Pairwise.nil, hkept⟩
  | append_singleton events e ih =>
    have hpasses : passTimes (events ++ [e]) = passTimes events ++ e.passAt.toList := by
      cases h : e.passAt <;> simp [passTimes, h]
    rw [hpasses] at hclock ⊢
    rw [countedTimes_append, runShared_append]
    have hw := ih (List.pairwise_append.mp hclock).1
    have hs := e.slides_counted (runShared_counted hc events)
    rw [countedTimes, countedTimes, List.append_nil]
    exact hw.slides hs hclock

theorem countedTimes_eq (hrate : Limited start events) :
    countedTimes start events = claimTimes start events := by
  induction events using List.reverseRecOn with
  | nil => rfl
  | append_singleton events e ih =>
    have hlast := hrate events (List.prefix_append _ _)
    have hpast : Limited start events :=
      fun past hp => hrate past (hp.trans (List.prefix_append _ _))
    rw [countedTimes_append, claimTimes_append, ih hpast, countedTimes, countedTimes, claimTimes,
      claimTimes, SharedEvent.countedTimes, if_neg (by omega)]

theorem runShared_windowed (hc : start.worker.Counted) (hnone : start.worker.stamps = [])
    (hclock : (passTimes events).Pairwise (· ≤ ·)) (hrate : Limited start events) :
    Windowed (runShared start events).worker (passTimes events) (claimTimes start events) :=
  countedTimes_eq hrate ▸ runShared_remembers hc hnone hclock

/-- In every run on a clock that never decreases, with other hands on the
queue and with any changes of the policy that leave a limit: a pass that
claims anything stays, with all claims of the minute up to it, within the
limit in force, and a pass that gets through claims as many as there are
eligible, up to the batch size and to what the minute leaves. -/
theorem claims_limited (store : Store) (hk : store.queue.Keyed) (settings : Settings)
    (policy : Policy) (events : List SharedEvent) (time : Rat)
    (hclock : (passTimes events ++ [time]).Pairwise (· ≤ ·))
    (hrate : Limited (create store settings policy) events) :
    let start := create store settings policy
    let s := runShared start events
    let limit := s.worker.policy.ratePerMinute
    let earlier := (claimTimes start events).countP (inWindow time)
    (∀ e : SharedEvent, e.passAt = some time → e.claimTimes s ≠ [] →
      ((claimTimes start (events ++ [e])).countP (inWindow time) : Int) ≤ limit) ∧
    ∀ (now : Instant) (t : Clock.Reading), t.seconds = time →
      (∀ n s', process now t s = .ok n s' →
        n = min (min s.worker.policy.batchSize.toNat (limit - earlier).toNat)
          (s.store.queue.countWhere (Row.isEligible now)) ∧
        s'.store.queue.countWhere (·.state == .sending) =
          s.store.queue.countWhere (·.state == .sending) + n) ∧
      (s.store.isUp = true → Queue.isStorable s.worker.policy.batchSize = true →
        ∃ n s', process now t s = .ok n s') := by
  intro start s limit earlier
  have hc : start.worker.Counted := create_counted store settings policy
  have hs : 1 ≤ s.worker.policy.ratePerMinute := hrate events (List.prefix_refl _)
  obtain ⟨hpast, -, hle⟩ := List.pairwise_append.mp hclock
  have hw := runShared_windowed hc rfl hpast hrate
  have hrecent : (s.recent time).length = earlier :=
    hw.recent fun x hx => hle x hx time List.mem_cons_self
  have hroom : (s.room time).toNat =
      min s.worker.policy.batchSize.toNat (limit - earlier).toNat := by
    rw [room_toNat, hrecent]
  refine ⟨fun e he hne => ?_, fun now t ht => ⟨fun n s' hp => ?_, fun hup hbatch => ?_⟩⟩
  · have hlen := e.claimTimes_le hs he
    have hnew : (e.claimTimes s).countP (inWindow time) = (e.claimTimes s).length :=
      (he ▸ e.slides (runShared_counted hc events) hs).window
    have hpos := List.length_pos_of_ne_nil hne
    have htotal : (claimTimes start (events ++ [e])).countP (inWindow time) =
        earlier + (e.claimTimes s).length := by
      rw [claimTimes_append, claimTimes, claimTimes, List.append_nil, List.countP_append]
      exact congrArg (earlier + ·) hnew
    rw [hroom] at hlen
    omega
  · subst ht
    rcases process_limited hs now t with ⟨_, _, he, -⟩ | ⟨n', s'', he, hpassed⟩ <;>
      rw [he] at hp <;> cases hp
    exact ⟨hroom ▸ hpassed.count, hpassed.sending (runShared_keyed hc hk events)⟩
  · subst ht
    rcases process_limited hs now t with ⟨_, _, -, -, hpos, hst⟩ | ⟨n, s', he, -⟩
    · have hle : s.room t.seconds ≤ s.worker.policy.batchSize := min_le_left _ _
      have hst := hst hup
      simp only [Queue.isStorable, Bool.and_eq_true, decide_eq_true_eq, Bool.and_eq_false_iff,
        decide_eq_false_iff_not] at hbatch hst
      omega
    · exact ⟨n, s', he⟩

def oneAMinute : List SharedEvent := [
  .own (.enqueue { channel := "email" } ⟨0, .first⟩), .own (.process .first ⟨0, .first⟩),
  .own (.enqueue { channel := "email" } ⟨1, .first⟩)]

/-- With one claim a minute, the other one is claimed when the first has just
left the window. -/
theorem claims_limited_oneAMinute : ∃ s', process .first ⟨60, .first⟩
    (runShared (create {} {} { ratePerMinute := 1 }) oneAMinute) = .ok 1 s' := by
  have hclock : (passTimes oneAMinute ++ [60]).Pairwise (· ≤ ·) := by decide +kernel
  have hrate : Limited (create {} {} { ratePerMinute := 1 }) oneAMinute := by
    intro past hp
    simp only [oneAMinute, List.prefix_cons_iff, List.prefix_nil] at hp
    rcases hp with rfl | ⟨_, rfl, rfl | ⟨_, rfl, rfl | ⟨_, rfl, rfl⟩⟩⟩ <;> decide +kernel
  obtain ⟨hcount, hdone⟩ := (claims_limited {} List.Pairwise.nil {} { ratePerMinute := 1 }
    oneAMinute 60 hclock hrate).2 .first ⟨60, .first⟩ rfl
  obtain ⟨n, s', hp⟩ := hdone (by decide +kernel) (by decide +kernel)
  have hn := (hcount n s' hp).1
  have hearlier : (claimTimes (create {} {} { ratePerMinute := 1 }) oneAMinute).countP
      (inWindow 60) = 0 := by decide +kernel
  have hwaiting :
      (runShared (create {} {} { ratePerMinute := 1 }) oneAMinute).store.queue.countWhere
        (Row.isEligible .first) = 1 := by decide +kernel
  have hpolicy : (runShared (create {} {} { ratePerMinute := 1 }) oneAMinute).worker.policy =
      { ratePerMinute := 1 } := by decide +kernel
  rw [hearlier, hwaiting, hpolicy] at hn
  exact ⟨s', by rw [hp, hn]; rfl⟩

end Service

end AlertDelivery
