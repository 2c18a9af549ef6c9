import AlertDelivery.Proofs.Service.Outages
import AlertDelivery.Proofs.Service.Slots
import AlertDelivery.Rehearsal

/-!
# Rehearsals come to rest

`settle` stops only when no dispatch is ready, and `drain` only when no send
is awaited. Whatever a rehearsal does to its service by itself is an orderly
run of the service, in which every send that takes time has a timer that ends
it. `Onward` says what one stretch of it keeps; each firing of a timer takes
one thing away from what is pending, and so the drain ends.
-/

namespace AlertDelivery

namespace Service

variable {s s' s'' : Service} {e : SharedEvent} {d : Dispatch} {p : Preparing} {number : Nat}
  {result : Except Fault Unit} {t : Clock.Reading}

-- ---------------------------------------------------------------------------
-- Orderly events
-- ---------------------------------------------------------------------------

theorem orderly_idle (h : s.worker.ready = []) (e : SharedEvent) : e.Orderly s where
  takesFirst _ _ d hd := by
    rw [h] at hd
    cases hd
  wakesLast _ _ := h

theorem orderly_other (hcue : e.cue.turn? = none)
    (h : s.worker.asleep ≠ [] → (e.apply s).worker.asleep ≠ []) : e.Orderly s where
  takesFirst number hturn := by
    rw [hcue] at hturn
    cases hturn
  wakesLast hne hnone := absurd hnone (h hne)

theorem orderly_turn (h : s.worker.ready = d :: rest) (t : Clock.Reading) :
    SharedEvent.Orderly (.own (.turn d.number t)) s where
  takesFirst number hturn first hfirst := by
    rw [h] at hfirst
    cases hfirst
    cases hturn
    rfl
  wakesLast hne hnone := by
    have hasleep : (s.worker.turn d.number t.seconds).asleep = [] := hnone
    rcases s.worker.turn_cases d.number t.seconds with ⟨-, h⟩ | ⟨_, -, ⟨-, h⟩ | ⟨-, h⟩⟩ <;>
      rw [h] at hasleep
    · exact absurd hasleep hne
    · exact absurd hasleep hne
    · exact absurd (List.append_eq_nil_iff.mp hasleep).1 hne

def Leads (s s' : Service) : Prop :=
  ∃ events, Throughout SharedEvent.Orderly s events ∧ runShared s events = s'

theorem Leads.refl (s : Service) : s.Leads s := ⟨[], trivial, rfl⟩

theorem Leads.trans (h : s.Leads s') (h' : s'.Leads s'') : s.Leads s'' := by
  obtain ⟨events, ho, rfl⟩ := h
  obtain ⟨later, ho', rfl⟩ := h'
  exact ⟨events ++ later, throughout_append.mpr ⟨ho, ho'⟩, runShared_append s events later⟩

theorem Leads.one (h : e.Orderly s) : s.Leads (e.apply s) := ⟨[e], ⟨h, trivial⟩, rfl⟩

theorem Leads.kept (h : s.Leads s') (hk : s.worker.Kept) : s'.worker.Kept := by
  obtain ⟨events, -, rfl⟩ := h
  exact runShared_kept hk events

-- ---------------------------------------------------------------------------
-- Begins and ends
-- ---------------------------------------------------------------------------

theorem begin_slots (hp : s.worker.preparing? number = some p) (t : Clock.Reading) :
    ∃ b s', begin number t s = .ok b s' ∧ (s.worker.asleep = [] → s.Leads s') ∧
      ((∃ x, b = .sending x ∧ x.dispatch = p.dispatch ∧ s'.worker = s.worker.beginSend x) ∨
        b = .ended ∧ s'.worker = s.worker.dismiss p.dispatch) := by
  have leads {b : Begun} {s' : Service} (h : begin number t s = .ok b s')
      (hawake : s.worker.asleep = []) : s.Leads s' := by
    have ho : SharedEvent.Orderly (.own (.begin number t)) s :=
      orderly_other rfl fun hne => absurd hawake hne
    have happly : Event.apply (.begin number t) s = s' := after_ok (discard_ok h)
    exact happly ▸ .one ho
  rcases beginIn_cases .own t hp with ⟨-, x, isUp, hx, h⟩ | ⟨s₁, h, hnoted, -⟩
  · exact ⟨_, _, h, leads h, .inl ⟨x, rfl, hx, rfl⟩⟩
  · exact ⟨_, _, h, leads h, .inr ⟨rfl, by rw [withDismissed, hnoted.worker]⟩⟩

theorem finish_slots (number : Nat) (result : Except Fault Unit) (t : Clock.Reading)
    (s : Service) : ∃ s', finish number result t s = .ok () s' ∧
      (s.worker.ready = [] ∨ s.worker.asleep = [] → s.Leads s') ∧
      s'.worker.waiting = s.worker.waiting ∧ s'.worker.policy = s.worker.policy ∧
      s'.worker.preparing.Sublist s.worker.preparing ∧
      s'.worker.sending = s.worker.sending.filter (·.dispatch.number != number) := by
  have leads {s' : Service} (hf : finish number result t s = .ok () s')
      (h : s.worker.ready = [] ∨ s.worker.asleep = []) : s.Leads s' := by
    have ho : SharedEvent.Orderly (.own (.finish number result t)) s := by
      rcases h with h | h
      · exact orderly_idle h _
      · exact orderly_other rfl fun hne => absurd h hne
    have happly : Event.apply (.finish number result t) s = s' := after_ok hf
    exact happly ▸ .one ho
  cases hx : s.worker.sending? number with
  | none =>
    have hf : finish number result t s = .ok () s := finishIn_none .own hx result t
    refine ⟨s, hf, fun _ => .refl s, rfl, rfl, .refl _,
      (List.filter_eq_self.mpr fun x hmem => ?_).symm⟩
    simpa using List.find?_eq_none.mp hx x hmem
  | some x =>
    obtain ⟨s₁, hf, hnoted⟩ := finishIn_run .own result t hx
    have hw : (s₁.withDismissed x.dispatch).worker = s.worker.dismiss x.dispatch := by
      rw [withDismissed, hnoted.worker]
    refine ⟨_, hf, leads hf, ?_, ?_, ?_, ?_⟩ <;> rw [hw]
    · exact Worker.dismiss_waiting ..
    · rfl
    · exact List.filter_sublist
    · rw [← (Worker.sending?_mem hx).2]
      rfl

end Service

namespace Rehearsal

open Service (SharedEvent Throughout runShared)

variable {r r' r'' : Rehearsal} {d : Dispatch} {rest : List Dispatch} {t : Timer}

/-- The slots of the service are kept; no dispatch is about to begin, and all
that are sending have timers that end them. -/
structure Sound (r : Rehearsal) : Prop where
  kept : r.service.worker.Kept
  prepared : r.service.worker.preparing = []
  attended : ∀ x ∈ r.service.worker.sending,
    ∃ t ∈ r.timers, t.target = .dispatch x.dispatch.number

/-- What a rehearsal keeps as long as nothing is asked of it. -/
structure Onward (r r' : Rehearsal) : Prop where
  leads : r.service.Leads r'.service
  policy : r'.service.worker.policy = r.service.worker.policy
  sound : r'.Sound

namespace Onward

theorem refl (h : r.Sound) : r.Onward r := ⟨.refl _, rfl, h⟩

theorem trans (h : r.Onward r') (h' : r'.Onward r'') : r.Onward r'' where
  leads := h.leads.trans h'.leads
  policy := h'.policy.trans h.policy
  sound := h'.sound

end Onward

theorem onService_ok {x : Clock.Reading → Service.Op α} (h : x r.reading r.service = .ok a s) :
    onService x r = .ok a { r with service := s } := by
  simp only [onService, h]

-- ---------------------------------------------------------------------------
-- Sends
-- ---------------------------------------------------------------------------

/-- The end of a send may take the store down, and concerns no dispatch. -/
theorem leave_ok (player : Nat) (m : Channel.Message) (b : Behaviour) (timedOut : Bool)
    (r : Rehearsal) : ∃ result r', leave player m b timedOut r = .ok result r' ∧
      r.service.Leads r'.service ∧ r'.service.worker = r.service.worker ∧
      r'.timers = r.timers := by
  unfold leave
  cases !timedOut && b.takesStoreDown with
  | true =>
    exact ⟨_, _, rfl, .one (e := .own (.outage false)) (Service.orderly_other rfl id), rfl, rfl⟩
  | false => exact ⟨_, _, rfl, .refl _, rfl, rfl⟩

theorem play_ok (channel : Channel) (m : Channel.Message) (timeout : Number) (target : Target)
    (r : Rehearsal) : ∃ out r', play channel m timeout target r = .ok out r' ∧
      r.service.Leads r'.service ∧ r'.service.worker = r.service.worker ∧
      ((∃ result, out = some result ∧ r'.timers = r.timers) ∨
        ∃ t, out = none ∧ r'.timers = r.timers ++ [t] ∧ t.target = target) := by
  unfold play
  cases channel.backend with
  | shipped kind => exact ⟨_, _, rfl, .refl _, rfl, .inl ⟨_, rfl, rfl⟩⟩
  | rehearsed type name keys index =>
    simp only [run_bind_ok (run_get _)]
    cases r.players[index]? with
    | none => exact ⟨_, _, rfl, .refl _, rfl, .inl ⟨_, rfl, rfl⟩⟩
    | some player =>
      let r₁ : Rehearsal := { r with players := r.players.set index (player.enter m).2 }
      have hs : (set r₁ : Op PUnit) r = .ok ⟨⟩ r₁ := rfl
      by_cases hd : (player.enter m).1.delay ≤ 0
      · obtain ⟨result, r₂, hl, hleads, hw, ht⟩ := leave_ok index m (player.enter m).1 false r₁
        have hmap :
            (leave index m (player.enter m).1 false).map some r₁ = .ok (some result) r₂ := by
          simp only [EStateM.map, hl]
        exact ⟨_, r₂, (run_bind_ok hs).trans ((congrFun (if_pos hd) r₁).trans hmap), hleads, hw,
          .inl ⟨result, rfl, ht⟩⟩
      · exact ⟨_, _, (run_bind_ok hs).trans (congrFun (if_neg hd) r₁), .refl _, rfl,
          .inr ⟨_, rfl, rfl, rfl⟩⟩

/-- What sending with a channel leaves: a timer for the dispatch, or nothing
of it. -/
structure Proceeded (r r' : Rehearsal) (number : Nat) (more : List Timer) : Prop where
  leads : r.service.worker.asleep = [] → r.service.Leads r'.service
  policy : r'.service.worker.policy = r.service.worker.policy
  waiting : r'.service.worker.waiting = r.service.worker.waiting
  preparing : r'.service.worker.preparing.Sublist r.service.worker.preparing
  timers : r'.timers = r.timers ++ more
  few : more.length ≤ 1
  sending : ∀ x ∈ r'.service.worker.sending, x ∈ r.service.worker.sending ∧
    (x.dispatch.number = number → ∃ t ∈ more, t.target = .dispatch number)

theorem proceed_sending (number : Nat) (x : Sending) (r : Rehearsal) :
    ∃ r' more, proceed number (.sending x) r = .ok () r' ∧ Proceeded r r' number more := by
  obtain ⟨out, r₁, hplay, hleads, hw, hout⟩ :=
    play_ok x.channel x.message x.timeout (.dispatch number) r
  rw [proceed, run_bind_ok hplay]
  rcases hout with ⟨result, rfl, htimers⟩ | ⟨t, rfl, htimers, htarget⟩
  · obtain ⟨s, hfinish, hleads₁, hwait, hpolicy, hsub, hsend⟩ :=
      Service.finish_slots number result r₁.reading r₁.service
    rw [hw] at hleads₁ hwait hpolicy hsub hsend
    refine ⟨{ r₁ with service := s }, [], onService_ok hfinish, {
      leads := fun hawake => hleads.trans (hleads₁ (.inr hawake))
      policy := hpolicy
      waiting := hwait
      preparing := hsub
      timers := by rw [htimers, List.append_nil]
      few := Nat.zero_le 1
      sending := fun y hy => ?_ }⟩
    replace hy : y ∈ s.worker.sending := hy
    rw [hsend] at hy
    obtain ⟨hy, hne⟩ := List.mem_filter.mp hy
    exact ⟨hy, fun heq => absurd heq (bne_iff_ne.mp hne)⟩
  · exact ⟨r₁, [t], rfl, {
      leads := fun _ => hleads
      policy := by rw [hw]
      waiting := by rw [hw]
      preparing := by rw [hw]
      timers := htimers
      few := Nat.le_refl 1
      sending := fun y hy => ⟨hw ▸ hy, fun _ => ⟨t, List.mem_singleton_self t, htarget⟩⟩ }⟩

-- ---------------------------------------------------------------------------
-- What is pending
-- ---------------------------------------------------------------------------

theorem pending_le (htimers : r'.timers.length ≤ r.timers.length)
    (hunbegun : r'.service.worker.unbegun ≤ r.service.worker.unbegun) : r'.pending ≤ r.pending :=
  Nat.add_le_add htimers hunbegun

theorem advance_pending (number : Nat) (r : Rehearsal) :
    ∃ r', advance number r = .ok () r' ∧ r'.pending ≤ r.pending := by
  let s₁ : Service := Service.Event.apply (.turn number r.reading) r.service
  have hturn : onService (Service.turn number) r = .ok () { r with service := s₁ } := rfl
  have hturned : s₁.worker.unbegun ≤ r.service.worker.unbegun := Worker.turn_unbegun ..
  rw [advance, run_bind_ok hturn]
  cases hp : s₁.worker.preparing? number with
  | none =>
    have hidle := Service.beginIn_idle .own hp r.reading
    exact ⟨{ r with service := s₁ },
      run_bind_ok (onService_ok (r := { r with service := s₁ }) hidle),
      pending_le (Nat.le_refl _) hturned⟩
  | some p =>
    obtain ⟨b, s₂, hb, -, hcase⟩ := Service.begin_slots hp r.reading
    rw [run_bind_ok (onService_ok (r := { r with service := s₁ }) hb)]
    rcases hcase with ⟨x, rfl, hx, hw⟩ | ⟨rfl, hw⟩
    · obtain ⟨r₃, more, hproceed, hdone⟩ := proceed_sending number x { r with service := s₂ }
      refine ⟨r₃, hproceed, ?_⟩
      have hbegun := Worker.beginSend_unbegun hp hx
      have hunbegun : r₃.service.worker.unbegun ≤ s₂.worker.unbegun := by
        rw [Worker.unbegun, hdone.waiting]
        exact Nat.add_le_add_left hdone.preparing.length_le _
      have htimers := congrArg List.length hdone.timers
      have hfew := hdone.few
      rw [hw] at hunbegun
      simp only [List.length_append] at htimers
      simp only [pending]
      omega
    · exact ⟨{ r with service := s₂ }, rfl, pending_le (Nat.le_refl _)
        (hw ▸ (Worker.dismiss_unbegun ..).trans hturned)⟩

theorem settleFor_pending (fuel : Nat) (r : Rehearsal) :
    ∃ r', settleFor fuel r = .ok () r' ∧ r'.pending ≤ r.pending := by
  induction fuel generalizing r with
  | zero => exact ⟨r, rfl, Nat.le_refl _⟩
  | succ fuel ih =>
    rw [settleFor, run_bind_ok (run_get _)]
    cases r.service.worker.ready with
    | nil => exact ⟨r, rfl, Nat.le_refl _⟩
    | cons d rest =>
      obtain ⟨r₁, hadvance, hle⟩ := advance_pending d.number r
      obtain ⟨r₂, hrest, hle₂⟩ := ih r₁
      exact ⟨r₂, (run_bind_ok hadvance).trans hrest, hle₂.trans hle⟩

/-- A timer is gone before its send ends, which concerns a dispatch or a test
only by what is concluded of it. -/
theorem fire_run (t : Timer) (r : Rehearsal) : ∃ result r₁,
    fire t r = (do conclude result t.target; settle : Op Unit) r₁ ∧
      r.service.Leads r₁.service ∧ r₁.service.worker = r.service.worker ∧
      r₁.timers = r.timers.filter (·.target != t.target) := by
  let fired : Rehearsal := { r with
    seconds := Clock.later r.seconds t.due, timers := r.timers.filter (·.target != t.target) }
  have hm : (modify fun r : Rehearsal => { r with
      seconds := Clock.later r.seconds t.due, timers := r.timers.filter (·.target != t.target) }
      : Op Unit) r = .ok () fired := rfl
  obtain ⟨result, r₁, hleave, hleads, hw, htimers⟩ :=
    leave_ok t.player t.message t.behaviour t.timedOut fired
  exact ⟨result, r₁, by rw [fire, run_bind_ok hm, run_bind_ok hleave], hleads, hw, htimers⟩

/-- A timer that fires is gone, and what begins then sets no more timers
than dispatches were pending. -/
theorem fire_pending (ht : t ∈ r.timers) :
    ∃ r', fire t r = .ok () r' ∧ r'.pending < r.pending := by
  obtain ⟨result, r₁, hfire, -, hw, htimers⟩ := fire_run t r
  have hfewer : r₁.timers.length < r.timers.length :=
    htimers ▸ List.length_filter_lt_length_iff_exists.mpr ⟨t, ht, by simp⟩
  obtain ⟨r₂, hend, hle⟩ : ∃ r₂, conclude result t.target r₁ = .ok () r₂ ∧
      r₂.pending ≤ r₁.pending := by
    cases t.target with
    | dispatch number =>
      obtain ⟨s, hfinish, -, hwait, -, hsub, -⟩ :=
        Service.finish_slots number result r₁.reading r₁.service
      refine ⟨{ r₁ with service := s }, onService_ok hfinish, pending_le (Nat.le_refl _) ?_⟩
      rw [Worker.unbegun, hwait]
      exact Nat.add_le_add_left hsub.length_le _
    | trial => exact ⟨{ r₁ with trialResult := result }, rfl, Nat.le_refl _⟩
  obtain ⟨r₃, hsettle, hle₂⟩ := settleFor_pending r₂.service.worker.waiting.length r₂
  refine ⟨r₃, hfire.trans ((run_bind_ok hend).trans hsettle), hle₂.trans_lt (hle.trans_lt ?_)⟩
  simp only [pending, hw]
  exact Nat.add_lt_add_right hfewer _

-- ---------------------------------------------------------------------------
-- Settling
-- ---------------------------------------------------------------------------

theorem advance_full (h : r.Sound) (hr : r.service.worker.ready = d :: rest)
    (hf : r.service.worker.hasFreeSlot = false) :
    ∃ r', advance d.number r = .ok () r' ∧ r.Onward r' ∧ r'.service.worker.ready = rest := by
  let s₁ : Service := Service.Event.apply (.turn d.number r.reading) r.service
  have hw : s₁.worker = { r.service.worker with
      ready := rest, asleep := r.service.worker.asleep ++ [d] } := by
    have hcase := h.kept.turn_first hr r.reading.seconds
    rw [if_neg (by simp [hf])] at hcase
    exact hcase
  have hleads : r.service.Leads s₁ := .one (Service.orderly_turn hr r.reading)
  have hnone : s₁.worker.preparing? d.number = none := by simp [Worker.preparing?, hw, h.prepared]
  have hidle := Service.beginIn_idle .own hnone r.reading
  have hturn : onService (Service.turn d.number) r = .ok () { r with service := s₁ } := rfl
  refine ⟨{ r with service := s₁ }, ?_, ⟨hleads, by rw [hw], ?_⟩, by rw [hw]⟩
  · rw [advance, run_bind_ok hturn]
    exact run_bind_ok (onService_ok (r := { r with service := s₁ }) hidle)
  · exact ⟨hleads.kept h.kept, hw ▸ h.prepared, fun x hx => h.attended x (by rwa [hw] at hx)⟩

/-- A sound rehearsal stays sound when one more dispatch goes to its channel:
that leaves a timer for it, or has ended it. -/
theorem Proceeded.onward {s : Service} {x : Sending} {more : List Timer} (h : r.Sound)
    (hleads : r.service.Leads s) (hpolicy : s.worker.policy = r.service.worker.policy)
    (hawake : s.worker.asleep = []) (hprepared : s.worker.preparing = [])
    (hsending : s.worker.sending = r.service.worker.sending ++ [x])
    (hdone : Proceeded { r with service := s } r' x.dispatch.number more) : r.Onward r' := by
  have hleads' := hleads.trans (hdone.leads hawake)
  refine ⟨hleads', hdone.policy.trans hpolicy, hleads'.kept h.kept,
    List.sublist_nil.mp (hprepared ▸ hdone.preparing), fun y hy => ?_⟩
  obtain ⟨hy, htimer⟩ := hdone.sending y hy
  replace hy : y ∈ s.worker.sending := hy
  rw [hsending] at hy
  rw [hdone.timers]
  rcases List.mem_append.mp hy with hy | hy
  · obtain ⟨t, ht, htarget⟩ := h.attended y hy
    exact ⟨t, List.mem_append_left _ ht, htarget⟩
  · cases List.mem_singleton.mp hy
    obtain ⟨t, ht, htarget⟩ := htimer rfl
    exact ⟨t, List.mem_append_right _ ht, htarget⟩

theorem advance_free (h : r.Sound) (hr : r.service.worker.ready = d :: rest)
    (hf : r.service.worker.hasFreeSlot = true) :
    ∃ r', advance d.number r = .ok () r' ∧ r.Onward r' ∧ r'.service.worker.waiting = rest := by
  let s₁ : Service := Service.Event.apply (.turn d.number r.reading) r.service
  let p : Preparing := ⟨d, r.reading.seconds⟩
  have hawake := h.kept.awake hf
  have hw : s₁.worker = { r.service.worker with
      ready := rest, active := r.service.worker.active + 1, preparing := [p] } := by
    have hcase := h.kept.turn_first hr r.reading.seconds
    rw [h.prepared, if_pos hf] at hcase
    exact hcase
  have hleads : r.service.Leads s₁ := .one (Service.orderly_turn hr r.reading)
  have hp : s₁.worker.preparing? d.number = some p := by simp [Worker.preparing?, hw, p]
  have hturn : onService (Service.turn d.number) r = .ok () { r with service := s₁ } := rfl
  obtain ⟨b, s₂, hb, hleads₂, hcase⟩ := Service.begin_slots hp r.reading
  replace hleads₂ : r.service.Leads s₂ := hleads.trans (hleads₂ (by rw [hw]; exact hawake))
  rw [advance, run_bind_ok hturn, run_bind_ok (onService_ok (r := { r with service := s₁ }) hb)]
  rcases hcase with ⟨x, rfl, hx, hw₂⟩ | ⟨rfl, hw₂⟩
  · replace hw₂ : s₂.worker = { r.service.worker with
        ready := rest, active := r.service.worker.active + 1, preparing := []
        sending := r.service.worker.sending ++ [x] } := by
      rw [hw₂, hw]
      simp [Worker.beginSend, hx, p]
    obtain rfl : x.dispatch = d := hx
    obtain ⟨r₃, more, hproceed, hdone⟩ :=
      proceed_sending x.dispatch.number x { r with service := s₂ }
    have hawake₂ : s₂.worker.asleep = [] := by rw [hw₂]; exact hawake
    refine ⟨r₃, hproceed, hdone.onward h hleads₂ (by rw [hw₂]) hawake₂ (by rw [hw₂])
      (by rw [hw₂]), ?_⟩
    rw [hdone.waiting, hw₂, Worker.waiting, hawake, List.append_nil]
  · replace hw₂ : s₂.worker = { r.service.worker with
        ready := rest, preparing := []
        sending := r.service.worker.sending.filter (·.dispatch.number != d.number)
        held := r.service.worker.held.filter (· != d.entry.id) } := by
      rw [hw₂, hw]
      simp [Worker.dismiss, Worker.letGo, Worker.giveBack, Worker.wake, p, hawake]
    refine ⟨{ r with service := s₂ }, rfl, ⟨hleads₂, by rw [hw₂],
      hleads₂.kept h.kept, by rw [hw₂], fun y hy => h.attended y ?_⟩, ?_⟩
    · rw [hw₂] at hy
      exact (List.mem_filter.mp hy).1
    · rw [hw₂, Worker.waiting, hawake, List.append_nil]

/-- With a chance for each dispatch that is ready, it goes on until none is. -/
theorem settleFor_onward (fuel : Nat) (h : r.Sound) :
    ∃ r', settleFor fuel r = .ok () r' ∧ r.Onward r' ∧
      (r.service.worker.ready.length ≤ fuel → r'.service.worker.ready = []) := by
  -- on the chances: each turn takes one off those that are ready, and wakes nobody
  induction fuel generalizing r with
  | zero =>
    exact ⟨r, rfl, .refl h, fun hle => List.eq_nil_of_length_eq_zero (Nat.le_zero.mp hle)⟩
  | succ fuel ih =>
    rw [settleFor, run_bind_ok (run_get _)]
    cases hr : r.service.worker.ready with
    | nil => exact ⟨r, rfl, .refl h, fun _ => hr⟩
    | cons d rest =>
      obtain ⟨r₁, hadvance, honward, hrest⟩ : ∃ r₁, advance d.number r = .ok () r₁ ∧
          r.Onward r₁ ∧ r₁.service.worker.ready.length ≤ rest.length := by
        cases hf : r.service.worker.hasFreeSlot with
        | true =>
          obtain ⟨r₁, hadvance, honward, hrest⟩ := advance_free h hr hf
          refine ⟨r₁, hadvance, honward, ?_⟩
          rw [← hrest, Worker.waiting, List.length_append]
          exact Nat.le_add_right _ _
        | false =>
          obtain ⟨r₁, hadvance, honward, hrest⟩ := advance_full h hr hf
          exact ⟨r₁, hadvance, honward, Nat.le_of_eq (congrArg _ hrest)⟩
      obtain ⟨r₂, hr₂, honward₂, hstop⟩ := ih honward.sound
      refine ⟨r₂, (run_bind_ok hadvance).trans hr₂, honward.trans honward₂, fun hle => hstop ?_⟩
      rw [List.length_cons] at hle
      omega

theorem settle_onward (h : r.Sound) :
    ∃ r', settle r = .ok () r' ∧ r.Onward r' ∧ r'.service.worker.ready = [] := by
  obtain ⟨r', hr', honward, hstop⟩ := settleFor_onward r.service.worker.waiting.length h
  refine ⟨r', hr', honward, hstop ?_⟩
  rw [Worker.waiting, List.length_append]
  exact Nat.le_add_right _ _

-- ---------------------------------------------------------------------------
-- Timers
-- ---------------------------------------------------------------------------

theorem firstTimer?_none {timers : List Timer} (h : firstTimer? timers = none) : timers = [] := by
  cases timers with
  | nil => rfl
  | cons t rest =>
    unfold firstTimer? at h
    split at h
    · split at h <;> cases h
    · cases h

theorem firstTimer?_mem {timers : List Timer} (h : firstTimer? timers = some t) : t ∈ timers := by
  induction timers generalizing t with
  | nil => cases h
  | cons u rest ih =>
    unfold firstTimer? at h
    split at h
    · rename_i v hv
      split at h <;> cases h
      · exact List.mem_cons_of_mem _ (ih hv)
      · exact List.mem_cons_self
    · cases h
      exact List.mem_cons_self

theorem fire_onward (h : r.Sound) (hidle : r.service.worker.ready = []) (t : Timer) :
    ∃ r', fire t r = .ok () r' ∧ r.Onward r' ∧ r'.service.worker.ready = [] := by
  obtain ⟨result, r₁, hfire, hleads, hw, htimers⟩ := fire_run t r
  have attended (x : Sending) (hx : x ∈ r.service.worker.sending)
      (hne : .dispatch x.dispatch.number ≠ t.target) :
      ∃ u ∈ r₁.timers, u.target = .dispatch x.dispatch.number := by
    obtain ⟨u, hu, htu⟩ := h.attended x hx
    exact ⟨u, htimers ▸ List.mem_filter.mpr ⟨hu, by simpa [htu] using hne⟩, htu⟩
  -- whatever it ends, the dispatches that are woken have their turns then
  obtain ⟨r₂, hend, honward⟩ : ∃ r₂, conclude result t.target r₁ = .ok () r₂ ∧ r.Onward r₂ := by
    cases htarget : t.target with
    | dispatch number =>
      obtain ⟨s, hfinish, hleads₂, -, hpolicy, hsub, hsend⟩ :=
        Service.finish_slots number result r₁.reading r₁.service
      rw [hw] at hleads₂ hpolicy hsub hsend
      replace hleads₂ := hleads.trans (hleads₂ (.inl hidle))
      refine ⟨{ r₁ with service := s }, onService_ok hfinish, hleads₂, hpolicy,
        hleads₂.kept h.kept, List.sublist_nil.mp (h.prepared ▸ hsub), fun x hx => ?_⟩
      replace hx : x ∈ s.worker.sending := hx
      rw [hsend] at hx
      obtain ⟨hx, hne⟩ := List.mem_filter.mp hx
      exact attended x hx (by simpa [htarget] using hne)
    | trial =>
      exact ⟨{ r₁ with trialResult := result }, rfl, hleads, congrArg _ hw, hleads.kept h.kept,
        hw ▸ h.prepared, fun x hx => attended x (hw ▸ hx) (by simp [htarget])⟩
  obtain ⟨r', hsettle, honward', hready⟩ := settle_onward honward.sound
  exact ⟨r', hfire.trans ((run_bind_ok hend).trans hsettle), honward.trans honward', hready⟩

/-- Timers fire in order; with a chance for each thing that is pending and
no limit of time, none is left. -/
theorem fireUpTo_onward (limit : Option Rat) (fuel : Nat) (h : r.Sound)
    (hidle : r.service.worker.ready = []) :
    ∃ r', fireUpTo limit fuel r = .ok () r' ∧ r.Onward r' ∧ r'.service.worker.ready = [] ∧
      (limit = none → r.pending ≤ fuel → r'.timers = []) := by
  -- on the chances: each firing takes one off what is pending, so they suffice
  induction fuel generalizing r with
  | zero =>
    refine ⟨r, rfl, .refl h, hidle, fun _ hle => List.eq_nil_of_length_eq_zero ?_⟩
    simp only [pending] at hle
    omega
  | succ fuel ih =>
    rw [fireUpTo, run_bind_ok (run_get _)]
    cases ht : firstTimer? r.timers with
    | none => exact ⟨r, rfl, .refl h, hidle, fun _ _ => firstTimer?_none ht⟩
    | some t =>
      by_cases hl : (limit.all fun limit => decide (t.due ≤ limit)) = true
      · obtain ⟨r₁, hfire, honward, hidle₁⟩ := fire_onward h hidle t
        obtain ⟨_, hfire', hless⟩ := fire_pending (firstTimer?_mem ht)
        cases hfire.symm.trans hfire'
        obtain ⟨r₂, hrest, honward₂, hidle₂, hempty⟩ := ih honward.sound hidle₁
        refine ⟨r₂, (congrFun (if_pos hl) r).trans ((run_bind_ok hfire).trans hrest),
          honward.trans honward₂, hidle₂, fun hn hle => hempty hn ?_⟩
        omega
      · refine ⟨r, congrFun (if_neg hl) r, .refl h, hidle, ?_⟩
        rintro rfl
        exact absurd rfl hl

theorem drain_onward (h : r.Sound) :
    ∃ r', drain r = .ok () r' ∧ r.Onward r' ∧ r'.service.worker.ready = [] ∧ r'.timers = [] := by
  obtain ⟨r₁, hsettle, honward, hidle⟩ := settle_onward h
  obtain ⟨r₂, hfire, honward₂, hidle₂, hempty⟩ :=
    fireUpTo_onward none r₁.pending honward.sound hidle
  exact ⟨r₂, (run_bind_ok hsettle).trans ((run_bind_ok (run_get _)).trans hfire),
    honward.trans honward₂, hidle₂, hempty rfl (Nat.le_refl _)⟩

theorem drain_rests (h : r.Sound) (hp : r.service.worker.policy.queueWorkers.gtInt 0 = true) :
    ∃ r', drain r = .ok () r' ∧ r.Onward r' ∧ r'.service.worker.dispatches = [] := by
  obtain ⟨r', hdrain, honward, hidle, htimers⟩ := drain_onward h
  have hsending : r'.service.worker.sending = [] := by
    refine List.eq_nil_iff_forall_not_mem.mpr fun x hx => ?_
    obtain ⟨t, ht, -⟩ := honward.sound.attended x hx
    rw [htimers] at ht
    cases ht
  have hholders : r'.service.worker.holders = [] := by
    rw [Worker.holders, honward.sound.prepared, hsending]
    rfl
  have hfree : r'.service.worker.hasFreeSlot = true := by
    rw [honward.sound.kept.hasFreeSlot, hholders, honward.policy]
    exact hp
  refine ⟨r', hdrain, honward, ?_⟩
  rw [Worker.dispatches, Worker.waiting, hidle, honward.sound.kept.awake hfree, hholders]
  rfl

-- ---------------------------------------------------------------------------
-- Whole rehearsals
-- ---------------------------------------------------------------------------

/-- What is asked of a rehearsal: that something happens to its service or
its queue, that time passes, or that all dispatches end. Dispatches have
their turns and begin when it settles. -/
inductive Act where
  | call (e : SharedEvent) (h : e.cue = .other)
  | elapse (seconds : Rat)
  | drain

def Act.perform : Act → Op Unit
  | .call e _ => do
    modify fun r => { r with service := e.apply r.service }
    settle
  | .elapse seconds => do let _ ← Rehearsal.elapse seconds
  | .drain => Rehearsal.drain

def rehearse (r : Rehearsal) (acts : List Act) : Rehearsal :=
  acts.foldl (fun r a => after a.perform r) r

/-- A rehearsal at rest: no dispatch is ready, and those that are sending
will be ended. -/
structure Resting (start : Service) (r : Rehearsal) : Prop where
  leads : start.Leads r.service
  sound : r.Sound
  idle : r.service.worker.ready = []

variable {start : Service}

theorem Resting.onward (h : Resting start r) (ho : r.Onward r')
    (hidle : r'.service.worker.ready = []) : Resting start r' :=
  ⟨h.leads.trans ho.leads, ho.sound, hidle⟩

theorem Sound.call (h : r.Sound) {e : SharedEvent} (he : e.cue = .other) :
    Sound { r with service := e.apply r.service } := by
  have hnext := e.next r.service
  rw [he] at hnext
  have hsub (w' : Worker) (hw' : r.service.worker.Next .other w') :
      w'.preparing ⊆ r.service.worker.preparing ∧ w'.sending ⊆ r.service.worker.sending := by
    cases hw' with
    | ends => exact ⟨List.filter_subset_self _, List.filter_subset_self _⟩
    | _ => exact ⟨fun _ => id, fun _ => id⟩
  obtain ⟨hpreparing, hsending⟩ := hsub _ hnext
  exact ⟨hnext.kept h.kept, List.subset_nil.mp (h.prepared ▸ hpreparing),
    fun x hx => h.attended x (hsending hx)⟩

theorem Sound.act_call (h : r.Sound) {e : SharedEvent} (he : e.cue = .other) :
    Onward { r with service := e.apply r.service } (after (Act.call e he).perform r) ∧
      (after (Act.call e he).perform r).service.worker.ready = [] := by
  obtain ⟨r', hsettle, honward, hidle⟩ := settle_onward (h.call he)
  have hm : (modify fun r : Rehearsal => { r with service := e.apply r.service } : Op Unit) r =
      .ok () { r with service := e.apply r.service } := rfl
  rw [Act.perform, after_bind_ok hm, after_ok hsettle]
  exact ⟨honward, hidle⟩

theorem Resting.act (h : Resting start r) (a : Act) : Resting start (after a.perform r) := by
  cases a with
  | call e he =>
    obtain ⟨honward, hidle⟩ := h.sound.act_call he
    exact ⟨(h.leads.trans (.one (Service.orderly_idle h.idle e))).trans honward.leads,
      honward.sound, hidle⟩
  | elapse seconds =>
    obtain ⟨r₁, hsettle, honward, hidle⟩ := settle_onward h.sound
    obtain ⟨r₂, hfire, honward₂, hidle₂, -⟩ :=
      fireUpTo_onward (some (Clock.plus r₁.seconds seconds)) r₁.pending honward.sound hidle
    have hrest := h.onward (honward.trans honward₂) hidle₂
    rw [Act.perform, after_discard, elapse, after_bind_ok hsettle, after_bind_ok (run_get _),
      after_bind_ok hfire]
    exact ⟨hrest.leads, ⟨hrest.sound.kept, hrest.sound.prepared, hrest.sound.attended⟩, hrest.idle⟩
  | drain =>
    obtain ⟨r₁, hdrain, honward, hidle, -⟩ := drain_onward h.sound
    rw [Act.perform, after_ok hdrain]
    exact h.onward honward hidle

theorem rehearse_resting (h : Resting start r) (acts : List Act) :
    Resting start (rehearse r acts) := by
  induction acts generalizing r with
  | nil => exact h
  | cons a rest ih => exact ih (h.act a)

def opening (store : Store) (settings : Settings) (policy : Policy)
    (servers : Channel.Servers) (players : List Player) : Rehearsal :=
  { service := Service.create store settings policy, servers, players }

theorem opening_resting (store : Store) (settings : Settings) (policy : Policy)
    (servers : Channel.Servers) (players : List Player) :
    Resting (Service.create store settings policy)
      (opening store settings policy servers players) :=
  ⟨.refl _, ⟨Service.create_kept store settings policy, rfl, fun _ hx => nomatch hx⟩, rfl⟩

end Rehearsal

open Service (SharedEvent Throughout runShared watch)
open Rehearsal (Act opening rehearse)

/-- In every run of a service, a dispatch leaves the wait for a slot alone and
while nobody sleeps; the others that have a slot are fewer then than the policy
in force has, and with it they are that many at most if this is a whole number.
Each dispatch is claimed once, leaves the wait once and gives its slot back
once, and in an orderly run they leave the wait in the order of their claims.
Whoever sleeps finds no slot free; and when all have ended, none is taken and no
id is held. A rehearsal is such an orderly run. Between its acts none is ready,
and a drain ends every dispatch unless the policy has no slot at all. -/
theorem slots_kept (store : Store) (settings : Settings) (policy : Policy) :
    let start := Service.create store settings policy
    (∀ events e,
      let w := (runShared start events).worker
      let w' := (SharedEvent.apply e (runShared start events)).worker
      ∀ d ∈ w.admissions w', w.admissions w' = [d] ∧ w'.holders.Perm (d :: w.holders) ∧
        w.asleep = [] ∧ w'.policy = w.policy ∧
        w'.policy.queueWorkers.gtInt w.holders.length = true ∧
        ∀ n, w'.policy.queueWorkers = .whole n → (w'.holders.length : Int) ≤ n) ∧
    (∀ events,
      let x := watch start events
      let w := x.service.worker
      x.service = runShared start events ∧ x.Fair ∧
      (Throughout SharedEvent.Orderly start events →
        x.admitted ++ (w.asleep ++ w.ready) = x.claimed) ∧
      (w.asleep ≠ [] → w.policy.queueWorkers.gtInt w.holders.length = false) ∧
      (w.dispatches = [] → w.active = 0 ∧ w.held = [])) ∧
    ∀ servers players acts,
      let r := rehearse (opening store settings policy servers players) acts
      let w := r.service.worker
      (∃ events, Throughout SharedEvent.Orderly start events ∧
        runShared start events = r.service) ∧
      w.ready = [] ∧
      (w.policy.queueWorkers.gtInt 0 = true → ∃ r', Rehearsal.drain r = .ok () r' ∧
        r'.service.worker.holders = [] ∧ r'.service.worker.active = 0 ∧
        r'.service.worker.held = [] ∧ r'.service.worker.inFlight = 0) := by
  intro start
  have hstart : start.worker.Kept := Service.create_kept store settings policy
  refine ⟨?_, ?_, fun servers players acts => ?_⟩
  · intro events e w w' d hd
    obtain ⟨halone, hholders, hpolicy, hfree, hawake⟩ :=
      (e.next _).admits (Service.runShared_kept hstart events) hd
    refine ⟨halone, hholders, hawake, hpolicy, hpolicy ▸ hfree, fun n hn => ?_⟩
    have hlt : (w.holders.length : Int) < n := by
      rw [← hpolicy, hn] at hfree
      exact of_decide_eq_true hfree
    have hlength : w'.holders.length = w.holders.length + 1 := hholders.length_eq
    omega
  · intro events x w
    have hk : w.Kept := Service.watch_kept hstart events
    refine ⟨Service.watch_service start events, Service.watch_fair store settings policy events,
      fun ho => Service.watch_inOrder hstart rfl ho, fun hne => hk.hasFreeSlot ▸ hk.full hne,
      hk.ended⟩
  · have hrest := Rehearsal.rehearse_resting
      (Rehearsal.opening_resting store settings policy servers players) acts
    refine ⟨hrest.leads, hrest.idle, fun hp => ?_⟩
    obtain ⟨r', hdrain, honward, hnone⟩ := Rehearsal.drain_rests hrest.sound hp
    obtain ⟨hactive, hheld⟩ := honward.sound.kept.ended hnone
    obtain ⟨hwaiting, hholders⟩ := List.append_eq_nil_iff.mp hnone
    exact ⟨r', hdrain, hholders, hactive, hheld, by rw [Worker.inFlight, hwaiting, hholders]; rfl⟩

def twoSends : List Act := [
  .call (.own (.arrange { registry := ⟨[⟨.rehearsed "email" "" [] 0, []⟩]⟩ })) rfl,
  .call (.own (.enqueue { channel := "email", values := [("recipient", .text "a@b")] }
    Clock.start)) rfl,
  .call (.own (.enqueue { channel := "email", values := [("recipient", .text "a@b")] }
    Clock.start)) rfl,
  .call (.own (.process Instant.clockStart Clock.start)) rfl]

def slowOpening : Rehearsal :=
  opening {} {} {} { web := fun _ => .reply 200 none, mail := fun _ => none }
    [{ script := { default := { delay := 10 } } }]

def shrunkPool : Rehearsal :=
  rehearse slowOpening (twoSends ++ [.call (.own (.workerPolicy { queueWorkers := .whole 1 })) rfl])

theorem slots_kept_shrunkPool : shrunkPool.service.worker.policy.queueWorkers.gtInt 0 = true ∧
    ∃ r', Rehearsal.drain shrunkPool = .ok () r' ∧ r'.service.worker.holders = [] ∧
      r'.service.worker.active = 0 ∧ r'.service.worker.held = [] ∧
      r'.service.worker.inFlight = 0 := by
  have hsound : (rehearse slowOpening twoSends).Sound :=
    (Rehearsal.rehearse_resting (Rehearsal.opening_resting ..) twoSends).sound
  -- what begins after a call goes by the policy that the call leaves
  have hpolicy : shrunkPool.service.worker.policy = { queueWorkers := .whole 1 } :=
    (hsound.act_call rfl).1.policy
  have hslot : shrunkPool.service.worker.policy.queueWorkers.gtInt 0 = true := by
    rw [hpolicy]
    decide
  exact ⟨hslot, ((slots_kept {} {} {}).2.2 _ _ _).2.2 hslot⟩

namespace Service.SharedEvent

def claimOne : List SharedEvent := [
  .own (.enqueue { channel := "email", values := [("recipient", .text "a@b")] } ⟨0, .first⟩),
  .own (.process .first ⟨0, .first⟩)]

def turnOf (number : Nat) : SharedEvent := .own (.turn number ⟨0, .first⟩)

def sendOf (number : Nat) : List SharedEvent :=
  [.own (.begin number ⟨0, .first⟩), .own (.finish number (.ok ()) ⟨0, .first⟩)]

/-- Of two for one slot the second one sleeps. A third one is claimed, and is
ready when the first one ends. -/
def overtaken : List SharedEvent :=
  [.own (.arrange { registry := ⟨[⟨.rehearsed "email" "" [] 0, []⟩]⟩ })] ++ claimOne ++ claimOne ++
    [turnOf 0, turnOf 1] ++ claimOne ++ sendOf 0 ++ [turnOf 2, turnOf 1] ++ sendOf 2 ++ [turnOf 1]

end Service.SharedEvent

open Service.SharedEvent (claimOne turnOf overtaken)

/-- The third one has its turn first. And of a number of slots that is not
whole, a part serves as a whole one. -/
theorem slots_not_always_in_order :
    (¬ ∀ (store : Store) (settings : Settings) (policy : Policy) (events : List SharedEvent),
      let start := Service.create store settings policy
      Throughout SharedEvent.TakesFirst start events →
        ((watch start events).admitted.map (·.number)).Sublist
          ((watch start events).claimed.map (·.number))) ∧
    ¬ ∀ (store : Store) (settings : Settings) (policy : Policy) (events : List SharedEvent) e,
      let w := (runShared (Service.create store settings policy) events).worker
      let w' := (SharedEvent.apply e
        (runShared (Service.create store settings policy) events)).worker
      w.admissions w' ≠ [] → w'.policy.queueWorkers.ltInt w'.holders.length = false := by
  constructor
  · intro h
    have horder := h {} {} { queueWorkers := .whole 1 } overtaken (by decide +kernel)
    revert horder
    decide +kernel
  · intro h
    have hbound := h {} {} { queueWorkers := .real (.finite (3 / 2)) }
      (claimOne ++ claimOne ++ [turnOf 0]) (turnOf 1) fun hnone => by
        have hlength := congrArg List.length hnone
        revert hlength
        decide +kernel
    revert hbound
    decide +kernel

end AlertDelivery
