import AlertDelivery.Proofs.Rehearsal.Draining
import AlertDelivery.Proofs.Service.Configuring

/-!
# Channel tests

A test marks the row of its channel, lets the channel send, and stores how
that went. `testBy` is a test whose channel does any work whatever, so the
store may be found in any condition at each of the three. The fault of the
channel is always the one reported; a rehearsed test is such a test, and
what its channel answers is known beforehand.
-/

namespace AlertDelivery

namespace Service

open Channel (Row)

variable {s : Service} {type : String} {c : Channel} {row : Row} {f : Row → Row} {fault : Fault}

def changed (s : Service) (type : String) (f : Row → Row) : Service :=
  { s with store := { s.store with channels := s.store.channels.update type f } }

theorem HasRow.changed (h : s.HasRow type row) (hf : ∀ r, (f r).type = r.type) :
    (s.changed type f).HasRow type (f row) := by
  have hrow := h.update hf type
  rwa [if_pos rfl] at hrow

theorem HasRow.modify_ok (h : s.HasRow type row) (operation : String) (f : Row → Row) :
    onStore (Store.modifyChannel operation type f) s = .ok () (s.changed type f) :=
  onStore_ok (Store.modifyChannel_up h.1 h.2)

-- ---------------------------------------------------------------------------
-- The begin and the end of a test
-- ---------------------------------------------------------------------------

theorem beginTest_unregistered (h : s.registry.find? type = none) (t : Clock.Reading) :
    beginTest type t s = .error (.channelNotFound type) s := by
  rw [beginTest, run_bind_ok (run_get _), Channel.Registry.get, h]
  exact run_bind_error (lift_error _ s)

theorem beginTest_registered (h : s.registry.find? type = some c) (t : Clock.Reading) :
    beginTest type t s = (do
      onStore (Store.modifyChannel "test" type (Row.beginTest t.now))
      pure c) s := by
  rw [beginTest, run_bind_ok (run_get _), Channel.Registry.get, h]
  exact run_bind_ok (lift_ok c s)

theorem beginTest_unmarked (hc : s.registry.find? type = some c)
    (h : s.row "test" type = .error fault) (t : Clock.Reading) :
    beginTest type t s = .error fault s := by
  rw [beginTest_registered hc]
  exact run_bind_error (modifyChannel_fault h)

theorem beginTest_marked (hc : s.registry.find? type = some c) (h : s.HasRow type row)
    (t : Clock.Reading) : beginTest type t s = .ok c (s.changed type (Row.beginTest t.now)) := by
  rw [beginTest_registered hc]
  exact run_bind_ok (h.modify_ok "test" _)

theorem endTest_failed (type : String) (fault : Fault) (t : Clock.Reading) (s : Service) :
    ∃ s', endTest type (.error fault) t s = .error (testFault type s.testTimeout fault) s' ∧
      ∀ row, s.HasRow type row → s'.HasRow type
        (row.failTest (testFault type s.testTimeout fault).message t.now) := by
  let fail := Row.failTest (testFault type s.testTimeout fault).message t.now
  have hq := quietly_run (onStore (Store.modifyChannel "test" type fail)) s
  refine ⟨after (onStore (Store.modifyChannel "test" type fail)) s, ?_, fun row hrow => ?_⟩
  · rw [endTest, run_bind_ok (run_get _)]
    exact run_bind_ok hq
  · rw [after_ok (hrow.modify_ok "test" fail)]
    exact hrow.changed fun _ => rfl

theorem endTest_passed (h : s.HasRow type row) (t : Clock.Reading) :
    endTest type (.ok ()) t s = .ok () (s.changed type (Row.passTest t.now)) := by
  rw [endTest, run_bind_ok (run_get _)]
  exact h.modify_ok "test" _

theorem endTest_unstored (h : s.row "test" type = .error fault) (t : Clock.Reading) :
    endTest type (.ok ()) t s = .error fault s := by
  rw [endTest, run_bind_ok (run_get _)]
  exact modifyChannel_fault h

theorem testFault_other (h : ∀ message, fault ≠ .mishap .timeout message) (type : String)
    (timeout : Number) : testFault type timeout fault = fault := by
  unfold testFault
  split
  next message => exact absurd rfl (h message)
  next => rfl

structure Cleared (s : Service) (type : String) (row : Row) : Prop where
  stored : s.HasRow type row
  enabled : row.enabled = true
  state : row.state = .enabled
  failureCount : row.failureCount = 0
  lastError : row.lastError = none

theorem HasRow.cleared (h : s.HasRow type row) (now : Instant) :
    (s.changed type (Row.passTest now)).Cleared type (row.passTest now) :=
  ⟨h.changed fun _ => rfl, rfl, rfl, rfl, rfl⟩

end Service

namespace Rehearsal

open Channel (Row)

variable {r r' r'' : Rehearsal} {type : String} {c : Channel} {row : Row} {fault : Fault}
  {work : Channel → Op (Except Fault Unit)} {result : Except Fault Unit}

-- ---------------------------------------------------------------------------
-- A test of any kind
-- ---------------------------------------------------------------------------

/-- Tests a channel by some work, which may do anything to the world before
it has the result of the channel. -/
def testBy (type : String) (work : Channel → Op (Except Fault Unit)) : Op Unit := do
  let channel ← onService (Service.beginTest type)
  let result ← work channel
  onService (Service.endTest type result)

def marked (r : Rehearsal) (type : String) : Rehearsal :=
  { r with service := r.service.changed type (Row.beginTest r.reading.now) }

theorem onService_error {x : Clock.Reading → Service.Op α}
    (h : x r.reading r.service = .error fault s) :
    onService x r = .error fault { r with service := s } := by
  simp only [onService, h]

theorem testBy_unbegun {s : Service}
    (h : Service.beginTest type r.reading r.service = .error fault s) :
    testBy type work r = .error fault { r with service := s } :=
  run_bind_error (onService_error h)

theorem testBy_begun (hc : r.service.registry.find? type = some c)
    (hrow : r.service.HasRow type row) : testBy type work r = (do
      let result ← work c
      onService (Service.endTest type result)) (r.marked type) :=
  run_bind_ok (onService_ok (x := Service.beginTest type)
    (Service.beginTest_marked hc hrow r.reading))

/-- A test comes to its channel, whose work ends with a result. -/
def Tried (type : String) (work : Channel → Op (Except Fault Unit)) (r : Rehearsal)
    (result : Except Fault Unit) (r' : Rehearsal) : Prop :=
  ∃ c row, r.service.registry.find? type = some c ∧ r.service.HasRow type row ∧
    work c (r.marked type) = .ok result r'

theorem Tried.run (h : Tried type work r result r') :
    testBy type work r = onService (Service.endTest type result) r' := by
  obtain ⟨c, row, hc, hrow, hwork⟩ := h
  rw [testBy_begun hc hrow]
  exact run_bind_ok hwork

structure Reports (type : String) (work : Channel → Op (Except Fault Unit)) (r : Rehearsal) :
    Prop where
  unregistered : r.service.registry.find? type = none →
    testBy type work r = .error (.channelNotFound type) r
  /-- A fault of the store comes before the channel, and nothing is done. -/
  unmarked : ∀ c fault, r.service.registry.find? type = some c →
    r.service.row "test" type = .error fault → testBy type work r = .error fault r
  failed : ∀ fault r', Tried type work r (.error fault) r' →
    (∀ message, fault ≠ .mishap .timeout message) → ∃ r'', testBy type work r = .error fault r''
  /-- A channel that takes too long has failed to send, whatever the store
  does. -/
  timedOut : ∀ message r', Tried type work r (.error (.mishap .timeout message)) r' →
    ∃ r'', testBy type work r = .error (.sendFailed type ("test timed out after "
      ++ r'.service.testTimeout.toBinary64.fixedText 0 ++ "s") []) r''
  recorded : ∀ fault r' row, Tried type work r (.error fault) r' → r'.service.HasRow type row →
    ∃ reported r'', testBy type work r = .error reported r'' ∧
      r''.service.HasRow type (row.failTest reported.message r'.reading.now)
  /-- A success that cannot be stored is a fault of the store. -/
  unstored : ∀ fault r', Tried type work r (.ok ()) r' →
    r'.service.row "test" type = .error fault → testBy type work r = .error fault r'
  passed : ∀ r' row, Tried type work r (.ok ()) r' → r'.service.HasRow type row →
    ∃ r'' row', testBy type work r = .ok () r'' ∧ r''.service.Cleared type row'
  only : ∀ r'', testBy type work r = .ok () r'' →
    ∃ r' row, Tried type work r (.ok ()) r' ∧ r''.service.Cleared type row

theorem Tried.report (h : Tried type work r (.error fault) r') :
    ∃ r'', testBy type work r = .error (Service.testFault type r'.service.testTimeout fault) r'' ∧
      ∀ row, r'.service.HasRow type row → r''.service.HasRow type (row.failTest
        (Service.testFault type r'.service.testTimeout fault).message r'.reading.now) := by
  obtain ⟨s, hend, hstored⟩ := Service.endTest_failed type fault r'.reading r'.service
  exact ⟨_, h.run.trans (onService_error hend), hstored⟩

theorem Tried.unstored (h : Tried type work r (.ok ()) r')
    (hfault : r'.service.row "test" type = .error fault) : testBy type work r = .error fault r' :=
  h.run.trans (onService_error (Service.endTest_unstored hfault r'.reading))

theorem Tried.passed (h : Tried type work r (.ok ()) r') (hrow : r'.service.HasRow type row) :
    testBy type work r = .ok ()
      { r' with service := r'.service.changed type (Row.passTest r'.reading.now) } :=
  h.run.trans (onService_ok (Service.endTest_passed hrow r'.reading))

theorem tried_of_ok (h : testBy type work r = .ok () r'') :
    ∃ result r', Tried type work r result r' := by
  cases hc : r.service.registry.find? type with
  | none =>
    rw [testBy_unbegun (Service.beginTest_unregistered hc r.reading)] at h
    cases h
  | some c =>
    cases hrow : r.service.row "test" type with
    | error fault =>
      rw [testBy_unbegun (Service.beginTest_unmarked hc hrow r.reading)] at h
      cases h
    | ok row =>
      rw [Service.row_ok_iff] at hrow
      cases hwork : work c (r.marked type) with
      | error fault r' =>
        rw [testBy_begun hc hrow, run_bind_error hwork] at h
        cases h
      | ok result r' => exact ⟨result, r', c, row, hc, hrow, hwork⟩

theorem testBy_only (h : testBy type work r = .ok () r'') :
    ∃ r' row, Tried type work r (.ok ()) r' ∧ r''.service.Cleared type row := by
  obtain ⟨result, r', htried⟩ := tried_of_ok h
  cases result with
  | error fault =>
    obtain ⟨_, hreport, -⟩ := htried.report
    rw [hreport] at h
    cases h
  | ok =>
    cases hrow : r'.service.row "test" type with
    | error fault =>
      rw [htried.unstored hrow] at h
      cases h
    | ok row =>
      rw [Service.row_ok_iff] at hrow
      rw [htried.passed hrow] at h
      cases h
      exact ⟨r', _, htried, hrow.cleared _⟩

theorem testBy_reports (type : String) (work : Channel → Op (Except Fault Unit))
    (r : Rehearsal) : Reports type work r where
  unregistered hnone := testBy_unbegun (Service.beginTest_unregistered hnone r.reading)
  unmarked c fault hc hfault := testBy_unbegun (Service.beginTest_unmarked hc hfault r.reading)
  failed fault r' htried hother := by
    obtain ⟨r'', hreport, -⟩ := htried.report
    exact ⟨r'', Service.testFault_other hother type _ ▸ hreport⟩
  timedOut message r' htried := by
    obtain ⟨r'', hreport, -⟩ := htried.report
    exact ⟨r'', hreport⟩
  recorded fault r' row htried hrow := by
    obtain ⟨r'', hreport, hstored⟩ := htried.report
    exact ⟨_, r'', hreport, hstored row hrow⟩
  unstored fault r' htried hfault := htried.unstored hfault
  passed r' row htried hrow := ⟨_, _, htried.passed hrow, hrow.cleared _⟩
  only r'' h := testBy_only h

-- ---------------------------------------------------------------------------
-- A rehearsed test
-- ---------------------------------------------------------------------------

def trial (recipient : String) (c : Channel) : Op (Except Fault Unit) := do
  let r ← get
  match ← play c (Channel.Message.trial recipient) r.service.testTimeout .trial with
  | some result => pure result
  | none =>
    let r ← get
    awaitTrial r.pending
    let r ← get
    pure r.trialResult

theorem test_eq (type recipient : String) :
    test type recipient = testBy type (trial recipient) := by
  unfold test testBy trial
  refine bind_congr fun c => ?_
  simp only [bind_assoc]
  refine bind_congr fun r => bind_congr fun out => ?_
  cases out <;> simp only [pure_bind, bind_assoc]

def Behaviour.outcome (b : Behaviour) (timedOut : Bool) : Except Fault Unit :=
  if timedOut then .error (.mishap .timeout "") else b.result

/-- The result of a channel for a message: that of its kind, or what its
script says unless that comes too late. -/
def answer (r : Rehearsal) (c : Channel) (m : Channel.Message) (timeout : Number) :
    Except Fault Unit :=
  match c.backend with
  | .shipped kind => (kind.send r.servers c.config m).result
  | .rehearsed _ _ _ index => match r.players[index]? with
    | none => .ok ()
    | some player =>
      let b := (player.enter m).1
      b.outcome (0 < b.delay && (ending r.seconds b.delay timeout).2)

def trialTimers (r : Rehearsal) : List Timer := r.timers.filter (·.target = .trial)

structure Spares (r r' : Rehearsal) : Prop where
  timers : r'.trialTimers = r.trialTimers
  result : r'.trialResult = r.trialResult

namespace Spares

theorem refl (r : Rehearsal) : r.Spares r := ⟨rfl, rfl⟩

theorem trans (h : r.Spares r') (h' : r'.Spares r'') : r.Spares r'' :=
  ⟨h'.timers.trans h.timers, h'.result.trans h.result⟩

theorem bind {α β : Type} {x : Op α} {f : α → Op β} (hx : ∀ r : Rehearsal, r.Spares (after x r))
    (hf : ∀ a (r : Rehearsal), r.Spares (after (f a) r)) (r : Rehearsal) :
    r.Spares (after (x >>= f) r) := by
  have hfirst := hx r
  cases h : x r with
  | ok a r' =>
    rw [after_ok h] at hfirst
    rw [after_bind_ok h]
    exact hfirst.trans (hf a r')
  | error fault r' =>
    rw [after_error h] at hfirst
    rw [after_bind_error h]
    exact hfirst

end Spares

theorem onService_spares {α : Type} (x : Clock.Reading → Service.Op α) (r : Rehearsal) :
    r.Spares (after (onService x) r) := by
  cases h : x r.reading r.service with
  | ok a s =>
    rw [after_ok (onService_ok h)]
    exact ⟨rfl, rfl⟩
  | error fault s =>
    rw [after_error (onService_error h)]
    exact ⟨rfl, rfl⟩

theorem leave_run (player : Nat) (m : Channel.Message) (b : Behaviour) (timedOut : Bool)
    (r : Rehearsal) : ∃ r', leave player m b timedOut r = .ok (b.outcome timedOut) r' ∧
      r.Spares r' := by
  unfold leave
  cases !timedOut && b.takesStoreDown with
  | true => exact ⟨_, rfl, rfl, rfl⟩
  | false => exact ⟨_, rfl, rfl, rfl⟩

theorem trialTimers_append {t : Timer} (h : r'.timers = r.timers ++ [t]) :
    r'.trialTimers = r.trialTimers ++ if t.target = .trial then [t] else [] := by
  simp only [trialTimers, h, List.filter_append, List.filter_cons, List.filter_nil,
    decide_eq_true_eq]

/-- A channel has its result for a message at once, or a timer will end the
send with it. -/
theorem play_run (c : Channel) (m : Channel.Message) (timeout : Number) (target : Target)
    (r : Rehearsal) : ∃ out r', play c m timeout target r = .ok out r' ∧
      ((out = some (r.answer c m timeout) ∧ r.Spares r') ∨
        ∃ t, out = none ∧ t.target = target ∧
          t.behaviour.outcome t.timedOut = r.answer c m timeout ∧
          r'.timers = r.timers ++ [t] ∧ r'.trialResult = r.trialResult) := by
  unfold play answer
  cases c.backend with
  | shipped kind => exact ⟨_, _, rfl, .inl ⟨rfl, rfl, rfl⟩⟩
  | rehearsed type name keys index =>
    simp only [run_bind_ok (run_get _)]
    cases r.players[index]? with
    | none => exact ⟨_, _, rfl, .inl ⟨rfl, .refl r⟩⟩
    | some player =>
      let b := (player.enter m).1
      let r₁ : Rehearsal := { r with players := r.players.set index (player.enter m).2 }
      have hs : (set r₁ : Op PUnit) r = .ok ⟨⟩ r₁ := rfl
      by_cases hdelay : b.delay ≤ 0
      · obtain ⟨r₂, hleave, hspares⟩ := leave_run index m b false r₁
        have hmap : (leave index m b false).map some r₁ = .ok (some (b.outcome false)) r₂ := by
          simp only [EStateM.map, hleave]
        have hnow : decide (0 < b.delay) = false := decide_eq_false (not_lt.mpr hdelay)
        refine ⟨_, r₂, (run_bind_ok hs).trans ((congrFun (if_pos hdelay) r₁).trans hmap),
          .inl ⟨?_, hspares.timers, hspares.result⟩⟩
        simp only [b] at hnow ⊢
        rw [hnow, Bool.false_and]
      · have hlater : decide (0 < b.delay) = true := decide_eq_true (not_le.mp hdelay)
        refine ⟨_, _, (run_bind_ok hs).trans (congrFun (if_neg hdelay) r₁),
          .inr ⟨_, rfl, rfl, ?_, rfl, rfl⟩⟩
        simp only [b] at hlater ⊢
        rw [hlater, Bool.true_and]

theorem play_spares (c : Channel) (m : Channel.Message) (timeout : Number) (number : Nat)
    (r : Rehearsal) : r.Spares (after (play c m timeout (.dispatch number)) r) := by
  obtain ⟨out, r', hplay, ⟨-, hspares⟩ | ⟨t, -, htarget, -, htimers, hresult⟩⟩ :=
    play_run c m timeout (.dispatch number) r
  · rwa [after_ok hplay]
  · rw [after_ok hplay]
    refine ⟨?_, hresult⟩
    rw [trialTimers_append htimers, htarget, if_neg nofun, List.append_nil]

theorem proceed_spares (number : Nat) (begun : Service.Begun) (r : Rehearsal) :
    r.Spares (after (proceed number begun) r) := by
  cases begun with
  | idle => exact .refl r
  | ended => exact .refl r
  | sending x =>
    refine Spares.bind (play_spares x.channel x.message x.timeout number) (fun out r => ?_) r
    cases out with
    | none => exact .refl r
    | some result => exact onService_spares (Service.finish number result) r

theorem settleFor_spares (fuel : Nat) (r : Rehearsal) : r.Spares (after (settleFor fuel) r) := by
  induction fuel generalizing r with
  | zero => exact .refl r
  | succ fuel ih =>
    rw [settleFor, after_get_bind]
    cases r.service.worker.ready with
    | nil => exact .refl r
    | cons d rest =>
      refine Spares.bind (fun r => ?_) (fun _ => ih) r
      refine Spares.bind (onService_spares (Service.turn d.number)) (fun _ => ?_) r
      exact Spares.bind (onService_spares (Service.begin d.number)) (proceed_spares d.number)

theorem settle_spares (r : Rehearsal) : r.Spares (after settle r) :=
  settleFor_spares r.service.worker.waiting.length r

-- ---------------------------------------------------------------------------
-- Waiting for the end of a test
-- ---------------------------------------------------------------------------

/-- A test has a result, or will have it when its timer fires. -/
structure Decided (result : Except Fault Unit) (r : Rehearsal) : Prop where
  timed : ∀ t ∈ r.trialTimers, t.behaviour.outcome t.timedOut = result
  settled : r.trialTimers = [] → r.trialResult = result

theorem Decided.spares (h : Decided result r) (hs : r.Spares r') : Decided result r' where
  timed t ht := h.timed t (hs.timers ▸ ht)
  settled hnone := hs.result.trans (h.settled (hs.timers ▸ hnone))

theorem Decided.fire {t : Timer} (h : Decided result r) (ht : t ∈ r.timers) :
    Decided result (after (fire t) r) := by
  let r₁ : Rehearsal := { r with
    seconds := Clock.later r.seconds t.due, timers := r.timers.filter (·.target != t.target) }
  have hm : (modify fun r : Rehearsal => { r with
      seconds := Clock.later r.seconds t.due, timers := r.timers.filter (·.target != t.target) }
      : Op Unit) r = .ok () r₁ := rfl
  have htrials : r₁.trialTimers = r.trialTimers.filter (·.target != t.target) :=
    List.filter_comm _ _ _
  obtain ⟨r₂, hleave, hspares⟩ := leave_run t.player t.message t.behaviour t.timedOut r₁
  rw [Rehearsal.fire, after_bind_ok hm, after_bind_ok hleave]
  cases htarget : t.target with
  | dispatch number =>
    have hkept : r₁.trialTimers = r.trialTimers := by
      rw [htrials, List.filter_eq_self]
      intro u hu
      have htrial : u.target = .trial := by simpa using (List.mem_filter.mp hu).2
      rw [htrial, htarget]
      rfl
    have hspares₁ : r.Spares r₁ := ⟨hkept, rfl⟩
    exact h.spares ((hspares₁.trans hspares).trans
      (Spares.bind (onService_spares (Service.finish number _)) (fun _ => settle_spares) r₂))
  | trial =>
    have hgone : r₁.trialTimers = [] := by
      rw [htrials, List.filter_eq_nil_iff]
      intro u hu
      have htrial : u.target = .trial := by simpa using (List.mem_filter.mp hu).2
      rw [htrial, htarget]
      exact Bool.false_ne_true
    have houtcome : t.behaviour.outcome t.timedOut = result :=
      h.timed t (List.mem_filter.mpr ⟨ht, by simp [htarget]⟩)
    have hover : Decided result { r₂ with trialResult := t.behaviour.outcome t.timedOut } := by
      refine ⟨fun u hu => ?_, fun _ => houtcome⟩
      have hnone : u ∈ ([] : List Timer) := hgone ▸ hspares.timers ▸ hu
      cases hnone
    exact hover.spares (settle_spares _)

theorem awaitTrial_run (fuel : Nat) (r : Rehearsal) (h : Decided result r)
    (hfuel : r.pending ≤ fuel) : ∃ r', awaitTrial fuel r = .ok () r' ∧ r'.trialTimers = [] ∧
      r'.trialResult = result := by
  induction fuel generalizing r with
  | zero =>
    have hnone : r.trialTimers = [] := by
      rw [pending] at hfuel
      rw [trialTimers, List.eq_nil_of_length_eq_zero (by omega : r.timers.length = 0)]
      rfl
    exact ⟨r, rfl, hnone, h.settled hnone⟩
  | succ fuel ih =>
    rw [awaitTrial, run_bind_ok (run_get _)]
    by_cases hany : (r.timers.any (·.target = .trial)) = true
    · cases ht : firstTimer? r.timers with
      | none =>
        rw [firstTimer?_none ht] at hany
        cases hany
      | some t =>
        have hmem := firstTimer?_mem ht
        obtain ⟨r₁, hfire, hless⟩ := fire_pending hmem
        have hdecided : Decided result r₁ := after_ok hfire ▸ h.fire hmem
        obtain ⟨r₂, hawait, hover⟩ := ih r₁ hdecided (by omega)
        exact ⟨r₂, (congrFun (if_pos hany) r).trans ((run_bind_ok hfire).trans hawait), hover⟩
    · have hnone : r.trialTimers = [] := by
        simpa [trialTimers, List.filter_eq_nil_iff] using hany
      exact ⟨r, congrFun (if_neg hany) r, hnone, h.settled hnone⟩

theorem trial_run (recipient : String) (c : Channel) (r : Rehearsal) (h : r.trialTimers = []) :
    ∃ r', trial recipient c r =
        .ok (r.answer c (Channel.Message.trial recipient) r.service.testTimeout) r' ∧
      r'.trialTimers = [] := by
  obtain ⟨out, r₁, hplay, ⟨rfl, hspares⟩ | ⟨t, rfl, htarget, houtcome, htimers, -⟩⟩ :=
    play_run c (Channel.Message.trial recipient) r.service.testTimeout .trial r
  · rw [trial, run_bind_ok (run_get _), run_bind_ok hplay]
    exact ⟨r₁, rfl, hspares.timers.trans h⟩
  · have htrials : r₁.trialTimers = [t] := by
      rw [trialTimers_append htimers, h, if_pos htarget, List.nil_append]
    have hdecided : Decided (t.behaviour.outcome t.timedOut) r₁ := by
      refine ⟨fun u hu => ?_, fun hnone => ?_⟩
      · rw [htrials] at hu
        rw [List.mem_singleton.mp hu]
      · rw [htrials] at hnone
        cases hnone
    obtain ⟨r₂, hawait, hover, hresult⟩ := awaitTrial_run r₁.pending r₁ hdecided (Nat.le_refl _)
    rw [trial, run_bind_ok (run_get _), run_bind_ok hplay, ← houtcome, ← hresult]
    exact ⟨r₂, (run_bind_ok (run_get r₁)).trans (run_bind_ok hawait), hover⟩

/-- However a channel fares in a test, whatever happens meanwhile, and in
whatever condition the store is found at each of its transactions: the fault
of the channel is reported, and never that of storing it. A rehearsed test is
such a test, and has the result of its channel if no other test is under way. -/
theorem test_reports (type recipient : String) :
    (∀ work r, Reports type work r) ∧ test type recipient = testBy type (trial recipient) ∧
      ∀ c r, r.trialTimers = [] → ∃ r', trial recipient c r =
        .ok (r.answer c (Channel.Message.trial recipient) r.service.testTimeout) r' ∧
          r'.trialTimers = [] :=
  ⟨testBy_reports type, test_eq type recipient, trial_run recipient⟩

/-- A channel that breaks off after two seconds, and takes the store down. -/
def brokenLine : Rehearsal :=
  let channels : Channel.Table := ⟨[
    { id := 1, type := "pager", name := "Pager", createdAt := .first, updatedAt := .first }]⟩
  let r := opening { channels } {} {} { web := fun _ => .reply 200 none, mail := fun _ => none } [
    { script := { default := {
        delay := 2, takesStoreDown := true, result := .error (.mishap .runtime "line lost") } } }]
  { r with service := { r.service with registry := ⟨[⟨.rehearsed "pager" "" [] 0, []⟩]⟩ } }

theorem test_reports_brokenLine : brokenLine.trialTimers = [] ∧ ∃ r',
    test "pager" "ops" brokenLine = .error (.mishap .runtime "line lost") r' := by
  obtain ⟨hreports, htest, htrial⟩ := test_reports "pager" "ops"
  obtain ⟨r', hwork, -⟩ := htrial ⟨.rehearsed "pager" "" [] 0, []⟩ (brokenLine.marked "pager") rfl
  have hlost : (brokenLine.marked "pager").answer ⟨.rehearsed "pager" "" [] 0, []⟩
      (Channel.Message.trial "ops") (brokenLine.marked "pager").service.testTimeout =
        .error (.mishap .runtime "line lost") := by
    decide +kernel
  rw [hlost] at hwork
  rw [htest]
  exact ⟨rfl, (hreports (trial "ops") brokenLine).failed _ r'
    ⟨_, _, rfl, ⟨rfl, rfl⟩, hwork⟩ nofun⟩

end Rehearsal

end AlertDelivery
