import AlertDelivery.Proofs.OpLaws
import AlertDelivery.Service.Channels

/-!
# The health of channels

What an operator does with channels, their tests, and the outcomes that
dispatches report change the rows of channels in any order; a test begins
and ends in events of its own. `Touch` lists what an event may make of the
row of a type. The count of failures is then read off what was reported,
and flag and state stay together.
-/

namespace AlertDelivery

namespace Channel

variable {t : Table} {type other : String} {r : Row} {f : Row → Row} {now : Instant}

theorem Row.recordSuccess_state (r : Row) (now : Instant) :
    ((r.recordSuccess now).state = r.state ∧ r.state ≠ .failed) ∨
      ((r.recordSuccess now).state = .enabled ∧ r.enabled = true) ∨
      ((r.recordSuccess now).state = .disabled ∧ r.enabled = false) := by
  by_cases hf : r.state = .failed
  · cases he : r.enabled with
    | true => exact .inr (.inl ⟨by simp [recordSuccess, hf, he], rfl⟩)
    | false => exact .inr (.inr ⟨by simp [recordSuccess, hf, he], rfl⟩)
  · exact .inl ⟨by simp [recordSuccess, hf], hf⟩

theorem Row.recordFailure_state (r : Row) (error : String) (now : Instant) :
    ((r.recordFailure error now).state = .failed ∧
      failureThreshold ≤ (r.recordFailure error now).failureCount) ∨
    ((r.recordFailure error now).state = r.state ∧
      (r.recordFailure error now).failureCount < failureThreshold) := by
  by_cases h : failureThreshold ≤ r.failureCount + 1
  · exact .inl ⟨if_pos h, h⟩
  · exact .inr ⟨if_neg h, Int.not_le.mp h⟩

-- ---------------------------------------------------------------------------
-- Rows by their types
-- ---------------------------------------------------------------------------

namespace Table

theorem find?_update (hf : ∀ r, (f r).type = r.type) (t : Table) (type other : String) :
    (t.update other f).find? type =
      (t.find? type).map fun r => if other = type then f r else r := by
  have htype (r : Row) : (if r.type == other then f r else r).type = r.type := by
    split
    · exact hf r
    · rfl
  simp only [find?, update, List.find?_map, Function.comp_def, htype]
  cases h : t.rows.find? (·.type == type) with
  | none => rfl
  | some r =>
    have hr : r.type = type := by simpa using List.find?_some h
    by_cases heq : other = type
    · simp [hr, heq]
    · simp [hr, heq, Ne.symm heq]

theorem find?_addMissing_of_some (h : t.find? type = some r) (now : Instant)
    (d : ChannelDefinition) : (t.addMissing now d).find? type = some r := by
  unfold addMissing
  split
  · exact h
  · rw [find?, List.find?_append, show t.rows.find? (·.type == type) = some r from h]
    rfl

theorem addCatalog_snd (t : Table) (now : Instant) :
    (t.addCatalog now).2 = Catalog.definitions.foldl (addMissing now) t := by
  simp only [addCatalog]

theorem find?_foldl_of_some (h : t.find? type = some r) (now : Instant)
    (ds : List ChannelDefinition) : (ds.foldl (addMissing now) t).find? type = some r := by
  induction ds generalizing t with
  | nil => exact h
  | cons d rest ih => exact ih (find?_addMissing_of_some h now d)

theorem find?_addCatalog_of_some (h : t.find? type = some r) (now : Instant) :
    (t.addCatalog now).2.find? type = some r := by
  rw [addCatalog_snd]
  exact find?_foldl_of_some h now _

theorem find?_addMissing_self (t : Table) (now : Instant) (d : ChannelDefinition) :
    ∃ r, (t.addMissing now d).find? d.type = some r := by
  cases h : t.find? d.type with
  | some r => exact ⟨r, find?_addMissing_of_some h now d⟩
  | none =>
    have hnone : t.rows.find? (·.type == d.type) = none := h
    rw [addMissing, h, find?, List.find?_append, hnone, Option.none_or]
    exact ⟨_, List.find?_cons_of_pos (beq_self_eq_true d.type)⟩

theorem find?_addCatalog {d : ChannelDefinition} (hd : d ∈ Catalog.definitions) (t : Table)
    (now : Instant) : ∃ r, (t.addCatalog now).2.find? d.type = some r := by
  rw [addCatalog_snd]
  obtain ⟨before, rest, hsplit⟩ := List.append_of_mem hd
  obtain ⟨r, hr⟩ := find?_addMissing_self (before.foldl (addMissing now) t) now d
  rw [hsplit, List.foldl_append, List.foldl_cons]
  exact ⟨r, find?_foldl_of_some hr now rest⟩

def IsNew (r : Row) : Prop := r.state = .disabled ∧ r.enabled = false ∧ r.failureCount = 0

theorem find?_addMissing_new (h : ∀ r, t.find? type = some r → IsNew r) (now : Instant)
    (d : ChannelDefinition) : ∀ r, (t.addMissing now d).find? type = some r → IsNew r := by
  intro r hr
  unfold addMissing at hr
  split at hr
  · exact h r hr
  · cases hold : t.find? type with
    | some r₀ =>
      rw [find?, List.find?_append, show t.rows.find? (·.type == type) = some r₀ from hold] at hr
      cases hr
      exact h _ hold
    | none =>
      rw [find?, List.find?_append, show t.rows.find? (·.type == type) = none from hold,
        Option.none_or] at hr
      rw [List.mem_singleton.mp (List.mem_of_find?_eq_some hr)]
      exact ⟨rfl, rfl, rfl⟩

theorem find?_addCatalog_new (h : t.find? type = none)
    (hr : (t.addCatalog now).2.find? type = some r) : IsNew r := by
  rw [addCatalog_snd] at hr
  have hnew : ∀ r, t.find? type = some r → IsNew r := by
    intro r hr
    rw [h] at hr
    cases hr
  generalize Catalog.definitions = ds at hr
  clear h
  induction ds generalizing t with
  | nil => exact hnew r hr
  | cons d rest ih => exact ih (find?_addMissing_new hnew now d) hr

end Table

end Channel

-- ---------------------------------------------------------------------------
-- Transactions on a row
-- ---------------------------------------------------------------------------

namespace Store

variable {st : Store} {type : String} {f : Channel.Row → Channel.Row} {operation : String}

theorem updateChannel_up (hup : st.isUp = true) : updateChannel operation type f st =
    .ok () { st with channels := st.channels.update type f } :=
  onChannels_up (fun t => .ok ((), t.update type f)) hup rfl

theorem modifyChannel_up (hup : st.isUp = true) (hr : st.channels.find? type = some r) :
    modifyChannel operation type f st =
      .ok () { st with channels := st.channels.update type f } :=
  onChannels_up (fun t => (t.modify type f).map fun t => ((), t)) hup
    (by simp only [Channel.Table.modify, hr, Except.map])

theorem modifyChannel_missing (hup : st.isUp = true) (hr : st.channels.find? type = none) :
    modifyChannel operation type f st = .error (Channel.notFound type) st :=
  onChannels_fault (fun t => (t.modify type f).map fun t => ((), t)) hup
    (by simp only [Channel.Table.modify, hr, Except.map])

end Store

namespace Service

open Channel (Row)

/-- What happens to the channels of a service. A test begins with a number,
and ends under it. -/
inductive HealthEvent where
  | enable (type : String) (t : Clock.Reading)
  | disable (type : String) (t : Clock.Reading)
  | configure (type : String) (config : Fields) (t : Clock.Reading)
  | success (type : String) (t : Clock.Reading)
  | failure (type error : String) (t : Clock.Reading)
  | testBegins (type : String) (t : Clock.Reading)
  | testEnds (number : Nat) (result : Except Fault Unit) (t : Clock.Reading)
  | register (c : Channel)
  | unregister (type : String)
  | addMissing (t : Clock.Reading)

/-- A service with its tests, each with its channel type while it is in
progress, and with the successes and failures that were reported, oldest
first. -/
structure Tested where
  service : Service
  tests : List (Option String) := []
  reports : List (String × Bool) := []

namespace HealthEvent

def perform (x : Tested) : HealthEvent → Op Unit
  | .enable type t => Service.enable type t
  | .disable type t => Service.disable type t
  | .configure type config t => do let _ ← updateConfig type config t
  | .success type t => onStore (Store.recordSuccess type t.now)
  | .failure type error t => onStore (Store.recordFailure type error t.now)
  | .testBegins type t => do let _ ← beginTest type t
  | .testEnds number result t => match x.tests[number]?.join with
    | some type => endTest type result t
    | none => pure ()
  | .register c => Service.register c
  | .unregister type => Service.unregister type
  | .addMissing t => do let _ ← initializeChannels t

def report (x : Tested) : HealthEvent → Option (String × Bool)
  | .success type _ => some (type, true)
  | .failure type _ _ => some (type, false)
  | .testEnds number result _ => x.tests[number]?.join.map fun type =>
    (type, match result with | .ok _ => true | .error _ => false)
  | _ => none

/-- The tests after an event: one that could not begin is none. -/
def testsAfter (x : Tested) : HealthEvent → List (Option String)
  | .testBegins type t => match beginTest type t x.service with
    | .ok _ _ => x.tests ++ [some type]
    | .error _ _ => x.tests
  | .testEnds number _ _ => x.tests.set number none
  | _ => x.tests

end HealthEvent

def Tested.step (x : Tested) (e : HealthEvent) : Tested where
  service := after (e.perform x) x.service
  tests := e.testsAfter x
  reports := x.reports ++ (e.report x).toList

def Tested.run (x : Tested) (events : List HealthEvent) : Tested := events.foldl Tested.step x

def failures (type : String) (reports : List (String × Bool)) : Nat :=
  ((reports.filter (·.1 == type)).reverse.takeWhile (!·.2)).length

/-- What an event makes of the row of a type. -/
inductive Touch (x : Tested) (type : String) (r : Row) : HealthEvent → Row → Prop
  | enabled (t) : Touch x type r (.enable type t) (r.enable t.now)
  | disabled (t) : Touch x type r (.disable type t) (r.disable t.now)
  | configured (config cleaned t) :
    Touch x type r (.configure type config t) (r.configure cleaned t.now)
  | succeeded (t) : Touch x type r (.success type t) (r.recordSuccess t.now)
  | failed (error t) : Touch x type r (.failure type error t) (r.recordFailure error t.now)
  | testBegun (t) (h : some type ∈ (HealthEvent.testBegins type t).testsAfter x) :
    Touch x type r (.testBegins type t) (r.beginTest t.now)
  | testPassed (number t) (h : x.tests[number]? = some (some type)) :
    Touch x type r (.testEnds number (.ok ()) t) (r.passTest t.now)
  | testFailed (number fault error t) (h : x.tests[number]? = some (some type)) :
    Touch x type r (.testEnds number (.error fault) t) (r.failTest error t.now)
  | spared (e) (h : ∀ b, e.report x ≠ some (type, b)) : Touch x type r e r

variable {x : Tested} {s s' : Service} {type other : String} {r r' : Row} {e : HealthEvent}
  {f : Row → Row} {operation : String}

-- ---------------------------------------------------------------------------
-- One event
-- ---------------------------------------------------------------------------

def HasRow (s : Service) (type : String) (r : Row) : Prop :=
  s.store.isUp = true ∧ s.store.channels.find? type = some r

theorem HasRow.update (h : s.HasRow type r) (hf : ∀ r, (f r).type = r.type) (other : String) :
    HasRow { s with store := { s.store with channels := s.store.channels.update other f } } type
      (if other = type then f r else r) :=
  ⟨h.1, by rw [Channel.Table.find?_update hf, h.2, Option.map_some]⟩

theorem HasRow.record (h : s.HasRow type r) (hf : ∀ r, (f r).type = r.type)
    (operation other : String) :
    HasRow (after (onStore (Store.updateChannel operation other f)) s) type
      (if other = type then f r else r) := by
  rw [after_onStore, after_ok (Store.updateChannel_up h.1)]
  exact h.update hf other

theorem HasRow.modify (h : s.HasRow type r) (hf : ∀ r, (f r).type = r.type)
    (operation other : String) :
    HasRow (after (onStore (Store.modifyChannel operation other f)) s) type
      (if other = type then f r else r) := by
  rw [after_onStore]
  cases hr : s.store.channels.find? other with
  | some r₀ =>
    rw [after_ok (Store.modifyChannel_up h.1 hr)]
    exact h.update hf other
  | none =>
    rw [after_error (Store.modifyChannel_missing h.1 hr)]
    have hne : other ≠ type := by
      rintro rfl
      cases hr.symm.trans h.2
    rw [if_neg hne]
    exact h

theorem updateConfig_cases (h : s.HasRow type r) (other : String) (config : Fields)
    (t : Clock.Reading) : HasRow (after (updateConfig other config t) s) type r ∨
      ∃ cleaned, HasRow (after (updateConfig other config t) s) type
        (if other = type then r.configure cleaned t.now else r) := by
  simp only [updateConfig, after_get_bind]
  cases hc : checkedConfig s.registry other config with
  | error fault => exact .inl h
  | ok cleaned =>
    refine .inr ⟨cleaned, ?_⟩
    have hm := h.modify (f := Row.configure cleaned t.now) (fun _ => rfl) "update_config" other
    rw [after_bind_ok (lift_ok _ _)]
    cases hs : onStore (Store.modifyChannel "update_config" other
        (Row.configure cleaned t.now)) s with
    | ok u s' =>
      rw [after_ok hs] at hm
      rw [after_bind_ok hs]
      exact hm
    | error fault s' =>
      rw [after_error hs] at hm
      rw [after_bind_error hs]
      exact hm

theorem beginTest_cases (h : s.HasRow type r) (other : String) (t : Clock.Reading) :
    (∃ channel s', beginTest other t s = .ok channel s' ∧
      HasRow s' type (if other = type then r.beginTest t.now else r)) ∨
    ∃ fault s', beginTest other t s = .error fault s' ∧ HasRow s' type r := by
  rw [beginTest, run_bind_ok (run_get _)]
  cases hc : s.registry.get other with
  | error fault => exact .inr ⟨fault, s, rfl, h⟩
  | ok channel =>
    rw [run_bind_ok (lift_ok _ _)]
    cases hr : s.store.channels.find? other with
    | some r₀ =>
      have hm : Store.modifyChannel "test" other (Row.beginTest t.now) s.store = .ok () _ :=
        Store.modifyChannel_up h.1 hr
      exact .inl ⟨channel, _, (run_bind_ok (onStore_ok hm)).trans rfl,
        h.update (f := Row.beginTest t.now) (fun _ => rfl) other⟩
    | none =>
      have hm : Store.modifyChannel "test" other (Row.beginTest t.now) s.store = .error _ _ :=
        Store.modifyChannel_missing h.1 hr
      exact .inr ⟨_, s, run_bind_error (onStore_error hm), h⟩

theorem endTest_ok (h : s.HasRow type r) (other : String) (t : Clock.Reading) :
    HasRow (after (endTest other (.ok ()) t) s) type
      (if other = type then r.passTest t.now else r) := by
  simp only [endTest, after_get_bind]
  exact h.modify (f := Row.passTest t.now) (fun _ => rfl) "test" other

theorem endTest_error (h : s.HasRow type r) (other : String) (fault : Fault)
    (t : Clock.Reading) : ∃ error, HasRow (after (endTest other (.error fault) t) s) type
      (if other = type then r.failTest error t.now else r) := by
  let error := (testFault other s.testTimeout fault).message
  refine ⟨error, ?_⟩
  have hq := quietly_run (onStore (Store.modifyChannel "test" other
    (Row.failTest error t.now))) s
  simp only [endTest, after_get_bind]
  rw [after_bind_ok hq]
  exact h.modify (f := Row.failTest error t.now) (fun _ => rfl) "test" other

theorem initializeChannels_up (hup : s.store.isUp = true) (t : Clock.Reading) :
    ∃ rows, rows = (s.store.channels.addCatalog t.now).2 ∧
      (after (initializeChannels t) s).store = { s.store with channels := rows } := by
  rw [initializeChannels, after_onStore, Store.initializeChannels]
  cases hp : s.store.channels.addCatalog t.now with
  | mk n rows =>
    refine ⟨rows, rfl, ?_⟩
    exact after_ok (Store.onChannels_up (fun table => .ok (table.addCatalog t.now)) hup
      (congrArg Except.ok hp))

theorem hasRow_initializeChannels {d : ChannelDefinition} (hup : s.store.isUp = true)
    (hd : Catalog.find? type = some d) (t : Clock.Reading) :
    ∃ r, HasRow (after (initializeChannels t) s) type r := by
  obtain ⟨rows, hrows, hs⟩ := initializeChannels_up hup t
  obtain ⟨r, hr⟩ := Channel.Table.find?_addCatalog (List.mem_of_find?_eq_some hd)
    s.store.channels t.now
  have htype : d.type = type := by simpa using List.find?_some hd
  rw [← hrows, htype] at hr
  refine ⟨r, ?_⟩
  rw [HasRow, hs]
  exact ⟨hup, hr⟩

theorem HasRow.addMissing (h : s.HasRow type r) (t : Clock.Reading) :
    HasRow (after (initializeChannels t) s) type r := by
  obtain ⟨rows, hrows, hs⟩ := initializeChannels_up h.1 t
  have hfind := Channel.Table.find?_addCatalog_of_some h.2 t.now
  rw [← hrows] at hfind
  rw [HasRow, hs]
  exact ⟨h.1, hfind⟩

theorem Touch.ite (hsame : other = type → Touch x type r e (f r))
    (hreport : ∀ b, e.report x = some (type, b) → other = type) :
    Touch x type r e (if other = type then f r else r) := by
  by_cases h : other = type
  · rw [if_pos h]
    exact hsame h
  · rw [if_neg h]
    exact .spared e fun b hb => h (hreport b hb)

theorem Tested.touch (h : x.service.HasRow type r) (e : HealthEvent) :
    ∃ r', (x.step e).service.HasRow type r' ∧ Touch x type r e r' := by
  cases e with
  | enable other t =>
    refine ⟨_, h.modify (f := Row.enable t.now) (fun _ => rfl) "enable" other,
      .ite ?_ fun _ hb => by cases hb⟩
    rintro rfl
    exact .enabled t
  | disable other t =>
    refine ⟨_, h.modify (f := Row.disable t.now) (fun _ => rfl) "disable" other,
      .ite ?_ fun _ hb => by cases hb⟩
    rintro rfl
    exact .disabled t
  | configure other config t =>
    simp only [step, HealthEvent.perform, after_discard]
    rcases updateConfig_cases h other config t with hr | ⟨cleaned, hr⟩
    · exact ⟨r, hr, .spared _ fun b hb => by cases hb⟩
    · refine ⟨_, hr, .ite ?_ fun _ hb => by cases hb⟩
      rintro rfl
      exact .configured config cleaned t
  | success other t =>
    refine ⟨_, h.record (f := Row.recordSuccess t.now) (fun _ => rfl) "record_success" other,
      .ite ?_ fun _ hb => by cases hb; rfl⟩
    rintro rfl
    exact .succeeded t
  | failure other error t =>
    refine ⟨_, h.record (f := Row.recordFailure error t.now) (fun _ => rfl) "record_failure" other,
      .ite ?_ fun _ hb => by cases hb; rfl⟩
    rintro rfl
    exact .failed error t
  | testBegins other t =>
    simp only [step, HealthEvent.perform, after_discard]
    rcases beginTest_cases h other t with ⟨channel, s', hb, hr⟩ | ⟨fault, s', hb, hr⟩
    · rw [after_ok hb]
      refine ⟨_, hr, .ite ?_ fun _ hb => by cases hb⟩
      rintro rfl
      exact .testBegun t (by simp [HealthEvent.testsAfter, hb])
    · rw [after_error hb]
      exact ⟨r, hr, .spared _ fun b hb => by cases hb⟩
  | testEnds number result t =>
    simp only [step, HealthEvent.perform]
    cases hn : x.tests[number]?.join with
    | none => exact ⟨r, h, .spared _ fun b hb => by simp [HealthEvent.report, hn] at hb⟩
    | some other =>
      have hother : x.tests[number]? = some (some other) := Option.join_eq_some_iff.mp hn
      have hreport (b : Bool) (hb : (HealthEvent.testEnds number result t).report x =
          some (type, b)) : other = type := by
        simp only [HealthEvent.report, hn, Option.map_some, Option.some.injEq, Prod.mk.injEq] at hb
        exact hb.1
      cases result with
      | ok u =>
        refine ⟨_, endTest_ok h other t, .ite ?_ hreport⟩
        rintro rfl
        exact .testPassed number t hother
      | error fault =>
        obtain ⟨error, hr⟩ := endTest_error h other fault t
        refine ⟨_, hr, .ite ?_ hreport⟩
        rintro rfl
        exact .testFailed number fault error t hother
  | register c => exact ⟨r, h, .spared _ fun b hb => by cases hb⟩
  | unregister other => exact ⟨r, h, .spared _ fun b hb => by cases hb⟩
  | addMissing t =>
    simp only [step, HealthEvent.perform, after_discard]
    exact ⟨r, h.addMissing t, .spared _ fun b hb => by cases hb⟩

-- ---------------------------------------------------------------------------
-- Runs
-- ---------------------------------------------------------------------------

theorem failures_append (type : String) (reports : List (String × Bool)) (b : Bool) :
    failures type (reports ++ [(type, b)]) = if b then 0 else failures type reports + 1 := by
  cases b <;> simp [failures]

theorem failures_append_ne (h : ∀ b, report ≠ some (type, b)) (reports : List (String × Bool)) :
    failures type (reports ++ report.toList) = failures type reports := by
  cases report with
  | none => simp
  | some p =>
    obtain ⟨other, b⟩ := p
    have hne : other ≠ type := by
      rintro rfl
      exact h b rfl
    simp [failures, hne]

theorem mem_testsAfter (hm : some type ∈ x.tests) (h : ∀ b, e.report x ≠ some (type, b)) :
    some type ∈ e.testsAfter x := by
  cases e with
  | testBegins other t =>
    simp only [HealthEvent.testsAfter]
    split
    · exact List.mem_append_left _ hm
    · exact hm
  | testEnds number result t =>
    obtain ⟨i, hi⟩ := List.mem_iff_getElem?.mp hm
    have hne : number ≠ i := by
      rintro rfl
      cases result <;> exact h _ (by rw [HealthEvent.report, hi]; rfl)
    refine List.mem_iff_getElem?.mpr ⟨i, ?_⟩
    rw [HealthEvent.testsAfter, List.getElem?_set_ne hne]
    exact hi
  | _ => exact hm

/-- No failure is lost, in whatever order events come. -/
theorem Touch.count (h : Touch x type r e r') (hr : r.failureCount = failures type x.reports) :
    r'.failureCount = failures type (x.step e).reports := by
  have quiet (hnone : ∀ b, e.report x ≠ some (type, b)) :
      r.failureCount = failures type (x.step e).reports := by
    rw [hr, Tested.step, failures_append_ne hnone]
  have reported (b : Bool) (hb : e.report x = some (type, b)) :
      failures type (x.step e).reports = if b then 0 else failures type x.reports + 1 := by
    rw [← failures_append, Tested.step, hb]
    rfl
  have reset (hb : e.report x = some (type, true)) :
      (0 : Int) = failures type (x.step e).reports := by
    rw [reported true hb]
    rfl
  have counted (hb : e.report x = some (type, false)) :
      r.failureCount + 1 = failures type (x.step e).reports := by
    rw [reported false hb, hr]
    rfl
  cases h with
  | enabled | disabled | configured | testBegun => exact quiet fun b hb => by cases hb
  | succeeded t => exact reset rfl
  | failed error t => exact counted rfl
  | testPassed number t hopen => exact reset (by simp [HealthEvent.report, hopen])
  | testFailed number fault error t hopen => exact counted (by simp [HealthEvent.report, hopen])
  | spared e hne => exact quiet hne

/-- The row of a type agrees with the failures that were reported and with
the tests in progress, and its flag with its state. -/
structure Agrees (x : Tested) (type : String) (r : Row) : Prop where
  count : r.failureCount = failures type x.reports
  enabled : r.state = .enabled → r.enabled = true
  disabled : r.state = .disabled → r.enabled = false
  failed : r.state = .failed → 1 ≤ r.failureCount
  testing : r.state = .testing → some type ∈ x.tests

theorem Touch.agrees (h : Touch x type r e r') (hr : Agrees x type r) :
    Agrees (x.step e) type r' := by
  have hcount := h.count hr.count
  have hcounted := hr.count
  cases h with
  | enabled t => refine ⟨hcount, fun _ => rfl, ?_, ?_, ?_⟩ <;> intro hs <;> cases hs
  | disabled t => refine ⟨hcount, ?_, fun _ => rfl, ?_, ?_⟩ <;> intro hs <;> cases hs
  | configured config cleaned t =>
    exact ⟨hcount, hr.enabled, hr.disabled, hr.failed, hr.testing⟩
  | succeeded t =>
    rcases r.recordSuccess_state t.now with ⟨hstate, hne⟩ | ⟨hstate, he⟩ | ⟨hstate, he⟩
    · exact ⟨hcount, fun hs => hr.enabled (hstate ▸ hs), fun hs => hr.disabled (hstate ▸ hs),
        fun hs => absurd (hstate ▸ hs) hne, fun hs => hr.testing (hstate ▸ hs)⟩
    · refine ⟨hcount, fun _ => he, ?_, ?_, ?_⟩ <;> intro hs <;> cases hstate.symm.trans hs
    · refine ⟨hcount, ?_, fun _ => he, ?_, ?_⟩ <;> intro hs <;> cases hstate.symm.trans hs
  | failed error t =>
    have hpos : 1 ≤ (r.recordFailure error t.now).failureCount := by
      simp only [Row.recordFailure]
      omega
    rcases r.recordFailure_state error t.now with ⟨hstate, -⟩ | ⟨hstate, -⟩
    · refine ⟨hcount, ?_, ?_, fun _ => hpos, ?_⟩ <;> intro hs <;> cases hstate.symm.trans hs
    · exact ⟨hcount, fun hs => hr.enabled (hstate ▸ hs), fun hs => hr.disabled (hstate ▸ hs),
        fun _ => hpos, fun hs => hr.testing (hstate ▸ hs)⟩
  | testBegun t hopen =>
    refine ⟨hcount, ?_, ?_, ?_, fun _ => hopen⟩ <;> intro hs <;> cases hs
  | testPassed number t hopen =>
    refine ⟨hcount, fun _ => rfl, ?_, ?_, ?_⟩ <;> intro hs <;> cases hs
  | testFailed number fault error t hopen =>
    have hpos : 1 ≤ (r.failTest error t.now).failureCount := by
      simp only [Row.failTest]
      omega
    refine ⟨hcount, ?_, ?_, fun _ => hpos, ?_⟩ <;> intro hs <;> cases hs
  | spared e hne =>
    exact ⟨hcount, hr.enabled, hr.disabled, hr.failed,
      fun hs => mem_testsAfter (hr.testing hs) hne⟩

theorem Touch.becomes_failed (h : Touch x type r e r') (hne : r.state ≠ .failed)
    (hf : r'.state = .failed) :
    (∃ error t, e = .failure type error t ∧ 5 ≤ r'.failureCount) ∨
      ∃ number fault t, e = .testEnds number (.error fault) t ∧
        x.tests[number]? = some (some type) := by
  cases h with
  | enabled t => cases hf
  | disabled t => cases hf
  | configured config cleaned t => exact absurd hf hne
  | succeeded t =>
    rcases r.recordSuccess_state t.now with ⟨hs, -⟩ | ⟨hs, -⟩ | ⟨hs, -⟩
    · exact absurd (hs.symm.trans hf) hne
    · cases hs.symm.trans hf
    · cases hs.symm.trans hf
  | failed error t =>
    rcases r.recordFailure_state error t.now with ⟨-, hmany⟩ | ⟨hs, -⟩
    · exact .inl ⟨error, t, rfl, hmany⟩
    · exact absurd (hs.symm.trans hf) hne
  | testBegun t => cases hf
  | testPassed number t => cases hf
  | testFailed number fault error t hopen => exact .inr ⟨number, fault, t, rfl, hopen⟩
  | spared e => exact absurd hf hne

theorem Touch.trips {error : String} {t : Clock.Reading}
    (h : Touch x type r (.failure type error t) r') (hmany : 5 ≤ r'.failureCount) :
    r'.state = .failed := by
  cases h with
  | failed =>
    rcases r.recordFailure_state error t.now with ⟨hs, -⟩ | ⟨-, hfew⟩
    · exact hs
    · exact absurd hmany (Int.not_le.mpr hfew)
  | spared _ hne => exact absurd rfl (hne false)

theorem Touch.flag (h : Touch x type r e r') (hne : r'.enabled ≠ r.enabled) :
    (∃ t, e = .enable type t) ∨ (∃ t, e = .disable type t) ∨
      ∃ number t, e = .testEnds number (.ok ()) t ∧ x.tests[number]? = some (some type) := by
  cases h with
  | enabled t => exact .inl ⟨t, rfl⟩
  | disabled t => exact .inr (.inl ⟨t, rfl⟩)
  | testPassed number t hopen => exact .inr (.inr ⟨number, t, rfl, hopen⟩)
  | _ => exact absurd rfl hne

theorem Tested.run_agrees (h : x.service.HasRow type r) (hr : Agrees x type r)
    (events : List HealthEvent) :
    ∃ r', (x.run events).service.HasRow type r' ∧ Agrees (x.run events) type r' := by
  induction events generalizing x r with
  | nil => exact ⟨r, h, hr⟩
  | cons e rest ih =>
    obtain ⟨r', h', ht⟩ := Tested.touch h e
    exact ih h' (ht.agrees hr)

/-- While the store is up, the row that the catalogue adds for a channel type
counts exactly the failures that were reported since the last success, with
its flag and its state in agreement, in every order of events. It becomes
failed only by the fifth failure in a row or by a test, and does become
failed by the fifth; its flag changes only by the operator or by a test that
passes. -/
theorem channel_health (s : Service) (hup : s.store.isUp = true) (type : String)
    (t : Clock.Reading) (hnone : s.store.channels.find? type = none)
    (hadded : ((after (initializeChannels t) s).store.channels.find? type).isSome = true)
    (events : List HealthEvent) :
    let x := Tested.run { service := after (initializeChannels t) s } events
    ∃ r, x.service.store.channels.find? type = some r ∧
      r.failureCount = failures type x.reports ∧
      (r.state = .enabled → r.enabled = true) ∧ (r.state = .disabled → r.enabled = false) ∧
      (r.state = .failed → 1 ≤ r.failureCount) ∧ (r.state = .testing → some type ∈ x.tests) ∧
      ∀ e, ∃ r', (x.step e).service.store.channels.find? type = some r' ∧
        (r.state ≠ .failed → r'.state = .failed →
          (∃ error t, e = .failure type error t ∧ 5 ≤ r'.failureCount) ∨
          ∃ number fault t, e = .testEnds number (.error fault) t ∧
            x.tests[number]? = some (some type)) ∧
        (∀ error t, e = .failure type error t → 5 ≤ r'.failureCount → r'.state = .failed) ∧
        (r'.enabled ≠ r.enabled → (∃ t, e = .enable type t) ∨ (∃ t, e = .disable type t) ∨
          ∃ number t, e = .testEnds number (.ok ()) t ∧ x.tests[number]? = some (some type)) := by
  intro x
  obtain ⟨r₀, hr₀⟩ := Option.isSome_iff_exists.mp hadded
  obtain ⟨rows, hrows, hstore⟩ := initializeChannels_up hup t
  have h₀ : HasRow (after (initializeChannels t) s) type r₀ := ⟨by rw [hstore]; exact hup, hr₀⟩
  rw [hstore] at hr₀
  simp only [hrows] at hr₀
  obtain ⟨hstate, hflag, hcount⟩ := Channel.Table.find?_addCatalog_new hnone hr₀
  have hnew : Agrees { service := after (initializeChannels t) s } type r₀ := by
    refine ⟨hcount, ?_, fun _ => hflag, ?_, ?_⟩ <;> intro hs <;> cases hstate.symm.trans hs
  obtain ⟨r, hr, hagrees⟩ := Tested.run_agrees h₀ hnew events
  refine ⟨r, hr.2, hagrees.count, hagrees.enabled, hagrees.disabled, hagrees.failed,
    hagrees.testing, fun e => ?_⟩
  obtain ⟨r', hr', htouch⟩ := Tested.touch hr e
  refine ⟨r', hr'.2, htouch.becomes_failed, ?_, htouch.flag⟩
  rintro error t rfl
  exact htouch.trips

def failedFiveTimes : List HealthEvent :=
  let t : Clock.Reading := ⟨0, .first⟩
  [.register ⟨.rehearsed "email" "" [] 0, []⟩, .testBegins "email" t, .failure "email" "boom" t,
   .failure "email" "boom" t, .failure "email" "boom" t, .failure "email" "boom" t,
   .testEnds 0 (.error (.badValue "boom")) t]

theorem channel_health_failedFiveTimes :
    let s : Service := create {} {} {}
    let t : Clock.Reading := ⟨0, .first⟩
    ∃ r, (Tested.run { service := after (initializeChannels t) s }
        failedFiveTimes).service.store.channels.find? "email" = some r ∧ r.failureCount = 5 := by
  intro s t
  have hadded : ((after (initializeChannels t) s).store.channels.find? "email").isSome = true := by
    decide +kernel
  obtain ⟨r, hr, hcount, -⟩ := channel_health s rfl "email" t rfl hadded failedFiveTimes
  have hreports : failures "email" (Tested.run { service := after (initializeChannels t) s }
      failedFiveTimes).reports = 5 := by decide +kernel
  exact ⟨r, hr, by rw [hcount, hreports]; rfl⟩

end Service

end AlertDelivery
