import AlertDelivery.Proofs.Service.Custody
import AlertDelivery.Proofs.Service.Outcome

/-!
# Whose attempts the history keeps

An attempt is kept with the id of its notification and with a copy of what
was asked for. The queue gives an id again once its row was deleted, and the
history may be kept for longer than the queue. So an attempt that has the id
of a row is the row's own, or was left by an earlier notification that had
this id, was delivered, and was deleted by retention before the row came.
-/

namespace AlertDelivery

open Queue (Row Table)

namespace History

structure Attempt.IsOf (a : Attempt) (r : Row) : Prop where
  id : a.queueId = some r.id
  user : a.user = r.user
  channel : a.channel = r.channel
  subject : a.subject = r.subject
  body : a.body = some r.body

variable {a : Attempt} {r r' : Row}

theorem Attempt.isOf_iff (h : r.Keeps r') : a.IsOf r' ↔ a.IsOf r := by
  constructor <;> intro ⟨hid, huser, hchannel, hsubject, hbody⟩
  · exact ⟨h.id ▸ hid, h.user ▸ huser, h.channel ▸ hchannel, h.subject ▸ hsubject, h.body ▸ hbody⟩
  · exact ⟨h.id.symm ▸ hid, h.user.symm ▸ huser, h.channel.symm ▸ hchannel,
      h.subject.symm ▸ hsubject, h.body.symm ▸ hbody⟩

end History

namespace Service

variable {s s' start : Service} {events : List Event} {r asked : Row} {e : Queue.Entry}
  {a : History.Attempt} {v : Verdict} {now : Instant} {queue : Table} {log : History.Log}

-- ---------------------------------------------------------------------------
-- What is appended
-- ---------------------------------------------------------------------------

theorem Tells.isOf (h : Tells a e) (hg : r.Gives e) (hs : r.subject ≠ none) : a.IsOf r := by
  obtain ⟨r₀, hkeeps, rfl⟩ := hg
  obtain ⟨subject, hsubject⟩ := Option.ne_none_iff_exists'.mp (hkeeps.subject ▸ hs)
  refine (History.Attempt.isOf_iff hkeeps).mpr ⟨h.id, h.user, h.channel, ?_, h.body⟩
  rw [h.subject, hsubject, Row.toEntry, hsubject]
  rfl

theorem written_told (hr : r ∈ s.store.queue.rows) (hg : r.Gives e)
    (hs : ∀ r ∈ s.store.queue.rows, r.subject ≠ none) (h : Written s e now v queue log) :
    ∀ a ∈ log.attempts, a ∈ s.store.history.attempts ∨ ∃ r' ∈ queue.rows, a.IsOf r' := by
  intro a ha
  cases h with
  | delivered h hl =>
    obtain ⟨r', hr', hkeeps⟩ := (Table.markDelivered_moves h).keeps hr
    have hs' : r'.subject ≠ none := hkeeps.subject ▸ hs r hr
    exact (hl.told a ha).imp_right fun ht => ⟨r', hr', ht.isOf (hg.keeps hkeeps) hs'⟩
  | failed h hl =>
    rcases Table.markFailed_ok h with ⟨hn, -, -⟩ | ⟨r₁, r', hr₁, hsending, hf, hout, rfl⟩
    · cases hn
    · cases hout
      have hkeeps := (Row.Change.fail (Row.isSending_iff.mp hsending).2 hf).keeps
      have hs' : r'.subject ≠ none := hkeeps.subject ▸ hs r₁ hr₁
      have hr' : r' ∈ (s.store.queue.updateWhere (Row.isSending e.id) fun _ => r').rows :=
        List.mem_map.mpr ⟨r₁, hr₁, if_pos hsending⟩
      exact (hl.told a ha).imp_right fun ht => ⟨r', hr', ht.isOf ⟨r', .refl r', rfl⟩ hs'⟩
  | _ => exact .inl ha

/-- Nothing is appended but when a dispatch ends. -/
theorem Event.log_cases (event : Event) (s : Service) :
    (event.apply s).store.history.attempts.Sublist s.store.history.attempts ∨
      ∃ d ∈ s.unfinished, ∃ v now, Ends s (event.apply s) d v now := by
  unfold Event.apply
  cases event with
  | enqueue q t =>
    rw [Event.perform, after_discard]
    rcases enqueue_cases q t s with ⟨fault, hq⟩ | ⟨i, queue, -, hq⟩
    · exact .inl (by rw [after_error hq])
    · exact .inl (by rw [after_ok hq]; exact .refl _)
  | process now t =>
    rw [Event.perform, after_discard, (process_calm now t s).history]
    exact .inl (.refl _)
  | releaseStale t =>
    rw [Event.perform, after_discard, (releaseStale_calm t s).history]
    exact .inl (.refl _)
  | tick t =>
    rw [Event.perform, after_discard]
    rcases tick_cases t s with ht | ht <;> rw [ht]
    · exact .inl (by rw [(releaseStale_calm t s).history])
    · exact .inl (by rw [(process_calm t.now t _).history, (releaseStale_calm t s).history])
  | requeue ids now =>
    rw [Event.perform, after_discard]
    rcases requeue_cases ids now s with ⟨fault, hr⟩ | ⟨n, queue, -, hr⟩
    · exact .inl (by rw [after_error hr])
    · exact .inl (by rw [after_ok hr]; exact .refl _)
  | retention now =>
    rw [Event.perform, after_discard]
    rcases sweep_cases now s with hr | ⟨queue, history, -, hsub, hr⟩ <;> rw [hr]
    · exact .inl (.refl _)
    · exact .inl hsub
  | reload =>
    rw [Event.perform, after_discard]
    rcases reloadPolicy_cases s with hr | ⟨policy, -, hr⟩ <;> rw [hr] <;> exact .inl (.refl _)
  | turn number t => exact .inl (.refl _)
  | begin number t =>
    rw [Event.perform, after_discard]
    rcases begin_cases number t s with ⟨-, hb⟩ | ⟨p, hp, ⟨x, -, -, -, hb⟩ | ⟨fault, -, hend⟩⟩
    · exact .inl (by rw [hb])
    · exact .inl (by rw [hb])
    · exact .inr ⟨p.dispatch, holder_unfinished (Worker.preparing?_holds hp), _, _, hend⟩
  | finish number result t =>
    rcases finish_cases number result t s with hf | ⟨x, hx, hend⟩
    · exact .inl (by rw [Event.perform, hf])
    · exact .inr ⟨x.dispatch, holder_unfinished (Worker.sending?_holds hx), _, _, hend⟩
  | workerPolicy policy => exact .inl (.refl _)
  | outage isUp => exact .inl (.refl _)
  | arrange x => exact .inl (.refl _)

theorem Faithful.told (h : s.Faithful) (hs : ∀ r ∈ s.store.queue.rows, r.subject ≠ none)
    (event : Event) : ∀ a ∈ (event.apply s).store.history.attempts,
      a ∈ s.store.history.attempts ∨ ∃ r ∈ (event.apply s).store.queue.rows, a.IsOf r := by
  intro a ha
  rcases event.log_cases s with hsub | ⟨d, hd, v, now, queue, history, channels, hw, hs'⟩
  · exact .inl (hsub.mem ha)
  · obtain ⟨r, hr, hg⟩ := h.entries d hd
    rw [hs'] at ha ⊢
    exact written_told hr hg hs hw a ha

-- ---------------------------------------------------------------------------
-- Runs
-- ---------------------------------------------------------------------------

/-- At some moment of a run an attempt was of a row, and it was there ever
since. -/
def Made (start : Service) (events : List Event) (a : History.Attempt) : Prop :=
  ∃ done, done <+: events ∧ (∃ r ∈ (run start done).store.queue.rows, a.IsOf r) ∧
    ∀ past, done <+: past → past <+: events → a ∈ (run start past).store.history.attempts

theorem Traced.subject (h : Traced start events r) : r.subject ≠ none := by
  obtain ⟨_, q, _, _, _, _, -, -, -, hkeeps⟩ := h
  have hsubject : r.subject = some q.subject := hkeeps.subject
  simp [hsubject]

theorem run_made (h : start.Faithful) (hrows : start.store.queue.rows = [])
    (hlog : start.store.history.attempts = []) (events : List Event) :
    ∀ a ∈ (run start events).store.history.attempts, Made start events a := by
  induction events using List.reverseRecOn with
  | nil =>
    intro a ha
    rw [show run start [] = start from rfl, hlog] at ha
    cases ha
  | append_singleton events event ih =>
    intro a ha
    have hrun : run start (events ++ [event]) = event.apply (run start events) :=
      run_append start events [event]
    have hsubjects : ∀ r ∈ (run start events).store.queue.rows, r.subject ≠ none :=
      fun r hr => (run_traced h.toHolding hrows events r hr).subject
    have hstep := (run_faithful h events).told hsubjects event
    rw [← hrun] at hstep
    rcases hstep a ha with hold | hnew
    · obtain ⟨done, hdone, hrow, hstays⟩ := ih a hold
      refine ⟨done, hdone.trans (List.prefix_append _ _), hrow, fun past hpast hle => ?_⟩
      rcases List.prefix_concat_iff.mp hle with rfl | hle
      · exact ha
      · exact hstays past hpast hle
    · exact ⟨events ++ [event], List.prefix_rfl, hnew, fun past hpast hle =>
        hle.eq_of_length_le hpast.length_le ▸ ha⟩

theorem Stands.before_end {before all : List Event} (h : Stands s events asked)
    (hle : events <+: all) (hend : before <+: all)
    (hgone : (run s before).store.queue.find? asked.id = none) : events <+: before := by
  refine (List.prefix_or_prefix_of_prefix hle hend).resolve_right fun hlate => ?_
  obtain ⟨r, hf, -⟩ := h before hlate
  cases hgone.symm.trans hf

/-- An attempt was left by an earlier notification with an id: one that was
delivered, and that retention deleted. -/
def LeftOver (start : Service) (past : List Event) (i : Int) (a : History.Attempt) : Prop :=
  a ∈ (run start past).store.history.attempts ∧ ∃ earlier q t before now later s',
    past = earlier ++ .enqueue q t :: (before ++ .retention now :: later) ∧
    enqueue q t (run start earlier) = .ok i s' ∧
    let asked := (run start earlier).rowOf q t i
    a.IsOf asked ∧ Stands s' before asked ∧ Expired (run s' before) now asked

variable {past rest : List Event} {q : Queue.Request} {t : Clock.Reading} {i : Int}

/-- A row that still stands was queued after every moment at which its id
was not there. -/
theorem gone_before (hq : enqueue q t (run start past) = .ok i s')
    (hstands : Stands s' rest ((run start past).rowOf q t i)) {before : List Event} {event : Event}
    (hne : ∀ q t, event ≠ .enqueue q t)
    (hle : before ++ [event] <+: past ++ .enqueue q t :: rest)
    (hgone : (run start (before ++ [event])).store.queue.find? i = none) :
    before ++ [event] <+: past := by
  have hpast : past ++ [.enqueue q t] <+: past ++ .enqueue q t :: rest :=
    ⟨rest, by simp⟩
  rcases List.prefix_or_prefix_of_prefix hle hpast with h | ⟨later, hlater⟩
  · rcases List.prefix_concat_iff.mp h with heq | h
    · cases (List.append_inj' heq rfl).2
      exact absurd rfl (hne q t)
    · exact h
  · rw [← hlater] at hle hgone
    rw [List.append_assoc] at hle hgone
    rw [List.singleton_append, run_enqueue hq] at hgone
    have hlate : later <+: rest := by simpa using hle
    obtain ⟨r, hf, -⟩ := hstands later hlate
    cases hgone.symm.trans hf

theorem Made.own_or_left (h : start.Holding)
    (htraced : ∀ done, ∀ r ∈ (run start done).store.queue.rows, Traced start done r)
    (hr : r ∈ (run start events).store.queue.rows)
    (hevents : events = past ++ .enqueue q t :: rest)
    (hq : enqueue q t (run start past) = .ok r.id s')
    (hstands : Stands s' rest ((run start past).rowOf q t r.id))
    (ha : Made start events a) (hid : a.queueId = some r.id) :
    a.IsOf r ∨ LeftOver start past r.id a := by
  obtain ⟨done, ⟨later, hlater⟩, ⟨r₀, hr₀, hof⟩, hstays⟩ := ha
  obtain ⟨earlier, q₀, t₀, rest₀, i, s₀', rfl, hq₀, hstands₀, hkeeps₀⟩ := htraced done r₀ hr₀
  have hasked := (History.Attempt.isOf_iff hkeeps₀).mp hof
  have hi : i = r.id := Option.some.inj (hasked.id.symm.trans hid)
  subst hi
  rw [List.append_assoc, List.cons_append] at hlater
  have hrun : run start events = run s₀' (rest₀ ++ later) := by
    rw [← hlater, run_enqueue hq₀]
  have hhold : s₀'.Holding := by
    rw [← apply_enqueue hq₀]
    exact (run_holding h earlier).apply _
  rcases stands_or_expires hhold (enqueue_has hq₀ hhold.keyed) (rest₀ ++ later) with
    hall | ⟨before, now, after, hsplit, hbefore, hexpired, hgone⟩
  · -- it stands to the end, where the id has one row
    obtain ⟨r', hf, hkeeps⟩ := hall _ List.prefix_rfl
    rw [← hrun] at hf
    cases hf.symm.trans ((Table.find?_eq_some (run_holding h events).keyed).mpr ⟨hr, rfl⟩)
    exact .inl ((History.Attempt.isOf_iff hkeeps).mpr hasked)
  · have hend : before ++ [.retention now] <+: rest₀ ++ later := ⟨after, by simp [hsplit]⟩
    have hmade : rest₀ <+: before ++ [.retention now] :=
      hstands₀.before_end (List.prefix_append _ _) hend hgone
    have hle : (earlier ++ .enqueue q₀ t₀ :: before) ++ [.retention now] <+: events := by
      rw [← hlater]
      simpa using hend
    have hgone' : (run start ((earlier ++ .enqueue q₀ t₀ :: before) ++
        [.retention now])).store.queue.find? r.id = none := by
      rw [List.append_assoc, List.cons_append, run_enqueue hq₀]
      exact hgone
    have hpast := gone_before hq hstands (fun _ _ => Event.noConfusion) (hevents ▸ hle) hgone'
    have hdone : earlier ++ .enqueue q₀ t₀ :: rest₀ <+: past := by
      refine List.IsPrefix.trans ?_ hpast
      simpa using hmade
    obtain ⟨between, hbetween⟩ := hpast
    refine .inr ⟨hstays past hdone ⟨_, hevents.symm⟩, earlier, q₀, t₀, before, now, between, s₀',
      ?_, hq₀, hasked, hbefore, hexpired⟩
    rw [← hbetween]
    simp

/-- In every run the attempts with the id of a row say what was asked for in
the row, except for those that an earlier notification with this id had left
when the row was queued: it was delivered, retention had deleted its row, and
they say what was asked for then. -/
theorem attempts_attributed (settings : Settings) (policy : Policy) (events : List Event) :
    let start := create {} settings policy
    ∀ r ∈ (run start events).store.queue.rows, ∃ past q t rest s',
      events = past ++ .enqueue q t :: rest ∧ enqueue q t (run start past) = .ok r.id s' ∧
      Stands s' rest ((run start past).rowOf q t r.id) ∧
      ((run start past).rowOf q t r.id).Keeps r ∧
      ∀ a ∈ (run start events).store.history.attempts, a.queueId = some r.id →
        a.IsOf r ∨ LeftOver start past r.id a := by
  intro start r hr
  have h : start.Faithful := create_faithful settings policy
  have htraced := fun done => run_traced h.toHolding rfl done
  obtain ⟨past, q, t, rest, i, s', hevents, hq, hstands, hkeeps⟩ := htraced events r hr
  have hid : r.id = i := hkeeps.id
  subst hid
  exact ⟨past, q, t, rest, s', hevents, hq, hstands, hkeeps, fun a ha =>
    (run_made h rfl rfl events a ha).own_or_left h.toHolding htraced hr hevents hq hstands⟩

def monthLater : Instant := ⟨Instant.clockStart.micros + 31 * 86400000000, by decide⟩

def idGivenAgain : List Event := [
  .enqueue storm ⟨0, .clockStart⟩, .process .clockStart ⟨0, .clockStart⟩,
  .turn 0 ⟨0, .clockStart⟩, .begin 0 ⟨0, .clockStart⟩, .finish 0 (.ok ()) ⟨0, .clockStart⟩,
  .retention monthLater, .enqueue { storm with subject := "Flood" } ⟨0, monthLater⟩]

def willing : Surroundings := { registry := ⟨[⟨.rehearsed "email" "" [] 0, []⟩]⟩ }

theorem idGivenAgain_left :
    let s := run (create {} {} {}) (.arrange willing :: idGivenAgain)
    (∃ r ∈ s.store.queue.rows, r.id = 1 ∧ r.subject = some "Flood") ∧
    ∃ a ∈ s.store.history.attempts, a.queueId = some 1 ∧ a.subject = some "Storm" := by
  decide +kernel

theorem attempts_attributed_idGivenAgain :
    ∃ past a, past <+: .arrange willing :: idGivenAgain ∧ a.subject = some "Storm" ∧
      LeftOver (create {} {} {}) past 1 a := by
  obtain ⟨⟨r, hr, hid, hflood⟩, a, ha, hqueue, hstorm⟩ := idGivenAgain_left
  obtain ⟨past, q, t, rest, s', hevents, -, -, -, hattempts⟩ :=
    attempts_attributed {} {} (.arrange willing :: idGivenAgain) r hr
  rcases hattempts a ha (hid ▸ hqueue) with hown | hleft
  · exact absurd (hflood.symm.trans (hown.subject.symm.trans hstorm)) (by decide)
  · exact ⟨past, a, ⟨_, hevents.symm⟩, hstorm, hid ▸ hleft⟩

/-- The attempt of a notification that is gone has the id of another. -/
theorem attempts_not_always_own :
    ¬ ∀ (settings : Settings) (policy : Policy) (x : Surroundings) (events : List Event),
      (∀ e ∈ events, (∀ isUp, e ≠ .outage isUp) ∧ ∀ x, e ≠ .arrange x) →
      let s := run (create {} settings policy) (.arrange x :: events)
      ∀ r ∈ s.store.queue.rows, ∀ a ∈ s.store.history.attempts, a.queueId = some r.id →
        a.channel = r.channel ∧ a.user = r.user ∧ a.subject = r.subject ∧
          a.body = some r.body := by
  intro h
  obtain ⟨⟨r, hr, hid, hflood⟩, a, ha, hqueue, hstorm⟩ := idGivenAgain_left
  have hown := h {} {} willing idGivenAgain (by simp [idGivenAgain]) r hr a ha (hid ▸ hqueue)
  exact absurd (hflood.symm.trans (hown.2.2.1.symm.trans hstorm)) (by decide)

end Service

end AlertDelivery
