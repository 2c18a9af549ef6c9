import AlertDelivery.Proofs.Queue.Run
import AlertDelivery.Proofs.Queue.Sends

/-!
# Outcomes and the claims they are made for

Several workers share one queue. Each outcome is made for a claim, but the
queue only looks whether the row of the claim is still `sending`. So an
outcome for a claim that a sweep has released is harmless as long as nobody
has claimed the row again, and is taken for the outcome of the new claim
otherwise. `Crew.Tidy` is what makes this exact: a row is `sending` just
when some claim of it is active.
-/

namespace AlertDelivery.Queue

inductive Outcome where
  | delivered (now : Instant)
  | failed (error : String) (strategy : Value) (now clock : Instant)

def Outcome.on (id : Int) : Outcome → Event
  | .delivered now => .markDelivered id now
  | .failed error strategy now clock => .markFailed id error strategy now clock

/-- A claim is active until its row leaves `sending`: by a sweep, which
releases it, or by an outcome, which ends it. -/
inductive Standing where
  | active
  | released
  | ended
deriving DecidableEq

structure Claim where
  worker : Nat
  id : Int
  standing : Standing := .active
deriving DecidableEq

structure Crew where
  store : Store := {}
  claims : List Claim := []

namespace Crew

/-- What may happen among the workers: a worker claims a batch, an outcome
is made for a claim, or something else happens to the queue. -/
inductive Event where
  | claim (worker : Nat) (limit : Int) (now : Instant)
  | outcome (number : Nat) (o : Outcome)
  | enqueue (q : Request) (now : Instant)
  | release (age : Int) (now : Instant) (exclude : List Int)
  | requeue (ids : List Int) (now : Instant)
  | cleanup (days : Int) (now : Instant)
  | outage (isUp : Bool)

/-- Active claims whose row is no longer `sending` get a new standing. -/
def review (t : Table) (standing : Standing) (c : Claim) : Claim :=
  if c.standing = .active ∧ t.rows.any (Row.isSending c.id) = false then { c with standing }
  else c

def settle (crew : Crew) (e : Queue.Event) (standing : Standing) : Crew :=
  let store := e.apply crew.store
  { store, claims := crew.claims.map (review store.queue standing) }

def step (crew : Crew) : Event → Crew
  | .claim worker limit now => match Store.claim limit now crew.store with
    | .ok entries store =>
      { store, claims := crew.claims ++ entries.map fun e => { worker, id := e.id } }
    | .error _ store => { crew with store }
  | .outcome number o => match crew.claims[number]? with
    | some c => crew.settle (o.on c.id) .ended
    | none => crew
  | .enqueue q now => crew.settle (.enqueue q now) .ended
  | .release age now exclude => crew.settle (.release age now exclude) .released
  | .requeue ids now => crew.settle (.requeue ids now) .ended
  | .cleanup days now => crew.settle (.cleanup days now) .ended
  | .outage isUp => crew.settle (.store isUp) .ended

def after (events : List Event) : Crew := events.foldl step {}

def Owned (crew : Crew) (i : Int) : Prop := ∃ c ∈ crew.claims, c.id = i ∧ c.standing = .active

end Crew

variable {t t' : Table} {s : Store} {crew : Crew} {c : Claim} {r r' : Row} {i : Int}

theorem Event.Does.sends {e : Event} (h : e.Does t t') (he : ∀ limit now, e ≠ .claim limit now)
    (hs : t'.Sends i) : t.Sends i := by
  cases e with
  | enqueue q now =>
    obtain ⟨_, h⟩ := h
    rw [(Table.enqueue_ok h).2.1] at hs
    obtain ⟨r, hr, hs⟩ := hs
    rcases List.mem_append.mp hr with hr | hr
    · exact ⟨r, hr, hs⟩
    · rw [List.mem_singleton.mp hr] at hs
      cases (Row.isSending_iff.mp hs).2
  | claim limit now => exact absurd rfl (he limit now)
  | markDelivered id now =>
    obtain ⟨_, h⟩ := h
    rw [(Table.markDelivered_ok h).2] at hs
    exact Table.sends_of_updateWhere (fun r _ h => by cases h) hs
  | markFailed id error strategy now clock =>
    obtain ⟨_, h⟩ := h
    rcases Table.markFailed_ok h with ⟨-, rfl, -⟩ | ⟨r, r', -, -, hf, -, rfl⟩
    · exact hs
    · refine Table.sends_of_updateWhere (fun _ _ h => ?_) hs
      rcases Row.failed_state hf with h' | h' <;> cases h.symm.trans h'
  | requeue ids now =>
    obtain ⟨_, h⟩ := h
    rw [Table.requeue_ok h] at hs
    exact Table.sends_of_updateWhere (fun r _ h => by cases h) hs
  | release age now exclude =>
    obtain ⟨_, _, -, h⟩ := h
    rw [Table.release_ok h] at hs
    exact Table.sends_of_updateWhere (fun r _ h => by cases h) hs
  | cleanup days now =>
    obtain ⟨_, -, rfl⟩ := h
    obtain ⟨r, hr, hs⟩ := hs
    exact ⟨r, (List.mem_filter.mp hr).1, hs⟩
  | store isUp => exact h ▸ hs

-- ---------------------------------------------------------------------------
-- Active claims are the claims of rows that are being sent
-- ---------------------------------------------------------------------------

namespace Crew

structure Tidy (crew : Crew) : Prop where
  keyed : crew.store.queue.Keyed
  owned : ∀ i, crew.store.queue.Sends i ↔ crew.Owned i

theorem review_id (t : Table) (standing : Standing) (c : Claim) :
    (review t standing c).id = c.id := by
  unfold review
  split <;> rfl

theorem review_active {standing : Standing} (h : standing ≠ .active) :
    (review t standing c).standing = .active ↔ c.standing = .active ∧ t.Sends c.id := by
  unfold review
  split
  · rename_i hc
    rw [Table.any_isSending_false] at hc
    exact ⟨fun hs => absurd hs h, fun hs => absurd hs.2 hc.2⟩
  · rename_i hc
    rw [Table.any_isSending_false] at hc
    exact ⟨fun hs => ⟨hs, not_not.mp (not_and.mp hc hs)⟩, And.left⟩

theorem settle_owned {e : Queue.Event} {standing : Standing} (h : standing ≠ .active) :
    (crew.settle e standing).Owned i ↔ crew.Owned i ∧ (crew.settle e standing).store.queue.Sends i
    := by
  constructor
  · rintro ⟨c', hc', hid, ha⟩
    obtain ⟨c, hc, rfl⟩ := List.mem_map.mp hc'
    rw [review_id] at hid
    obtain ⟨ha, hs⟩ := (review_active h).mp ha
    exact ⟨⟨c, hc, hid, ha⟩, hid ▸ hs⟩
  · rintro ⟨⟨c, hc, hid, ha⟩, hs⟩
    exact ⟨_, List.mem_map_of_mem hc, (review_id _ _ c).trans hid,
      (review_active h).mpr ⟨ha, hid ▸ hs⟩⟩

theorem settle_tidy {e : Queue.Event} {standing : Standing} (hs : standing ≠ .active)
    (he : ∀ limit now, e ≠ .claim limit now) (h : crew.Tidy) : (crew.settle e standing).Tidy := by
  -- Nothing but a claim makes a row `sending`, so such a row had an active
  -- claim before, and the review leaves it active.
  have back (i : Int) (hi : (e.apply crew.store).queue.Sends i) : crew.store.queue.Sends i := by
    rcases e.apply_cases crew.store with heq | hd
    · rwa [heq] at hi
    · exact hd.sends he hi
  refine ⟨?_, fun i => ?_⟩
  · rcases e.apply_cases crew.store with heq | hd
    · exact heq.symm ▸ h.keyed
    · exact hd.keyed h.keyed
  · rw [settle_owned hs]
    exact ⟨fun hi => ⟨(h.owned i).mp (back i hi), hi⟩, And.right⟩

theorem claim_tidy (worker : Nat) (limit : Int) (now : Instant) (h : crew.Tidy) :
    (crew.step (.claim worker limit now)).Tidy := by
  rcases claim_cases limit now crew.store with ⟨fault, he⟩ | he | ⟨entries, q, hc, he⟩ <;>
    simp only [step, he]
  · exact h
  · simpa using h
  · refine ⟨(Table.claim_moves h.keyed hc).keyed h.keyed, fun i => ?_⟩
    rw [Table.claim_sends h.keyed hc, h.owned i]
    simp only [Owned, List.mem_append, List.mem_map, or_and_right, exists_or]
    refine or_congr Iff.rfl ⟨?_, ?_⟩
    · rintro ⟨e, he, hid⟩
      exact ⟨_, ⟨e, he, rfl⟩, hid, rfl⟩
    · rintro ⟨_, ⟨e, he, rfl⟩, hid, -⟩
      exact ⟨e, he, hid⟩

theorem step_tidy (h : crew.Tidy) (e : Event) : (crew.step e).Tidy := by
  cases e with
  | claim worker limit now => exact claim_tidy worker limit now h
  | outcome number o =>
    simp only [step]
    split
    · cases o <;> exact settle_tidy (by decide) (fun _ _ h => by cases h) h
    · exact h
  | _ => exact settle_tidy (by decide) (fun _ _ h => by cases h) h

theorem after_tidy (events : List Event) : (after events).Tidy := by
  have start : Tidy {} := ⟨List.Pairwise.nil, fun i => by simp [Table.Sends, Owned]⟩
  have steps (crew : Crew) (h : crew.Tidy) : (events.foldl step crew).Tidy := by
    induction events generalizing crew with
    | nil => exact h
    | cons e rest ih => exact ih _ (step_tidy h e)
  exact steps {} start

end Crew

-- ---------------------------------------------------------------------------
-- An outcome for a released claim
-- ---------------------------------------------------------------------------

/-- An outcome that succeeds takes the row of its id out of `sending`, if it
is, and does nothing else; one that fails does nothing. -/
theorem Outcome.on_cases (o : Outcome) (i : Int) (s : Store) :
    ((o.on i).succeeds s = false ∧ (o.on i).apply s = s) ∨
      ((o.on i).succeeds s = true ∧ ∃ f : Row → Row,
        (∀ r, Row.isSending i r = true → (f r).id = r.id ∧ (f r).state ≠ .sending) ∧
        ((o.on i).apply s).queue = s.queue.updateWhere (Row.isSending i) f) := by
  have failed {fault : Fault} (h : (o.on i).perform s = .error fault s) :
      (o.on i).succeeds s = false ∧ (o.on i).apply s = s :=
    ⟨by rw [Event.succeeds, h], by rw [Event.apply, after_error h]⟩
  have done {s' : Store} (h : (o.on i).perform s = .ok () s') :
      (o.on i).succeeds s = true ∧ (o.on i).apply s = s' :=
    ⟨by rw [Event.succeeds, h], by rw [Event.apply, after_ok h]⟩
  cases o with
  | delivered now =>
    rcases Store.onQueue_cases "mark_delivered" (fun t => t.markDelivered i now) s with
      ⟨fault, h⟩ | ⟨b, q, -, hc, h⟩
    · exact .inl (failed (discard_error h))
    · obtain ⟨hs, ha⟩ := done (discard_ok h)
      refine .inr ⟨hs, Row.delivered now, fun r _ => ⟨rfl, fun h => by cases h⟩, ?_⟩
      rw [ha, ← (Table.markDelivered_ok hc).2]
  | failed error strategy now clock =>
    rcases Store.onQueue_cases "mark_failed"
        (fun t => t.markFailed i error strategy now clock) s with ⟨fault, h⟩ | ⟨out, q, -, hc, h⟩
    · exact .inl (failed (discard_error h))
    · obtain ⟨hs, ha⟩ := done (discard_ok h)
      refine .inr ⟨hs, ?_⟩
      rw [ha]
      rcases Table.markFailed_ok hc with ⟨-, rfl, hn⟩ | ⟨r, r', -, hr, hf, -, rfl⟩
      · -- No row is touched, so any change of the touched rows will do.
        refine ⟨Row.released now, fun r _ => ⟨rfl, fun h => by cases h⟩, ?_⟩
        exact (Table.updateWhere_none hn).symm
      · refine ⟨fun _ => r', fun r₂ hr₂ => ⟨?_, fun h' => ?_⟩, rfl⟩
        · rw [Row.failed_id hf, (Row.isSending_iff.mp hr).1, (Row.isSending_iff.mp hr₂).1]
        · rcases Row.failed_state hf with h | h <;> cases h'.symm.trans h

namespace Crew

/-- An outcome for a claim that a sweep has released changes the queue just
when it succeeds and another claim of the same row is active. In no case
does it touch another row. -/
theorem released_outcome (events : List Event) (number : Nat) (o : Outcome)
    (hc : (after events).claims[number]? = some c) (hr : c.standing = .released) :
    (((after events).step (.outcome number o)).store.queue ≠ (after events).store.queue ↔
      (o.on c.id).succeeds (after events).store = true ∧
        ∃ other ≠ number, ∃ c', (after events).claims[other]? = some c' ∧ c'.id = c.id ∧
          c'.standing = .active) ∧
    ∀ i ≠ c.id, ((after events).step (.outcome number o)).store.queue.find? i =
      (after events).store.queue.find? i := by
  have ht := after_tidy events
  generalize after events = crew at hc ht
  have hstep : (crew.step (.outcome number o)).store = (o.on c.id).apply crew.store := by
    simp only [step, hc, settle]
  have hother : (∃ other ≠ number, ∃ c', crew.claims[other]? = some c' ∧ c'.id = c.id ∧
      c'.standing = .active) ↔ crew.store.queue.Sends c.id := by
    rw [ht.owned]
    constructor
    · rintro ⟨_, -, c', hc', hid, ha⟩
      exact ⟨c', List.mem_of_getElem? hc', hid, ha⟩
    · rintro ⟨c', hm, hid, ha⟩
      obtain ⟨other, hc'⟩ := List.mem_iff_getElem?.mp hm
      refine ⟨other, ?_, c', hc', hid, ha⟩
      rintro rfl
      cases hc.symm.trans hc'
      cases hr.symm.trans ha
  rw [hstep, hother]
  rcases o.on_cases c.id crew.store with ⟨hs, ha⟩ | ⟨hs, f, hf, hq⟩
  · simp [hs, ha]
  · rw [hq]
    refine ⟨⟨fun h => ⟨hs, ?_⟩, ?_⟩, fun i hi => ?_⟩
    · by_contra hn
      refine h (Table.updateWhere_none fun r hr => ?_)
      exact Bool.eq_false_iff.mpr fun hs => hn ⟨r, hr, hs⟩
    · rintro ⟨-, h⟩ heq
      rw [← heq] at h
      exact Table.not_sends_updateWhere (fun r hs => (hf r hs).2) h
    · refine Table.find?_updateWhere_ne (fun r hs => (hf r hs).1) fun r hs => ?_
      rw [(Row.isSending_iff.mp hs).1]
      exact hi.symm

def reclaimed : List Event := [
  .enqueue { channel := "email" } .first, .claim 0 10 .first,
  .release 0 ⟨1, Instant.one_lt_limit⟩ [], .claim 1 10 ⟨2, Instant.two_lt_limit⟩]

theorem released_outcome_reclaimed :
    (after reclaimed).claims = [⟨0, 1, .released⟩, ⟨1, 1, .active⟩] ∧
      ((after reclaimed).step (.outcome 0 (.delivered ⟨3, by decide⟩))).store.queue ≠
        (after reclaimed).store.queue := by
  have hc : (after reclaimed).claims = [⟨0, 1, .released⟩, ⟨1, 1, .active⟩] := by decide +kernel
  have h := released_outcome reclaimed 0 (.delivered ⟨3, by decide⟩) (by rw [hc]; rfl) rfl
  refine ⟨hc, h.1.mpr ⟨by decide +kernel, 1, by decide, ⟨1, 1, .active⟩, ?_, rfl, rfl⟩⟩
  rw [hc]
  rfl

/-- An outcome for a released claim can end the claim of another worker. -/
theorem released_outcome_not_ignored :
    ¬ ∀ (events : List Event) (number : Nat) (o : Outcome) (c : Claim),
      (after events).claims[number]? = some c → c.standing = .released →
      ((after events).step (.outcome number o)).store.queue.find? c.id =
        (after events).store.queue.find? c.id := by
  intro h
  have h := h reclaimed 0 (.delivered ⟨3, by decide⟩) ⟨0, 1, .released⟩ (by decide +kernel) rfl
  have hbefore : ((after reclaimed).store.queue.find? 1).map (·.state) = some .sending := by
    decide +kernel
  have hafter : (((after reclaimed).step (.outcome 0 (.delivered ⟨3, by decide⟩))).store.queue.find?
      1).map (·.state) = some .delivered := by decide +kernel
  rw [h, hbefore] at hafter
  cases hafter

end Crew

end AlertDelivery.Queue
