import AlertDelivery.Proofs.OpLaws
import AlertDelivery.Proofs.Queue.TableLaws

/-!
# Runs of the queue

Anything that happens to the queue is an `Event`: one of its operations
with any arguments, or its store going down or coming up again. An
operation that fails is part of a run like any other. `Event.Does` says
which table an operation that succeeds makes of a table.
-/

namespace AlertDelivery.Queue

inductive Event where
  | enqueue (q : Request) (now : Instant)
  | claim (limit : Int) (now : Instant)
  | markDelivered (id : Int) (now : Instant)
  | markFailed (id : Int) (error : String) (strategy : Value) (now clock : Instant)
  | requeue (ids : List Int) (now : Instant)
  | release (age : Int) (now : Instant) (exclude : List Int)
  | cleanup (days : Int) (now : Instant)
  | store (isUp : Bool)

namespace Event

def perform : Event → Store.Op Unit
  | .enqueue q now => do let _ ← Store.enqueue q now
  | .claim limit now => do let _ ← Store.claim limit now
  | .markDelivered id now => do let _ ← Store.markDelivered id now
  | .markFailed id error strategy now clock => do
    let _ ← Store.markFailed id error strategy now clock
  | .requeue ids now => do let _ ← Store.requeue ids now
  | .release age now exclude => do let _ ← Store.release age now exclude
  | .cleanup days now => do let _ ← Store.cleanupQueue days now
  | .store isUp => modify fun s => { s with isUp }

def apply (e : Event) (s : Store) : Store := after e.perform s

def succeeds (e : Event) (s : Store) : Bool :=
  match e.perform s with
  | .ok _ _ => true
  | .error _ _ => false

/-- Whether an operation that succeeds may make one table of another. -/
def Does (t t' : Table) : Event → Prop
  | .enqueue q now => ∃ i, t.enqueue q now = .ok (i, t')
  | .claim limit now => ∃ entries, t.claim limit now = .ok (entries, t')
  | .markDelivered id now => ∃ b, t.markDelivered id now = .ok (b, t')
  | .markFailed id error strategy now clock =>
    ∃ out, t.markFailed id error strategy now clock = .ok (out, t')
  | .requeue ids now => ∃ n, t.requeue ids now = .ok (n, t')
  | .release age now exclude =>
    ∃ cutoff n, now.shift? (-age) = some cutoff ∧ t.release cutoff now exclude = .ok (n, t')
  | .cleanup days now =>
    ∃ cutoff, now.daysBefore? days = some cutoff ∧ t' = (t.cleanup cutoff).2
  | .store _ => t' = t

end Event

def run (s : Store) (events : List Event) : Store := events.foldl (fun s e => e.apply s) s

-- ---------------------------------------------------------------------------
-- One event
-- ---------------------------------------------------------------------------

theorem after_onQueue (operation : String) (change : Table → Except Fault (α × Table))
    (s : Store) :
    (after (Store.onQueue operation change) s).queue = s.queue ∨
      ∃ a, change s.queue = .ok (a, (after (Store.onQueue operation change) s).queue) := by
  rcases Store.onQueue_cases operation change s with ⟨fault, h⟩ | ⟨a, q, -, hc, h⟩
  · exact .inl (by rw [after_error h])
  · exact .inr ⟨a, by rw [after_ok h, hc]⟩

theorem claim_cases (limit : Int) (now : Instant) (s : Store) :
    (∃ fault, Store.claim limit now s = .error fault s) ∨ Store.claim limit now s = .ok [] s ∨
      ∃ entries q, s.queue.claim limit now = .ok (entries, q) ∧
        Store.claim limit now s = .ok entries { s with queue := q } := by
  unfold Store.claim
  split
  · exact .inr (.inl rfl)
  · rcases Store.onQueue_cases "claim_batch" (fun t => t.claim limit now) s with
      he | ⟨entries, q, -, hc, ho⟩
    · exact .inl he
    · exact .inr (.inr ⟨entries, q, hc, ho⟩)

/-- An event leaves the table as it was or does to it what its operation
does when it succeeds. -/
theorem Event.apply_cases (e : Event) (s : Store) :
    (e.apply s).queue = s.queue ∨ e.Does s.queue (e.apply s).queue := by
  unfold Event.apply
  cases e with
  | enqueue q now =>
    simp only [perform, after_discard]
    exact after_onQueue _ _ s
  | claim limit now =>
    simp only [perform, after_discard, Store.claim]
    split
    · exact .inl rfl
    · exact after_onQueue _ _ s
  | markDelivered id now =>
    simp only [perform, after_discard]
    exact after_onQueue _ _ s
  | markFailed id error strategy now clock =>
    simp only [perform, after_discard]
    exact after_onQueue _ _ s
  | requeue ids now =>
    simp only [perform, after_discard, Store.requeue]
    split
    · exact .inl rfl
    · exact after_onQueue _ _ s
  | release age now exclude =>
    simp only [perform, after_discard, Store.release]
    cases hc : now.shift? (-age) with
    | none => exact .inl rfl
    | some cutoff =>
      rcases after_onQueue "release_stale_claims" (fun t => t.release cutoff now exclude) s with
        h | ⟨n, h⟩
      · exact .inl h
      · exact .inr ⟨cutoff, n, hc, h⟩
  | cleanup days now =>
    simp only [perform, after_discard, Store.cleanupQueue, Store.cutoff]
    cases hc : now.daysBefore? days with
    | none => exact .inl rfl
    | some cutoff =>
      rcases after_onQueue "cleanup_delivered" (fun t => .ok (t.cleanup cutoff)) s with
        h | ⟨n, h⟩
      · exact .inl h
      · exact .inr ⟨cutoff, hc, (congrArg Prod.snd (Except.ok.inj h)).symm⟩
  | store isUp => exact .inl rfl

theorem Event.Does.cases {e : Event} (h : e.Does t t') (hk : t.Keyed) : t.Moves t' ∨
    (∃ q now, e = .enqueue q now ∧ t' = ⟨t.rows ++ [q.row t.nextId now]⟩) ∨
    ∃ days now cutoff, e = .cleanup days now ∧ now.daysBefore? days = some cutoff ∧
      t' = (t.cleanup cutoff).2 := by
  cases e with
  | enqueue q now =>
    obtain ⟨i, h⟩ := h
    exact .inr (.inl ⟨q, now, rfl, (Table.enqueue_ok h).2.1⟩)
  | claim limit now => exact .inl (Table.claim_moves hk h.choose_spec)
  | markDelivered id now => exact .inl (Table.markDelivered_moves h.choose_spec)
  | markFailed id error strategy now clock =>
    exact .inl (Table.markFailed_moves hk h.choose_spec)
  | requeue ids now => exact .inl (Table.requeue_moves h.choose_spec)
  | release age now exclude =>
    obtain ⟨_, _, -, h⟩ := h
    exact .inl (Table.release_moves h)
  | cleanup days now =>
    obtain ⟨cutoff, hc, rfl⟩ := h
    exact .inr (.inr ⟨days, now, cutoff, rfl, hc, rfl⟩)
  | store isUp =>
    rw [show t' = t from h]
    exact .inl (.refl t)

theorem Event.Does.keyed {e : Event} (h : e.Does t t') (hk : t.Keyed) : t'.Keyed := by
  rcases h.cases hk with hm | ⟨q, now, -, rfl⟩ | ⟨_, _, cutoff, -, -, rfl⟩
  · exact hm.keyed hk
  · exact hk.append rfl
  · exact hk.filter _

/-- A row that an operation leaves was there before, comes of one that was
by a change, or is new. -/
theorem Event.Does.mem {e : Event} (h : e.Does t t') (hk : t.Keyed) (hr : r' ∈ t'.rows) :
    r' ∈ t.rows ∨ (∃ r ∈ t.rows, Row.Change r r') ∨
      ∃ q now, e = .enqueue q now ∧ r' = q.row t.nextId now := by
  rcases h.cases hk with hm | ⟨q, now, rfl, rfl⟩ | ⟨_, _, cutoff, -, -, rfl⟩
  · rcases hm.mem hr with h | h
    · exact .inl h
    · exact .inr (.inl h)
  · rcases List.mem_append.mp hr with hr | hr
    · exact .inl hr
    · exact .inr (.inr ⟨q, now, rfl, List.mem_singleton.mp hr⟩)
  · exact .inl (List.mem_filter.mp hr).1

theorem Event.Does.storable {e : Event} (h : e.Does t t') (hk : t.Keyed)
    (hs : ∀ r ∈ t.rows, r.Storable) : ∀ r ∈ t'.rows, r.Storable := by
  intro r' hr'
  rcases h.mem hk hr' with hr | ⟨r, hr, hc⟩ | ⟨q, now, rfl, rfl⟩
  · exact hs r' hr
  · exact hc.storable (hs r hr)
  · obtain ⟨i, h⟩ := h
    obtain ⟨-, -, hid, huser⟩ := Table.enqueue_ok h
    intro j hj
    rcases List.mem_cons.mp hj with rfl | hj
    · exact hid
    · exact huser j (Option.mem_toList.mp hj)

end AlertDelivery.Queue
