import AlertDelivery.Worker
import Mathlib.Data.List.Nodup

/-!
# The dispatches of a worker

A dispatch that has not ended waits or has a slot. Its number names it, so
each operation of the worker is known by what it does to the dispatches: it
lets them change places, or takes one away.
-/

namespace AlertDelivery.Worker

def dispatches (w : Worker) : List Dispatch := w.waiting ++ w.holders

variable {w : Worker} {d : Dispatch} {p : Preparing} {x : Sending} {number : Nat} {seconds : Rat}

-- ---------------------------------------------------------------------------
-- Waking
-- ---------------------------------------------------------------------------

theorem wake_waiting (w : Worker) : w.wake.waiting = w.waiting := List.append_nil _

theorem wake_dispatches (w : Worker) : w.wake.dispatches = w.dispatches :=
  congrArg (· ++ w.holders) w.wake_waiting

theorem setPolicy_waiting (w : Worker) (policy : Policy) :
    (w.setPolicy policy).waiting = w.waiting := wake_waiting _

theorem setPolicy_dispatches (w : Worker) (policy : Policy) :
    (w.setPolicy policy).dispatches = w.dispatches := wake_dispatches _

theorem mem_setPolicy (policy : Policy) :
    d ∈ (w.setPolicy policy).dispatches ↔ d ∈ w.dispatches := by
  rw [setPolicy_dispatches]

theorem takeOver_dispatches (w : Worker) (entries : List Queue.Entry) (seconds : Rat)
    (stamps : List Rat) : (dispatches { w.takeOver entries seconds with stamps }).Perm
      (numbered w.nextNumber entries ++ w.dispatches) := by
  simp only [dispatches, waiting, holders, takeOver, List.append_assoc]
  exact List.perm_append_comm_assoc _ _ _

-- ---------------------------------------------------------------------------
-- One of many
-- ---------------------------------------------------------------------------

theorem perm_cons_filter {α : Type} {f : α → Nat} {a : α} {l : List α} (h : (l.map f).Nodup)
    (ha : a ∈ l) : l.Perm (a :: l.filter fun b => f b != f a) := by
  induction l with
  | nil => cases ha
  | cons b rest ih =>
    rw [List.map_cons, List.nodup_cons] at h
    rcases List.mem_cons.mp ha with rfl | ha
    · have hrest : (rest.filter fun b => f b != f a) = rest :=
        List.filter_eq_self.mpr fun c hc => bne_iff_ne.mpr fun heq =>
          h.1 (heq ▸ List.mem_map_of_mem hc)
      rw [List.filter_cons_of_neg (by simp), hrest]
    · have hne : f b ≠ f a := fun heq => h.1 (heq ▸ List.mem_map_of_mem ha)
      rw [List.filter_cons_of_pos (by simpa using hne)]
      exact ((ih h.2 ha).cons b).trans (.swap _ _ _)

theorem ready?_mem (h : w.ready? number = some d) : d ∈ w.ready ∧ d.number = number :=
  ⟨List.mem_of_find?_eq_some h, by simpa using List.find?_some h⟩

theorem preparing?_mem (h : w.preparing? number = some p) :
    p ∈ w.preparing ∧ p.dispatch.number = number :=
  ⟨List.mem_of_find?_eq_some h, by simpa using List.find?_some h⟩

theorem sending?_mem (h : w.sending? number = some x) :
    x ∈ w.sending ∧ x.dispatch.number = number :=
  ⟨List.mem_of_find?_eq_some h, by simpa using List.find?_some h⟩

theorem preparing?_holds (h : w.preparing? number = some p) : p.dispatch ∈ w.holders :=
  List.mem_append_left _ (List.mem_map_of_mem (preparing?_mem h).1)

theorem sending?_holds (h : w.sending? number = some x) : x.dispatch ∈ w.holders :=
  List.mem_append_right _ (List.mem_map_of_mem (sending?_mem h).1)

theorem numbers_ready (hn : (w.dispatches.map (·.number)).Nodup) :
    (w.ready.map (·.number)).Nodup := by
  rw [dispatches, waiting, List.append_assoc, List.map_append] at hn
  exact (List.nodup_append.mp hn).1

theorem numbers_holders (hn : (w.dispatches.map (·.number)).Nodup) :
    (w.holders.map (·.number)).Nodup := by
  rw [dispatches, List.map_append] at hn
  exact (List.nodup_append.mp hn).2.1

-- ---------------------------------------------------------------------------
-- Turns
-- ---------------------------------------------------------------------------

theorem turn_cases (w : Worker) (number : Nat) (seconds : Rat) :
    (w.ready? number = none ∧ w.turn number seconds = w) ∨
    ∃ d, w.ready? number = some d ∧
      ((w.hasFreeSlot = true ∧ w.turn number seconds = { w with
          ready := w.ready.filter (·.number != number)
          active := w.active + 1
          preparing := w.preparing ++ [⟨d, seconds⟩] }) ∨
        (w.hasFreeSlot = false ∧ w.turn number seconds = { w with
          ready := w.ready.filter (·.number != number)
          asleep := w.asleep ++ [d] })) := by
  unfold turn
  cases hd : w.ready? number with
  | none => exact .inl ⟨rfl, rfl⟩
  | some d =>
    refine .inr ⟨d, rfl, ?_⟩
    -- whether a slot is free does not depend on who is ready
    have hfree : hasFreeSlot { w with ready := w.ready.filter (·.number != number) } =
        w.hasFreeSlot := rfl
    dsimp only
    rw [hfree]
    cases w.hasFreeSlot with
    | true => exact .inl ⟨rfl, rfl⟩
    | false => exact .inr ⟨rfl, rfl⟩

theorem turn_held (w : Worker) (number : Nat) (seconds : Rat) :
    (w.turn number seconds).held = w.held := by
  rcases w.turn_cases number seconds with ⟨-, h⟩ | ⟨d, -, ⟨-, h⟩ | ⟨-, h⟩⟩ <;> rw [h]

theorem turn_stamps (w : Worker) (number : Nat) (seconds : Rat) :
    (w.turn number seconds).stamps = w.stamps := by
  rcases w.turn_cases number seconds with ⟨-, h⟩ | ⟨d, -, ⟨-, h⟩ | ⟨-, h⟩⟩ <;> rw [h]

theorem turn_nextNumber (w : Worker) (number : Nat) (seconds : Rat) :
    (w.turn number seconds).nextNumber = w.nextNumber := by
  rcases w.turn_cases number seconds with ⟨-, h⟩ | ⟨d, -, ⟨-, h⟩ | ⟨-, h⟩⟩ <;> rw [h]

theorem turn_sending (w : Worker) (number : Nat) (seconds : Rat) :
    (w.turn number seconds).sending = w.sending := by
  rcases w.turn_cases number seconds with ⟨-, h⟩ | ⟨d, -, ⟨-, h⟩ | ⟨-, h⟩⟩ <;> rw [h]

theorem ready_perm (hn : (w.ready.map (·.number)).Nodup) (h : w.ready? number = some d) :
    w.ready.Perm (d :: w.ready.filter (·.number != number)) := by
  obtain ⟨hd, rfl⟩ := ready?_mem h
  exact perm_cons_filter hn hd

theorem holders_preparing (w : Worker) (p : Preparing) :
    (holders { w with preparing := w.preparing ++ [p] }).Perm (p.dispatch :: w.holders) := by
  rw [holders, List.map_append, List.append_assoc]
  exact List.perm_middle

theorem turn_dispatches (hn : (w.dispatches.map (·.number)).Nodup) (number : Nat)
    (seconds : Rat) : (w.turn number seconds).dispatches.Perm w.dispatches := by
  rcases w.turn_cases number seconds with ⟨-, h⟩ | ⟨d, hd, hcase⟩
  · rw [h]
  · let rest := w.ready.filter (·.number != number)
    have hready : (d :: (rest ++ w.asleep ++ w.holders)).Perm w.dispatches :=
      ((ready_perm (numbers_ready hn) hd).symm.append_right w.asleep).append_right w.holders
    refine .trans ?_ hready
    rcases hcase with ⟨-, h⟩ | ⟨-, h⟩ <;> rw [h]
    · exact ((w.holders_preparing ⟨d, seconds⟩).append_left (rest ++ w.asleep)).trans
        List.perm_middle
    · have hasleep : rest ++ (w.asleep ++ [d]) ++ w.holders =
          rest ++ w.asleep ++ d :: w.holders := by simp
      exact (List.Perm.of_eq hasleep).trans List.perm_middle

-- ---------------------------------------------------------------------------
-- Begins and ends
-- ---------------------------------------------------------------------------

theorem beginSend_holders (hn : (w.dispatches.map (·.number)).Nodup)
    (hp : w.preparing? number = some p) (hx : x.dispatch = p.dispatch) :
    (w.beginSend x).holders.Perm w.holders := by
  have hnumbers : (w.preparing.map (·.dispatch.number)).Nodup := by
    have h := numbers_holders hn
    rw [holders, List.map_append, List.map_map] at h
    exact (List.nodup_append.mp h).1
  let rest := (w.preparing.filter (·.dispatch.number != p.dispatch.number)).map (·.dispatch)
  have hpreparing : (w.preparing.map (·.dispatch)).Perm (p.dispatch :: rest) :=
    (perm_cons_filter (f := (·.dispatch.number)) hnumbers (preparing?_mem hp).1).map (·.dispatch)
  have hholders :
      (w.beginSend x).holders = rest ++ (w.sending.map (·.dispatch) ++ [p.dispatch]) := by
    simp only [holders, beginSend, hx, List.map_append, List.map_cons, List.map_nil, rest]
  rw [hholders, ← List.append_assoc]
  exact (List.perm_append_singleton _ _).trans (hpreparing.symm.append_right _)

theorem beginSend_dispatches (hn : (w.dispatches.map (·.number)).Nodup)
    (hp : w.preparing? number = some p) (hx : x.dispatch = p.dispatch) :
    (w.beginSend x).dispatches.Perm w.dispatches :=
  (beginSend_holders hn hp hx).append_left w.waiting

theorem map_filter_number {α : Type} (f : α → Dispatch) (number : Nat) (l : List α) :
    (l.filter fun a => (f a).number != number).map f =
      (l.map f).filter (·.number != number) := by
  rw [List.filter_map]
  rfl

theorem dismiss_holders (w : Worker) (d : Dispatch) :
    (w.dismiss d).holders = w.holders.filter (·.number != d.number) := by
  rw [holders, holders, List.filter_append, ← map_filter_number, ← map_filter_number]
  rfl

theorem dismiss_waiting (w : Worker) (d : Dispatch) : (w.dismiss d).waiting = w.waiting :=
  wake_waiting _

theorem dismiss_dispatches (hn : (w.dispatches.map (·.number)).Nodup) (hd : d ∈ w.holders) :
    w.dispatches.Perm (d :: (w.dismiss d).dispatches) := by
  rw [dispatches, dispatches, dismiss_waiting, dismiss_holders]
  exact ((perm_cons_filter (numbers_holders hn) hd).append_left w.waiting).trans List.perm_middle

-- ---------------------------------------------------------------------------
-- On the way to a channel
-- ---------------------------------------------------------------------------

theorem length_filter_number_lt {α : Type} {f : α → Nat} {a : α} {l : List α} (ha : a ∈ l) :
    (l.filter fun b => f b != f a).length < l.length :=
  List.length_filter_lt_length_iff_exists.mpr ⟨a, ha, by simp⟩

theorem turn_unbegun (w : Worker) (number : Nat) (seconds : Rat) :
    (w.turn number seconds).unbegun ≤ w.unbegun := by
  rcases w.turn_cases number seconds with ⟨-, h⟩ | ⟨d, hd, hcase⟩
  · exact Nat.le_of_eq (congrArg unbegun h)
  · obtain ⟨hmem, rfl⟩ := ready?_mem hd
    have hless := length_filter_number_lt (f := (·.number)) hmem
    rcases hcase with ⟨-, h⟩ | ⟨-, h⟩ <;> rw [h] <;>
      simp only [unbegun, waiting, List.length_append, List.length_cons, List.length_nil] <;> omega

theorem beginSend_unbegun (hp : w.preparing? number = some p) (hx : x.dispatch = p.dispatch) :
    (w.beginSend x).unbegun < w.unbegun := by
  have hless := length_filter_number_lt (f := (·.dispatch.number)) (preparing?_mem hp).1
  rw [← hx] at hless
  exact Nat.add_lt_add_left hless _

theorem dismiss_unbegun (w : Worker) (d : Dispatch) : (w.dismiss d).unbegun ≤ w.unbegun := by
  rw [unbegun, dismiss_waiting]
  exact Nat.add_le_add_left (List.length_filter_le _ _) _

end AlertDelivery.Worker
