import AlertDelivery.Proofs.Service.SharedQueue
import Mathlib.Data.List.Induction

/-!
# The ids that a worker holds

A worker holds an id from its claim, and lets it go when a dispatch of that
id ends. When others put a claimed row back, the worker may claim it again
while it is still dispatching it; the end of either dispatch then lets the
id go for both.
-/

namespace AlertDelivery.Service

variable {start s : Service} {e : SharedEvent} {events : List SharedEvent} {d : Dispatch} {i : Int}

def EndsFor (s : Service) (e : SharedEvent) (i : Int) : Prop :=
  ∃ d ∈ s.unfinished, d.entry.id = i ∧ d ∉ (e.apply s).unfinished

/-- Since a dispatch was claimed, none of its id has ended. -/
def Undisturbed (start : Service) (events : List SharedEvent) (d : Dispatch) : Prop :=
  ∀ past e rest, events = past ++ e :: rest → d ∈ (runShared start past).unfinished →
    ¬ EndsFor (runShared start past) e d.entry.id

theorem undisturbed_append : Undisturbed start (events ++ [e]) d ↔ Undisturbed start events d ∧
    (d ∈ (runShared start events).unfinished →
      ¬ EndsFor (runShared start events) e d.entry.id) := by
  constructor
  · intro h
    refine ⟨?_, h events e [] rfl⟩
    rintro past e' rest rfl
    exact h past e' (rest ++ [e]) (by simp)
  · rintro ⟨h, he⟩ past e' rest heq
    rcases List.eq_nil_or_concat rest with rfl | ⟨rest, last, rfl⟩
    · obtain ⟨rfl, hlast⟩ := List.append_inj' heq rfl
      cases hlast
      exact he
    · have heq : events ++ [e] = (past ++ e' :: rest) ++ [last] := by simpa using heq
      exact h past e' rest (List.append_inj' heq rfl).1

theorem undisturbed_of_new (hc : start.worker.Counted)
    (hd : (runShared start events).worker.nextNumber ≤ d.number) :
    Undisturbed start events d ∧ d ∉ (runShared start events).unfinished := by
  have new (past rest : List SharedEvent) (h : events = past ++ rest) :
      d ∉ (runShared start past).unfinished := by
    intro hmem
    have hpast := runShared_counted hc past
    have hlt := hpast.numbered d hmem
    have hle := runShared_nextNumber hpast rest
    rw [← runShared_append, ← h] at hle
    omega
  exact ⟨fun past e rest h hmem => absurd hmem (new past (e :: rest) h),
    new events [] (List.append_nil _).symm⟩

-- ---------------------------------------------------------------------------
-- One event
-- ---------------------------------------------------------------------------

theorem not_endsFor (h : ∀ d ∈ s.unfinished, d ∈ (e.apply s).unfinished) : ¬ EndsFor s e i := by
  rintro ⟨d, hd, -, hn⟩
  exact hn (h d hd)

theorem endsFor_iff (hc : s.worker.Counted)
    (hp : s.unfinished.Perm (d :: (e.apply s).unfinished)) :
    EndsFor s e i ↔ d.entry.id = i := by
  have hnodup := (hp.map (·.number)).nodup_iff.mp hc.numbers
  rw [List.map_cons, List.nodup_cons] at hnodup
  constructor
  · rintro ⟨d', hd', hid, hn⟩
    rcases List.mem_cons.mp (hp.mem_iff.mp hd') with rfl | hmem
    · exact hid
    · exact absurd hmem hn
  · intro hid
    exact ⟨d, hp.mem_iff.mpr List.mem_cons_self, hid,
      fun hmem => hnodup.1 (List.mem_map_of_mem hmem)⟩

-- ---------------------------------------------------------------------------
-- Runs
-- ---------------------------------------------------------------------------

/-- After any run, whatever others do to the queue, an id is held exactly if
a dispatch of it has not ended, since whose claim none of that id has. -/
theorem held_iff (store : Store) (settings : Settings) (policy : Policy)
    (events : List SharedEvent) (i : Int) :
    i ∈ (runShared (create store settings policy) events).worker.held ↔
      ∃ d ∈ (runShared (create store settings policy) events).unfinished, d.entry.id = i ∧
        Undisturbed (create store settings policy) events d := by
  have hstart := create_counted store settings policy
  have hheld : (create store settings policy).worker.held = [] := rfl
  have hidle : (create store settings policy).unfinished = [] := rfl
  generalize create store settings policy = start at hstart hheld hidle ⊢
  -- on the last event: an ending lets the id go, and it disturbs just the dispatches of that id
  induction events using List.reverseRecOn with
  | nil => simp [runShared, hheld, hidle]
  | append_singleton events e ih =>
    replace ih : _ ↔ _ := ih
    have hc := runShared_counted hstart events
    have hrun : runShared start (events ++ [e]) = e.apply (runShared start events) :=
      runShared_append start events [e]
    simp only [hrun, undisturbed_append]
    cases e.change hc with
    | none hp hh hn =>
      have hno : ¬ EndsFor (runShared start events) e i :=
        not_endsFor fun d hd => hp.mem_iff.mpr hd
      rw [hh, ih]
      refine exists_congr fun d => and_congr hp.mem_iff.symm (and_congr_right ?_)
      rintro rfl
      exact ⟨fun hu => ⟨hu, fun _ => hno⟩, fun hu => hu.1⟩
    | claim entries hp hh hn =>
      have hno : ¬ EndsFor (runShared start events) e i :=
        not_endsFor fun d hd => hp.mem_iff.mpr (List.mem_append_right _ hd)
      rw [hh, Holding.mem_foldl_hold, ih]
      constructor
      · rintro (⟨d, hd, rfl, hu⟩ | hi)
        · exact ⟨d, hp.mem_iff.mpr (List.mem_append_right _ hd), rfl, hu, fun _ => hno⟩
        · rw [← Holding.numbered_ids (runShared start events).worker.nextNumber] at hi
          obtain ⟨d, hd, rfl⟩ := List.mem_map.mp hi
          obtain ⟨hu, hnew⟩ := undisturbed_of_new hstart (Holding.number_mem_numbered hd).1
          exact ⟨d, hp.mem_iff.mpr (List.mem_append_left _ hd), rfl, hu,
            fun hmem => absurd hmem hnew⟩
      · rintro ⟨d, hd, rfl, hu, -⟩
        rcases List.mem_append.mp (hp.mem_iff.mp hd) with hd | hd
        · exact .inr (Holding.numbered_ids _ entries ▸ List.mem_map_of_mem hd)
        · exact .inl ⟨d, hd, rfl, hu⟩
    | ending ended hp hh hn =>
      have hends := endsFor_iff (i := i) hc hp
      rw [hh, List.mem_filter, ih, bne_iff_ne]
      constructor
      · rintro ⟨⟨d, hd, rfl, hu⟩, hne⟩
        rcases List.mem_cons.mp (hp.mem_iff.mp hd) with rfl | hmem
        · exact absurd rfl hne
        · exact ⟨d, hmem, rfl, hu, fun _ h => hne (hends.mp h).symm⟩
      · rintro ⟨d, hmem, rfl, hu, hno⟩
        have hd := hp.mem_iff.mpr (List.mem_cons_of_mem _ hmem)
        exact ⟨⟨d, hd, rfl, hu⟩, fun h => hno hd (hends.mpr h.symm)⟩

/-- A send takes its time, another process puts its row back, the worker
claims it again, and then the first send ends. -/
def claimedTwice : List SharedEvent := [
  .own (.arrange { registry := ⟨[⟨.rehearsed "email" "" [] 0, []⟩]⟩ }),
  .own (.enqueue { channel := "email", values := [("recipient", .text "a@b")] }
    ⟨0, .first⟩),
  .own (.process .first ⟨0, .first⟩), .own (.turn 0 ⟨0, .first⟩), .own (.begin 0 ⟨0, .first⟩),
  .foreign (.release 0 ⟨1, Instant.one_lt_limit⟩ []),
  .own (.process ⟨1, Instant.one_lt_limit⟩ ⟨0, ⟨1, Instant.one_lt_limit⟩⟩),
  .own (.turn 1 ⟨0, ⟨1, Instant.one_lt_limit⟩⟩), .own (.begin 1 ⟨0, ⟨1, Instant.one_lt_limit⟩⟩),
  .own (.finish 0 (.ok ()) ⟨0, ⟨2, Instant.two_lt_limit⟩⟩)]

/-- The second dispatch has not ended, but its id is held no more. -/
theorem held_not_always_exact : ¬ ∀ (store : Store) (settings : Settings) (policy : Policy)
    (events : List SharedEvent) (i : Int),
    let s := runShared (create store settings policy) events
    i ∈ s.worker.held ↔ ∃ d ∈ s.unfinished, d.entry.id = i := by
  intro h
  have hids : (runShared (create {} {} {}) claimedTwice).unfinished.map (·.entry.id) = [1] := by
    decide +kernel
  have hheld : (runShared (create {} {} {}) claimedTwice).worker.held = [] := by decide +kernel
  have hmem := (h {} {} {} claimedTwice 1).mpr
    (List.mem_map.mp (hids ▸ List.mem_singleton_self 1))
  rw [hheld] at hmem
  cases hmem

end AlertDelivery.Service
