import AlertDelivery.Proofs.Queue.Eligibility
import AlertDelivery.Proofs.Service.Steps
import Mathlib.Logic.Function.Basic

/-!
# Several workers on one queue

Services that share a store do not see what the others hold, and a sweep
spares only what its own worker holds. What keeps them apart is that a row
that is `sending` bears the time of its claim: while no open dispatch is
older than a sweep allows, no sweep takes its row away, and no claim gives a
row that is `sending`.
-/

namespace AlertDelivery

namespace Queue

/-- The row of a claimed entry is as the claim left it. -/
def Table.Claims (t : Table) (e : Entry) : Prop :=
  ∃ r, t.find? e.id = some r ∧ r.state = .sending ∧ e.updatedAt = some r.updatedAt

/-- An operation is no sweep for which a claim at an instant is too old. -/
def Event.Spares (claimed : Instant) : Event → Prop
  | .release age now _ => (now.micros : Int) ≤ claimed.micros + age
  | _ => True

variable {t t' : Table} {q : Event} {e : Entry} {entries : List Entry} {limit i j : Int}
  {now claimed : Instant}

theorem Event.IsOutcome.eq (h : q.IsOutcome i) (h' : q.IsOutcome j) : i = j := by
  cases q with
  | markDelivered id now => exact Eq.trans (Eq.symm h) h'
  | markFailed id text strategy now clock => exact Eq.trans (Eq.symm h) h'
  | _ => cases h

theorem Event.IsOutcome.spares (h : q.IsOutcome i) (claimed : Instant) : q.Spares claimed := by
  cases q with
  | markDelivered | markFailed => trivial
  | _ => cases h

theorem Table.Claims.sends (h : t.Claims e) (hk : t.Keyed) : t.Sends e.id := by
  obtain ⟨r, hf, hs, -⟩ := h
  exact (sends_iff_find? hk).mpr ⟨r, hf, hs⟩

theorem Event.Does.claims (h : q.Does t t') (hk : t.Keyed) (hc : t.Claims e)
    (ho : ¬ q.IsOutcome e.id) (hs : ∀ claimed ∈ e.updatedAt, q.Spares claimed) : t'.Claims e := by
  obtain ⟨r, hf, hst, hat⟩ := hc
  rcases h.moved hk e.id with hsame | ⟨m, hm⟩
  · exact ⟨r, hsame.trans hf, hst, hat⟩
  · rw [hf] at hm
    generalize t'.find? e.id = o at hm
    cases hm with
    | claimed hs' => simp [hst] at hs'
    | delivered => exact absurd rfl ho
    | failed => exact absurd rfl ho
    | buried => exact absurd rfl ho
    | requeued hs' => cases hst.symm.trans hs'
    | deleted hs' => cases hst.symm.trans hs'
    | @released _ age now cutoff exclude _ _ hcut hold =>
      have hspared : (now.micros : Int) ≤ r.updatedAt.micros + age := hs r.updatedAt hat
      have hmicros := Instant.shift?_eq_some.mp hcut
      have hlt : r.updatedAt.micros < cutoff.micros := hold
      omega

theorem Table.claim_claims (hk : t.Keyed) (h : t.claim limit now = .ok (entries, t'))
    (he : e ∈ entries) : ¬ t.Sends e.id ∧ t'.Claims e := by
  have hmem : e.id ∈ entries.map (·.id) := List.mem_map_of_mem he
  refine ⟨claim_fresh hk h hmem, ?_⟩
  obtain ⟨-, rfl, -, hrows⟩ := claim_ok hk h
  obtain ⟨r, hr, rfl⟩ := hrows e he
  refine ⟨r.claimed now, ?_, rfl, rfl⟩
  have hf : t.find? r.id = some r := (find?_eq_some hk).mpr ⟨hr, rfl⟩
  have hid : (r.claimed now).toEntry.id = r.id := rfl
  have htaken : (entries.map (·.id)).contains r.id = true := List.contains_iff_mem.mpr hmem
  rw [hid, find?_updateWhere (f := Row.claimed now) (fun _ _ => rfl), hf, Option.map_some,
    if_pos htaken]

end Queue

namespace Service

open Queue (Row Table)

variable {s s' : Service} {event : Event} {e : Queue.Entry}

def Event.sweepAt : Event → Option Instant
  | .releaseStale t => some t.now
  | .tick t => some t.now
  | _ => none

/-- The claim of an entry is no older than the sweeps of a service allow,
should the event be one. -/
def Event.Timely (s : Service) (event : Event) (e : Queue.Entry) : Prop :=
  ∀ now ∈ event.sweepAt, ∀ claimed ∈ e.updatedAt,
    (now.micros : Int) ≤ claimed.micros + s.settings.staleClaimMinutes * Instant.microsPerMinute

namespace Step

theorem claims (h : Step s s' event) (hk : s.store.queue.Keyed) (hc : s.store.queue.Claims e)
    (ht : event.Timely s e)
    (hne : ∀ d, s.unfinished.Perm (d :: s'.unfinished) → d.entry.id ≠ e.id) :
    s'.store.queue.Claims e := by
  cases h with
  | rest hq => rwa [hq]
  | @operate _ q ha hd =>
    have ho : ¬ q.IsOutcome e.id := by
      cases event <;> cases ha <;> exact id
    refine hd.claims hk hc ho fun claimed hat => ?_
    cases event with
    | releaseStale t =>
      cases ha
      exact ht t.now rfl claimed hat
    | enqueue | requeue | retention =>
      cases ha
      trivial
    | _ => cases ha
  | @claim now _ limit entries hcl =>
    have hd : (Queue.Event.claim limit now).Does s.store.queue s'.store.queue := ⟨entries, hcl⟩
    exact hd.claims hk hc id fun _ _ => trivial
  | @ends _ d hu hq =>
    rcases hq with hq | ⟨q, ho, hd⟩
    · rwa [hq]
    · exact hd.claims hk hc (fun ho' => hne d hu (ho.eq ho')) fun claimed _ => ho.spares claimed

/-- The ids of the open dispatches stay distinct. A dispatch is open after a
step because it was, or because its row was taken by a claim. -/
theorem dispatches (h : Step s s' event) (hk : s.store.queue.Keyed)
    (hn : (s.unfinished.map (·.entry.id)).Nodup)
    (hc : ∀ d ∈ s.unfinished, s.store.queue.Claims d.entry) :
    (s'.unfinished.map (·.entry.id)).Nodup ∧ ∀ d ∈ s'.unfinished, d ∈ s.unfinished ∨
      ¬ s.store.queue.Sends d.entry.id ∧ s'.store.queue.Claims d.entry := by
  cases h with
  | rest hq hu => exact ⟨(hu.map _).nodup_iff.mpr hn, fun d hd => .inl (hu.mem_iff.mp hd)⟩
  | operate ha hd hw =>
    have hu : s'.unfinished = s.unfinished := by rw [unfinished, hw, unfinished]
    exact ⟨hu ▸ hn, fun d hd => .inl (hu ▸ hd)⟩
  | @claim now _ limit entries hcl hu =>
    have hids := Holding.numbered_ids s.worker.nextNumber entries
    constructor
    · refine (hu.map _).nodup_iff.mpr ?_
      rw [List.map_append, hids]
      refine List.nodup_append.mpr ⟨(Table.claim_ok hk hcl).1, hn, ?_⟩
      rintro i hi _ hj rfl
      obtain ⟨d, hd, rfl⟩ := List.mem_map.mp hj
      exact Table.claim_fresh hk hcl hi ((hc d hd).sends hk)
    · intro d hd
      rcases List.mem_append.mp (hu.mem_iff.mp hd) with hnew | hold
      · exact .inr (Table.claim_claims hk hcl (Holding.entry_mem_numbered hnew))
      · exact .inl hold
  | @ends _ d hu =>
    have hnodup := (hu.map (·.entry.id)).nodup_iff.mp hn
    rw [List.map_cons, List.nodup_cons] at hnodup
    exact ⟨hnodup.2, fun d' hd' => .inl (hu.mem_iff.mpr (.tail d hd'))⟩

theorem storable (h : Step s s' event) (hk : s.store.queue.Keyed)
    (hs : ∀ r ∈ s.store.queue.rows, r.Storable) : ∀ r ∈ s'.store.queue.rows, r.Storable := by
  rcases h.does with hq | ⟨q, hd, -⟩
  · rwa [hq]
  · exact hd.storable hk hs

end Step

end Service

-- ---------------------------------------------------------------------------
-- Fleets
-- ---------------------------------------------------------------------------

open Service (Event Step)

structure Fleet (ι : Type) where
  store : Store
  member : ι → Service

namespace Fleet

variable {ι : Type}

def create (store : Store) (settings : ι → Settings) (policy : ι → Policy) : Fleet ι :=
  ⟨store, fun i => Service.create store (settings i) (policy i)⟩

/-- A member as it is, with the store as it is. -/
def service (f : Fleet ι) (i : ι) : Service := { f.member i with store := f.store }

variable [DecidableEq ι] {f : Fleet ι} {i j : ι} {s' : Service} {event : Event}

def put (f : Fleet ι) (i : ι) (s : Service) : Fleet ι := ⟨s.store, Function.update f.member i s⟩

def step (f : Fleet ι) (i : ι) (event : Event) : Fleet ι := f.put i (event.apply (f.service i))

def run (f : Fleet ι) (events : List (ι × Event)) : Fleet ι :=
  events.foldl (fun f x => f.step x.1 x.2) f

/-- No sweep of a run comes when a dispatch of any member has been open for
longer than the sweep allows. -/
def Prompt (f : Fleet ι) : List (ι × Event) → Prop
  | [] => True
  | (i, event) :: rest =>
    (∀ j, ∀ d ∈ (f.member j).unfinished, event.Timely (f.service i) d.entry) ∧
      (f.step i event).Prompt rest

/-- Every open dispatch has its own row, which is as the claim left it. -/
structure Exclusive (f : Fleet ι) : Prop where
  keyed : f.store.queue.Keyed
  storable : ∀ r ∈ f.store.queue.rows, r.Storable
  counted : ∀ i, (f.member i).worker.Counted
  distinct : ∀ i, ((f.member i).unfinished.map (·.entry.id)).Nodup
  disjoint : ∀ i j, i ≠ j → ∀ d ∈ (f.member i).unfinished, ∀ d' ∈ (f.member j).unfinished,
    d.entry.id ≠ d'.entry.id
  claims : ∀ i, ∀ d ∈ (f.member i).unfinished, f.store.queue.Claims d.entry

theorem put_self (f : Fleet ι) (i : ι) (s : Service) : (f.put i s).member i = s := by
  simp [put]

theorem put_ne (hj : j ≠ i) (f : Fleet ι) (s : Service) : (f.put i s).member j = f.member j := by
  simp [put, hj]

theorem forall_put {P : Service → Prop} (hself : P s') (hothers : ∀ j, j ≠ i → P (f.member j))
    (j : ι) : P ((f.put i s').member j) := by
  by_cases hj : j = i
  · subst hj
    rwa [put_self]
  · rw [put_ne hj]
    exact hothers j hj

namespace Exclusive

theorem put (h : f.Exclusive) (hs : Step (f.service i) s' event) (hc : s'.worker.Counted)
    (ht : ∀ j, ∀ d ∈ (f.member j).unfinished, event.Timely (f.service i) d.entry) :
    (f.put i s').Exclusive := by
  obtain ⟨hdistinct, hopen⟩ := hs.dispatches h.keyed (h.distinct i) (h.claims i)
  have hapart (j : ι) (hj : j ≠ i) (d : Dispatch) (hd : d ∈ s'.unfinished) (d' : Dispatch)
      (hd' : d' ∈ (f.member j).unfinished) : d.entry.id ≠ d'.entry.id := by
    rcases hopen d hd with hd | ⟨hfresh, -⟩
    · exact h.disjoint i j hj.symm d hd d' hd'
    · intro heq
      exact hfresh (heq ▸ (h.claims j d' hd').sends h.keyed)
  have hown (d : Dispatch) (hd : d ∈ s'.unfinished) : s'.store.queue.Claims d.entry := by
    rcases hopen d hd with hold | ⟨-, hnew⟩
    · refine hs.claims h.keyed (h.claims i d hold) (ht i d hold) fun gone hgone => ?_
      -- a dispatch that ends takes its id along
      have hnodup := (hgone.map (·.entry.id)).nodup_iff.mp (h.distinct i)
      rw [List.map_cons, List.nodup_cons] at hnodup
      intro heq
      exact hnodup.1 (heq ▸ List.mem_map_of_mem hd)
    · exact hnew
  have hothers (j : ι) (hj : j ≠ i) (d : Dispatch) (hd : d ∈ (f.member j).unfinished) :
      s'.store.queue.Claims d.entry := by
    refine hs.claims h.keyed (h.claims j d hd) (ht j d hd) fun gone hgone => ?_
    exact h.disjoint i j hj.symm gone (hgone.mem_iff.mpr List.mem_cons_self) d hd
  constructor
  · exact hs.keyed h.keyed
  · exact hs.storable h.keyed h.storable
  · exact forall_put (P := fun s => s.worker.Counted) hc fun j _ => h.counted j
  · exact forall_put (P := fun s => (s.unfinished.map (·.entry.id)).Nodup) hdistinct
      fun j _ => h.distinct j
  · intro j k hjk d hd d' hd'
    by_cases hj : j = i
    · subst hj
      rw [put_self] at hd
      rw [put_ne hjk.symm] at hd'
      exact hapart k hjk.symm d hd d' hd'
    · rw [put_ne hj] at hd
      by_cases hk : k = i
      · subst hk
        rw [put_self] at hd'
        exact (hapart j hj d' hd' d hd).symm
      · rw [put_ne hk] at hd'
        exact h.disjoint j k hjk d hd d' hd'
  · exact forall_put (P := fun s => ∀ d ∈ s.unfinished, s'.store.queue.Claims d.entry) hown hothers

theorem step (h : f.Exclusive) (i : ι) (event : Event)
    (ht : ∀ j, ∀ d ∈ (f.member j).unfinished, event.Timely (f.service i) d.entry) :
    (f.step i event).Exclusive := by
  have hcounted (s : Service) (hc : s.worker.Counted) (event : Event) :
      (event.apply s).worker.Counted := ((event.next s).change hc).counted hc
  have hi : (f.service i).worker.Counted := h.counted i
  rcases event.steps hi.numbers with hs | ⟨t, rfl, hsweep, hpass⟩
  · exact h.put hs (hcounted _ hi event) ht
  · -- the pass of a tick meets the fleet that its sweep left, and sweeps no more
    have hmid := h.put hsweep (hcounted _ hi _) ht
    generalize (Event.releaseStale t).apply (f.service i) = mid at hpass hmid
    have hservice : (f.put i mid).service i = mid := by
      rw [service, put_self]
      rfl
    rw [← hservice] at hpass
    have hend := hmid.put hpass (hcounted _ hi (.tick t)) fun j d hd now hnow => by cases hnow
    have hput : (f.put i mid).put i (Event.apply (.tick t) (f.service i)) = f.step i (.tick t) := by
      simp only [Fleet.put, Fleet.step, Function.update_idem]
    exact hput ▸ hend

end Exclusive

theorem run_exclusive (h : f.Exclusive) {events : List (ι × Event)} (hp : f.Prompt events) :
    (f.run events).Exclusive := by
  induction events generalizing f with
  | nil => exact h
  | cons x rest ih =>
    obtain ⟨i, event⟩ := x
    exact ih (h.step i event hp.1) hp.2

omit [DecidableEq ι] in
theorem create_exclusive (store : Store) (hk : store.queue.Keyed)
    (hs : ∀ r ∈ store.queue.rows, r.Storable) (settings : ι → Settings) (policy : ι → Policy) :
    (create store settings policy).Exclusive where
  keyed := hk
  storable := hs
  counted i := Service.create_counted store (settings i) (policy i)
  distinct _ := List.nodup_nil
  disjoint _ _ _ _ hd := by cases hd
  claims _ _ hd := by cases hd

/-- While no sweep comes when a dispatch has been open for longer than it
allows, members claim no row twice: no claim gives a row whose dispatch is
open, the open dispatches of all members have ids of their own, and the row
of each is `sending` and takes its outcome whenever the store is up, unless
it is a failure that leaves a retry with no date, which is refused. -/
theorem claims_exclusive (store : Store) (hk : store.queue.Keyed)
    (hs : ∀ r ∈ store.queue.rows, r.Storable) (settings : ι → Settings) (policy : ι → Policy)
    (events : List (ι × Event)) (hp : (create store settings policy).Prompt events) :
    let f := (create store settings policy).run events
    (∀ limit now entries st, Store.claim limit now f.store = .ok entries st →
      ∀ e ∈ entries, ∀ i, ∀ d ∈ (f.member i).unfinished, e.id ≠ d.entry.id) ∧
    (∀ i, ((f.member i).unfinished.map (·.entry.id)).Nodup ∧ ∀ j, i ≠ j →
      ∀ d ∈ (f.member i).unfinished, ∀ d' ∈ (f.member j).unfinished, d.entry.id ≠ d'.entry.id) ∧
    ∀ i, ∀ d ∈ (f.member i).unfinished,
      ∃ r, f.store.queue.find? d.entry.id = some r ∧ r.state = .sending ∧
        (f.store.isUp = true → ∀ now,
          (∃ st, Store.markDelivered d.entry.id now f.store = .ok true st) ∧
          ∀ (text : String) (b : Backoff) (clock : Instant),
            (¬ r.Overflows b now ∧ ∃ entry st,
              Store.markFailed d.entry.id text (.text b.name) now clock f.store =
                .ok (some entry) st) ∨
            (r.Overflows b now ∧
              Store.markFailed d.entry.id text (.text b.name) now clock f.store =
                .error Fault.dateOverflow f.store)) := by
  intro f
  have h : f.Exclusive := run_exclusive (create_exclusive store hk hs settings policy) hp
  refine ⟨?_, fun i => ⟨h.distinct i, h.disjoint i⟩, ?_⟩
  · intro limit now entries st hclaim e he i d hd heq
    rcases Queue.claim_cases limit now f.store with ⟨_, hc⟩ | hc | ⟨_, q, hq, hc⟩ <;>
      rw [hc] at hclaim <;> cases hclaim
    · cases he
    · obtain ⟨hfresh, -⟩ := Queue.Table.claim_claims h.keyed hq he
      exact hfresh (heq ▸ (h.claims i d hd).sends h.keyed)
  · intro i d hd
    obtain ⟨r, hf, hst, -⟩ := h.claims i d hd
    obtain ⟨hr, hid⟩ := Queue.Table.mem_rows_of_find? hf
    have hstor : Queue.isStorable d.entry.id = true :=
      hid ▸ h.storable r hr r.id List.mem_cons_self
    exact ⟨r, hf, hst, Service.outcomes_taken h.keyed hf hst hstor⟩

def pair : Fleet Bool := create {} (fun _ => {}) fun _ => {}

def lastMoment : Instant :=
  ⟨(({} : Settings).staleClaimMinutes * Instant.microsPerMinute).toNat, by decide⟩

/-- One service claims a notification, and the other sweeps and makes a pass
at the last moment. -/
def sweptByAnother : List (Bool × Event) := [
  (true, .enqueue { channel := "email" } ⟨0, .first⟩),
  (true, .process .first ⟨0, .first⟩), (false, .tick ⟨0, lastMoment⟩)]

theorem sweptByAnother_prompt : pair.Prompt sweptByAnother := by
  refine ⟨?_, ?_, ?_, trivial⟩ <;> intro j d hd now hnow claimed hclaimed
  · cases hnow
  · cases hnow
  · cases hnow
    have hopen : ∀ d ∈ ((pair.run (sweptByAnother.take 2)).member j).unfinished,
        d.entry.updatedAt = some .first := by
      cases j <;> decide +kernel
    have hat : some claimed = some .first := hclaimed.symm.trans (hopen d hd)
    cases hat
    decide +kernel

theorem claims_exclusive_sweptByAnother :
    ∃ d ∈ ((pair.run sweptByAnother).member true).unfinished, d.entry.id = 1 ∧
      ∃ st, Store.markDelivered d.entry.id lastMoment (pair.run sweptByAnother).store =
        .ok true st := by
  have hids : ((pair.run sweptByAnother).member true).unfinished.map (·.entry.id) = [1] := by
    decide +kernel
  obtain ⟨d, hd, hid⟩ := List.mem_map.mp (hids ▸ List.mem_singleton_self 1)
  obtain ⟨-, -, h⟩ := claims_exclusive {} List.Pairwise.nil (fun _ hr => by cases hr)
    (fun _ : Bool => {}) (fun _ => {}) sweptByAnother sweptByAnother_prompt
  obtain ⟨r, -, -, htakes⟩ := h true d hd
  exact ⟨d, hd, hid, (htakes (by decide +kernel) lastMoment).1⟩

def claimedLast : List (Bool × Event) :=
  let last : Instant := ⟨Instant.limit - 1, by decide⟩
  [(true, .enqueue { channel := "email" } ⟨0, last⟩), (true, .process last ⟨0, last⟩)]

/-- A failure at once is refused all the same. -/
theorem outcome_not_always_written :
    ¬ ∀ (settings : Bool → Settings) (policy : Bool → Policy) (events : List (Bool × Event)),
      (create {} settings policy).Prompt events →
      let f := (create {} settings policy).run events
      ∀ i, ∀ d ∈ (f.member i).unfinished, f.store.isUp = true →
        ∀ now, d.entry.updatedAt = some now → ∀ (text : String) (b : Backoff),
          ∃ entry st, Store.markFailed d.entry.id text (.text b.name) now now f.store =
            .ok (some entry) st := by
  intro h
  let f := pair.run claimedLast
  let last : Instant := ⟨Instant.limit - 1, by decide⟩
  have hp : pair.Prompt claimedLast := by
    refine ⟨?_, ?_, trivial⟩ <;> intro j d hd now hnow <;> cases hnow
  have hopen : (f.member true).unfinished.map (fun d => (d.entry.id, d.entry.updatedAt)) =
      [(1, some last)] := by decide +kernel
  obtain ⟨d, hd, hpair⟩ := List.mem_map.mp (hopen ▸ List.mem_singleton_self (1, some last))
  simp only [Prod.mk.injEq] at hpair
  obtain ⟨hid, hat⟩ := hpair
  obtain ⟨entry, st, hm⟩ := h (fun _ => {}) (fun _ => {}) claimedLast hp true d hd
    (by decide +kernel) last hat "boom" .exponential
  have hf : f.Exclusive :=
    run_exclusive (create_exclusive {} List.Pairwise.nil (fun _ hr => by cases hr) _ _) hp
  have hrow : (f.store.queue.find? 1).map (fun r => (r.state, r.retryCount, r.maxRetries)) =
      some (.sending, 0, 3) := by decide +kernel
  obtain ⟨r, hfind, hr⟩ := Option.map_eq_some_iff.mp hrow
  simp only [Prod.mk.injEq] at hr
  have hover : r.Overflows .exponential last := by
    rw [Queue.Row.Overflows, hr.2.1, hr.2.2]
    decide
  rw [hid] at hm
  rcases (Service.outcomes_taken hf.keyed hfind hr.1 (by decide) (by decide +kernel) last).2 "boom"
      .exponential last with ⟨hn, -⟩ | ⟨-, he⟩
  · exact hn hover
  · cases hm.symm.trans he

end Fleet

end AlertDelivery
