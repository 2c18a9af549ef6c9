import AlertDelivery.Proofs.Api.ChannelRequests
import AlertDelivery.Proofs.Catalog.Required
import Mathlib.Data.List.Induction
import Mathlib.Logic.Function.Basic

/-!
# Several operators

Operators look at a channel and submit configurations for it, each without
knowing of the others. A submission is read against what is stored and
written some time later, with anything done in between. A mask in it stands
for what was stored when it was read. Where nothing was stored any more the
mask stands for itself and becomes the password; this is the only way for a
mask to be stored, and it is barred for a password that the form requires.
Requests that are answered one after the other are the runs in which each
submission is written as soon as it is read (`run_calls`).
-/

namespace AlertDelivery.Api

variable {s : Service} {type key : String} {r : Channel.Row} {d : ChannelDefinition}
  {f : ConfigField} {c : Context} {t : Clock.Reading} {cleaned : Fields}

-- ---------------------------------------------------------------------------
-- What is shown
-- ---------------------------------------------------------------------------

theorem shownConfig_refuse (c : Context) (r : Request) (fault : Fault) :
    shownConfig (.done (refuse c r fault)) = [] := by
  unfold refuse
  split
  · rfl
  · rfl
  · split <;> rfl
  · rfl

theorem get?_of_sent {body config : Fields} (hconfig : body.get? "config" = some (.record config))
    (c : Context) (r : Request)
    (hshown : (shownConfig (.done (Response.sent c r { body := .record body }))).get? key ≠ none) :
    config.get? key ≠ none := by
  rw [Response.sent] at hshown
  dsimp only at hshown
  split at hshown
  · have hopen : ¬isHidden "config" = true := by decide
    simp only [shown, shownConfig, get?_shownFields, hconfig, if_neg hopen, Option.map_some]
      at hshown
    split at hshown
    · exact absurd rfl hshown
    · exact mt Option.map_eq_none_iff.mpr hshown
  · rw [shownConfig_refuse] at hshown
    exact absurd rfl hshown

theorem view_cases (s : Service) (type : String) :
    (∃ fault, view s type = .error fault) ∨ ∃ r health, s.HasRow type r ∧
      view s type = .ok { body := .record (channelFields type health r.fields) } := by
  cases hr : s.row "channel_stats" type with
  | error fault => exact .inl ⟨fault, by rw [view, hr]; rfl⟩
  | ok r =>
    cases hh : r.health (s.registry.contains type) with
    | error fault => exact .inl ⟨fault, by rw [view, hr, ok_bind, hh]; rfl⟩
    | ok health =>
      have hrow := Service.row_ok_iff.mp hr
      exact .inr ⟨r, health, hrow,
        by rw [view, hr, ok_bind, hh, ok_bind, Service.row_ok_iff.mpr hrow]; rfl⟩

theorem stored_of_shown (hd : Catalog.find? type = some d) {next : Next} {s' : Service}
    (h : answer c (readChannel type) t s = .ok next s')
    (hshown : (shownConfig next).get? key ≠ none) : (s.storedFields type).get? key ≠ none := by
  rw [answer_readChannel hd] at h
  cases h
  have hrefused (fault : Fault) :
      ¬(shownConfig (.done (refuse c (readChannel type) fault))).get? key ≠ none := by
    rw [shownConfig_refuse]
    exact not_not.mpr rfl
  split at hshown
  · rcases view_cases s type with ⟨fault, hview⟩ | ⟨r, health, hrow, hview⟩
    · rw [hview] at hshown
      exact absurd hshown (hrefused fault)
    · have hconfig : (channelFields type health r.fields).get? "config" =
          some (.record (masked type r.fields)) := by
        simp [channelFields, Channel.Health.describe, Fields.get?]
      rw [hview] at hshown
      have hmasked := get?_of_sent hconfig c (readChannel type) hshown
      rwa [Ne, Fields.get?_eq_none_iff, keys_masked, ← Fields.get?_eq_none_iff,
        ← hrow.storedFields] at hmasked
  · exact absurd hshown (hrefused notServing)

-- ---------------------------------------------------------------------------
-- Looking, submitting and writing
-- ---------------------------------------------------------------------------

/-- A submission, and the stored configuration that it was read against. -/
structure Submission where
  incoming : Fields
  stored : Fields
deriving DecidableEq

def Submission.write (sub : Submission) (type : String) (t : Clock.Reading) : Service.Op Fields :=
  Service.updateConfig type (unmasked sub.stored sub.incoming) t

theorem Submission.write_cases (hd : Catalog.find? type = some d) (sub : Submission)
    (t : Clock.Reading) (s : Service) :
    (∃ fault, sub.write type t s = .error fault s) ∨ ∃ cleaned r, s.HasRow type r ∧
      d.clean (unmasked sub.stored sub.incoming) = .ok cleaned ∧
      sub.write type t s = .ok cleaned (s.configured type cleaned t.now) := by
  rcases Service.updateConfig_outcome type (unmasked sub.stored sub.incoming) t s with
    hrefused | ⟨cleaned, r, hchecked, hr, hstored⟩
  · exact .inl hrefused
  · exact .inr ⟨cleaned, r, hr, ((Service.checkedConfig_ok_iff hd).mp hchecked).1, hstored⟩

theorem mask_hidden : ¬Text.Shows mask := by
  have hstars : mask.toList = List.replicate 8 '*' := by decide
  rintro ⟨c, hc, hne⟩
  exact hne (List.eq_of_mem_replicate (hstars ▸ hc))

theorem clean_mask_iff (hd : Catalog.find? type = some d) (hf : f ∈ d.fields)
    (hkind : f.kind = .password) {config : Fields} (h : d.clean config = .ok cleaned) :
    cleaned.get? f.key = some (.text mask) ↔ config.get? f.key = some (.text mask) := by
  have hgiven : config.get? f.key = some (.text mask) ↔ config.getD f.key = .text mask := by
    rw [Fields.getD]
    cases config.get? f.key <;> simp
  have hsettled := (ChannelDefinition.get?_foldlM (Catalog.keys_nodup hd) h).1 f hf
  rw [ChannelDefinition.settle_password hkind (Catalog.password_bare hd f hf hkind)] at hsettled
  rw [hgiven]
  split at hsettled
  next hunset =>
    have hne : config.getD f.key ≠ .text mask := by
      intro heq
      rw [heq] at hunset
      cases hunset
    split at hsettled
    · cases hsettled
    · rw [← Except.ok.inj hsettled]
      simp [hne]
  next =>
    rw [← Except.ok.inj hsettled, Option.some_inj, Value.text.injEq, Value.plain_eq_iff mask_hidden]

/-- What a submission stands for is a mask if it gives one and nothing but a
mask was stored when it was read. -/
theorem unmasked_mask_iff {stored incoming : Fields} :
    (unmasked stored incoming).get? key = some (.text mask) ↔
      incoming.get? key = some (.text mask) ∧
        (stored.get? key = none ∨ stored.get? key = some (.text mask)) := by
  rw [get?_unmasked]
  cases incoming.get? key with
  | none => simp
  | some v =>
    by_cases hv : v = .text mask
    · cases stored.get? key <;> simp [hv]
    · simp [hv]

/-- The service and what the operators of one channel know and do. -/
structure Desk (ι : Type) where
  service : Service
  /-- The configuration that each operator was shown last. -/
  shown : ι → Fields := fun _ => []
  /-- The submissions that were read and are not written yet. -/
  submissions : List Submission := []

inductive Action (ι : Type) where
  | look (operator : ι) (t : Clock.Reading)
  | submit (operator : ι) (incoming : Fields)
  | write (number : Nat) (t : Clock.Reading)

namespace Desk

variable {ι : Type} {desk : Desk ι} {sub : Submission} {number : Nat} {actions : List (Action ι)}

/-- A service that does not run takes no submission, and none is read while
the row of the channel is out of reach. -/
def submit (c : Context) (type : String) (incoming : Fields) (desk : Desk ι) : Desk ι :=
  if c.isServing then
    match Service.storedConfig type desk.service with
    | .ok stored service =>
      { desk with service, submissions := desk.submissions ++ [⟨incoming, stored⟩] }
    | .error _ service => { desk with service }
  else desk

def write (type : String) (number : Nat) (t : Clock.Reading) (desk : Desk ι) : Desk ι :=
  match desk.submissions[number]? with
  | some sub => { desk with
      service := after (sub.write type t) desk.service
      submissions := desk.submissions.eraseIdx number }
  | none => desk

/-- A request to store a configuration is a submission that is written at
once. -/
theorem submit_write (hd : Catalog.find? type = some d) (incoming : Fields) (t : Clock.Reading)
    (desk : Desk ι) :
    (desk.submit c type incoming).write type desk.submissions.length t =
      { desk with service := after (answer c (writeConfig type incoming) t) desk.service } := by
  rw [after_writeConfig hd]
  cases hserving : c.isServing with
  | false => simp [submit, write, hserving]
  | true =>
    have hstored := Service.storedConfig_run type desk.service
    cases hrow : desk.service.row "get_config" type with
    | error fault =>
      rw [hrow] at hstored
      have hnone : Service.storedConfig type desk.service = .error fault desk.service := hstored
      simp [submit, write, hserving, hnone, after_error (configure_fault hrow incoming t)]
    | ok r =>
      have hr := Service.row_ok_iff.mp hrow
      simp [submit, write, hserving, hr.storedConfig, Submission.write, after_configure hr,
        List.eraseIdx_append_of_length_le]

theorem submit_cases (c : Context) (type : String) (incoming : Fields) (desk : Desk ι) :
    desk.submit c type incoming = desk ∨ desk.submit c type incoming =
      { desk with
        submissions := desk.submissions ++ [⟨incoming, desk.service.storedFields type⟩] } := by
  unfold submit
  split
  · cases hrow : desk.service.row "get_config" type with
    | error fault =>
      have hnone : Service.storedConfig type desk.service = .error fault desk.service := by
        rw [Service.storedConfig_run, hrow]
        rfl
      exact .inl (by rw [hnone])
    | ok r =>
      have hr := Service.row_ok_iff.mp hrow
      exact .inr (by rw [hr.storedConfig, hr.storedFields])
  · exact .inl rfl

theorem write_cases (hd : Catalog.find? type = some d) (number : Nat) (t : Clock.Reading)
    (desk : Desk ι) :
    desk.submissions[number]? = none ∧ desk.write type number t = desk ∨
    ∃ sub, desk.submissions[number]? = some sub ∧
      (desk.write type number t).submissions = desk.submissions.eraseIdx number ∧
      (desk.write type number t).shown = desk.shown ∧
      ((∃ fault, sub.write type t desk.service = .error fault desk.service) ∧
          (desk.write type number t).service = desk.service ∨
        ∃ cleaned s', sub.write type t desk.service = .ok cleaned s' ∧
          d.clean (unmasked sub.stored sub.incoming) = .ok cleaned ∧
          (desk.write type number t).service.storedFields type = cleaned) := by
  cases hsub : desk.submissions[number]? with
  | none => exact .inl ⟨rfl, by rw [write, hsub]⟩
  | some sub =>
    have hwrite : desk.write type number t = { desk with
        service := after (sub.write type t) desk.service
        submissions := desk.submissions.eraseIdx number } := by
      rw [write, hsub]
    rw [hwrite]
    refine .inr ⟨sub, rfl, rfl, rfl, ?_⟩
    rcases sub.write_cases hd t desk.service with ⟨fault, h⟩ | ⟨cleaned, r, hr, hclean, h⟩
    · exact .inl ⟨⟨fault, h⟩, after_error h⟩
    · refine .inr ⟨cleaned, _, h, hclean, ?_⟩
      rw [after_ok h]
      exact (hr.configured cleaned t.now).storedFields

-- ---------------------------------------------------------------------------
-- Masks that stand for nothing
-- ---------------------------------------------------------------------------

def HoldsMask (type key : String) (desk : Desk ι) : Prop :=
  (desk.service.storedFields type).get? key = some (.text mask)

instance (type key : String) (desk : Desk ι) : Decidable (desk.HoldsMask type key) :=
  inferInstanceAs (Decidable (_ = _))

structure IsClear (type key : String) (desk : Desk ι) : Prop where
  stored : ¬desk.HoldsMask type key
  read : ∀ sub ∈ desk.submissions, sub.stored.get? key ≠ some (.text mask)

/-- A submission that is accepted gives a mask under a key where nothing was
stored when it was read. -/
def Loses (type key : String) (number : Nat) (t : Clock.Reading) (desk : Desk ι) : Prop :=
  ∃ sub cleaned s', desk.submissions[number]? = some sub ∧
    sub.incoming.get? key = some (.text mask) ∧ sub.stored.get? key = none ∧
    sub.write type t desk.service = .ok cleaned s'

theorem Loses.stored_mask (hd : Catalog.find? type = some d) (hf : f ∈ d.fields)
    (hkind : f.kind = .password) (h : desk.Loses type f.key number t) :
    (desk.write type number t).HoldsMask type f.key := by
  obtain ⟨sub, cleaned, s', hsub, hmask, hnone, haccepted⟩ := h
  rcases write_cases hd number t desk with ⟨hclosed, -⟩ | ⟨sub', hsub', -, -, hservice⟩
  · cases hsub.symm.trans hclosed
  · cases hsub.symm.trans hsub'
    rcases hservice with ⟨⟨fault, hrefused⟩, -⟩ | ⟨cleaned', _, -, hclean, hstored⟩
    · cases haccepted.symm.trans hrefused
    · rw [HoldsMask, hstored, clean_mask_iff hd hf hkind hclean, unmasked_mask_iff]
      exact ⟨hmask, .inl hnone⟩

/-- An operator gives a mask under a key only if it was shown there last. -/
def Heeds (key : String) (desk : Desk ι) : Action ι → Prop
  | .submit operator incoming => incoming.get? key = some (.text mask) →
    (desk.shown operator).get? key = some (.text mask)
  | .look .. | .write .. => True

instance (key : String) (desk : Desk ι) : DecidablePred (desk.Heeds key)
  | .submit .. => inferInstanceAs (Decidable (_ → _))
  | .look .. | .write .. => isTrue trivial

/-- Whatever an operator was shown as a mask is stored still, and so it was
when a submission with a mask was read. -/
structure IsCovered (type key : String) (desk : Desk ι) : Prop where
  shown : ∀ operator, (desk.shown operator).get? key = some (.text mask) →
    (desk.service.storedFields type).get? key ≠ none
  read : ∀ sub ∈ desk.submissions, sub.incoming.get? key = some (.text mask) →
    sub.stored.get? key ≠ none

theorem IsCovered.not_loses (h : desk.IsCovered type key) (number : Nat) (t : Clock.Reading) :
    ¬desk.Loses type key number t := by
  rintro ⟨sub, cleaned, s', hsub, hmask, hnone, -⟩
  exact h.read sub (List.mem_of_getElem? hsub) hmask hnone

-- ---------------------------------------------------------------------------
-- Runs
-- ---------------------------------------------------------------------------

variable [DecidableEq ι]

def opened (s : Service) : Desk ι := { service := s }

def keepShown (operator : ι) (desk : Desk ι) : EStateM.Result Fault Service Next → Desk ι
  | .ok next service =>
    { desk with service, shown := Function.update desk.shown operator (shownConfig next) }
  | .error _ service => { desk with service }

def look (c : Context) (type : String) (operator : ι) (t : Clock.Reading) (desk : Desk ι) :
    Desk ι :=
  desk.keepShown operator (answer c (readChannel type) t desk.service)

theorem look_eq (hd : Catalog.find? type = some d) (c : Context) (operator : ι)
    (t : Clock.Reading) (desk : Desk ι) :
    ∃ config : Fields, desk.look c type operator t =
        { desk with shown := Function.update desk.shown operator config } ∧
      ∀ key, config.get? key ≠ none → (desk.service.storedFields type).get? key ≠ none := by
  obtain ⟨next, hanswer⟩ : ∃ next, answer c (readChannel type) t desk.service =
      .ok next desk.service := ⟨_, answer_readChannel hd c t desk.service⟩
  exact ⟨shownConfig next, by rw [look, hanswer, keepShown],
    fun key => stored_of_shown hd hanswer⟩

def step (c : Context) (type : String) (desk : Desk ι) : Action ι → Desk ι
  | .look operator t => desk.look c type operator t
  | .submit _ incoming => desk.submit c type incoming
  | .write number t => desk.write type number t

def run (c : Context) (type : String) (desk : Desk ι) (actions : List (Action ι)) : Desk ι :=
  actions.foldl (step c type) desk

def HeedsAll (c : Context) (type key : String) (desk : Desk ι) : List (Action ι) → Prop
  | [] => True
  | action :: rest => desk.Heeds key action ∧ (desk.step c type action).HeedsAll c type key rest

instance decidableHeedsAll (c : Context) (type key : String) (desk : Desk ι) :
    DecidablePred (desk.HeedsAll c type key)
  | [] => isTrue trivial
  | action :: rest =>
    have := (desk.step c type action).decidableHeedsAll c type key rest
    inferInstanceAs (Decidable (_ ∧ _))

theorem HeedsAll.heeds (h : desk.HeedsAll c type key actions) {before : List (Action ι)}
    {action : Action ι} (hbefore : before ++ [action] <+: actions) :
    (desk.run c type before).Heeds key action := by
  induction before generalizing desk actions with
  | nil =>
    obtain ⟨rest, rfl⟩ := hbefore
    exact h.1
  | cons first before ih =>
    obtain ⟨rest, rfl⟩ := hbefore
    exact ih h.2 (List.prefix_append (before ++ [action]) rest)

theorem run_concat (desk : Desk ι) (before : List (Action ι)) (action : Action ι) :
    desk.run c type (before ++ [action]) = (desk.run c type before).step c type action := by
  rw [run, List.foldl_append]
  rfl

theorem run_keeps {P : Desk ι → Prop} (c : Context) (desk : Desk ι) (h : P desk)
    (hstep : ∀ before action, before ++ [action] <+: actions → P (desk.run c type before) →
      P ((desk.run c type before).step c type action)) :
    ∀ before, before <+: actions → P (desk.run c type before) := by
  intro before
  induction before using List.reverseRecOn with
  | nil => exact fun _ => h
  | append_singleton before action ih =>
    intro hbefore
    rw [run_concat]
    exact hstep before action hbefore (ih ((List.prefix_append before [action]).trans hbefore))

-- ---------------------------------------------------------------------------
-- Whole requests
-- ---------------------------------------------------------------------------

/-- A request that is answered before the next one is made. -/
inductive Call (ι : Type) where
  | get (operator : ι) (t : Clock.Reading)
  | put (operator : ι) (incoming : Fields) (t : Clock.Reading)

def Call.answered (c : Context) (type : String) (s : Service) : Call ι → Service
  | .get _ t => after (answer c (readChannel type) t) s
  | .put _ incoming t => after (answer c (writeConfig type incoming) t) s

/-- A submission that is read while no other is open stands under 0. -/
def Call.steps : Call ι → List (Action ι)
  | .get operator t => [.look operator t]
  | .put operator incoming t => [.submit operator incoming, .write 0 t]

theorem run_call (hd : Catalog.find? type = some d) (hnone : desk.submissions = []) (c : Context)
    (call : Call ι) :
    (desk.run c type call.steps).service = call.answered c type desk.service ∧
      (desk.run c type call.steps).submissions = [] := by
  cases call with
  | get operator t =>
    obtain ⟨config, hlook, -⟩ := look_eq hd c operator t desk
    simp only [Call.steps, Call.answered, run, List.foldl_cons, List.foldl_nil, step, hlook,
      after_ok (answer_readChannel hd c t desk.service), hnone, and_self]
  | put operator incoming t =>
    have hwrite := submit_write (c := c) hd incoming t desk
    rw [hnone, List.length_nil] at hwrite
    simp only [Call.steps, Call.answered, run, List.foldl_cons, List.foldl_nil, step, hwrite,
      and_self]

/-- Requests that are answered one after the other are a run of the desk, in
which each submission is written as soon as it is read. -/
theorem run_calls (hd : Catalog.find? type = some d) (hnone : desk.submissions = []) (c : Context)
    (calls : List (Call ι)) :
    (desk.run c type (calls.flatMap Call.steps)).service =
        calls.foldl (Call.answered c type) desk.service ∧
      (desk.run c type (calls.flatMap Call.steps)).submissions = [] := by
  induction calls generalizing desk with
  | nil => exact ⟨rfl, hnone⟩
  | cons call rest ih =>
    obtain ⟨hservice, hclosed⟩ := run_call hd hnone c call
    have hsplit : desk.run c type ((call :: rest).flatMap Call.steps) =
        (desk.run c type call.steps).run c type (rest.flatMap Call.steps) := by
      rw [List.flatMap_cons, run, List.foldl_append]
      rfl
    rw [hsplit, List.foldl_cons, ← hservice]
    exact ih hclosed

-- ---------------------------------------------------------------------------
-- What a run keeps
-- ---------------------------------------------------------------------------

theorem IsClear.step (hd : Catalog.find? type = some d) (hf : f ∈ d.fields)
    (hkind : f.kind = .password) (h : desk.IsClear type f.key) (action : Action ι)
    (hkept : ∀ number t, action = .write number t → ¬desk.Loses type f.key number t) :
    (desk.step c type action).IsClear type f.key := by
  cases action with
  | look operator t =>
    show (desk.look c type operator t).IsClear type f.key
    obtain ⟨config, hlook, -⟩ := look_eq hd c operator t desk
    rw [hlook]
    exact ⟨h.stored, h.read⟩
  | submit operator incoming =>
    show (desk.submit c type incoming).IsClear type f.key
    rcases submit_cases c type incoming desk with hsubmit | hsubmit
    · rwa [hsubmit]
    · rw [hsubmit]
      refine ⟨h.stored, fun sub hsub => ?_⟩
      rcases List.mem_append.mp hsub with hsub | hsub
      · exact h.read sub hsub
      · cases List.mem_singleton.mp hsub
        exact h.stored
  | write number t =>
    show (desk.write type number t).IsClear type f.key
    rcases write_cases hd number t desk with ⟨-, hwrite⟩ | ⟨sub, hsub, hopen, -, hservice⟩
    · rwa [hwrite]
    · have hread : ∀ sub ∈ (desk.write type number t).submissions,
          sub.stored.get? f.key ≠ some (.text mask) :=
        fun other hother => h.read other (List.mem_of_mem_eraseIdx (hopen ▸ hother))
      rcases hservice with ⟨-, hsame⟩ | ⟨cleaned, s', haccepted, hclean, hstored⟩
      · exact ⟨by rw [HoldsMask, hsame]; exact h.stored, hread⟩
      · refine ⟨?_, hread⟩
        rw [HoldsMask, hstored, clean_mask_iff hd hf hkind hclean, unmasked_mask_iff]
        rintro ⟨hmask, hnone | hheld⟩
        · exact hkept number t rfl ⟨sub, cleaned, s', hsub, hmask, hnone, haccepted⟩
        · exact h.read sub (List.mem_of_getElem? hsub) hheld

theorem IsCovered.step (hd : Catalog.find? type = some d) (hf : f ∈ d.fields)
    (hrequired : f.required = true) (h : desk.IsCovered type f.key) {action : Action ι}
    (hheeds : desk.Heeds f.key action) : (desk.step c type action).IsCovered type f.key := by
  cases action with
  | look operator t =>
    show (desk.look c type operator t).IsCovered type f.key
    obtain ⟨config, hlook, hstored⟩ := look_eq hd c operator t desk
    rw [hlook]
    refine ⟨fun other hother => ?_, h.read⟩
    by_cases heq : other = operator
    · subst heq
      have hmask : config.get? f.key = some (.text mask) := by simpa using hother
      exact hstored f.key (by rw [hmask]; exact Option.some_ne_none _)
    · exact h.shown other (by simpa [Function.update_of_ne heq] using hother)
  | submit operator incoming =>
    show (desk.submit c type incoming).IsCovered type f.key
    rcases submit_cases c type incoming desk with hsubmit | hsubmit
    · rwa [hsubmit]
    · rw [hsubmit]
      refine ⟨h.shown, fun sub hsub hmask => ?_⟩
      rcases List.mem_append.mp hsub with hsub | hsub
      · exact h.read sub hsub hmask
      · cases List.mem_singleton.mp hsub
        exact h.shown operator (hheeds hmask)
  | write number t =>
    show (desk.write type number t).IsCovered type f.key
    rcases write_cases hd number t desk with ⟨-, hwrite⟩ | ⟨sub, -, hopen, hshown, hservice⟩
    · rwa [hwrite]
    · refine ⟨fun operator hmask => ?_, fun other hother =>
        h.read other (List.mem_of_mem_eraseIdx (hopen ▸ hother))⟩
      rw [hshown] at hmask
      rcases hservice with ⟨-, hsame⟩ | ⟨cleaned, _, -, hclean, hstored⟩
      · exact hsame ▸ h.shown operator hmask
      · -- what is required stands in everything that is stored
        have hsettled := (ChannelDefinition.get?_foldlM (Catalog.keys_nodup hd) hclean).1 f hf
        obtain ⟨v, hv⟩ := ChannelDefinition.settle_kept (by simp [ConfigField.isKept, hrequired])
          hsettled
        rw [hstored, hv]
        exact Option.some_ne_none v

/-- Operators look at a channel and submit configurations for it, in any
order and at the same time, and give a mask for a password only if they were
shown it last. Then a mask is stored for the password exactly if a
submission is accepted that gives it and was read when no such password was
stored; and for a password that is required never. -/
theorem mask_stored_iff (hd : Catalog.find? type = some d) (hf : f ∈ d.fields)
    (hkind : f.kind = .password)
    (hstart : (s.storedFields type).get? f.key ≠ some (.text mask)) (c : Context)
    (hheeds : (opened s).HeedsAll c type f.key actions) :
    ((∃ before, before <+: actions ∧ ((opened s).run c type before).HoldsMask type f.key) ↔
      ∃ before number t, before ++ [.write number t] <+: actions ∧
        ((opened s).run c type before).Loses type f.key number t) ∧
    (f.required = true →
      ∀ before, before <+: actions → ¬((opened s).run c type before).HoldsMask type f.key) := by
  have hstored_iff : (∃ before, before <+: actions ∧
        ((opened s).run c type before).HoldsMask type f.key) ↔
      ∃ before number t, before ++ [.write number t] <+: actions ∧
        ((opened s).run c type before).Loses type f.key number t := by
    constructor
    · rintro ⟨before, hbefore, hmask⟩
      by_contra hnever
      refine (run_keeps (P := IsClear type f.key) c (opened s)
        ⟨hstart, fun sub hsub => by cases hsub⟩ (fun early action hp hclear =>
          hclear.step hd hf hkind action ?_) before hbefore).stored hmask
      rintro number t rfl hloses
      exact hnever ⟨early, number, t, hp, hloses⟩
    · rintro ⟨before, number, t, hbefore, hloses⟩
      refine ⟨before ++ [.write number t], hbefore, ?_⟩
      rw [run_concat]
      exact hloses.stored_mask hd hf hkind
  refine ⟨hstored_iff, fun hrequired before hbefore hmask => ?_⟩
  obtain ⟨early, number, t, hp, hloses⟩ := hstored_iff.mp ⟨before, hbefore, hmask⟩
  have hcovered := run_keeps (P := IsCovered type f.key) c (opened s)
    ⟨fun operator hshown => absurd hshown (by simp [opened, Fields.get?]),
      fun sub hsub => by cases hsub⟩
    (fun before action hp h => h.step hd hf hrequired (hheeds.heeds hp)) early
    ((List.prefix_append early [.write number t]).trans hp)
  exact hcovered.not_loses number t hloses

def withSecret : Service := withMail.configured "webhook"
  [("url", .text "https://hooks.example.com/in"), ("secret", .text "s3cret")] .first

/-- An operator looks; another one stores a configuration without the secret;
and the first one sends back the mask that it was shown. -/
def lostSecret : List (Action Bool) := [
  .look false ⟨1, .first⟩,
  .submit true [("url", .text "https://hooks.example.com/in")], .write 0 ⟨2, .first⟩,
  .submit false [("url", .text "https://hooks.example.com/in"), ("secret", .text mask)],
  .write 0 ⟨3, .first⟩]

theorem lostSecret_heeds :
    (opened withSecret).HeedsAll serving "webhook" "secret" lostSecret := by
  decide +kernel

theorem mask_stored_iff_lostSecret : ∃ before, before <+: lostSecret ∧
    ((opened withSecret).run serving "webhook" before).HoldsMask "webhook" "secret" := by
  have hd : Catalog.find? "webhook" = some Catalog.webhook := rfl
  have hf : Catalog.webhook.fields[1] ∈ Catalog.webhook.fields := List.getElem_mem _
  have hiff := mask_stored_iff hd hf rfl (by decide +kernel) serving lostSecret_heeds
  let desk := (opened withSecret).run serving "webhook" (lostSecret.take 4)
  let sub : Submission := ⟨[("url", .text "https://hooks.example.com/in"), ("secret", .text mask)],
    [("url", .text "https://hooks.example.com/in")]⟩
  obtain ⟨s', hwritten⟩ : ∃ s', sub.write "webhook" ⟨3, .first⟩ desk.service =
      .ok sub.incoming s' := ok_of_run' (by decide +kernel)
  refine hiff.1.mpr ⟨lostSecret.take 4, 0, ⟨3, .first⟩, List.prefix_rfl, sub, sub.incoming, s', ?_,
    rfl, rfl, hwritten⟩
  decide +kernel

/-- So a mask may become the password, though every operator keeps to what it
was shown. -/
theorem mask_not_always_kept_out :
    ¬ ∀ (type : String) (d : ChannelDefinition) (c : Context) (s : Service)
      (actions : List (Action Bool)), Catalog.find? type = some d → c.isServing = true →
      (∀ f ∈ d.fields, f.kind = .password →
        (s.storedFields type).get? f.key ≠ some (.text mask) ∧
          (opened s).HeedsAll c type f.key actions) →
      ∀ f ∈ d.fields, f.kind = .password →
        ¬((opened s).run c type actions).HoldsMask type f.key := by
  intro h
  refine h "webhook" Catalog.webhook serving withSecret lostSecret rfl rfl (fun f hf hkind => ?_)
    Catalog.webhook.fields[1] (List.getElem_mem _) rfl (by decide +kernel)
  -- the secret is the only password of a webhook
  rcases List.mem_pair.mp hf with rfl | rfl
  · cases hkind
  · exact ⟨by decide +kernel, lostSecret_heeds⟩

end Desk

end AlertDelivery.Api
