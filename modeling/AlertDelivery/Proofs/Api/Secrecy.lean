import AlertDelivery.Proofs.Api.ChannelRequests
import AlertDelivery.Proofs.Catalog.Likeness

/-!
# Secrets are not told

What is stored or submitted as a password has no part in any answer: a
channel with one secret is shown as with another one, and a submission with
one secret is refused or accepted, and answered, as with another one.
-/

namespace AlertDelivery

def Channel.Row.holding (config : Fields) (r : Row) : Row := { r with config := some config }

namespace Service

def storing (s : Service) (type : String) (config : Fields) : Service :=
  { s with store := { s.store with
      channels := s.store.channels.update type (Channel.Row.holding config) } }

theorem row_storing (s : Service) (operation type : String) (config : Fields) :
    (s.storing type config).row operation type =
      (s.row operation type).map (Channel.Row.holding config) := by
  have hfind := Channel.Table.find?_update (f := Channel.Row.holding config) (fun _ => rfl)
    s.store.channels type type
  simp only [if_true] at hfind
  have hup : (s.storing type config).store.isUp = s.store.isUp := rfl
  unfold row Channel.Table.get
  rw [hup, storing, hfind]
  cases s.store.isUp with
  | false => rfl
  | true => cases s.store.channels.find? type <;> rfl

end Service

namespace Api

variable {s : Service} {type key : String} {d : ChannelDefinition} {a b stored front : Fields}
  {kept : Prop} {c : Context} {t : Clock.Reading} {p q : Response} {r r' : Request}

-- ---------------------------------------------------------------------------
-- Responses that say the same
-- ---------------------------------------------------------------------------

/-- Responses that are equal or, unless the order is kept, show the fields of
a configuration in another order. -/
inductive Response.Same (kept : Prop) : Response → Response → Prop
  | refl (p : Response) : Same kept p p
  | reordered {front a b : Fields} (hperm : a.Perm b) (hkept : ¬kept) :
    Same kept { body := .record (front ++ [("config", .record a)]) }
      { body := .record (front ++ [("config", .record b)]) }

theorem Response.Same.eq (h : p.Same kept q) (hkept : kept) : p = q := by
  cases h with
  | refl => rfl
  | reordered _ hno => exact absurd hkept hno

theorem Response.same_of_config (front : Fields) (hperm : a.Perm b) (heq : kept → a = b) :
    Same kept { body := .record (front ++ [("config", .record a)]) }
      { body := .record (front ++ [("config", .record b)]) } := by
  by_cases hkept : kept
  · rw [heq hkept]
    exact .refl _
  · exact .reordered hperm hkept

theorem areFieldsWritable_iff {fields : Fields} :
    areFieldsWritable fields = true ↔ ∀ p ∈ fields, isWritable p.2 = true := by
  induction fields with
  | nil => simp [areFieldsWritable]
  | cons p rest ih => simp [areFieldsWritable, ih]

theorem shownFields_perm (h : a.Perm b) : (shownFields a).Perm (shownFields b) := by
  rw [shownFields_eq, shownFields_eq]
  exact (h.filter _).map _

theorem shownFields_append (front a : Fields) :
    shownFields (front ++ a) = shownFields front ++ shownFields a := by
  rw [shownFields_eq, shownFields_eq, shownFields_eq, List.filter_append, List.map_append]

theorem refuse_congr (hpath : r.path = r'.path) (hmethod : r.method = r'.method) (c : Context)
    (fault : Fault) : refuse c r fault = refuse c r' fault := by
  simp only [refuse, errorBody, hpath, hmethod]

theorem sent_same (h : p.Same kept q) (hpath : r.path = r'.path) (hmethod : r.method = r'.method)
    (c : Context) : (p.sent c r).Same kept (q.sent c r') := by
  cases h with
  | refl p =>
    have hsent : p.sent c r = p.sent c r' := by
      simp only [Response.sent, refuse_congr hpath hmethod]
    rw [hsent]
    exact .refl _
  | @reordered front a b hperm hkept =>
    have hshown := shownFields_perm hperm
    have hbody (m : Fields) : shown (.record (front ++ [("config", .record m)])) =
        .record (shownFields front ++ [("config", .record (shownFields m))]) := by
      rw [shown, shownFields_append]
      rfl
    have hwritable : isWritable (shown (.record (front ++ [("config", .record a)]))) =
        isWritable (shown (.record (front ++ [("config", .record b)]))) := by
      rw [hbody, hbody, Bool.eq_iff_iff]
      simp only [isWritable, areFieldsWritable_iff, List.forall_mem_append,
        List.forall_mem_singleton, hshown.mem_iff]
    simp only [Response.sent]
    rw [← hwritable]
    split
    · rw [hbody, hbody]
      exact .reordered hshown hkept
    · rw [refuse_congr hpath hmethod]
      exact .refl _

theorem replied_same {e e' : Except Fault Response} (h : Agree (Response.Same kept) e e')
    (hpath : r.path = r'.path) (hmethod : r.method = r'.method) (c : Context) :
    (replied c r e).Same kept (replied c r' e') := by
  cases h with
  | error fault =>
    rw [replied, replied, refuse_congr hpath hmethod]
    exact .refl _
  | ok h => exact sent_same h hpath hmethod c

-- ---------------------------------------------------------------------------
-- Masks
-- ---------------------------------------------------------------------------

theorem veiled_masked {secret : Bool} {o o' : Option Value} (h : Veiled secret o o') :
    (if secret = true ∧ (o.getD .null).truthy = true then some (.text mask) else o) =
      if secret = true ∧ (o'.getD .null).truthy = true then some (.text mask) else o' := by
  cases h with
  | same => rfl
  | texts hsecret hx hy => simp [hsecret, Value.truthy, hx, hy]

theorem get?_masked_alike (hd : Catalog.find? type = some d) (h : a.Alike d b) (key : String) :
    (masked type a).get? key = (masked type b).get? key := by
  rw [get?_masked hd, get?_masked hd]
  exact veiled_masked (h.veiled key)

theorem masked_same (hd : Catalog.find? type = some d) (h : a.Alike d b)
    (hkept : kept → a.keys = b.keys) (front : Fields) :
    Response.Same kept
      { body := .record (front ++ [("config", .record (masked type a))]) }
      { body := .record (front ++ [("config", .record (masked type b))]) } := by
  have hdistinct : (masked type a).keys.Nodup := by rw [keys_masked]; exact h.distinct
  have hdistinct' : (masked type b).keys.Nodup := by rw [keys_masked]; exact h.distinct'
  refine Response.same_of_config front
    (Fields.perm_of_get? hdistinct hdistinct' (get?_masked_alike hd h)) fun hk => ?_
  exact Fields.eq_of_get? hdistinct (by rw [keys_masked, keys_masked, hkept hk])
    (get?_masked_alike hd h)

theorem veiled_unmasked {secret : Bool} {o o' : Option Value} (h : Veiled secret o o')
    (ho : secret = true → o ≠ some (.text mask)) (ho' : secret = true → o' ≠ some (.text mask))
    (v : Value → Value) :
    Veiled secret (o.map fun w => if w = .text mask then v w else w)
      (o'.map fun w => if w = .text mask then v w else w) := by
  cases h with
  | same => exact .same _
  | @texts x y hsecret hx hy =>
    have hne : x ≠ mask := by simpa using ho hsecret
    have hne' : y ≠ mask := by simpa using ho' hsecret
    simpa [hne, hne'] using Veiled.texts hsecret hx hy

def GivesNoMask (d : ChannelDefinition) (incoming : Fields) : Prop :=
  ∀ key, d.isSecret key = true → incoming.get? key ≠ some (.text mask)

/-- Submissions that are alike, with no mask for a password, stand for
configurations that are alike. -/
theorem unmasked_alike (h : a.Alike d b)
    (ha : GivesNoMask d a) (hb : GivesNoMask d b) (stored : Fields) :
    (unmasked stored a).Alike d (unmasked stored b) where
  distinct := by rw [keys_unmasked]; exact h.distinct
  distinct' := by rw [keys_unmasked]; exact h.distinct'
  veiled key := by
    rw [get?_unmasked, get?_unmasked]
    exact veiled_unmasked (h.veiled key) (ha key) (hb key) fun w => (stored.get? key).getD w

-- ---------------------------------------------------------------------------
-- Two runs
-- ---------------------------------------------------------------------------

theorem view_alike (hd : Catalog.find? type = some d) (h : a.Alike d b) (s : Service) :
    Agree (Response.Same (a.keys = b.keys))
      (view (s.storing type a) type) (view (s.storing type b) type) := by
  have hview (config : Fields) : view (s.storing type config) type = (do
      let r ← s.row "channel_stats" type
      let health ← r.health (s.registry.contains type)
      let _ ← s.row "get_config" type
      pure { body := .record (channelFields type health config) }) := by
    unfold view
    simp only [Service.row_storing]
    cases s.row "channel_stats" type with
    | error fault => rfl
    | ok r => cases s.row "get_config" type <;> rfl
  have hfields (health : Channel.Health) (config : Fields) : channelFields type health config =
      (health.describe ++ [("definition", d.describe)]) ++
        [("config", .record (masked type config))] := by
    simp [channelFields, hd]
  rw [hview, hview]
  refine .bind_same _ fun r => .bind_same _ fun health => .bind_same _ fun _ => ?_
  rw [hfields, hfields]
  exact .ok (masked_same hd h id _)

/-- Submissions that are alike are refused with the same fault, or both
accepted. -/
theorem configure_alike (hd : Catalog.find? type = some d) (h : a.Alike d b)
    (ha : GivesNoMask d a) (hb : GivesNoMask d b)
    (t : Clock.Reading) (s : Service) :
    (∃ fault, configure type a t s = .error fault s ∧ configure type b t s = .error fault s) ∨
      ∃ p q sa sb, configure type a t s = .ok p sa ∧ configure type b t s = .ok q sb ∧
        p.Same (a.keys = b.keys) q := by
  cases hr : s.row "get_config" type with
  | error fault => exact .inl ⟨fault, configure_fault hr a t, configure_fault hr b t⟩
  | ok r =>
    have hrow := Service.row_ok_iff.mp hr
    have hchecked := Service.checkedConfig_alike hd (unmasked_alike h ha hb r.fields) s.registry
    rcases hchecked.outcome with ⟨fault, hx, hy⟩ | ⟨x, y, hx, hy, hxy, hkeys⟩
    · exact .inl ⟨fault, configure_refused hrow hx t, configure_refused hrow hy t⟩
    · rw [keys_unmasked, keys_unmasked] at hkeys
      exact .inr ⟨_, _, _, _, configure_ok hrow hx t, configure_ok hrow hy t,
        masked_same hd hxy hkeys [("channel_type", .text type)]⟩

theorem writeConfig_alike (hd : Catalog.find? type = some d) (h : a.Alike d b)
    (ha : GivesNoMask d a) (hb : GivesNoMask d b)
    (c : Context) (t : Clock.Reading) (s : Service) :
    ∃ p q sa sb, answer c (writeConfig type a) t s = .ok (.done p) sa ∧
      answer c (writeConfig type b) t s = .ok (.done q) sb ∧ p.Same (a.keys = b.keys) q := by
  rw [answer_writeConfig hd, answer_writeConfig hd]
  cases c.isServing with
  | false =>
    have hsame : refuse c (writeConfig type a) notServing =
        refuse c (writeConfig type b) notServing := refuse_congr rfl rfl c notServing
    rw [hsame]
    exact ⟨_, _, _, _, rfl, rfl, .refl _⟩
  | true =>
    rw [if_pos rfl, if_pos rfl, EStateM.map, EStateM.map]
    rcases configure_alike hd h ha hb t s with ⟨fault, hx, hy⟩ | ⟨p, q, sa, sb, hx, hy, hsame⟩
    · rw [respond_error hx, respond_error hy]
      exact ⟨_, _, _, _, rfl, rfl, replied_same (.error fault) rfl rfl c⟩
    · rw [respond_ok hx, respond_ok hy]
      exact ⟨_, _, _, _, rfl, rfl, replied_same (.ok hsame) rfl rfl c⟩

/-- A channel is shown in the same way whatever its password, and submissions
that differ in the password only meet the same fault, or are both accepted,
and get the same answer. The fields of the configuration that is shown are in
the order of the keys that are stored or submitted. -/
theorem secrets_not_told (hd : Catalog.find? type = some d) (h : a.Alike d b) (c : Context)
    (s : Service) (t : Clock.Reading) :
    (∃ p q, answer c (readChannel type) t (s.storing type a) =
        .ok (.done p) (s.storing type a) ∧
      answer c (readChannel type) t (s.storing type b) = .ok (.done q) (s.storing type b) ∧
      p.Same (a.keys = b.keys) q) ∧
    (GivesNoMask d a → GivesNoMask d b →
      ((∃ fault, configure type a t s = .error fault s ∧ configure type b t s = .error fault s) ∨
        ∃ p q sa sb, configure type a t s = .ok p sa ∧ configure type b t s = .ok q sb) ∧
      ∃ p q sa sb, answer c (writeConfig type a) t s = .ok (.done p) sa ∧
        answer c (writeConfig type b) t s = .ok (.done q) sb ∧ p.Same (a.keys = b.keys) q) := by
  refine ⟨⟨_, _, answer_readChannel hd c t _, answer_readChannel hd c t _, ?_⟩, fun ha hb => ?_⟩
  · refine replied_same ?_ rfl rfl c
    split
    · exact view_alike hd h s
    · exact .error notServing
  · refine ⟨?_, writeConfig_alike hd h ha hb c t s⟩
    exact (configure_alike hd h ha hb t s).imp_right fun ⟨p, q, sa, sb, hx, hy, _⟩ =>
      ⟨p, q, sa, sb, hx, hy⟩

def mailWith (password : String) : Fields := [
  ("host", .text "mail.example.com"), ("port", .text "25"), ("password", .text password),
  ("from_address", .text "alerts@example.com")]

theorem mailWith_alike {x y : String} (hx : x ≠ "") (hy : y ≠ "") :
    (mailWith x).Alike Catalog.email (mailWith y) where
  distinct := by simp [Fields.keys, mailWith]
  distinct' := by simp [Fields.keys, mailWith]
  veiled key := by
    by_cases hkey : key = "password"
    · subst hkey
      exact .texts (by decide) hx hy
    · have hsame : (mailWith x).get? key = (mailWith y).get? key := by
        simp [mailWith, Fields.get?_cons, Ne.symm hkey]
      rw [hsame]
      exact .same _

theorem mailWith_givesNoMask {x : String} (hx : x ≠ mask) :
    GivesNoMask Catalog.email (mailWith x) := by
  intro key hkey
  obtain ⟨f, hf, rfl, hkind⟩ := ChannelDefinition.isSecret_iff.mp hkey
  have hpassword : ∀ f ∈ Catalog.email.fields, f.kind = .password → f.key = "password" := by decide
  rw [hpassword f hf hkind]
  simpa [mailWith, Fields.get?_cons] using hx

theorem secrets_not_told_mail :
    (∃ p sa sb, answer serving (readChannel "email") ⟨0, .first⟩
        (withMail.storing "email" (mailWith "secret")) = .ok (.done p) sa ∧
      answer serving (readChannel "email") ⟨0, .first⟩
        (withMail.storing "email" (mailWith "hunter2")) = .ok (.done p) sb) ∧
    ∃ p sa sb, answer serving (writeConfig "email" (mailWith "secret")) ⟨0, .first⟩ withMail =
        .ok (.done p) sa ∧
      answer serving (writeConfig "email" (mailWith "hunter2")) ⟨0, .first⟩ withMail =
        .ok (.done p) sb := by
  have hd : Catalog.find? "email" = some Catalog.email := rfl
  have halike := mailWith_alike (x := "secret") (y := "hunter2") (by decide) (by decide)
  obtain ⟨⟨p, q, hread, hread', hsame⟩, hsubmit⟩ :=
    secrets_not_told hd halike serving withMail ⟨0, .first⟩
  obtain ⟨-, p', q', sa, sb, hwrite, hwrite', hsame'⟩ :=
    hsubmit (mailWith_givesNoMask (by decide)) (mailWith_givesNoMask (by decide))
  cases hsame.eq rfl
  cases hsame'.eq rfl
  exact ⟨⟨p, _, _, hread, hread'⟩, p', sa, sb, hwrite, hwrite'⟩

end Api

end AlertDelivery
