import AlertDelivery.Proofs.Catalog.Required
import AlertDelivery.Service.Channels

/-!
# Configurations that differ in passwords only

Two configurations are alike if they hold the same except for the texts of
passwords. A check never looks into a password: it asks at most whether one
is set. So configurations that are alike are refused with the same fault, or
both are accepted and what comes out is alike again.
-/

namespace AlertDelivery

/-- What two configurations hold under a key: the same, or two texts if it is
the key of a password. -/
inductive Veiled (secret : Bool) : Option Value → Option Value → Prop
  | same (o : Option Value) : Veiled secret o o
  | texts {x y : String} (hsecret : secret = true) (hx : x ≠ "") (hy : y ≠ "") :
    Veiled secret (some (.text x)) (some (.text y))

namespace Veiled

variable {secret : Bool} {o o' : Option Value}

theorem isUnset (h : Veiled secret o o') :
    (o.getD .null).isUnset = (o'.getD .null).isUnset := by
  cases h with
  | same => rfl
  | texts _ hx hy =>
    rw [Option.getD_some, Option.getD_some, Value.isUnset_text hx, Value.isUnset_text hy]

theorem eq_of_open (h : Veiled secret o o') (hopen : secret = false) : o = o' := by
  cases h with
  | same => rfl
  | texts hsecret => cases hopen.symm.trans hsecret

end Veiled

/-- Two records that hold the same but for the texts of the passwords of a
form. -/
structure Fields.Alike (d : ChannelDefinition) (a b : Fields) : Prop where
  distinct : a.keys.Nodup
  distinct' : b.keys.Nodup
  veiled : ∀ key, Veiled (d.isSecret key) (a.get? key) (b.get? key)

namespace Fields.Alike

variable {d : ChannelDefinition} {a b : Fields} {key : String} {o o' : Option Value}

theorem isUnset (h : Alike d a b) (key : String) :
    (a.getD key).isUnset = (b.getD key).isUnset :=
  (h.veiled key).isUnset

theorem getD_eq (h : Alike d a b) (hopen : d.isSecret key = false) : a.getD key = b.getD key := by
  rw [getD, getD, (h.veiled key).eq_of_open hopen]

theorem write (h : Alike d a b) (ho : Veiled (d.isSecret key) o o') :
    Alike d (a.write key o) (b.write key o') where
  distinct := nodup_write h.distinct key o
  distinct' := nodup_write h.distinct' key o'
  veiled k := by
    rw [get?_write, get?_write]
    split
    next hk => exact hk ▸ ho
    · exact h.veiled k

end Fields.Alike

theorem Fields.keys_write {a b : Fields} {secret : Bool} {o o' : Option Value}
    (h : a.keys = b.keys) (ho : Veiled secret o o') (key : String) :
    (a.write key o).keys = (b.write key o').keys := by
  cases ho with
  | same => cases o <;> simp [Fields.write, keys_put, keys_erase, h]
  | texts => simp [Fields.write, keys_put, h]

def Fields.StayAlike (d : ChannelDefinition) (a b x y : Fields) : Prop :=
  x.Alike d y ∧ (a.keys = b.keys → x.keys = y.keys)

namespace ChannelDefinition

variable {type : String} {d : ChannelDefinition} {f : ConfigField} {fs : List ConfigField}
  {a b : Fields} {o o' : Option Value}

theorem settle_alike (hd : Catalog.find? type = some d) (hf : f ∈ d.fields)
    (h : Veiled (d.isSecret f.key) o o') :
    Agree (Veiled (d.isSecret f.key)) (d.settle f (o.getD .null)) (d.settle f (o'.getD .null)) := by
  cases h with
  | same => exact .refl .same _
  | @texts x y hsecret hx hy =>
    have hkind := Catalog.kind_of_secret hd hf hsecret
    have htext (s : String) (hs : s ≠ "") : d.settle f (.text s) = .ok (some (.text s)) := by
      rw [settle_password hkind (Catalog.password_bare hd f hf hkind), Value.isUnset_text hs]
      rfl
    rw [Option.getD_some, Option.getD_some, htext x hx, htext y hy]
    exact .ok (.texts hsecret hx hy)

theorem cleanStep_alike (hd : Catalog.find? type = some d) (hf : f ∈ d.fields)
    (h : a.Alike d b) :
    Agree (Fields.StayAlike d a b) (d.cleanStep a f) (d.cleanStep b f) := by
  rw [cleanStep_eq, cleanStep_eq]
  exact (settle_alike hd hf (h.veiled f.key)).map fun o o' ho =>
    ⟨h.write ho, fun hkeys => Fields.keys_write hkeys ho f.key⟩

theorem foldlM_alike (hd : Catalog.find? type = some d) (hfs : ∀ f ∈ fs, f ∈ d.fields)
    (h : a.Alike d b) :
    Agree (Fields.StayAlike d a b) (fs.foldlM d.cleanStep a) (fs.foldlM d.cleanStep b) := by
  induction fs generalizing a b with
  | nil => exact .ok ⟨h, id⟩
  | cons f rest ih =>
    obtain ⟨hf, hrest⟩ := List.forall_mem_cons.mp hfs
    rw [List.foldlM_cons, List.foldlM_cons]
    refine (cleanStep_alike hd hf h).bind fun a' b' ⟨h', hstep⟩ => ?_
    exact (ih hrest h').mono fun x y ⟨hxy, hkeys⟩ => ⟨hxy, hkeys ∘ hstep⟩

/-- A form finds the same fault with both of two records that are alike, or
cleans them alike. -/
theorem clean_alike (hd : Catalog.find? type = some d) (h : a.Alike d b) :
    Agree (Fields.StayAlike d a b) (d.clean a) (d.clean b) :=
  foldlM_alike hd (fun _ hf => hf) h

end ChannelDefinition

namespace Channel

variable {type : String} {d : ChannelDefinition} {a b : Fields}

theorem checkRequired_alike (h : a.Alike d b) (type : String) (keys : List String) :
    checkRequired type keys a = checkRequired type keys b := by
  simp only [checkRequired, h.isUnset]

theorem Kind.validateOwn_alike {k : Kind} (h : a.Alike k.definition b) :
    k.validateOwn a = k.validateOwn b := by
  cases k with
  | email => exact congrArg validatePort (h.getD_eq (by decide))
  | web k =>
    cases k with
    | webhook =>
      have hurl : a.getD "url" = b.getD "url" := h.getD_eq (by decide)
      simp only [validateOwn, hurl]
    | twilio =>
      have hnumber : a.getD "from_number" = b.getD "from_number" := h.getD_eq (by decide)
      simp only [validateOwn, hnumber]
    | _ => rfl

theorem validate_alike {c : Channel} (hd : Catalog.find? c.type = some d) (h : a.Alike d b) :
    c.validate a = c.validate b := by
  unfold validate
  cases hc : c.backend with
  | shipped k =>
    have htype : c.type = k.type := by rw [Channel.type, hc]; rfl
    rw [htype, k.find?_definition] at hd
    cases hd
    simp only [Kind.validate, checkRequired_alike h, Kind.validateOwn_alike h]
  | rehearsed => exact checkRequired_alike h _ _

end Channel

namespace Service

variable {type : String} {d : ChannelDefinition} {a b : Fields}

theorem checkedConfig_alike (hd : Catalog.find? type = some d) (h : a.Alike d b)
    (registry : Channel.Registry) :
    Agree (Fields.StayAlike d a b) (checkedConfig registry type a)
      (checkedConfig registry type b) := by
  simp only [checkedConfig, hd, Option.isNone_some, Bool.false_and, Bool.false_eq_true, if_false]
  refine (ChannelDefinition.clean_alike hd h).bind fun x y hxy => ?_
  cases hc : registry.find? type with
  | none => exact .ok hxy
  | some c =>
    have htype : c.type = type := by simpa using List.find?_some hc
    dsimp only
    rw [Channel.validate_alike (htype ▸ hd) hxy.1]
    exact .bind_same _ fun _ => .ok hxy

end Service

end AlertDelivery
