import AlertDelivery.Api
import AlertDelivery.Proofs.FieldLaws
import AlertDelivery.Proofs.OpLaws

/-!
# Answers to requests

A request whose path names a channel reaches the operation on it, and what
the operation responds is sent as it is, provided that an answer can carry
it: numbers that are finite, and no key that answers leave out.
-/

namespace AlertDelivery

namespace Text

-- ---------------------------------------------------------------------------
-- Paths
-- ---------------------------------------------------------------------------

theorem unescapedBytes_plain {cs : List Char} (h : '%' ∉ cs) :
    unescapedBytes cs = cs.flatMap String.utf8EncodeChar := by
  induction cs with
  | nil => rfl
  | cons c rest ih =>
    obtain ⟨hc, hrest⟩ := not_or.mp (mt List.mem_cons.mpr h)
    rw [unescapedBytes, ih hrest, List.flatMap_cons]
    rintro high low more rfl
    exact absurd rfl hc

theorem pathDecoded_plain {s : String} (h : '%' ∉ s.toList) : pathDecoded s = s := by
  have hbytes : (⟨(unescapedBytes s.toList).toArray⟩ : ByteArray) = s.toByteArray := by
    rw [unescapedBytes_plain h, ← String.utf8Encode_toList, List.utf8Encode]
    exact ByteArray.ext List.data_toByteArray.symm
  have hvalid : ofBytes? (unescapedBytes s.toList) = some s := by
    rw [ofBytes?, hbytes, String.fromUTF8?, dif_pos s.isValidUTF8]
    rfl
  rw [pathDecoded, hvalid, Option.getD_some]

theorem splitAt_of_not_mem {mark : Char} {cs : List Char} (h : mark ∉ cs) :
    splitAt mark cs = [cs] := by
  induction cs with
  | nil => rfl
  | cons c rest ih =>
    obtain ⟨hc, hrest⟩ := not_or.mp (mt List.mem_cons.mpr h)
    rw [splitAt, if_neg (Ne.symm hc), ih hrest]

theorem splitAt_ne_nil (mark : Char) (cs : List Char) : splitAt mark cs ≠ [] := by
  cases cs with
  | nil => exact List.cons_ne_nil _ _
  | cons c rest =>
    rw [splitAt]
    split
    · exact List.cons_ne_nil _ _
    · split <;> exact List.cons_ne_nil _ _

theorem splitAt_append (mark : Char) (a b : List Char) :
    splitAt mark (a ++ mark :: b) = splitAt mark a ++ splitAt mark b := by
  induction a with
  | nil => simp only [List.nil_append, splitAt, if_true, List.singleton_append]
  | cons c rest ih =>
    rw [List.cons_append, splitAt, splitAt, ih]
    split
    · rfl
    · obtain ⟨part, parts, hp⟩ := List.exists_cons_of_ne_nil (splitAt_ne_nil mark rest)
      simp only [hp, List.cons_append]

end Text

namespace Api

open Route (segments)
open Text (splitAt splitAt_append splitAt_of_not_mem pathDecoded pathDecoded_plain)

variable {path segment type : String}

def under (path segment : String) : String := path ++ "/" ++ segment

def channelPath (type : String) : String := under "/api/v1/notifications/channels" type

/-- A type that a path can name: in one segment, without escapes, and not
taken for a path of its own. -/
structure IsNameable (type : String) : Prop where
  plain : '%' ∉ type.toList
  whole : '/' ∉ type.toList
  filled : type ≠ ""
  free : type ≠ "definitions"

theorem catalog_nameable {d : ChannelDefinition} (h : Catalog.find? type = some d) :
    IsNameable type := by
  have hall : ∀ d ∈ Catalog.definitions, '%' ∉ d.type.toList ∧ '/' ∉ d.type.toList ∧
      d.type ≠ "" ∧ d.type ≠ "definitions" := by decide +kernel
  have hd : d.type = type := by simpa using List.find?_some h
  obtain ⟨hplain, hwhole, hfilled, hfree⟩ := hall d (List.mem_of_find?_eq_some h)
  exact hd ▸ ⟨hplain, hwhole, hfilled, hfree⟩

theorem under_plain (hp : '%' ∉ path.toList) (hs : '%' ∉ segment.toList) :
    '%' ∉ (under path segment).toList := by
  simp [under, hp, hs]

theorem channelPath_plain (h : IsNameable type) : '%' ∉ (channelPath type).toList :=
  under_plain (by decide +kernel) h.plain

theorem segments_under (h : '/' ∉ segment.toList) :
    segments (under path segment) = segments path ++ [segment] := by
  have hslash : "/".toList = ['/'] := rfl
  have hlist : (under path segment).toList = path.toList ++ '/' :: segment.toList := by
    simp only [under, String.toList_append, hslash, List.append_assoc, List.singleton_append]
  simp only [segments, hlist, splitAt_append, splitAt_of_not_mem h, List.map_append,
    List.map_singleton, String.ofList_toList]

theorem segments_channelPath (h : IsNameable type) :
    segments (channelPath type) = ["", "api", "v1", "notifications", "channels", type] := by
  have hparts : segments "/api/v1/notifications/channels" =
      ["", "api", "v1", "notifications", "channels"] := by decide +kernel
  rewrite [channelPath, segments_under h.whole, hparts]
  rfl

theorem ofPath_notifications (rest : List String) (hrest : "" ∉ rest)
    (h : segments path = "" :: "api" :: "v1" :: "notifications" :: rest) :
    Route.ofPath path = Route.ofSegments rest := by
  have hfilled : rest.contains "" = false := by simpa using hrest
  rw [Route.ofPath, h]
  split <;> simp_all

theorem find_channel (h : IsNameable type) :
    Route.find "GET" (pathDecoded (channelPath type)) = .ok (.channel type) := by
  have hpath : Route.ofPath (channelPath type) = [("GET", .channel type)] := by
    rewrite [ofPath_notifications ["channels", type] (by simp [Ne.symm h.filled])
      (segments_channelPath h)]
    simp [Route.ofSegments, h.free]
  rw [pathDecoded_plain (channelPath_plain h)]
  simp [Route.find, hpath]

theorem find_configure (h : IsNameable type) :
    Route.find "PUT" (pathDecoded (under (channelPath type) "config")) =
      .ok (.configure type) := by
  have hsegments : segments (under (channelPath type) "config") =
      ["", "api", "v1", "notifications", "channels", type, "config"] := by
    rewrite [segments_under (by decide), segments_channelPath h]
    rfl
  have hpath : Route.ofPath (under (channelPath type) "config") = [("PUT", .configure type)] := by
    rewrite [ofPath_notifications ["channels", type, "config"] (by simp [Ne.symm h.filled])
      hsegments]
    simp [Route.ofSegments]
  rw [pathDecoded_plain (under_plain (channelPath_plain h) (by decide))]
  simp [Route.find, hpath]

-- ---------------------------------------------------------------------------
-- What answers carry
-- ---------------------------------------------------------------------------

mutual
/-- Whether an answer carries a value unchanged: every number in it is
finite and no key in it is hidden. -/
def isCarried : Value → Bool
  | .real x => x.toRat?.isSome
  | .list items => areCarried items
  | .record fields => areFieldsCarried fields
  | _ => true
def areCarried : List Value → Bool
  | [] => true
  | v :: rest => isCarried v && areCarried rest
def areFieldsCarried : List (String × Value) → Bool
  | [] => true
  | (k, v) :: rest => !isHidden k && isCarried v && areFieldsCarried rest
end

mutual
theorem carried_shown : ∀ v, isCarried v = true → shown v = v ∧ isWritable v = true
  | .real x, h => ⟨rfl, h⟩
  | .list items, h => by
    obtain ⟨hs, hw⟩ := carried_shownItems items h
    exact ⟨by rw [shown, hs], hw⟩
  | .record fields, h => by
    obtain ⟨hs, hw⟩ := carried_shownFields fields h
    exact ⟨by rw [shown, hs], hw⟩
  | .null, _ | .bool _, _ | .int _, _ | .text _, _ => ⟨rfl, rfl⟩
theorem carried_shownItems :
    ∀ items, areCarried items = true → shownItems items = items ∧ areWritable items = true
  | [], _ => ⟨rfl, rfl⟩
  | v :: rest, h => by
    obtain ⟨hv, hrest⟩ := Bool.and_eq_true_iff.mp h
    obtain ⟨hs, hw⟩ := carried_shown v hv
    obtain ⟨hss, hws⟩ := carried_shownItems rest hrest
    exact ⟨by rw [shownItems, hs, hss], by rw [areWritable, hw, hws]; rfl⟩
theorem carried_shownFields :
    ∀ fields, areFieldsCarried fields = true →
      shownFields fields = fields ∧ areFieldsWritable fields = true
  | [], _ => ⟨rfl, rfl⟩
  | (k, v) :: rest, h => by
    obtain ⟨hkv, hrest⟩ := Bool.and_eq_true_iff.mp h
    obtain ⟨hk, hv⟩ := Bool.and_eq_true_iff.mp hkv
    obtain ⟨hs, hw⟩ := carried_shown v hv
    obtain ⟨hss, hws⟩ := carried_shownFields rest hrest
    have hopen : isHidden k = false := by simpa using hk
    exact ⟨by rw [shownFields, hopen, hs, hss]; rfl, by rw [areFieldsWritable, hw, hws]; rfl⟩
end

theorem areCarried_iff {items : List Value} :
    areCarried items = true ↔ ∀ v ∈ items, isCarried v = true := by
  induction items with
  | nil => simp [areCarried]
  | cons v rest ih => simp [areCarried, ih]

theorem areFieldsCarried_iff {fields : Fields} : areFieldsCarried fields = true ↔
    ∀ p ∈ fields, isHidden p.1 = false ∧ isCarried p.2 = true := by
  induction fields with
  | nil => simp [areFieldsCarried]
  | cons p rest ih => simp [areFieldsCarried, ih, and_assoc]

theorem shownFields_eq (fields : Fields) :
    shownFields fields = (fields.filter (!isHidden ·.1)).map fun p => (p.1, shown p.2) := by
  induction fields with
  | nil => rfl
  | cons p rest ih =>
    obtain ⟨k, v⟩ := p
    cases hk : isHidden k <;> simp [shownFields, hk, ih]

theorem get?_shownFields (fields : Fields) (key : String) :
    Fields.get? (shownFields fields) key =
      if isHidden key then none else (fields.get? key).map shown := by
  induction fields with
  | nil => split <;> rfl
  | cons p rest ih =>
    obtain ⟨k, v⟩ := p
    rw [shownFields, Fields.get?_cons]
    split
    next hk =>
      rw [ih]
      split
      · rfl
      next hkey =>
        have hne : k ≠ key := fun heq => hkey (heq ▸ hk)
        rw [if_neg hne]
    next hk =>
      rw [Fields.get?_cons, ih]
      split
      next heq => rw [if_neg (heq ▸ hk), Option.map_some]
      · rfl

theorem Response.sent_of_carried {response : Response} (h : isCarried response.body = true)
    (c : Context) (r : Request) : response.sent c r = response := by
  obtain ⟨hs, hw⟩ := carried_shown response.body h
  simp only [sent, hs, hw, if_true]

-- ---------------------------------------------------------------------------
-- From an operation to its answer
-- ---------------------------------------------------------------------------

def replied (c : Context) (r : Request) : Except Fault Response → Response
  | .ok response => response.sent c r
  | .error fault => refuse c r fault

theorem respond_ok {x : Service.Op Response} (h : x s = .ok response s') (c : Context)
    (r : Request) : respond c r x s = .ok (replied c r (.ok response)) s' := by
  rw [respond, run_bind_ok (Service.attempt_ok h)]
  rfl

theorem respond_error {x : Service.Op Response} (h : x s = .error fault s') (c : Context)
    (r : Request) : respond c r x s = .ok (replied c r (.error fault)) s' := by
  rw [respond, run_bind_ok (Service.attempt_error h)]
  rfl

theorem respond_lift {x : Service.Op Response} {e : Except Fault Response}
    (h : x s = Service.lift e s) (c : Context) (r : Request) :
    respond c r x s = .ok (replied c r e) s := by
  cases e with
  | error fault => exact respond_error (h.trans (Service.lift_error fault s)) c r
  | ok response => exact respond_ok (h.trans (Service.lift_ok response s)) c r

theorem after_respond (c : Context) (r : Request) (x : Service.Op Response) (s : Service) :
    after ((respond c r x).map Next.done) s = after x s := by
  cases h : x s with
  | ok response s' => rw [after_ok h, after, EStateM.map, respond_ok h]
  | error fault s' => rw [after_error h, after, EStateM.map, respond_error h]

variable {c : Context} {r : Request} {route : Route} {body : Option Value} {t : Clock.Reading}

/-- A request is answered by the operation of its route, or refused while the
service does not run that the operation needs. -/
theorem answer_route (hroute : Route.find r.method (pathDecoded r.path) = .ok route)
    (hbody : (if route.readsBody then readContent r.content else .ok none) = .ok body)
    (htest : ∀ type, route ≠ .test type) (s : Service) :
    answer c r t s = if route.needsService && !c.isServing
      then .ok (.done (refuse c r notServing)) s
      else (respond c r (run c r body t route)).map .done s := by
  rw [answer, hroute]
  dsimp only
  rw [hbody]
  dsimp only
  split
  · rfl
  · cases route with
    | test type => exact absurd rfl (htest type)
    | _ => rfl

end Api

end AlertDelivery
