import CacheWatch.Event.Payload

/-! What a body says, field by field.
A field depends on the member under its own key and on nothing else, and no body is unreadable.
-/
namespace CacheWatch

open Json (Members)

namespace Field

variable {α : Type}

theorem read?_lenient (convert : Json → Option α) (default : α) (key : String)
    (members : Members) :
    read? (lenient convert default) default key members =
      some (((members.find? key).bind convert).getD default) := by
  unfold read?
  cases members.find? key with
  | none => rfl
  | some value => rfl

theorem read?_text (key : String) (members : Members) :
    read? (some ∘ textOf) "" key members = some (text key members) := by
  unfold read? text
  cases members.find? key with
  | none => rfl
  | some value => rfl

end Field

theorem Json.Members.find?_without (keys : List String) (members : Members) (key : String) :
    (members.without keys).find? key = if key ∈ keys then none else members.find? key := by
  induction members with
  | nil => exact (ite_self none).symm
  | cons member rest ih =>
    obtain ⟨k, v⟩ := member
    unfold without at ih ⊢
    by_cases named : k ∈ keys
    · rw [List.filter_cons_of_neg (by simpa using named), ih, find?]
      by_cases same : k = key
      · rw [if_pos (same ▸ named), if_pos (same ▸ named)]
      · rw [if_neg same]
    · rw [List.filter_cons_of_pos (by simpa using named), find?, find?, ih]
      by_cases same : k = key
      · rw [if_pos same, if_pos same, if_neg (same ▸ named)]
      · rw [if_neg same, if_neg same]

namespace Payload

inductive FieldValue where
  | id (id : Option Uuid)
  | text (text : String)
  | history (history : List NameChange)
  | properties (properties : List (String × ProfileProperty))
  | textures (textures : Option ProfileTextures)
  | hashes (hashes : List String)

def fields : Payload → List (String × FieldValue)
  | profileId id name firstSeenAt lastSeenAt validUntil _ =>
    [("Id", .id id), ("Name", .text name), ("FirstSeenAt", .text firstSeenAt),
      ("LastSeenAt", .text lastSeenAt), ("ValidUntil", .text validUntil)]
  | nameHistory history _ => [("History", .history history)]
  | profile id name properties textures _ =>
    [("Id", .id id), ("Name", .text name), ("Properties", .properties properties),
      ("Textures", .textures textures)]
  | blacklist hashes _ => [("Hashes", .hashes hashes)]

def field? (payload : Payload) (key : String) : Option FieldValue := payload.fields.lookup key

/-- What the fields of a kind hold, each given the member under its own key. -/
def readers : EventKind → List (String × (Option Json → FieldValue))
  | .profileId =>
    [("Id", id), ("Name", text), ("FirstSeenAt", text), ("LastSeenAt", text), ("ValidUntil", text)]
  | .nameHistory => [("History", history)]
  | .profile => [("Id", id), ("Name", text), ("Properties", properties), ("Textures", textures)]
  | .blacklist => [("Hashes", hashes)]
where
  id value := .id ((value.bind (Field.nullable idOf?)).getD none)
  text value := .text ((value.map Field.textOf).getD "")
  history value := .history ((value.bind (Field.list? NameChange.ofJson?)).getD [])
  properties value := .properties ((value.bind (Field.map? ProfileProperty.ofJson?)).getD [])
  textures value := .textures ((value.bind (Field.nullable ProfileTextures.ofJson?)).getD none)
  hashes value := .hashes ((value.bind (Field.list? Json.string?)).getD [])

theorem ofMembers?_reads (kind : EventKind) (ms : Members) :
    ∃ p, ofMembers? kind ms = some p ∧ p.kind = kind ∧ p.extra = ms.without (keys kind) ∧
      p.fields = (readers kind).map fun (key, read) => (key, read (ms.find? key)) := by
  cases kind with
  | profileId =>
    simp only [ofMembers?, Field.read?_lenient, Field.read?_text, Option.bind_eq_bind,
      Option.bind_some]
    exact ⟨_, rfl, rfl, rfl, rfl⟩
  | nameHistory =>
    simp only [ofMembers?, Field.read?_lenient, Option.bind_eq_bind, Option.bind_some]
    exact ⟨_, rfl, rfl, rfl, rfl⟩
  | profile =>
    simp only [ofMembers?, Field.read?_lenient, Field.read?_text, Option.bind_eq_bind,
      Option.bind_some]
    exact ⟨_, rfl, rfl, rfl, rfl⟩
  | blacklist =>
    simp only [ofMembers?, Field.read?_lenient, Option.bind_eq_bind, Option.bind_some]
    exact ⟨_, rfl, rfl, rfl, rfl⟩

variable (kind : EventKind) (body : Json)

theorem ofBody_read : ofMembers? kind (bodyMembers body) = some (ofBody kind body) := by
  obtain ⟨p, read, _⟩ := ofMembers?_reads kind (bodyMembers body)
  rw [ofBody, read, Option.getD_some]

theorem ofBody_reads :
    (ofBody kind body).kind = kind ∧
      (ofBody kind body).extra = (bodyMembers body).without (keys kind) ∧
      (ofBody kind body).fields =
        (readers kind).map fun (key, read) => (key, read ((bodyMembers body).find? key)) := by
  obtain ⟨p, read, reads⟩ := ofMembers?_reads kind (bodyMembers body)
  cases Option.some.inj ((ofBody_read kind body).symm.trans read)
  exact reads

theorem ofBody_kind : (ofBody kind body).kind = kind := (ofBody_reads kind body).1

theorem ofBody_extra : (ofBody kind body).extra = (bodyMembers body).without (keys kind) :=
  (ofBody_reads kind body).2.1

theorem ofBody_fields :
    (ofBody kind body).fields =
      (readers kind).map fun (key, read) => (key, read ((bodyMembers body).find? key)) :=
  (ofBody_reads kind body).2.2

theorem readers_keys : (readers kind).map Prod.fst = keys kind := by
  cases kind <;> rfl

theorem readers_none :
    (readers kind).map (fun (key, read) => (key, read none)) = (blank kind).fields := by
  cases kind <;> rfl

theorem lookup_read {members others : Members} {key : String}
    (agree : others.find? key = members.find? key)
    (entries : List (String × (Option Json → FieldValue))) :
    (entries.map fun (k, read) => (k, read (others.find? k))).lookup key =
      (entries.map fun (k, read) => (k, read (members.find? k))).lookup key := by
  induction entries with
  | nil => rfl
  | cons entry rest ih =>
    obtain ⟨k, read⟩ := entry
    by_cases same : key = k
    · subst same
      simp only [List.map_cons, List.lookup_cons, beq_self_eq_true, agree]
    · simpa only [List.map_cons, List.lookup_cons, beq_eq_false_iff_ne.mpr same] using ih

theorem field?_congr {kind : EventKind} {body other : Json} {key : String}
    (agree : (bodyMembers other).find? key = (bodyMembers body).find? key) :
    (ofBody kind other).field? key = (ofBody kind body).field? key := by
  rw [field?, field?, ofBody_fields, ofBody_fields, lookup_read agree]

theorem not_mem_keys_opaqueKey : opaqueKey ∉ keys kind := by
  cases kind <;> decide

theorem bodyMembers_whole {body : Json} (occupied : body ≠ .null)
    (other : ∀ members, body ≠ .object members) : bodyMembers body = [(opaqueKey, body)] := by
  cases body with
  | null => contradiction
  | object members => exact absurd rfl (other members)
  | bool _ => rfl
  | integer _ => rfl
  | float _ => rfl
  | string _ => rfl
  | array _ => rfl

theorem ofBody_whole {body : Json} (occupied : body ≠ .null)
    (other : ∀ members, body ≠ .object members) :
    (ofBody kind body).fields = (blank kind).fields ∧
      (ofBody kind body).extra = [(opaqueKey, body)] := by
  have whole := bodyMembers_whole occupied other
  have absent := not_mem_keys_opaqueKey kind
  constructor
  · rw [ofBody_fields, whole, ← readers_none]
    refine List.map_congr_left fun (key, read) member => ?_
    have named : key ∈ keys kind := by
      rw [← readers_keys]
      exact List.mem_map_of_mem member
    have different : opaqueKey ≠ key := by
      rintro rfl
      exact absent named
    simp only [Members.find?, different, if_false]
  · rw [ofBody_extra, whole, Members.without]
    exact List.filter_cons_of_pos (by simpa using absent)

/-- Fields are read independently of each other, and members that no field is read from are kept.
A body that is no object is kept whole. -/
theorem body_read_by_field (kind : EventKind) (body : Json) :
    let ms := bodyMembers body
    let p := ofBody kind body
    ofMembers? kind ms = some p ∧ p.kind = kind ∧
      p.fields.map Prod.fst = keys kind ∧
      p.fields = (readers kind).map (fun (key, read) => (key, read (ms.find? key))) ∧
      match body with
      | .null => p = ofBody kind (.object [])
      | .object members =>
        p.extra = members.filter (fun member => member.1 ∉ keys kind) ∧
          (∀ key, p.extra.find? key =
            if key ∈ keys kind then none else Members.find? key members) ∧
          ∀ key other, Members.find? key other = Members.find? key members →
            (ofBody kind (.object other)).field? key = p.field? key
      | whole => p.fields = (blank kind).fields ∧ p.extra = [("Object", whole)] := by
  refine ⟨ofBody_read kind body, ofBody_kind kind body, ?_, ofBody_fields kind body, ?_⟩
  · rw [ofBody_fields, List.map_map, ← readers_keys]
    rfl
  · split
    · rfl
    · next members =>
      have extra := ofBody_extra kind (.object members)
      refine ⟨?_, fun key => ?_, fun key other agree => field?_congr agree⟩
      · rw [extra, Members.without]
        simp only [List.contains_eq_mem, decide_not]
        rfl
      · rw [extra]
        exact Members.find?_without _ _ key
    · next occupied other => exact ofBody_whole kind (fun null => occupied null) other

/-- Members that cannot be read leave the name alone. -/
theorem body_read_by_field_malformed :
    let malformed : Members :=
      [("Id", .integer 7), ("Legacy", .bool true), ("Name", .string "jeb_"),
        ("Textures", .array [])]
    (ofBody .profile (.object [("Name", .string "jeb_")])).field? "Name" =
      (ofBody .profile (.object malformed)).field? "Name" :=
  (body_read_by_field .profile (.object _)).2.2.2.2.2.2 "Name" _ rfl

end Payload
end CacheWatch
