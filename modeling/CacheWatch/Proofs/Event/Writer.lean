import CacheWatch.Event.Writer
import CacheWatch.Proofs.Event.Envelope
import CacheWatch.Proofs.Json.Members
import CacheWatch.Proofs.Uuid

/-! Payloads that are written and read again.
The first reading settles every field: what could not be read is written as a default, and defaults
are read as themselves. The kept members stand under keys of their own.
-/
namespace CacheWatch

open Json (Members)

namespace Field

variable {α : Type}

def Restores (convert : Json → Option α) (write : α → Json) : Prop :=
  ∀ a, convert (write a) = some a

theorem all?_map {β : Type} {convert : β → Option α} {write : α → β}
    (restores : ∀ a, convert (write a) = some a) (as : List α) :
    all? convert (as.map write) = some as := by
  induction as with
  | nil => rfl
  | cons a as ih => simp only [List.map_cons, all?, restores a, ih]

variable {convert : Json → Option α} {write : α → Json}

theorem Restores.list? (restores : Restores convert write) :
    Restores (Field.list? convert) fun as => .array (as.map write) :=
  fun as => all?_map restores as

theorem Restores.map? (restores : Restores convert write) :
    Restores (Field.map? convert) fun as => .object (as.map fun a => (a.1, write a.2)) := by
  intro as
  refine all?_map (fun a => ?_) as
  simp only [restores a.2, Option.map_some]

end Field

theorem restores_string : Field.Restores Json.string? Json.string := fun _ => rfl

theorem idOf?_idJson (id : Option Uuid) : idOf? (idJson id) = id := by
  cases id with
  | none => rfl
  | some id => exact Uuid.ofText?_text id

theorem nullable_idJson (id : Option Uuid) : Field.nullable idOf? (idJson id) = some id := by
  cases id with
  | none => rfl
  | some id =>
    have read : idOf? (.string id.text) = some id := Uuid.ofText?_text id
    simp only [idJson, Field.nullable, read, Option.map_some]

theorem NameChange.restores : Field.Restores ofJson? toJson := by
  intro change
  simp [ofJson?, toJson, Field.members?, Field.text, Members.ofList, Members.find?_insert,
    Field.textOf]

theorem ProfileProperty.restores : Field.Restores ofJson? toJson := by
  intro property
  simp [ofJson?, toJson, Field.members?, Field.text, Members.ofList, Members.find?_insert,
    Field.textOf]

theorem ProfileTextures.restores : Field.Restores ofJson? toJson := by
  intro t
  have urls : Field.map? Json.string? (.object (t.textures.map fun u => (u.1, .string u.2))) =
      some t.textures := restores_string.map? t.textures
  simp [ofJson?, toJson, Field.members?, Field.text, Field.optional, Field.orDefault,
    Members.ofList, Members.find?_insert, Field.textOf, idOf?_idJson, urls]

theorem ProfileTextures.nullable_toJson (textures : Option ProfileTextures) :
    Field.nullable ofJson? ((textures.map toJson).getD .null) = some textures := by
  cases textures with
  | none => rfl
  | some t =>
    have read := ProfileTextures.restores t
    rw [toJson] at read
    simp only [Option.map_some, Option.getD_some, toJson, Field.nullable, read]

namespace Payload

theorem ext_fields {p q : Payload} (fields : p.fields = q.fields) (extra : p.extra = q.extra) :
    p = q := by
  cases p <;> cases q <;> simp_all [Payload.fields, Payload.extra]

theorem readers_fieldMembers (p : Payload) {ms : Members}
    (written : ∀ m ∈ p.fieldMembers, ms.find? m.1 = some m.2) :
    (readers p.kind).map (fun (key, read) => (key, read (ms.find? key))) = p.fields := by
  cases p with
  | profileId id name firstSeenAt lastSeenAt validUntil extra =>
    simp only [fieldMembers, List.forall_mem_cons] at written
    simp [kind, readers, readers.id, readers.text, fields, written, nullable_idJson, Field.textOf]
  | nameHistory history extra =>
    simp only [fieldMembers, List.forall_mem_cons] at written
    have read := NameChange.restores.list? history
    simp only at read
    simp [kind, readers, readers.history, fields, written, read]
  | profile id name properties textures extra =>
    simp only [fieldMembers, List.forall_mem_cons] at written
    have read := ProfileProperty.restores.map? properties
    simp only at read
    simp [kind, readers, readers.id, readers.text, readers.properties, readers.textures, fields,
      written, nullable_idJson, Field.textOf, read, ProfileTextures.nullable_toJson]
  | blacklist hashes extra =>
    simp only [fieldMembers, List.forall_mem_cons] at written
    have read := restores_string.list? hashes
    simp only at read
    simp [kind, readers, readers.hashes, fields, written, read]

def members (p : Payload) : Members := Members.insertAll p.fieldMembers p.extra

theorem fieldMembers_keys (p : Payload) : p.fieldMembers.map Prod.fst = keys p.kind := by
  cases p <;> rfl

theorem mem_keys_of_mem {p : Payload} {m : String × Json} (member : m ∈ p.fieldMembers) :
    m.1 ∈ keys p.kind := by
  rw [← fieldMembers_keys]
  exact List.mem_map_of_mem member

theorem find?_members (p : Payload) : ∀ m ∈ p.fieldMembers, p.members.find? m.1 = some m.2 := by
  cases p <;>
    simp [members, Members.insertAll, fieldMembers, Members.find?_insert]

/-- A payload that keeps no member under the key of a field is read back. -/
theorem ofBody_toJson {p : Payload} (apart : p.extra.without (keys p.kind) = p.extra) :
    ofBody p.kind p.toJson = p := by
  have fields : (ofBody p.kind p.toJson).fields = p.fields := by
    rw [ofBody_fields]
    exact p.readers_fieldMembers p.find?_members
  have kept : p.members.without (keys p.kind) = p.extra.without (keys p.kind) :=
    Members.without_insertAll (fun m => mem_keys_of_mem) p.extra
  refine ext_fields fields ?_
  rw [ofBody_extra]
  exact kept.trans apart

theorem extra_apart (kind : EventKind) (body : Json) :
    (ofBody kind body).extra.without (keys kind) = (ofBody kind body).extra := by
  rw [ofBody_extra, Members.without, Members.without, List.filter_filter]
  simp only [Bool.and_self]

end Payload

namespace CacheEvent

open Envelope (Tagged part)

/-- The payload of an accepted envelope, written as the body of any envelope of its kind, is
accepted as the same payload. No member that it keeps stands under the key of a field, so the order
in which both are written does not matter. -/
theorem payload_read_again (raw : Json) (now : Instant) (event : CacheEvent)
    (accepted : ofJson raw now = .ok event) :
    let p := event.payload
    (∀ members tag later, Tagged members tag → EventKind.Denotes tag event.kind →
      members.find? "Object" = some p.toJson →
        ofJson (.object members) later = .ok ⟨p, part members "Key", later⟩) ∧
      (∀ key ∈ Payload.keys event.kind, p.extra.find? key = none) ∧
      p.toJson = .object p.members ∧
      (∀ m ∈ p.fieldMembers, p.members.find? m.1 = some m.2) ∧
      (∀ key ∉ Payload.keys event.kind, p.members.find? key = p.extra.find? key) ∧
      (p.extra.Sorted → p.toJson = .object (Members.ofList (p.fieldMembers ++ p.extra))) := by
  intro p
  obtain ⟨first, _, _, _, _, _, payload, _⟩ := ofJson_eq_ok_iff.mp accepted
  have apart : p.extra.without (Payload.keys event.kind) = p.extra := by
    have kept := Payload.extra_apart event.kind (part first "Object")
    rwa [← payload] at kept
  have absent : ∀ key ∈ Payload.keys event.kind, p.extra.find? key = none := by
    intro key named
    rw [← apart, Json.Members.find?_without, if_pos named]
  refine ⟨?_, absent, rfl, p.find?_members, ?_, ?_⟩
  · intro members tag later tagged denotes body
    rw [ofJson_denoted tagged denotes, part, body]
    exact congrArg (fun payload => Except.ok (CacheEvent.mk payload _ later))
      (Payload.ofBody_toJson apart)
  · intro key other
    have unset : Members.find? key p.fieldMembers.reverse = none := by
      cases found : Members.find? key p.fieldMembers.reverse with
      | none => rfl
      | some value =>
        have member := List.mem_reverse.mp (Members.mem_of_find? found)
        exact absurd (Payload.mem_keys_of_mem member) other
    rw [Payload.members, Members.find?_insertAll, unset, Option.none_or]
  · intro sorted
    refine congrArg Json.object (Members.insertAll_comm sorted fun m member => ?_)
    exact absent m.1 (Payload.mem_keys_of_mem member)

/-- A number for a name and an identifier in braces come back as text, and an unreadable list and
an unknown member as they were left. -/
theorem payload_read_again_messy :
    let body : Members := [("Id", .string "\x7b069A79F4-44E9-4726-A5BE-FCA90E38AAF5\x7d"),
      ("Legacy", .bool true), ("Name", .integer 5), ("Properties", .array [.integer 1])]
    let raw := Json.object [("Object", .object body), ("Type", .integer 2)]
    ∃ event, ofJson raw ⟨0, 0⟩ = .ok event ∧
      ofJson (.object [("Kind", .string "ProfileEvent"), ("Object", event.payload.toJson)]) ⟨0, 0⟩ =
        .ok ⟨event.payload, .null, ⟨0, 0⟩⟩ := by
  intro body raw
  have accepted : ofJson raw ⟨0, 0⟩ = _ :=
    ofJson_denoted (.inr ⟨rfl, rfl⟩) (.number .profile) ⟨0, 0⟩
  refine ⟨_, accepted, ?_⟩
  refine (payload_read_again raw ⟨0, 0⟩ _ accepted).1 _ (.string "ProfileEvent") ⟨0, 0⟩
    (.inl ⟨rfl, rfl⟩) ?_ rfl
  exact EventKind.ofJson?_eq_some_iff.mp rfl

end CacheEvent

end CacheWatch
