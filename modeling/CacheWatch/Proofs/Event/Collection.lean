import CacheWatch.Channel.Message
import CacheWatch.Proofs.Event.Payload
import CacheWatch.Proofs.Json.Members

/-! Lists and maps inside a message: all of their elements, or none.
One element that cannot be converted empties the collection it stands in, and nothing else. Whether
an element can be converted is told from its outer shape, never from the fields inside it.
-/
namespace CacheWatch

open Json (Members)

namespace Field

/-- A record is written as an object, or as an array of its first fields in order. -/
def IsRecord (size : Nat) : Json → Prop
  | .object _ => True
  | .array items => items.length ≤ size
  | _ => False

def IsText (value : Json) : Prop := ∃ text, value = .string text

/-- The value of a field, found by its key in an object and by its place in an array. -/
def at? (key : String) (place : Nat) : Json → Option Json
  | .object members => Members.find? key members
  | .array items => items[place]?
  | _ => none

def textAt (key : String) (place : Nat) (element : Json) : String :=
  ((at? key place element).map textOf).getD ""

structure SameFields (fields : List String) (items : List Json) (members : Members) : Prop where
  fits : items.length ≤ fields.length
  same : ∀ (place : Nat) (key : String), fields[place]? = some key →
    members.find? key = items[place]?

/-- A collection that is complete or empty. It is read from the entries that a value has, if the
value has the right outer shape. -/
structure AllOrNothing {α β : Type} (entries? : Option (List α)) (Convertible : α → Prop)
    (reading : α → β) (result : List β) : Prop where
  other : entries? = none → result = []
  complete : ∀ entries, entries? = some entries → result = entries.map reading ∨ result = []
  empty_iff : ∀ entries, entries? = some entries → entries ≠ [] →
    (result = [] ↔ ∃ entry ∈ entries, ¬ Convertible entry)

/-- A conversion that gives the reading of the values that are convertible, and nothing for the
others. -/
structure Reads {α β : Type} (convert : α → Option β) (Convertible : α → Prop)
    (reading : α → β) : Prop where
  some : ∀ {a}, Convertible a → convert a = some (reading a)
  none : ∀ {a}, ¬ Convertible a → convert a = none

section Conversion

variable {α β : Type} {convert : α → Option β} {Convertible : α → Prop} {reading : α → β}

theorem Reads.all? (reads : Reads convert Convertible reading) {entries : List α}
    (convertible : ∀ entry ∈ entries, Convertible entry) :
    Field.all? convert entries = Option.some (entries.map reading) := by
  induction entries with
  | nil => rfl
  | cons entry rest ih =>
    obtain ⟨first, others⟩ := List.forall_mem_cons.mp convertible
    rw [Field.all?, reads.some first, ih others]
    rfl

theorem Reads.all?_none (reads : Reads convert Convertible reading) {entries : List α}
    (spoilt : ∃ entry ∈ entries, ¬ Convertible entry) :
    Field.all? convert entries = Option.none := by
  induction entries with
  | nil =>
    obtain ⟨entry, member, _⟩ := spoilt
    contradiction
  | cons entry rest ih =>
    obtain ⟨bad, member, inconvertible⟩ := spoilt
    rcases List.mem_cons.mp member with rfl | inside
    · rw [Field.all?, reads.none inconvertible]
    · rw [Field.all?, ih ⟨bad, inside, inconvertible⟩]
      cases convert entry <;> rfl

theorem Reads.allOrNothing (reads : Reads convert Convertible reading)
    (entries? : Option (List α)) :
    AllOrNothing entries? Convertible reading ((entries?.bind (Field.all? convert)).getD []) := by
  cases entries? with
  | none => exact ⟨fun _ => rfl, by simp, by simp⟩
  | some entries =>
    refine ⟨by simp, ?_, ?_⟩
    · rintro _ ⟨⟩
      by_cases convertible : ∀ entry ∈ entries, Convertible entry
      · exact .inl (by rw [Option.bind_some, reads.all? convertible, Option.getD_some])
      · push Not at convertible
        exact .inr (by rw [Option.bind_some, reads.all?_none convertible, Option.getD_none])
    · rintro _ ⟨⟩ occupied
      constructor
      · intro empty
        by_contra convertible
        push Not at convertible
        rw [Option.bind_some, reads.all? convertible, Option.getD_some] at empty
        exact occupied (List.map_eq_nil_iff.mp empty)
      · intro spoilt
        rw [Option.bind_some, reads.all?_none spoilt, Option.getD_none]

theorem Reads.keyed (reads : Reads convert Convertible reading) :
    Reads (fun member : String × α => (convert member.2).map (member.1, ·))
      (fun member => Convertible member.2) (fun member => (member.1, reading member.2)) where
  some convertible := by rw [reads.some convertible, Option.map_some]
  none inconvertible := by rw [reads.none inconvertible, Option.map_none]

end Conversion

theorem string?_reads : Reads Json.string? IsText textOf where
  some := by
    rintro _ ⟨text, rfl⟩
    rfl
  none := by
    intro value other
    cases value with
    | string text => exact absurd ⟨text, rfl⟩ other
    | null => rfl
    | bool _ => rfl
    | integer _ => rfl
    | float _ => rfl
    | array _ => rfl
    | object _ => rfl

theorem find?_zip {names : List String} (distinct : names.Nodup) (items : List Json) {place : Nat}
    {key : String} (named : names[place]? = some key) :
    Members.find? key (names.zip items) = items[place]? := by
  induction names generalizing items place with
  | nil => contradiction
  | cons name names ih =>
    obtain ⟨unlike, others⟩ := List.nodup_cons.mp distinct
    cases items with
    | nil => rfl
    | cons item items =>
      rw [List.zip_cons_cons, Members.find?]
      cases place with
      | zero =>
        rw [if_pos (Option.some.inj named)]
        rfl
      | succ place =>
        have inside : names[place]? = some key := named
        have different : name ≠ key := by
          rintro rfl
          exact unlike (List.mem_of_getElem? inside)
        rw [if_neg different, ih others items inside]
        rfl

theorem members?_find? {names : List String} (distinct : names.Nodup) {element : Json}
    {members : Members} (found : members? names element = some members) {place : Nat}
    {key : String} (named : names[place]? = some key) :
    members.find? key = at? key place element := by
  cases element with
  | object inside =>
    cases found
    rfl
  | array items =>
    rw [members?] at found
    split_ifs at found
    cases found
    exact find?_zip distinct items named
  | null => contradiction
  | bool _ => contradiction
  | integer _ => contradiction
  | float _ => contradiction
  | string _ => contradiction

theorem members?_record {names : List String} {element : Json}
    (record : IsRecord names.length element) :
    ∃ members, members? names element = some members := by
  cases element with
  | object inside => exact ⟨inside, rfl⟩
  | array items => exact ⟨_, if_pos record⟩
  | null => contradiction
  | bool _ => contradiction
  | integer _ => contradiction
  | float _ => contradiction
  | string _ => contradiction

theorem members?_other {names : List String} {element : Json}
    (other : ¬ IsRecord names.length element) : members? names element = none := by
  cases element with
  | object inside => exact absurd trivial other
  | array items => exact if_neg other
  | null => rfl
  | bool _ => rfl
  | integer _ => rfl
  | float _ => rfl
  | string _ => rfl

theorem record_reads {β : Type} {names : List String} {build : Members → β} {reading : Json → β}
    (fields : ∀ {element members}, members? names element = some members →
      build members = reading element) :
    Reads (fun element => (members? names element).map build) (IsRecord names.length) reading where
  some record := by
    obtain ⟨members, found⟩ := members?_record record
    rw [found, Option.map_some, fields found]
  none other := by rw [members?_other other, Option.map_none]

theorem text_eq {names : List String} (distinct : names.Nodup) {element : Json} {members : Members}
    (found : members? names element = some members) (place : Nat) {key : String}
    (named : names[place]? = some key) : text key members = textAt key place element := by
  rw [text, members?_find? distinct found named, textAt]

section Forms

variable {names : List String} {items : List Json} {members : Members}

theorem SameFields.textAt (alike : SameFields names items members) {place : Nat} {key : String}
    (named : names[place]? = some key) :
    textAt key place (.array items) = textAt key place (.object members) := by
  rw [Field.textAt, Field.textAt, at?, at?, alike.same place key named]

theorem SameFields.convert {β : Type} (alike : SameFields names items members)
    {convert : Json → Option β} {reading : Json → β}
    (reads : Reads convert (IsRecord names.length) reading)
    (same : reading (.array items) = reading (.object members)) :
    convert (.array items) = convert (.object members) := by
  have array : IsRecord names.length (.array items) := alike.fits
  have object : IsRecord names.length (.object members) := trivial
  rw [reads.some array, reads.some object, same]

end Forms

theorem text_insert {key other : String} (apart : key ≠ other) (value : Json) (members : Members) :
    text other (members.insert key value) = text other members := by
  rw [text, Members.find?_insert, if_neg apart, text]

theorem nullable_of_ne_null {α : Type} (convert : Json → Option α) {value : Json}
    (occupied : value ≠ .null) : nullable convert value = (convert value).map some := by
  unfold nullable
  split
  · contradiction
  · rfl

theorem optional_insert {α : Type} (convert : Json → Option α) {key other : String}
    (apart : key ≠ other) (value : Json) (members : Members) :
    optional convert other (members.insert key value) = optional convert other members := by
  rw [optional, Members.find?_insert, if_neg apart, optional]

theorem orDefault_insert {α : Type} (convert : Json → Option α) (default : α) {key other : String}
    (apart : key ≠ other) (value : Json) (members : Members) :
    orDefault convert default other (members.insert key value) =
      orDefault convert default other members := by
  rw [orDefault, optional_insert convert apart, orDefault]

theorem orDefault_inserted {α : Type} (convert : Json → Option α) (default : α) (key : String)
    (value : Json) (members : Members) :
    orDefault convert default key (members.insert key value) = (convert value).getD default := by
  rw [orDefault, optional, Members.find?_insert, if_pos rfl, Option.bind_some]

end Field

open CacheWatch.Field (IsRecord IsText AllOrNothing SameFields Reads textAt textOf)

/-! The reading of one element by itself, whatever its fields hold. -/

def Plugin.reading (element : Json) : Plugin :=
  ⟨textAt "Name" 0 element, textAt "Version" 1 element⟩

def NameChange.reading (element : Json) : NameChange :=
  ⟨textAt "Name" 0 element, textAt "ChangedToAt" 1 element, textAt "ValidUntil" 2 element⟩

def ProfileProperty.reading (element : Json) : ProfileProperty :=
  ⟨textAt "name" 0 element, textAt "value" 1 element, textAt "signature" 2 element⟩

theorem Plugin.reads : Reads ofJson? (IsRecord fields.length) reading :=
  Field.record_reads fun found => by
    have text := @Field.text_eq fields (by decide) _ _ found
    rw [text 0 rfl, text 1 rfl]
    rfl

theorem NameChange.reads : Reads ofJson? (IsRecord fields.length) reading :=
  Field.record_reads fun found => by
    have text := @Field.text_eq fields (by decide) _ _ found
    rw [text 0 rfl, text 1 rfl, text 2 rfl]
    rfl

theorem ProfileProperty.reads : Reads ofJson? (IsRecord fields.length) reading :=
  Field.record_reads fun found => by
    have text := @Field.text_eq fields (by decide) _ _ found
    rw [text 0 rfl, text 1 rfl, text 2 rfl]
    rfl

section Forms

variable {items : List Json} {members : Members}

theorem Plugin.ofJson?_alike (alike : SameFields fields items members) :
    ofJson? (.array items) = ofJson? (.object members) := by
  refine alike.convert reads ?_
  rw [reading, alike.textAt rfl, alike.textAt rfl, reading]

theorem NameChange.ofJson?_alike (alike : SameFields fields items members) :
    ofJson? (.array items) = ofJson? (.object members) := by
  refine alike.convert reads ?_
  rw [reading, alike.textAt rfl, alike.textAt rfl, alike.textAt rfl, reading]

theorem ProfileProperty.ofJson?_alike (alike : SameFields fields items members) :
    ofJson? (.array items) = ofJson? (.object members) := by
  refine alike.convert reads ?_
  rw [reading, alike.textAt rfl, alike.textAt rfl, alike.textAt rfl, reading]

end Forms

/-! What a value for a collection comes to in the message around it. The other fields of the message
are those that it has without the value. -/

structure SystemInfo.ReadsPlugins (value : Json) (plugins : List Plugin) : Prop where
  object : ∀ members, ∃ info, Message.ofEvent? "system" (.object members) = some (.system info) ∧
    Message.ofEvent? "system" (.object (Members.insert "plugins" value members)) =
      some (.system { info with plugins })
  array : ∀ version supported, ∃ info,
    Message.ofEvent? "system" (.array [version, supported]) = some (.system info) ∧
      Message.ofEvent? "system" (.array [version, supported, value]) =
        some (.system { info with plugins })

namespace Payload

def ReadsHistory (value : Json) (history : List NameChange) : Prop :=
  ∀ members, ∃ without extra,
    ofBody .nameHistory (.object members) = .nameHistory without extra ∧
      ofBody .nameHistory (.object (Members.insert "History" value members)) =
        .nameHistory history extra

def ReadsProperties (value : Json) (properties : List (String × ProfileProperty)) : Prop :=
  ∀ members, ∃ id name without textures extra,
    ofBody .profile (.object members) = .profile id name without textures extra ∧
      ofBody .profile (.object (Members.insert "Properties" value members)) =
        .profile id name properties textures extra

def ReadsHashes (value : Json) (hashes : List String) : Prop :=
  ∀ members, ∃ without extra,
    ofBody .blacklist (.object members) = .blacklist without extra ∧
      ofBody .blacklist (.object (Members.insert "Hashes" value members)) = .blacklist hashes extra

def ReadsTextures (without given : Json) (urls : List (String × String)) : Prop :=
  ∀ members, ∃ id name properties textures extra,
    ofBody .profile (.object (Members.insert "Textures" without members)) =
        .profile id name properties (some textures) extra ∧
      ofBody .profile (.object (Members.insert "Textures" given members)) =
        .profile id name properties (some { textures with textures := urls }) extra

structure ReadsUrls (value : Json) (urls : List (String × String)) : Prop where
  object : ∀ textures,
    ReadsTextures (.object textures) (.object (Members.insert "Textures" value textures)) urls
  array : ∀ timestamp id name,
    ReadsTextures (.array [timestamp, id, name]) (.array [timestamp, id, name, value]) urls

end Payload

theorem SystemInfo.readsPlugins (value : Json) :
    ReadsPlugins value ((Field.list? Plugin.ofJson? value).getD []) where
  object members := by
    refine ⟨_, rfl, ?_⟩
    have read : ofJson? (.object (Members.insert "plugins" value members)) =
        some ⟨Field.text "version" members,
          Field.orDefault Json.bool? false "pluginsSupported" members,
          (Field.list? Plugin.ofJson? value).getD []⟩ := by
      rw [ofJson?, Field.members?, Option.map_some, Field.text_insert (by decide),
        Field.orDefault_insert _ _ (by decide), Field.orDefault_inserted]
    rw [Message.ofEvent?, if_pos rfl, read]
    rfl
  array version supported := ⟨_, rfl, rfl⟩

namespace Payload

theorem ofBody_nameHistory (members : Members) :
    ofBody .nameHistory (.object members) =
      nameHistory (Field.orDefault (Field.list? NameChange.ofJson?) [] "History" members)
        (members.without (keys .nameHistory)) := by
  simp only [ofBody, bodyMembers, ofMembers?, Field.read?_lenient, Option.bind_eq_bind,
    Option.bind_some, Option.getD_some]
  rfl

theorem ofBody_profile (members : Members) :
    ofBody .profile (.object members) =
      profile (Field.orDefault (Field.nullable idOf?) none "Id" members)
        (Field.text "Name" members)
        (Field.orDefault (Field.map? ProfileProperty.ofJson?) [] "Properties" members)
        (Field.orDefault (Field.nullable ProfileTextures.ofJson?) none "Textures" members)
        (members.without (keys .profile)) := by
  simp only [ofBody, bodyMembers, ofMembers?, Field.read?_lenient, Field.read?_text,
    Option.bind_eq_bind, Option.bind_some, Option.getD_some]
  rfl

theorem ofBody_blacklist (members : Members) :
    ofBody .blacklist (.object members) =
      blacklist (Field.orDefault (Field.list? Json.string?) [] "Hashes" members)
        (members.without (keys .blacklist)) := by
  simp only [ofBody, bodyMembers, ofMembers?, Field.read?_lenient, Option.bind_eq_bind,
    Option.bind_some, Option.getD_some]
  rfl

theorem readsHistory (value : Json) :
    ReadsHistory value ((Field.list? NameChange.ofJson? value).getD []) := by
  intro members
  refine ⟨_, _, ofBody_nameHistory members, ?_⟩
  rw [ofBody_nameHistory, Field.orDefault_inserted, Members.without_insert (by decide)]

theorem readsProperties (value : Json) :
    ReadsProperties value ((Field.map? ProfileProperty.ofJson? value).getD []) := by
  intro members
  refine ⟨_, _, _, _, _, ofBody_profile members, ?_⟩
  rw [ofBody_profile, Field.orDefault_insert _ _ (by decide), Field.text_insert (by decide),
    Field.orDefault_inserted, Field.orDefault_insert _ _ (by decide),
    Members.without_insert (by decide)]

theorem readsHashes (value : Json) :
    ReadsHashes value ((Field.list? Json.string? value).getD []) := by
  intro members
  refine ⟨_, _, ofBody_blacklist members, ?_⟩
  rw [ofBody_blacklist, Field.orDefault_inserted, Members.without_insert (by decide)]

theorem ofBody_textures {value : Json} {textures : ProfileTextures} (occupied : value ≠ .null)
    (read : ProfileTextures.ofJson? value = some textures) (members : Members) :
    ofBody .profile (.object (Members.insert "Textures" value members)) =
      profile (Field.orDefault (Field.nullable idOf?) none "Id" members)
        (Field.text "Name" members)
        (Field.orDefault (Field.map? ProfileProperty.ofJson?) [] "Properties" members)
        (some textures) (members.without (keys .profile)) := by
  have given : Field.nullable ProfileTextures.ofJson? value = some (some textures) := by
    rw [Field.nullable_of_ne_null _ occupied, read, Option.map_some]
  rw [ofBody_profile, Field.orDefault_insert _ _ (by decide), Field.text_insert (by decide),
    Field.orDefault_insert _ _ (by decide), Field.orDefault_inserted, given, Option.getD_some,
    Members.without_insert (by decide)]

theorem readsUrls (value : Json) : ReadsUrls value ((Field.map? Json.string? value).getD []) where
  object textures members := by
    refine ⟨_, _, _, _, _, ofBody_textures (by simp) rfl members, ?_⟩
    refine ofBody_textures (by simp) ?_ members
    rw [ProfileTextures.ofJson?, Field.members?, Option.map_some, Field.text_insert (by decide),
      Field.optional_insert _ (by decide), Field.text_insert (by decide), Field.orDefault_inserted]
  array timestamp id name members :=
    ⟨_, _, _, _, _, ofBody_textures (by simp) rfl members, ofBody_textures (by simp) rfl members⟩

end Payload

/-- Whatever is given for a collection is read as all of its elements or as none of them, and as
none only if one of them has the wrong outer shape. No text in an element matters for that, the
two forms of an element are read alike, and the rest of the message is as it would be without the
value. -/
theorem collections_all_or_nothing (value : Json) :
    (∃ plugins, SystemInfo.ReadsPlugins value plugins ∧
      AllOrNothing value.array? (IsRecord 2) Plugin.reading plugins) ∧
    (∃ history, Payload.ReadsHistory value history ∧
      AllOrNothing value.array? (IsRecord 3) NameChange.reading history) ∧
    (∃ properties, Payload.ReadsProperties value properties ∧
      AllOrNothing value.object? (fun member => IsRecord 3 member.2)
        (fun member => (member.1, ProfileProperty.reading member.2)) properties) ∧
    (∃ hashes, Payload.ReadsHashes value hashes ∧
      AllOrNothing value.array? IsText textOf hashes) ∧
    (∃ urls, Payload.ReadsUrls value urls ∧
      AllOrNothing value.object? (fun member => IsText member.2)
        (fun member => (member.1, textOf member.2)) urls) ∧
    ∀ items members,
      (SameFields ["Name", "Version"] items members →
        Plugin.ofJson? (.array items) = Plugin.ofJson? (.object members)) ∧
      (SameFields ["Name", "ChangedToAt", "ValidUntil"] items members →
        NameChange.ofJson? (.array items) = NameChange.ofJson? (.object members)) ∧
      (SameFields ["name", "value", "signature"] items members →
        ProfileProperty.ofJson? (.array items) = ProfileProperty.ofJson? (.object members)) := by
  refine ⟨⟨_, SystemInfo.readsPlugins value, ?_⟩, ⟨_, Payload.readsHistory value, ?_⟩,
    ⟨_, Payload.readsProperties value, ?_⟩, ⟨_, Payload.readsHashes value, ?_⟩,
    ⟨_, Payload.readsUrls value, ?_⟩, fun items members => ⟨?_, ?_, ?_⟩⟩
  · exact Plugin.reads.allOrNothing value.array?
  · exact NameChange.reads.allOrNothing value.array?
  · exact ProfileProperty.reads.keyed.allOrNothing value.object?
  · exact Field.string?_reads.allOrNothing value.array?
  · exact Field.string?_reads.keyed.allOrNothing value.object?
  · exact Plugin.ofJson?_alike
  · exact NameChange.ofJson?_alike
  · exact ProfileProperty.ofJson?_alike

/-- A number for a name and an element without fields are kept, and an element in its array form is
read like the object with the same fields. -/
theorem collections_all_or_nothing_odd_elements :
    let value := Json.array
      [.object [("Name", .integer 5)], .array [], .array [.null, .string "1.0"]]
    (∃ plugins, SystemInfo.ReadsPlugins value plugins ∧
      plugins = [⟨"5", ""⟩, ⟨"", ""⟩, ⟨"", "1.0"⟩]) ∧
      Plugin.ofJson? (.array [.null, .string "1.0"]) =
        Plugin.ofJson? (.object [("Name", .null), ("Version", .string "1.0")]) := by
  intro value
  obtain ⟨⟨plugins, read, whole⟩, -, -, -, -, alike⟩ := collections_all_or_nothing value
  refine ⟨⟨plugins, read, ?_⟩, (alike _ _).1 ⟨by decide, ?_⟩⟩
  · rcases whole.complete _ rfl with all | empty
    · rw [all]
      rfl
    · obtain ⟨entry, member, other⟩ := (whole.empty_iff _ rfl (List.cons_ne_nil _ _)).mp empty
      simp only [List.mem_cons, List.not_mem_nil, or_false] at member
      rcases member with rfl | rfl | rfl
      · exact absurd trivial other
      · exact absurd (Nat.zero_le 2) other
      · exact absurd (Nat.le_refl 2) other
  · rintro (_ | _ | place) key named
    · cases named
      rfl
    · cases named
      rfl
    · contradiction

end CacheWatch
