import CacheWatch.Event.Field
import CacheWatch.Event.Kind
import CacheWatch.Uuid

/-! What a cache event carries.
Timestamps keep their wire text. Members that a kind has no field for are kept as they are.
-/
namespace CacheWatch

open Json (Members)

def idOf? (value : Json) : Option Uuid := value.string?.bind Uuid.ofText?

structure NameChange where
  name : String
  changedToAt : String
  validUntil : String
deriving DecidableEq

def NameChange.fields : List String := ["Name", "ChangedToAt", "ValidUntil"]

def NameChange.ofJson? (value : Json) : Option NameChange :=
  (Field.members? fields value).map (fun ms =>
    ⟨Field.text "Name" ms, Field.text "ChangedToAt" ms, Field.text "ValidUntil" ms⟩)

structure ProfileProperty where
  name : String
  value : String
  signature : String
deriving DecidableEq

def ProfileProperty.fields : List String := ["name", "value", "signature"]

def ProfileProperty.ofJson? (value : Json) : Option ProfileProperty :=
  (Field.members? fields value).map (fun ms =>
    ⟨Field.text "name" ms, Field.text "value" ms, Field.text "signature" ms⟩)

structure ProfileTextures where
  timestamp : String
  profileId : Option Uuid
  profileName : String
  textures : List (String × String)
deriving DecidableEq

def ProfileTextures.fields : List String := ["Timestamp", "ProfileId", "ProfileName", "Textures"]

def ProfileTextures.ofJson? (value : Json) : Option ProfileTextures :=
  (Field.members? fields value).map (fun ms =>
    ⟨Field.text "Timestamp" ms, Field.optional idOf? "ProfileId" ms,
      Field.text "ProfileName" ms, Field.orDefault (Field.map? Json.string?) [] "Textures" ms⟩)

inductive Payload where
  | profileId (id : Option Uuid) (name firstSeenAt lastSeenAt validUntil : String)
      (extra : Members)
  | nameHistory (history : List NameChange) (extra : Members)
  | profile (id : Option Uuid) (name : String) (properties : List (String × ProfileProperty))
      (textures : Option ProfileTextures) (extra : Members)
  | blacklist (hashes : List String) (extra : Members)

namespace Payload

def kind : Payload → EventKind
  | profileId .. => .profileId
  | nameHistory .. => .nameHistory
  | profile .. => .profile
  | blacklist .. => .blacklist

def keys : EventKind → List String
  | .profileId => ["Id", "Name", "FirstSeenAt", "LastSeenAt", "ValidUntil"]
  | .nameHistory => ["History"]
  | .profile => ["Id", "Name", "Properties", "Textures"]
  | .blacklist => ["Hashes"]

def extra : Payload → Members
  | profileId _ _ _ _ _ extra => extra
  | nameHistory _ extra => extra
  | profile _ _ _ _ extra => extra
  | blacklist _ extra => extra

def blank : EventKind → Payload
  | .profileId => profileId none "" "" "" "" []
  | .nameHistory => nameHistory [] []
  | .profile => profile none "" [] none []
  | .blacklist => blacklist [] []

/-- The payload in the members of a body, all or nothing. -/
def ofMembers? (kind : EventKind) (ms : Members) : Option Payload :=
  let text := Field.read? (some ∘ Field.textOf) ""
  let id := Field.read? (Field.lenient (Field.nullable idOf?) none) none "Id"
  let extra := ms.without (keys kind)
  match kind with
  | .profileId => do
    some (profileId (← id ms) (← text "Name" ms) (← text "FirstSeenAt" ms)
      (← text "LastSeenAt" ms) (← text "ValidUntil" ms) extra)
  | .nameHistory => do
    let history ← Field.read? (Field.lenient (Field.list? NameChange.ofJson?) []) [] "History" ms
    some (nameHistory history extra)
  | .profile => do
    let properties ←
      Field.read? (Field.lenient (Field.map? ProfileProperty.ofJson?) []) [] "Properties" ms
    let textures ←
      Field.read? (Field.lenient (Field.nullable ProfileTextures.ofJson?) none) none "Textures" ms
    some (profile (← id ms) (← text "Name" ms) properties textures extra)
  | .blacklist => do
    let hashes ← Field.read? (Field.lenient (Field.list? Json.string?) []) [] "Hashes" ms
    some (blacklist hashes extra)

def opaqueKey : String := "Object"

/-- The members of a body. Null is an empty body; a body of another shape is kept whole. -/
def bodyMembers : Json → Members
  | .null => []
  | .object members => members
  | body => [(opaqueKey, body)]

/-- The payload in a body, or a blank one should the body be unreadable. -/
def ofBody (kind : EventKind) (body : Json) : Payload :=
  (ofMembers? kind (bodyMembers body)).getD (blank kind)

end Payload

end CacheWatch
