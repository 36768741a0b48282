import CacheWatch.Event.Payload

/-! Payloads as JSON bodies: the fields under their keys, with the kept members among them. -/
namespace CacheWatch

open Json (Members)

def idJson (id : Option Uuid) : Json :=
  match id with
  | none => .null
  | some id => .string id.text

def NameChange.toJson (change : NameChange) : Json :=
  .object (Members.ofList [("Name", .string change.name),
    ("ChangedToAt", .string change.changedToAt), ("ValidUntil", .string change.validUntil)])

def ProfileProperty.toJson (property : ProfileProperty) : Json :=
  .object (Members.ofList [("name", .string property.name), ("value", .string property.value),
    ("signature", .string property.signature)])

def ProfileTextures.toJson (t : ProfileTextures) : Json :=
  .object (Members.ofList [("Timestamp", .string t.timestamp), ("ProfileId", idJson t.profileId),
    ("ProfileName", .string t.profileName),
    ("Textures", .object (t.textures.map (fun (kind, url) => (kind, .string url))))])

namespace Payload

def fieldMembers : Payload → List (String × Json)
  | profileId id name firstSeenAt lastSeenAt validUntil _ =>
    [("Id", idJson id), ("Name", .string name), ("FirstSeenAt", .string firstSeenAt),
      ("LastSeenAt", .string lastSeenAt), ("ValidUntil", .string validUntil)]
  | nameHistory history _ => [("History", .array (history.map NameChange.toJson))]
  | profile id name properties textures _ =>
    [("Id", idJson id), ("Name", .string name),
      ("Properties", .object (properties.map (fun (key, p) => (key, p.toJson)))),
      ("Textures", (textures.map ProfileTextures.toJson).getD .null)]
  | blacklist hashes _ => [("Hashes", .array (hashes.map Json.string))]

def toJson (payload : Payload) : Json :=
  .object
    (payload.fieldMembers.foldl (fun ms field => Members.insert field.1 field.2 ms) payload.extra)

end Payload

end CacheWatch
