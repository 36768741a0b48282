import CacheWatch.Event.Payload
import CacheWatch.Clock.Instant

/-! Classification of cache envelopes.
Only the tag decides whether an envelope is accepted; its body never does.
-/
namespace CacheWatch

open Json (Members)

structure CacheEvent where
  payload : Payload
  key : Json
  receivedAt : Instant

inductive Rejection where
  | notAnObject (value : Json)
  | repeatedKind
  | missingKind
  | unknownKind (tag : Json)

namespace Rejection

def message : Rejection → String
  | notAnObject value => "malformed envelope: expected an object, got " ++ value.text
  | repeatedKind => "malformed envelope: duplicate field \x60Kind\x60"
  | missingKind => "envelope carries no event kind"
  | unknownKind tag => "unrecognized event kind " ++ tag.text

end Rejection

structure Envelope where
  tag : Option Json
  key : Json
  body : Json

namespace Envelope

def kindOf (tag : Json) : Except Rejection EventKind :=
  match EventKind.ofJson? tag with
  | some kind => .ok kind
  | none => .error (.unknownKind tag)

def classify (envelope : Envelope) (now : Instant) : Except Rejection CacheEvent :=
  match envelope.tag with
  | none => .error .missingKind
  | some tag =>
    match kindOf tag with
    | .error rejection => .error rejection
    | .ok kind => .ok ⟨Payload.ofBody kind envelope.body, envelope.key, now⟩

/-- The tag stands under one of two keys; a null tag is none. -/
def ofMembers (members : Members) : Except Rejection Envelope :=
  let part := fun key => (members.find? key).getD .null
  match members.find? "Kind", members.find? "Type" with
  | some _, some _ => .error .repeatedKind
  | some .null, none | none, some .null | none, none => .ok ⟨none, part "Key", part "Object"⟩
  | some tag, none | none, some tag => .ok ⟨some tag, part "Key", part "Object"⟩

def ofJson : Json → Except Rejection Envelope
  | .object members => ofMembers members
  | value => .error (.notAnObject value)

end Envelope

def CacheEvent.ofJson (value : Json) (now : Instant) : Except Rejection CacheEvent :=
  match Envelope.ofJson value with
  | .error rejection => .error rejection
  | .ok envelope => envelope.classify now

namespace CacheEvent

def kind (event : CacheEvent) : EventKind := event.payload.kind

def unknown : String := "<unknown>"

def idText (id : Option Uuid) : String := (id.map Uuid.text).getD unknown

def keyText : Json → String
  | .string s => s
  | .null => unknown
  | key => key.text

def summary (event : CacheEvent) : String :=
  match event.payload with
  | .profileId id name firstSeenAt _ validUntil _ =>
    "updated name association for name \"" ++ name ++ "\" to profile " ++ idText id ++
      " (valid from " ++ firstSeenAt ++ " until " ++ validUntil ++ ")"
  | .nameHistory .. => "updated name history for profile " ++ keyText event.key
  | .profile id name .. =>
    "updated profile " ++ idText id ++ " (display name: \"" ++ name ++ "\")"
  | .blacklist hashes _ => "updated blacklist (" ++ toString hashes.length ++ " hashes)"

end CacheEvent

end CacheWatch
