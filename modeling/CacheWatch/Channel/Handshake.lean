import CacheWatch.Event.Field
import CacheWatch.Json.Reader

/-! The body of an opening frame.
Its fields are read strictly from the text: a field may be missing, but not repeated and not of
another type. Other fields only have to be well formed.
-/
namespace CacheWatch

open Json (Tree)

/-- Interval and timeout are milliseconds. -/
structure Handshake where
  sid : String
  upgrades : List String
  pingInterval : Nat
  pingTimeout : Nat
deriving DecidableEq, Repr

namespace Handshake

def fields : List String := ["sid", "upgrades", "pingInterval", "pingTimeout"]

def text? : Tree → Option String
  | .string written => Json.resolveText written
  | _ => none

def texts? : Tree → Option (List String)
  | .array items => Field.all? text? items
  | _ => none

def word? : Tree → Option Nat
  | .number written =>
    if written.integral && !written.negative && Word.fits 64 written.digits then some written.digits
    else none
  | _ => none

/-- The one member with a key, converted, or a default if there is none. -/
def single (key : String) (convert : Tree → Option α) (default : α)
    (members : List (String × Tree)) : Option α :=
  match members.filter (fun member => member.1 = key) with
  | [] => some default
  | [(_, value)] => convert value
  | _ => none

def ofMembers? (members : List (String × Tree)) : Option Handshake := do
  let sid ← single "sid" text? "" members
  let upgrades ← single "upgrades" texts? [] members
  let pingInterval ← single "pingInterval" word? 0 members
  let pingTimeout ← single "pingTimeout" word? 0 members
  some ⟨sid, upgrades, pingInterval, pingTimeout⟩

/-- An object has the fields by name, an array by position. -/
def ofTree? : Tree → Option Handshake
  | .object members =>
    (Field.all? (fun (key, value) => (Json.resolveText key).map (·, value)) members).bind
      ofMembers?
  | .array items => if items.length ≤ fields.length then ofMembers? (fields.zip items) else none
  | _ => none

def ofChars? (cs : List Char) : Option Handshake := (Json.tree cs).bind ofTree?

end Handshake

end CacheWatch
