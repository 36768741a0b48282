import CacheWatch.Json.Printer

/-! Fields of records that are read leniently.
A field that is missing or cannot be read takes a default, and never disturbs another field.
-/
namespace CacheWatch.Field

open Json (Members)

/-- A string as it is, a number or truth value as written, anything else as nothing. -/
def textOf : Json → String
  | .string s => s
  | .integer n => (Json.integer n).text
  | .float x => (Json.float x).text
  | .bool b => (Json.bool b).text
  | _ => ""

def text (key : String) (members : Members) : String :=
  ((members.find? key).map textOf).getD ""

def optional (convert : Json → Option α) (key : String) (members : Members) : Option α :=
  (members.find? key).bind convert

def orDefault (convert : Json → Option α) (default : α) (key : String) (members : Members) :
    α :=
  (optional convert key members).getD default

/-- One field of a record that is read all or nothing. A missing member leaves the default, and one
that cannot be converted leaves no record. -/
def read? (convert : Json → Option α) (default : α) (key : String) (members : Members) :
    Option α :=
  match members.find? key with
  | none => some default
  | some value => convert value

def lenient (convert : Json → Option α) (default : α) (value : Json) : Option α :=
  some ((convert value).getD default)

/-- Null stands for nothing. -/
def nullable (convert : Json → Option α) : Json → Option (Option α)
  | .null => some none
  | value => (convert value).map some

/-- The members of a record with the given field names: an object has them by key, an array by
position, and no more of them than there are names. -/
def members? (names : List String) : Json → Option Members
  | .object members => some members
  | .array items => if items.length ≤ names.length then some (names.zip items) else none
  | _ => none

def all? (convert : α → Option β) : List α → Option (List β)
  | [] => some []
  | a :: rest =>
    match convert a, all? convert rest with
    | some b, some bs => some (b :: bs)
    | _, _ => none

def list? (convert : Json → Option α) (value : Json) : Option (List α) :=
  value.array?.bind (all? convert)

def map? (convert : Json → Option α) (value : Json) : Option (List (String × α)) :=
  value.object?.bind (all? (fun member => (convert member.2).map (member.1, ·)))

end CacheWatch.Field
