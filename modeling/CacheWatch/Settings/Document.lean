import CacheWatch.History
import CacheWatch.Settings.Server
import CacheWatch.Toml.Document

/-! Settings in a TOML document.
A missing field has its default, a field of another type or range is an error, and a field that
is not known is passed over.
-/
namespace CacheWatch

structure Settings where
  server : ServerSettings
  capacity : Nat
  logLevel : String
deriving DecidableEq, Repr

namespace Settings

def default : Settings := ⟨.default, History.defaultCapacity, "info"⟩

/-- The members of a record with the given field names. An array has them by position; a time is
a record without known fields. -/
def recordMembers? (names : List String) : Toml → Option Toml.Members
  | .table _ members => some members
  | .array items => some (names.zip items)
  | .tables items => some (names.zip (items.map (Toml.table .header)))
  | .time => some []
  | _ => none

def field (convert : Toml → Option α) (key : String) (default : α) (members : Toml.Members) :
    Option α :=
  match Toml.Members.find? key members with
  | none => some default
  | some value => convert value

def text? : Toml → Option String
  | .string text => some text
  | _ => none

def flag? : Toml → Option Bool
  | .bool value => some value
  | _ => none

def word? (bits : Nat) : Toml → Option Nat
  | .integer n => if 0 ≤ n && Word.fits bits n.toNat then some n.toNat else none
  | _ => none

def serverFields : List String :=
  ["address", "path", "secure", "engine_io", "reconnect_initial_ms", "reconnect_max_ms"]

def server? (value : Toml) : Option ServerSettings := do
  let members ← recordMembers? serverFields value
  let d := ServerSettings.default
  let address ← field text? "address" d.address members
  let path ← field text? "path" d.path members
  let secure ← field flag? "secure" d.secure members
  let revision ← field (word? 8) "engine_io" d.revision members
  let initialDelay ← field (word? 64) "reconnect_initial_ms" d.initialDelay members
  let maxDelay ← field (word? 64) "reconnect_max_ms" d.maxDelay members
  some ⟨address, path, secure, revision, initialDelay, maxDelay⟩

def capacity? (value : Toml) : Option Nat := do
  field (word? 64) "capacity" default.capacity (← recordMembers? ["capacity"] value)

def logLevel? (value : Toml) : Option String := do
  field text? "level" default.logLevel (← recordMembers? ["level"] value)

def ofMembers? (members : Toml.Members) : Option Settings := do
  let server ← field server? "server" .default members
  let capacity ← field capacity? "history" default.capacity members
  let logLevel ← field logLevel? "logging" default.logLevel members
  some ⟨server, capacity, logLevel⟩

def ofText? (text : String) : Option Settings := (Toml.ofText? text).bind ofMembers?

end Settings

end CacheWatch
