import CacheWatch.Text.Blank
import CacheWatch.Text.Quoted

/-! Where the server is, how it is spoken to, and how long to wait before trying again.
Settings are checked in a fixed order, so two faults give the error of the first.
-/
namespace CacheWatch

/-- The delays are milliseconds. -/
structure ServerSettings where
  address : String
  path : String
  secure : Bool
  revision : Nat
  initialDelay : Nat
  maxDelay : Nat
deriving DecidableEq, Repr

inductive SettingsError where
  | emptyAddress
  | relativePath (path : String)
  | unknownRevision (number : Nat)
  | zeroDelay
  | delaysReversed
  | unreadable (path reason : String)
  | unparsable
deriving DecidableEq, Repr

namespace SettingsError

def cause : SettingsError → String
  | emptyAddress => "server.address must not be empty"
  | relativePath path => "server.path must start with '/', got " ++ Text.quoted path
  | unknownRevision number => "server.engine_io must be 3 or 4, got " ++ toString number
  | zeroDelay => "server.reconnect_initial_ms must be greater than zero"
  | delaysReversed => "server.reconnect_initial_ms must not exceed server.reconnect_max_ms"
  | unreadable .. => "failed to read config file"
  | unparsable => "failed to parse config"

def detail : SettingsError → String
  | unreadable path reason => " " ++ Text.quoted path ++ ": " ++ reason
  | _ => ""

def brief (e : SettingsError) : String := "configuration error: " ++ e.cause

def message (e : SettingsError) : String := e.brief ++ e.detail

end SettingsError

namespace ServerSettings

def default : ServerSettings := ⟨"127.0.0.1:36623", "/ui/socket.io", false, 3, 1000, 10000⟩

def fault? (s : ServerSettings) : Option SettingsError :=
  if (Text.trim s.address.toList).isEmpty then some .emptyAddress
  else if s.path.toList.head? ≠ some '/' then some (.relativePath s.path)
  else if s.revision ≠ 3 ∧ s.revision ≠ 4 then some (.unknownRevision s.revision)
  else if s.initialDelay = 0 then some .zeroDelay
  else if s.maxDelay < s.initialDelay then some .delaysReversed
  else none

def validate (s : ServerSettings) : Except SettingsError Unit :=
  match s.fault? with
  | some fault => .error fault
  | none => .ok ()

end ServerSettings

end CacheWatch
