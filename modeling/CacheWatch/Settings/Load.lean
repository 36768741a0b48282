import CacheWatch.Settings.Document

/-! Which settings hold: those of a file, with overrides from the command line put in.
A file has to be valid by itself, and so has the result.
-/
namespace CacheWatch

/-- What is found at the place of a settings file. Where there is no text, the system says why. -/
inductive SettingsFile where
  /-- Nothing is found there. -/
  | absent (reason : String)
  /-- What is there is no file, or not one that may be read, or not text. -/
  | unreadable (reason : String)
  | text (content : String)
deriving DecidableEq, Repr

namespace SettingsFile

def missing : SettingsFile := absent "No such file or directory (os error 2)"

/-- Only UTF-8 is text. -/
def ofBytes (bytes : ByteArray) : SettingsFile :=
  match String.fromUTF8? bytes with
  | some content => text content
  | none => unreadable "stream did not contain valid UTF-8"

end SettingsFile

namespace Settings

def ofFile (path : String) : SettingsFile → Except SettingsError Settings
  | .absent reason => .error (.unreadable path reason)
  | .unreadable reason => .error (.unreadable path reason)
  | .text content =>
    match ofText? content with
    | none => .error .unparsable
    | some settings =>
      match settings.server.fault? with
      | some fault => .error fault
      | none => .ok settings

/-- The file at the default place may be absent. -/
def ofDefaultFile (path : String) : SettingsFile → Except SettingsError Settings
  | .absent _ => .ok default
  | file => ofFile path file

structure Overrides where
  address : Option String
  path : Option String
deriving DecidableEq, Repr

def Overrides.none : Overrides := ⟨Option.none, Option.none⟩

def override (settings : Settings) (o : Overrides) : Settings :=
  { settings with server :=
      { settings.server with
          address := o.address.getD settings.server.address
          path := o.path.getD settings.server.path } }

inductive LoadError where
  | givenFile (path : String) (cause : SettingsError)
  | defaultFile (cause : SettingsError)
  | overrides (cause : SettingsError)
deriving DecidableEq, Repr

namespace LoadError

def context : LoadError → String
  | givenFile path _ => "failed to load configuration from " ++ path
  | defaultFile _ => "failed to load configuration"
  | overrides _ => "invalid server settings"

def cause : LoadError → SettingsError
  | givenFile _ cause => cause
  | defaultFile cause => cause
  | overrides cause => cause

end LoadError

structure PlacedFile where
  path : String
  file : SettingsFile
deriving DecidableEq, Repr

def source (given : Option PlacedFile) (default : PlacedFile) : Except LoadError Settings :=
  match given with
  | some given => (ofFile given.path given.file).mapError (.givenFile given.path)
  | none => (ofDefaultFile default.path default.file).mapError .defaultFile

def load (given : Option PlacedFile) (default : PlacedFile) (o : Overrides) :
    Except LoadError Settings :=
  match source given default with
  | .error e => .error e
  | .ok settings =>
    match (settings.override o).server.fault? with
    | some fault => .error (.overrides fault)
    | none => .ok (settings.override o)

end Settings

end CacheWatch
