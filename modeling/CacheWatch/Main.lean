import CacheWatch.Settings.Place
import CacheWatch.Tool.Outcome
import CacheWatch.Tool.Recording

/-! The command line: one of the two tools, run on a recording from standard input. -/
namespace CacheWatch.CommandLine

open Tool

/-- A file that is not there for a reason that the system gives. The number of the reason may have
been negated. Behind a name that leads nowhere (2) or through a file (20) there is nothing. -/
def notRead (code : UInt32) (details : String) : SettingsFile :=
  let number := min code.toNat (UInt32.size - code.toNat)
  let reason := details.capitalize ++ " (os error " ++ toString number ++ ")"
  if number = 2 ∨ number = 20 then .absent reason else .unreadable reason

def fileAt (path : String) : IO SettingsFile := do
  try return .ofBytes (← IO.FS.readBinFile path)
  catch
    | .noFileOrDirectory _ code details => return notRead code details
    | .permissionDenied _ code details => return notRead code details
    | .inappropriateType _ code details => return notRead code details
    | fault => return .unreadable (toString fault)

def directories : IO Directories := do
  return ⟨← IO.getEnv "HOME", ← IO.getEnv "XDG_CONFIG_HOME", ← IO.getEnv "XDG_STATE_HOME",
    none⟩

partial def readLines (input : IO.FS.Stream) : IO (List String) := do
  let line ← input.getLine
  if line.isEmpty then return []
  let rest ← readLines input
  return String.ofList (line.toList.filter (· ≠ '\n')) :: rest

def usage : String := "usage: status|listen [OPTIONS] < RECORDING"

def program? (name : String) : Option Program :=
  match name with
  | "status" => some .status
  | "listen" => some .listen
  | _ => none

def givenFile (invocation : Invocation) : IO SettingsFile :=
  match invocation with
  | .run o => (o.config.map fileAt).getD (pure .missing)
  | _ => pure .missing

def perform (program : Program) (words : List String) : IO Outcome := do
  let invocation := parse program words
  let given ← givenFile invocation
  let place := (← directories).configPath
  let files : Outcome.Files := ⟨fun _ => given, ⟨place, ← fileAt place⟩⟩
  let frames ← match invocation with
    | .run _ => do pure (Recording.entries (← readLines (← IO.getStdin)))
    | _ => pure []
  return .ofInvocation program invocation files (Recording.arrivals frames)

def report (outcome : Outcome) : IO UInt32 := do
  IO.print outcome.output
  IO.eprint outcome.report
  if outcome.exit = 2 then IO.eprintln usage
  return outcome.exit.toUInt32

end CacheWatch.CommandLine

open CacheWatch.CommandLine in
def main (words : List String) : IO UInt32 := do
  match words with
  | [] => report .misuse
  | name :: rest =>
    match program? name with
    | none => report .misuse
    | some program => report (← perform program rest)
