import CacheWatch.Channel.Transport
import CacheWatch.Settings.Load
import CacheWatch.Tool.CommandLine
import CacheWatch.Tool.Probe
import CacheWatch.Tool.Table
import CacheWatch.Tool.Tail

/-! What a tool leaves behind: an exit code and two texts. -/
namespace CacheWatch.Tool

structure Outcome where
  exit : Nat
  output : String
  report : String
deriving DecidableEq, Repr

namespace Outcome

def linesText (lines : List String) : String := String.join (lines.map (· ++ "\n"))

def version (program : Program) : Outcome := ⟨0, linesText [program.name ++ " 0.1.0"], ""⟩

def misuse : Outcome := ⟨2, "", ""⟩

def failure (message : String) (cause : Option String) : Outcome :=
  let causes := match cause with
    | none => []
    | some cause => ["", "Caused by:", "    " ++ cause]
  ⟨1, "", linesText (("Error: " ++ message) :: causes)⟩

def ofLoadError (e : Settings.LoadError) : Outcome := failure e.context (some e.cause.message)

def monitorOf (settings : Settings) : Monitor :=
  .start (.ofSettings settings.server) settings.capacity

def urlText? (settings : Settings) : Option String :=
  match target settings.server ⟨none, none⟩ with
  | .ok target => some target.url.text
  | .error _ => none

def ofStatus (settings : Settings) (timeout : Nat) (arrivals : List Arrival) : Outcome :=
  match Probe.result (monitorOf settings) 0 (seconds timeout) arrivals with
  | .ok m => ⟨0, Table.text (statusRows m), ""⟩
  | .error f => failure f.message none

def ofListen (settings : Settings) (verbosity : Nat) (arrivals : List Arrival) : Outcome :=
  let lines := Tail.lines verbosity (urlText? settings) (monitorOf settings)
    (arrivals.map (fun a => (a.clock, a.message)))
  ⟨0, linesText (lines.filterMap Line.output?), linesText (lines.filterMap Line.report?)⟩

structure Files where
  given : String → SettingsFile
  default : Settings.PlacedFile

def settings (o : Options) (files : Files) : Except Settings.LoadError Settings :=
  Settings.load (o.config.map (fun path => ⟨path, files.given path⟩)) files.default
    ⟨o.server, o.path⟩

def run (program : Program) (o : Options) (files : Files)
    (arrivals : ServerSettings → List Arrival) : Outcome :=
  match settings o files with
  | .error e => ofLoadError e
  | .ok s =>
    match program with
    | .status => ofStatus s o.timeoutSeconds (arrivals s.server)
    | .listen => ofListen s o.verbosity (arrivals s.server)

/-- Help is a matter of the outer layer. -/
def ofInvocation (program : Program) (invocation : Invocation) (files : Files)
    (arrivals : ServerSettings → List Arrival) : Outcome :=
  match invocation with
  | .run o => run program o files arrivals
  | .version => version program
  | .help => ⟨0, "", ""⟩
  | .misuse => misuse

end Outcome

end CacheWatch.Tool
