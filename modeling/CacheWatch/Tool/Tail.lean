import CacheWatch.Clock.Label
import CacheWatch.Monitor

/-! Printing events as they come: a line for each accepted event, and reports on the rest for
those who ask for them.
-/
namespace CacheWatch.Tool

inductive Line where
  | output (text : String)
  | report (text : String)
deriving DecidableEq, Repr

namespace Line

def output? : Line → Option String
  | output text => some text
  | report _ => none

def report? : Line → Option String
  | output _ => none
  | report text => some text

end Line

namespace Tail

def stamped (clock : Instant) (text : String) : String := "[" ++ clock.clockText ++ "] " ++ text

def reported (least verbosity : Nat) (text : String) : List Line :=
  if least ≤ verbosity then [.report text] else []

def versionText (m : Monitor) : String :=
  "server version " ++ m.version ++
    (if m.pluginsUnavailable then " (plugins not supported)" else "")

def lossReason : Message → String
  | .disconnected reason => reason
  | _ => ""

def linesFor (verbosity : Nat) (clock : Instant) (message : Message) (m : Monitor) :
    Effect → List Line
  | .accepted _ =>
    match m.history.newest? with
    | some event => [.output (stamped clock event.summary)]
    | none => []
  | .rejected reason =>
    reported 1 verbosity (stamped clock ("dropped cache event: " ++ reason.message))
  | .link .connected => reported 1 verbosity (stamped clock "connected")
  | .link .disconnected =>
    reported 1 verbosity (stamped clock ("disconnected: " ++ lossReason message))
  | .link (.connecting _) => []
  | .system => reported 1 verbosity (stamped clock (versionText m))
  | .rateLimit _ => reported 2 verbosity (stamped clock m.rateLabel)

def run (verbosity : Nat) (m : Monitor) : List (Instant × Message) → Monitor × List Line
  | [] => (m, [])
  | (clock, message) :: rest =>
    let (next, effect) := m.apply clock message
    let (last, lines) := run verbosity next rest
    (last, linesFor verbosity clock message next effect ++ lines)

def openingText (url : Option String) : String :=
  match url with
  | some url => "listening for events on " ++ url ++ ":"
  | none => "listening for events:"

def closingText (m : Monitor) : String :=
  "--- " ++ toString m.received ++ " events received, " ++ toString m.dropped ++ " dropped ---"

def lines (verbosity : Nat) (url : Option String) (m : Monitor)
    (messages : List (Instant × Message)) : List Line :=
  let (last, between) := run verbosity m messages
  .report (openingText url) :: (between ++ reported 1 verbosity (closingText last))

end Tail

end CacheWatch.Tool
