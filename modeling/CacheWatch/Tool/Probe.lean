import CacheWatch.Channel.Delay
import CacheWatch.Monitor

/-! Waiting for the server to introduce itself.
The wait is over when the introduction and a rate limit have been seen. The introduction shortens
what is left of it.
-/
namespace CacheWatch.Tool

structure Arrival where
  time : Nat
  clock : Instant
  message : Message

structure Probe where
  monitor : Monitor
  deadline : Nat
  introduced : Bool
  limited : Bool
  lastReason : Option String

namespace Probe

def grace : Nat := millis 500

def start (monitor : Monitor) (now timeout : Nat) : Probe :=
  ⟨monitor, now + timeout, false, false, none⟩

def isComplete (p : Probe) : Bool := p.introduced && p.limited

def note (p : Probe) (message : Message) : Probe :=
  match message with
  | .disconnected reason => { p with lastReason := some reason }
  | _ => p

def consume (p : Probe) (a : Arrival) : Probe :=
  let (monitor, effect) := p.monitor.apply a.clock a.message
  let p := { p.note a.message with monitor }
  match effect with
  | .system => { p with introduced := true, deadline := min p.deadline (a.time + grace) }
  | .rateLimit _ => { p with limited := true }
  | _ => p

def run (p : Probe) : List Arrival → Probe
  | [] => p
  | a :: rest =>
    if p.isComplete || p.deadline < a.time then p else (p.consume a).run rest

structure Failure where
  address : String
  /-- In whole seconds. -/
  timeout : Nat
  reason : Option String
deriving DecidableEq, Repr

def Failure.message (f : Failure) : String :=
  "no handshake from server \"" ++ f.address ++ "\" within " ++ toString f.timeout ++ "s" ++
    (match f.reason with
     | none => ""
     | some reason => ": " ++ reason)

/-- What is known after a wait that is no longer than the timeout. -/
def result (monitor : Monitor) (now timeout : Nat) (arrivals : List Arrival) :
    Except Failure Monitor :=
  let p := (start monitor now timeout).run arrivals
  if p.introduced then .ok p.monitor
  else .error ⟨p.monitor.origin.address, timeout / seconds 1, p.lastReason⟩

end Probe

end CacheWatch.Tool
