import CacheWatch.Channel.Session
import CacheWatch.Channel.Target

/-! The transport: dials, keeps a session alive, and dials again after a delay.
Each attempt reports that it begins and that it is over, with everything else in between.
-/
namespace CacheWatch

inductive Phase where
  | dialling
  | live (live : Live)
  | waiting (due : Nat)
  | over
deriving DecidableEq, Repr

structure Transport where
  revision : Revision
  /-- The number of attempts since the last established session. -/
  attempt : Nat
  delay : RetryDelay
  phase : Phase
deriving DecidableEq, Repr

/-- What happens to a transport. Each is stamped with an instant. -/
inductive Occurrence where
  /-- The attempt failed before there was a socket. -/
  | refused (cause : String)
  | opened
  | stimulus (stimulus : Stimulus)
  | retry
deriving DecidableEq, Repr

structure Output where
  replies : List Frame
  messages : List Message

def Output.none : Output := ⟨[], []⟩

namespace Transport

/-- Attempts are counted in 32 bits. -/
def lastAttempt : Nat := Word.bound 32 - 1

def dial (t : Transport) : Transport × Output :=
  let attempt := min (t.attempt + 1) lastAttempt
  ({ t with attempt, phase := .dialling }, ⟨[], [.connecting attempt]⟩)

/-- Waits for the next attempt; an established session begins the counts anew. -/
def lose (t : Transport) (now : Nat) (established : Bool) (loss : Loss) : Transport × Message :=
  let (delay, next) := t.delay.afterSession established
  ({ t with
      attempt := if established then 0 else t.attempt
      delay := next
      phase := .waiting (now + delay) }, .disconnected loss.reason)

/-- The transport after one occurrence. One that does not fit the phase changes nothing. -/
def step (t : Transport) (now : Nat) (o : Occurrence) : Transport × Output :=
  match t.phase, o with
  | .dialling, .refused cause =>
    let (t, message) := t.lose now false (.transport cause)
    (t, ⟨[], [message]⟩)
  | .dialling, .opened => ({ t with phase := .live (.start t.revision now) }, .none)
  | .live l, .stimulus s =>
    let (l, reaction) := l.react now s
    match reaction.loss with
    | none => ({ t with phase := .live l }, ⟨reaction.replies, reaction.messages⟩)
    | some loss =>
      let (t, message) := t.lose now l.session.established loss
      (t, ⟨reaction.replies, reaction.messages ++ [message]⟩)
  | .waiting _, .retry => t.dial
  | _, _ => (t, .none)

def due? (t : Transport) (now : Nat) : Option Occurrence :=
  match t.phase with
  | .live l => (l.due? now).map .stimulus
  | .waiting due => if due ≤ now then some .retry else none
  | .dialling => none
  | .over => none

def isDialling (t : Transport) : Bool := t.phase = .dialling

/-- Begins the first attempt. A target that cannot be dialled is reported once, and that is all. -/
def start (settings : ServerSettings) (o : TargetOverrides) : Transport × Output :=
  let delay := RetryDelay.ofMillis settings.initialDelay settings.maxDelay
  match target settings o with
  | .ok target => dial ⟨target.revision, 0, delay, .over⟩
  | .error e => (⟨.v3, 0, delay, .over⟩, ⟨[], [.disconnected e.message]⟩)

def stop (t : Transport) : Transport := { t with phase := .over }

def messagesFrom (t : Transport) : List (Nat × Occurrence) → List Message
  | [] => []
  | (now, o) :: rest =>
    let (t, output) := t.step now o
    output.messages ++ t.messagesFrom rest

def messages (settings : ServerSettings) (o : TargetOverrides)
    (occurrences : List (Nat × Occurrence)) : List Message :=
  let (t, output) := start settings o
  output.messages ++ t.messagesFrom occurrences

end Transport

end CacheWatch
