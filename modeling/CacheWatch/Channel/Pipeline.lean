import CacheWatch.Channel.Transport
import CacheWatch.Monitor

/-! From the transport to the state: a bounded queue, and an owner who takes messages from it.
The transport works on one occurrence at a time, and waits while the queue is full.
-/
namespace CacheWatch

structure Pipeline where
  transport : Transport
  /-- What the transport still has to put into the queue. -/
  pending : List Message
  queue : List Message
  monitor : Monitor
  applied : Nat
  abandoned : Bool

structure Delivery where
  message : Message
  effect : Effect

namespace Pipeline

def queueBound : Nat := 256

def start (settings : ServerSettings) (o : TargetOverrides) (monitor : Monitor) : Pipeline :=
  let (transport, output) := Transport.start settings o
  ⟨transport, output.messages, [], monitor, 0, false⟩

/-- The transport turns to one occurrence, if it has sent everything before. -/
def work (p : Pipeline) (now : Nat) (o : Occurrence) : Pipeline × List Frame :=
  if p.pending.isEmpty then
    let (transport, output) := p.transport.step now o
    ({ p with transport, pending := output.messages }, output.replies)
  else (p, [])

/-- Puts one message into the queue, if there is room. Where nobody takes messages any more the
transport ends. -/
def send (p : Pipeline) : Pipeline :=
  match p.pending with
  | [] => p
  | message :: rest =>
    if p.abandoned then { p with transport := p.transport.stop, pending := [] }
    else if p.queue.length < queueBound then
      { p with pending := rest, queue := p.queue ++ [message] }
    else p

def take? (p : Pipeline) (clock : Instant) : Option (Pipeline × Delivery) :=
  match p.queue with
  | [] => none
  | message :: rest =>
    let (monitor, effect) := p.monitor.apply clock message
    some ({ p with queue := rest, monitor, applied := p.applied + 1 }, ⟨message, effect⟩)

/-- The owner applies everything in the queue; the number of messages is returned. -/
def drain (p : Pipeline) (clock : Instant) : Pipeline × Nat :=
  ({ p with
      queue := []
      monitor := p.monitor.applyAll (p.queue.map (clock, ·))
      applied := p.applied + p.queue.length }, p.queue.length)

def settleWithin (clock : Instant) : Nat → Pipeline → Pipeline × List Delivery
  | 0, p => (p, [])
  | n + 1, p =>
    match p.send.take? clock with
    | none => (p.send, [])
    | some (p, delivery) =>
      let (p, rest) := settleWithin clock n p
      (p, delivery :: rest)

def settle (p : Pipeline) (clock : Instant) : Pipeline × List Delivery :=
  settleWithin clock (p.pending.length + p.queue.length + 1) p

def abandon (p : Pipeline) : Pipeline := { p with queue := [], abandoned := true }

def shutdown (p : Pipeline) : Pipeline :=
  { p.abandon with transport := p.transport.stop, pending := [] }

end Pipeline

end CacheWatch
