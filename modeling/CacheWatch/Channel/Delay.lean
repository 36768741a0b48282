import CacheWatch.Number.Word

/-! Reconnect delays that double up to a bound.
Durations and instants of the channel are nanoseconds; the longest duration has all seconds that
a 64-bit word counts.
-/
namespace CacheWatch

/-- The nanoseconds of a number of milliseconds. -/
def millis (n : Nat) : Nat := n * 1000000

def seconds (n : Nat) : Nat := n * 1000000000

def longestDuration : Nat := seconds (Word.bound 64) - 1

structure RetryDelay where
  initial : Nat
  max : Nat
  current : Nat
deriving DecidableEq, Repr

namespace RetryDelay

def start (initial max : Nat) : RetryDelay := ⟨initial, max, initial⟩

def ofMillis (initial max : Nat) : RetryDelay := start (millis initial) (millis max)

def doubled (duration : Nat) : Nat := min (2 * duration) longestDuration

def next (d : RetryDelay) : Nat × RetryDelay :=
  (d.current, { d with current := min (doubled d.current) d.max })

def reset (d : RetryDelay) : RetryDelay := { d with current := d.initial }

/-- The delay after a session; an established one begins the delays anew. -/
def afterSession (d : RetryDelay) (established : Bool) : Nat × RetryDelay :=
  if established then d.reset.next else d.next

def afterSessions (d : RetryDelay) : List Bool → List Nat
  | [] => []
  | established :: rest =>
    let (delay, d) := d.afterSession established
    delay :: d.afterSessions rest

end RetryDelay

end CacheWatch
