import CacheWatch.Monitor

/-! Browsing the history: which event is selected, and what keys do.
The selection stays on an event when newer ones arrive, unless it follows the newest one.
-/
namespace CacheWatch

inductive KeyCode where
  | character (c : Char)
  | escape
  | enter
  | up
  | down
  | home
  | «end»
  | pageUp
  | pageDown
  | other
deriving DecidableEq, Repr

structure Keystroke where
  code : KeyCode
  control : Bool
deriving DecidableEq, Repr

structure Browser where
  monitor : Monitor
  /-- The row of the selected event, the newest in row 0. -/
  selected : Nat
  follow : Bool
  finished : Bool
  channelUrl : Option String
  /-- The number of events received when the selection was last brought up to date. -/
  seen : Nat

namespace Browser

def page : Nat := 10

def start (monitor : Monitor) (channelUrl : Option String) : Browser :=
  ⟨monitor, 0, true, false, channelUrl, monitor.received⟩

def lastRow (b : Browser) : Nat := b.monitor.history.length - 1

def selectedEvent? (b : Browser) : Option CacheEvent := b.monitor.history.get? b.selected

/-- Moves the selection along with its event, or to the newest event when following. -/
def sync (b : Browser) : Browser :=
  let row := if b.follow then 0 else b.selected + (b.monitor.received - b.seen)
  { b with seen := b.monitor.received, selected := min row b.lastRow }

def apply (b : Browser) (now : Instant) (message : Message) : Browser × Effect :=
  let (monitor, effect) := b.monitor.apply now message
  ({ b with monitor }, effect)

/-- Applies all messages that are waiting, then moves the selection if there were any. -/
def drain (b : Browser) (messages : List (Instant × Message)) : Browser :=
  if messages.isEmpty then b else { b with monitor := b.monitor.applyAll messages }.sync

def older (b : Browser) (rows : Nat) : Browser :=
  { b with selected := min (b.selected + rows) b.lastRow, follow := false }

/-- Toward newer events; the newest one is followed. -/
def newer (b : Browser) (rows : Nat) : Browser :=
  { b with selected := b.selected - rows, follow := b.follow || b.selected - rows = 0 }

def newest (b : Browser) : Browser := { b with selected := 0, follow := true }

def oldest (b : Browser) : Browser := { b with selected := b.lastRow, follow := false }

def toggleFollow (b : Browser) : Browser :=
  if b.follow then { b with follow := false } else b.newest

def finish (b : Browser) : Browser := { b with finished := true }

def pressCharacter (b : Browser) (control : Bool) (c : Char) : Browser :=
  match c with
  | 'q' => b.finish
  | 'c' => if control then b.finish else b
  | 'j' => b.older 1
  | 'k' => b.newer 1
  | ' ' => b.toggleFollow
  | 'g' => b.newest
  | 'G' => b.oldest
  | 'u' => b.newer page
  | 'd' => b.older page
  | _ => b

def press (b : Browser) (key : Keystroke) : Browser :=
  match key.code with
  | .character c => b.pressCharacter key.control c
  | .escape => b.finish
  | .enter => b
  | .down => b.older 1
  | .up => b.newer 1
  | .home => b.newest
  | .end => b.oldest
  | .pageUp => b.newer page
  | .pageDown => b.older page
  | .other => b

end Browser

end CacheWatch
