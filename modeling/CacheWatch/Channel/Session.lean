import CacheWatch.Channel.Delay
import CacheWatch.Channel.Frame
import CacheWatch.Channel.Message
import CacheWatch.Channel.Packet
import CacheWatch.Channel.Revision

/-! One session on an open socket: what the client makes of each item that arrives.
A session is established by the acknowledgement of the root namespace, or by the first content
of a server that never sends one.
-/
namespace CacheWatch

inductive Item where
  | text (frame : String)
  | binary
  /-- A ping or pong of the socket itself. -/
  | control
  /-- The closing handshake, or the end of the stream. -/
  | closed
  | failed (cause : String)
deriving DecidableEq, Repr

inductive Loss where
  | connectionClosed
  | closedByServer
  | namespaceClosed
  | refused (payload : Json)
  | heartbeatTimeout
  | transport (cause : String)

namespace Loss

def reason : Loss → String
  | connectionClosed => "connection closed"
  | closedByServer => "closed by server"
  | namespaceClosed => "namespace disconnected by server"
  | refused payload => "server refused connection: " ++ payload.text
  | heartbeatTimeout => "heartbeat timeout"
  | transport cause => "transport error: " ++ cause

end Loss

structure Heartbeat where
  period : Nat
  due : Nat
deriving DecidableEq, Repr

structure Session where
  revision : Revision
  established : Bool
  /-- The silence after which the link counts as dead. -/
  window : Nat
  heartbeat : Option Heartbeat
deriving DecidableEq, Repr

inductive Step where
  | proceed
  | reply (frame : Frame)
  | forward (message : Message)
  | finish (loss : Loss)

namespace Session

def handshakeWindow : Nat := seconds 20

def start (revision : Revision) : Session := ⟨revision, false, handshakeWindow, none⟩

/-- The period that a handshake asks for is never nothing. -/
def period (h : Handshake) : Nat := millis (max h.pingInterval 1)

def onOpening (s : Session) (now : Nat) (h : Handshake) : Session × Step :=
  let opened := { s with window := period h + millis h.pingTimeout }
  match s.revision with
  | .v3 => ({ opened with heartbeat := some ⟨period h, now + period h⟩ }, .proceed)
  | .v4 => (opened, .reply (.message Packet.join))

/-- Only packets of the root namespace count. -/
def onPacket (s : Session) : Packet → Session × Step
  | .connect ns =>
    if ns = Packet.rootNamespace ∧ s.established = false then
      ({ s with established := true }, .forward .connected)
    else (s, .proceed)
  | .disconnect ns =>
    (s, if ns = Packet.rootNamespace then .finish .namespaceClosed else .proceed)
  | .error ns payload =>
    (s, if ns = Packet.rootNamespace then .finish (.refused payload) else .proceed)
  | .event ns name payload =>
    if ns = Packet.rootNamespace then
      match Message.ofEvent? name payload with
      | some message => (s, .forward message)
      | none => (s, .proceed)
    else (s, .proceed)
  | .ack => (s, .proceed)
  | .binary => (s, .proceed)

def onData (s : Session) (data : String) : Session × Step :=
  match Packet.decode data with
  | .ok packet => s.onPacket packet
  | .error _ => (s, .proceed)

def onText (s : Session) (now : Nat) (text : String) : Session × Step :=
  match Frame.decode text with
  | .error _ => (s, .proceed)
  | .ok (.opening h) => s.onOpening now h
  | .ok .close => (s, .finish .closedByServer)
  | .ok (.ping data) => (s, .reply (.pong data))
  | .ok (.message data) => s.onData data
  | .ok (.pong _) => (s, .proceed)
  | .ok .upgrade => (s, .proceed)
  | .ok .noop => (s, .proceed)

def onItem (s : Session) (now : Nat) : Item → Session × Step
  | .text frame => s.onText now frame
  | .binary => (s, .proceed)
  | .control => (s, .proceed)
  | .closed => (s, .finish .connectionClosed)
  | .failed cause => (s, .finish (.transport cause))

structure Reaction where
  session : Session
  replies : List Frame
  messages : List Message
  loss : Option Loss

def quiet (s : Session) : Reaction := ⟨s, [], [], none⟩

/-- Content establishes a session that the server has not acknowledged. -/
def deliver (s : Session) (message : Message) : Reaction :=
  if message.isData ∧ s.established = false then
    ⟨{ s with established := true }, [], [.connected, message], none⟩
  else ⟨s, [], [message], none⟩

def carryOut (s : Session) : Step → Reaction
  | .proceed => s.quiet
  | .reply frame => ⟨s, [frame], [], none⟩
  | .forward message => s.deliver message
  | .finish loss => ⟨s, [], [], some loss⟩

def receive (s : Session) (now : Nat) (item : Item) : Reaction :=
  let (next, step) := s.onItem now item
  next.carryOut step

def beat (s : Session) : Reaction :=
  match s.heartbeat with
  | none => s.quiet
  | some h =>
    ⟨{ s with heartbeat := some { h with due := h.due + h.period } }, [.ping ""], [], none⟩

end Session

structure Live where
  session : Session
  lastSeen : Nat
deriving DecidableEq, Repr

inductive Stimulus where
  | item (item : Item)
  | beat
  | silence
  /-- A frame of the client could not be sent. -/
  | unsent (cause : String)
deriving DecidableEq, Repr

namespace Live

def start (revision : Revision) (now : Nat) : Live := ⟨.start revision, now⟩

def deadline (l : Live) : Nat := l.lastSeen + l.session.window

def beatDue? (l : Live) : Option Nat := l.session.heartbeat.map Heartbeat.due

/-- Every item is a sign of life; what the client sends or fails to send is none. -/
def react (l : Live) (now : Nat) : Stimulus → Live × Session.Reaction
  | .item item =>
    let reaction := l.session.receive now item
    (⟨reaction.session, now⟩, reaction)
  | .beat =>
    let reaction := l.session.beat
    (⟨reaction.session, l.lastSeen⟩, reaction)
  | .silence => (l, { l.session.quiet with loss := some .heartbeatTimeout })
  | .unsent cause => (l, { l.session.quiet with loss := some (.transport cause) })

/-- The timer that has come due by an instant, the earlier of two; heartbeats go first. -/
def due? (l : Live) (now : Nat) : Option Stimulus :=
  match l.beatDue? with
  | some beat =>
    if beat ≤ now ∧ beat ≤ l.deadline then some .beat
    else if l.deadline ≤ now then some .silence
    else none
  | none => if l.deadline ≤ now then some .silence else none

end Live

end CacheWatch
