import CacheWatch.Channel.Message
import CacheWatch.Event.Envelope
import CacheWatch.History
import CacheWatch.Number.Shortest
import CacheWatch.Settings.Server

/-! What the monitor knows about a server, and how messages change it.
A lost link changes nothing else: the last known facts stay until newer ones arrive.
-/
namespace CacheWatch

inductive Link where
  | disconnected
  | connecting (attempt : Nat)
  | connected
deriving DecidableEq, Repr

structure Origin where
  host : String
  secure : Bool
deriving DecidableEq, Repr

namespace Origin

/-- The host with a port: its own, or the default one of the scheme. -/
def address (origin : Origin) : String :=
  if origin.host.toList.contains ':' then origin.host
  else origin.host ++ (if origin.secure then ":443" else ":80")

def ofSettings (s : ServerSettings) : Origin := ⟨Text.trimmed s.address, s.secure⟩

end Origin

structure Monitor where
  origin : Origin
  link : Link
  version : String
  plugins : List Plugin
  pluginsUnavailable : Bool
  allocation : Int
  history : History CacheEvent
  received : Nat
  dropped : Nat
  lastEventAt : Option Instant

inductive Effect where
  | link (link : Link)
  | system
  | rateLimit (allocation : Int)
  | accepted (kind : EventKind)
  | rejected (reason : Rejection)

namespace Monitor

def start (origin : Origin) (capacity : Nat) : Monitor :=
  ⟨origin, .disconnected, "", [], false, 0, .empty capacity, 0, 0, none⟩

def withLink (m : Monitor) (link : Link) : Monitor × Effect := ({ m with link }, .link link)

def onSystem (m : Monitor) (info : SystemInfo) : Monitor :=
  if info.pluginsSupported then { m with version := info.version, plugins := info.plugins }
  else { m with version := info.version, pluginsUnavailable := true }

def onCache (m : Monitor) (now : Instant) (raw : Json) : Monitor × Effect :=
  match CacheEvent.ofJson raw now with
  | .ok event =>
    ({ m with
        lastEventAt := some event.receivedAt
        received := m.received + 1
        history := m.history.insert event }, .accepted event.kind)
  | .error reason => ({ m with dropped := m.dropped + 1 }, .rejected reason)

def apply (m : Monitor) (now : Instant) : Message → Monitor × Effect
  | .connecting attempt => m.withLink (.connecting attempt)
  | .connected => m.withLink .connected
  | .disconnected _ => m.withLink .disconnected
  | .system info => (m.onSystem info, .system)
  | .rateLimit allocation => ({ m with allocation }, .rateLimit allocation)
  | .cache raw => m.onCache now raw

def applyAll (m : Monitor) (messages : List (Instant × Message)) : Monitor :=
  messages.foldl (fun m (now, message) => (m.apply now message).1) m

def ceiling : Nat := 600

def rateLabel (m : Monitor) : String :=
  "Rate Limit: " ++ toString m.allocation ++ " / " ++ toString ceiling

/-- The allocation in percent of the ceiling; every step is rounded. -/
def percent (m : Monitor) : Binary64 :=
  (((Binary64.ofInt? m.allocation).bind (·.divNat? ceiling)).bind (·.mulNat? 100)).getD
    (.zero false)

/-- The allocation as a part of the ceiling, between nothing and all of it. -/
def ratio (m : Monitor) : Binary64 :=
  let part := (m.percent.divNat? 100).getD (.zero false)
  if !(Binary64.zero false).le part then .zero false
  else if !part.le .one then .one
  else part

end Monitor

end CacheWatch
