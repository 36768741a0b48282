import CacheWatch.Monitor
import CacheWatch.Proofs.History
import Mathlib.Data.List.Induction

/-! The state after any run, read off the messages of the run.
Each fact comes from the messages that carry it, whatever stands between them.
-/
namespace CacheWatch

namespace Message

def link? : Message → Option Link
  | connecting attempt => some (.connecting attempt)
  | connected => some .connected
  | disconnected _ => some .disconnected
  | _ => none

def system? : Message → Option SystemInfo
  | system info => some info
  | _ => none

def allocation? : Message → Option Int
  | rateLimit allocation => some allocation
  | _ => none

def accepted? (now : Instant) : Message → Option CacheEvent
  | cache raw =>
    match CacheEvent.ofJson raw now with
    | .ok event => some event
    | .error _ => none
  | _ => none

def rejected? (now : Instant) : Message → Option Rejection
  | cache raw =>
    match CacheEvent.ofJson raw now with
    | .ok _ => none
    | .error reason => some reason
  | _ => none

end Message

namespace Monitor

def links (messages : List (Instant × Message)) : List Link :=
  messages.filterMap (·.2.link?)

def systems (messages : List (Instant × Message)) : List SystemInfo :=
  messages.filterMap (·.2.system?)

def allocations (messages : List (Instant × Message)) : List Int :=
  messages.filterMap (·.2.allocation?)

def acceptedEvents (messages : List (Instant × Message)) : List CacheEvent :=
  messages.filterMap fun (now, message) => message.accepted? now

def rejections (messages : List (Instant × Message)) : List Rejection :=
  messages.filterMap fun (now, message) => message.rejected? now

theorem acceptedEvents_append (first second : List (Instant × Message)) :
    acceptedEvents (first ++ second) = acceptedEvents first ++ acceptedEvents second :=
  List.filterMap_append

theorem acceptedEvents_reverse (messages : List (Instant × Message)) :
    acceptedEvents messages.reverse = (acceptedEvents messages).reverse :=
  List.filterMap_reverse

theorem applyAll_snoc (m : Monitor) (messages : List (Instant × Message)) (now : Instant)
    (message : Message) :
    m.applyAll (messages ++ [(now, message)]) = ((m.applyAll messages).apply now message).1 := by
  simp only [applyAll, List.foldl_append, List.foldl_cons, List.foldl_nil]

theorem applyAll_keeps {Keeps : List (Instant × Message) → Monitor → Prop} {m : Monitor}
    (begins : Keeps [] m)
    (goesOn : ∀ {run m}, Keeps run m → ∀ now message,
      Keeps ((now, message) :: run) (m.apply now message).1)
    (messages : List (Instant × Message)) : Keeps messages.reverse (m.applyAll messages) := by
  induction messages using List.reverseRecOn with
  | nil => exact begins
  | append_singleton messages last ih =>
    rw [applyAll_snoc, List.reverse_concat]
    exact goesOn ih last.1 last.2

theorem onSystem_frame (m : Monitor) (info : SystemInfo) :
    m.onSystem info =
      { m with
        version := info.version
        plugins := (m.onSystem info).plugins
        pluginsUnavailable := (m.onSystem info).pluginsUnavailable } := by
  unfold onSystem
  split <;> rfl

theorem apply_accepted (m : Monitor) {now : Instant} {raw : Json} {event : CacheEvent}
    (accepted : CacheEvent.ofJson raw now = .ok event) :
    m.apply now (.cache raw) =
      ({ m with
          lastEventAt := some event.receivedAt
          received := m.received + 1
          history := m.history.insert event }, .accepted event.kind) := by
  rw [apply, onCache, accepted]

theorem apply_rejected (m : Monitor) {now : Instant} {raw : Json} {reason : Rejection}
    (rejected : CacheEvent.ofJson raw now = .error reason) :
    m.apply now (.cache raw) = ({ m with dropped := m.dropped + 1 }, .rejected reason) := by
  rw [apply, onCache, rejected]

/-- A state is what a run says, whose messages are given latest first. -/
structure Follows (origin : Origin) (capacity : Nat) (run : List (Instant × Message))
    (m : Monitor) : Prop where
  origin : m.origin = origin
  capacity : m.history.capacity = capacity
  history : m.history.Holds (acceptedEvents run)
  received : m.received = (acceptedEvents run).length
  dropped : m.dropped = (rejections run).length
  lastEventAt : m.lastEventAt = (acceptedEvents run).head?.map CacheEvent.receivedAt
  link : m.link = (links run).head?.getD .disconnected
  version : m.version = ((systems run).head?.map SystemInfo.version).getD ""
  allocation : m.allocation = (allocations run).head?.getD 0

variable {origin : Origin} {capacity : Nat} {run : List (Instant × Message)} {m : Monitor}

theorem start_follows (origin : Origin) (capacity : Nat) :
    Follows origin capacity [] (start origin capacity) :=
  ⟨rfl, rfl, History.empty_holds capacity, rfl, rfl, rfl, rfl, rfl, rfl⟩

theorem apply_follows (follows : Follows origin capacity run m) (now : Instant)
    (message : Message) :
    Follows origin capacity ((now, message) :: run) (m.apply now message).1 := by
  cases message with
  | connecting attempt => exact { follows with link := rfl }
  | connected => exact { follows with link := rfl }
  | disconnected reason => exact { follows with link := rfl }
  | system info =>
    rw [apply, onSystem_frame]
    exact { follows with version := rfl }
  | rateLimit allocation => exact { follows with allocation := rfl }
  | cache raw =>
    cases outcome : CacheEvent.ofJson raw now with
    | ok event =>
      have events : acceptedEvents ((now, .cache raw) :: run) = event :: acceptedEvents run := by
        exact List.filterMap_cons_some (by simp only [Message.accepted?, outcome])
      have refused : rejections ((now, .cache raw) :: run) = rejections run := by
        exact List.filterMap_cons_none (by simp only [Message.rejected?, outcome])
      rw [apply_accepted m outcome]
      refine { follows with
        history := ?_, received := ?_, dropped := ?_, lastEventAt := ?_ }
      · rw [events]
        exact History.insert_holds follows.history event
      · rw [events, List.length_cons, ← follows.received]
      · rw [refused]
        exact follows.dropped
      · rw [events]
        rfl
    | error reason =>
      have events : acceptedEvents ((now, .cache raw) :: run) = acceptedEvents run := by
        exact List.filterMap_cons_none (by simp only [Message.accepted?, outcome])
      have refused : rejections ((now, .cache raw) :: run) = reason :: rejections run := by
        exact List.filterMap_cons_some (by simp only [Message.rejected?, outcome])
      rw [apply_rejected m outcome]
      refine { follows with
        history := ?_, received := ?_, dropped := ?_, lastEventAt := ?_ }
      · rw [events]
        exact follows.history
      · rw [events]
        exact follows.received
      · rw [refused, List.length_cons, ← follows.dropped]
      · rw [events]
        exact follows.lastEventAt

theorem applyAll_follows (origin : Origin) (capacity : Nat)
    (messages : List (Instant × Message)) :
    Follows origin capacity messages.reverse ((start origin capacity).applyAll messages) :=
  applyAll_keeps (start_follows origin capacity) apply_follows messages

/-- The history holds the newest accepted events, one more than its capacity, so that it is never
empty once there was one. A rejected event is counted and changes nothing else. -/
theorem state_after_run (origin : Origin) (capacity : Nat) (messages : List (Instant × Message)) :
    let m := (start origin capacity).applyAll messages
    let events := acceptedEvents messages
    m.history.entries = events.reverse.take (capacity + 1) ∧
      m.history.length = min events.length (capacity + 1) ∧
      (∀ row, m.history.get? row = (events.reverse.take (capacity + 1))[row]?) ∧
      m.received = events.length ∧
      m.dropped = (rejections messages).length ∧
      m.lastEventAt = (m.history.get? 0).map CacheEvent.receivedAt ∧
      (m.lastEventAt = none ↔ events = []) ∧
      m.link = (links messages).getLast?.getD .disconnected ∧
      m.version = ((systems messages).getLast?.map SystemInfo.version).getD "" ∧
      m.allocation = (allocations messages).getLast?.getD 0 ∧
      m.origin = origin ∧
      m.history.capacity = capacity ∧
      ∀ now raw,
        match CacheEvent.ofJson raw now with
        | .ok event => (m.apply now (.cache raw)).2 = .accepted event.kind
        | .error reason =>
          m.apply now (.cache raw) = ({ m with dropped := m.dropped + 1 }, .rejected reason) := by
  intro m events
  have follows : Follows origin capacity messages.reverse m :=
    applyAll_follows origin capacity messages
  have reversed : acceptedEvents messages.reverse = events.reverse := List.filterMap_reverse
  have holds := follows.history
  have received := follows.received
  have lastEventAt := follows.lastEventAt
  rw [reversed] at holds received lastEventAt
  have entries : m.history.entries = events.reverse.take (capacity + 1) := by
    rw [holds, follows.capacity]
  refine ⟨entries, ?_, ?_, ?_, ?_, ?_, ?_, ?_, ?_, ?_, follows.origin, follows.capacity, ?_⟩
  · rw [holds.length, List.length_reverse, follows.capacity]
  · intro row
    rw [History.get?, entries]
  · rw [received, List.length_reverse]
  · rw [follows.dropped, rejections, List.filterMap_reverse, List.length_reverse]
    rfl
  · rw [lastEventAt, holds.newest]
  · rw [lastEventAt, Option.map_eq_none_iff, List.head?_eq_none_iff, List.reverse_eq_nil_iff]
  · rw [follows.link, links, List.filterMap_reverse, List.head?_reverse]
    rfl
  · rw [follows.version, systems, List.filterMap_reverse, List.head?_reverse]
    rfl
  · rw [follows.allocation, allocations, List.filterMap_reverse, List.head?_reverse]
    rfl
  · intro now raw
    split
    · next event accepted => rw [apply_accepted m accepted]
    · next reason rejected => exact apply_rejected m rejected

end Monitor

end CacheWatch
