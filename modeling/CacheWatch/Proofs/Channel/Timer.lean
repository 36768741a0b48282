import CacheWatch.Proofs.Channel.Attempt

/-! What moves the timers of a session.
Only an opening does among the items, and only a beat among the rest. An item is a sign of life, so
it is never taken for silence, and no answer to it is a heartbeat.
-/
namespace CacheWatch

theorem millis_add (m n : Nat) : millis (m + n) = millis m + millis n := by
  rw [millis, millis, millis, Nat.add_mul]

def Frame.isPing : Frame → Bool
  | ping _ => true
  | _ => false

/-- The handshake of an item that opens the session; a frame that cannot be decoded opens none. -/
def Item.opening? : Item → Option Handshake
  | .text frame =>
    match Frame.decode frame with
    | .ok (.opening h) => some h
    | _ => none
  | _ => none

theorem Item.opening?_text {frame : String} {h : Handshake} :
    (Item.text frame).opening? = some h ↔ Frame.decode frame = .ok (.opening h) := by
  rw [opening?]
  constructor
  · intro opening
    split at opening
    · next decoded => rw [decoded, Option.some.inj opening]
    · contradiction
  · intro decoded
    rw [decoded]

theorem Loss.eq_of_reason {loss : Loss} (same : loss.reason = "heartbeat timeout") :
    loss = .heartbeatTimeout := by
  cases loss with
  | heartbeatTimeout => rfl
  | connectionClosed => exact absurd same (by decide)
  | closedByServer => exact absurd same (by decide)
  | namespaceClosed => exact absurd same (by decide)
  | refused payload =>
    have whole : "server refused connection: " ++ payload.text = "heartbeat timeout" := same
    have first := congrArg (fun text => text.toList.head?) whole
    simp [String.toList_append] at first
  | transport cause =>
    have whole : "transport error: " ++ cause = "heartbeat timeout" := same
    have first := congrArg (fun text => text.toList.head?) whole
    simp [String.toList_append] at first

def Step.Calm : Step → Prop
  | proceed => True
  | reply frame => frame.isPing = false
  | forward _ => True
  | finish loss => loss ≠ .heartbeatTimeout

namespace Session

structure Reaction.Calm (reaction : Reaction) : Prop where
  replies : ∀ frame ∈ reaction.replies, frame.isPing = false
  loss : reaction.loss ≠ some .heartbeatTimeout

def SameTimers (s next : Session) : Prop := next = { s with established := next.established }

variable {s next last : Session}

theorem SameTimers.refl (s : Session) : SameTimers s s := rfl

theorem SameTimers.trans (first : SameTimers s next) (second : SameTimers next last) :
    SameTimers s last := by
  rw [SameTimers, second, first]

theorem SameTimers.eqns (same : SameTimers s next) :
    next.revision = s.revision ∧ next.window = s.window ∧ next.heartbeat = s.heartbeat := by
  rw [SameTimers] at same
  rw [same]
  exact ⟨rfl, rfl, rfl⟩

theorem deliver_sameTimers (s : Session) (message : Message) :
    SameTimers s (s.deliver message).session := by
  unfold deliver
  split <;> rfl

theorem carryOut_sameTimers (s : Session) (step : Step) :
    SameTimers s (s.carryOut step).session := by
  cases step with
  | forward message => exact s.deliver_sameTimers message
  | proceed => rfl
  | reply frame => rfl
  | finish loss => rfl

theorem carryOut_calm (s : Session) {step : Step} (calm : step.Calm) : (s.carryOut step).Calm := by
  cases step with
  | proceed => exact ⟨by simp [carryOut, quiet], by simp [carryOut, quiet]⟩
  | reply frame =>
    refine ⟨fun sent member => ?_, by simp [carryOut]⟩
    rw [List.mem_singleton.mp member]
    exact calm
  | forward message =>
    rw [carryOut, deliver]
    split <;> exact ⟨by simp, by simp⟩
  | finish loss => exact ⟨by simp [carryOut], fun same => calm (Option.some.inj same)⟩

theorem onPacket_sameTimers (s : Session) (packet : Packet) :
    SameTimers s (s.onPacket packet).1 := by
  unfold onPacket
  split
  · split <;> rfl
  · rfl
  · rfl
  · split
    · split <;> rfl
    · rfl
  · rfl
  · rfl

theorem onPacket_calm (s : Session) (packet : Packet) : (s.onPacket packet).2.Calm := by
  unfold onPacket
  split
  · split <;> trivial
  · dsimp only
    split
    · exact Loss.noConfusion
    · trivial
  · dsimp only
    split
    · exact Loss.noConfusion
    · trivial
  · split
    · split <;> trivial
    · trivial
  · trivial
  · trivial

theorem onData_sameTimers (s : Session) (data : String) : SameTimers s (s.onData data).1 := by
  unfold onData
  split
  · exact s.onPacket_sameTimers _
  · rfl

theorem onData_calm (s : Session) (data : String) : (s.onData data).2.Calm := by
  unfold onData
  split
  · exact s.onPacket_calm _
  · trivial

theorem onOpening_revision (s : Session) (now : Nat) (h : Handshake) :
    (s.onOpening now h).1.revision = s.revision := by
  obtain ⟨revision, established, window, heartbeat⟩ := s
  cases revision <;> rfl

theorem onOpening_window (s : Session) (now : Nat) (h : Handshake) :
    (s.onOpening now h).1.window = period h + millis h.pingTimeout := by
  unfold onOpening
  split <;> rfl

theorem period_add_timeout (h : Handshake) :
    period h + millis h.pingTimeout = millis (max h.pingInterval 1 + h.pingTimeout) := by
  rw [period, millis_add]

theorem onOpening_calm (s : Session) (now : Nat) (h : Handshake) : (s.onOpening now h).2.Calm := by
  unfold onOpening
  split
  · trivial
  · rfl

theorem onItem_calm (s : Session) (now : Nat) (item : Item) : (s.onItem now item).2.Calm := by
  cases item with
  | text frame =>
    rw [onItem, onText]
    split
    · trivial
    · exact s.onOpening_calm now _
    · exact Loss.noConfusion
    · rfl
    · exact s.onData_calm _
    · trivial
    · trivial
    · trivial
  | binary => trivial
  | control => trivial
  | closed => exact Loss.noConfusion
  | failed cause => exact Loss.noConfusion

theorem receive_calm (s : Session) (now : Nat) (item : Item) : (s.receive now item).Calm :=
  carryOut_calm _ (s.onItem_calm now item)

theorem onItem_opening (s : Session) (now : Nat) {item : Item} {h : Handshake}
    (opening : item.opening? = some h) : s.onItem now item = s.onOpening now h := by
  cases item with
  | text frame => rw [onItem, onText, Item.opening?_text.mp opening]
  | binary => contradiction
  | control => contradiction
  | closed => contradiction
  | failed cause => contradiction

theorem receive_opening (s : Session) (now : Nat) {item : Item} {h : Handshake}
    (opening : item.opening? = some h) :
    (s.receive now item).session = (s.onOpening now h).1 := by
  rw [receive, s.onItem_opening now opening, onOpening]
  cases s.revision <;> rfl

theorem receive_sameTimers (s : Session) (now : Nat) {item : Item} (other : item.opening? = none) :
    SameTimers s (s.receive now item).session := by
  refine SameTimers.trans ?_ (carryOut_sameTimers _ _)
  cases item with
  | text frame =>
    change SameTimers s (s.onText now frame).1
    unfold onText
    split
    · rfl
    · next decoded =>
      rw [Item.opening?_text.mpr decoded] at other
      contradiction
    · rfl
    · rfl
    · exact s.onData_sameTimers _
    · rfl
    · rfl
    · rfl
  | binary => rfl
  | control => rfl
  | closed => rfl
  | failed cause => rfl

theorem beat_loss (s : Session) : s.beat.loss = none := by
  unfold beat
  split <;> rfl

end Session

namespace Live

structure Waits (l : Live) (now : Nat) : Prop where
  silence : now ≤ l.deadline
  beat : ∀ due ∈ l.beatDue?, now ≤ due

/-- Timers go off at their instant, and in any order if it is the same one. -/
def Ready (l : Live) (now : Nat) : Stimulus → Prop
  | .item _ => True
  | .beat => l.beatDue? = some now
  | .silence => l.deadline = now
  | .unsent _ => True

instance (l : Live) (now : Nat) : Decidable (l.Waits now) :=
  decidable_of_iff (now ≤ l.deadline ∧ ∀ due ∈ l.beatDue?, now ≤ due)
    ⟨fun waits => ⟨waits.1, waits.2⟩, fun waits => ⟨waits.silence, waits.beat⟩⟩

instance (l : Live) (now : Nat) (s : Stimulus) : Decidable (l.Ready now s) :=
  match s with
  | .item _ => inferInstanceAs (Decidable True)
  | .beat => inferInstanceAs (Decidable (l.beatDue? = some now))
  | .silence => inferInstanceAs (Decidable (l.deadline = now))
  | .unsent _ => inferInstanceAs (Decidable True)

variable {l : Live} {now : Nat} {heartbeat : Heartbeat}

theorem beatDue?_some (found : l.session.heartbeat = some heartbeat) :
    l.beatDue? = some heartbeat.due := by
  rw [beatDue?, found, Option.map_some]

theorem waits_of_due (found : l.session.heartbeat = some heartbeat) (silence : now ≤ l.deadline)
    (before : now ≤ heartbeat.due) : l.Waits now := by
  refine ⟨silence, ?_⟩
  rw [beatDue?_some found]
  rintro due ⟨⟩
  exact before

theorem due?_ready (waits : l.Waits now) {s : Stimulus} (due : l.due? now = some s) :
    (s = .beat ∨ s = .silence) ∧ l.Ready now s := by
  have silent (reached : l.deadline ≤ now) : l.Ready now .silence :=
    Nat.le_antisymm reached waits.silence
  unfold Live.due? at due
  split at due
  · next beat found =>
    split at due
    · next reached =>
      have same : beat = now := Nat.le_antisymm reached.1 (waits.beat beat found)
      rw [← Option.some.inj due]
      exact ⟨.inl rfl, same ▸ found⟩
    · split at due
      · next reached =>
        rw [← Option.some.inj due]
        exact ⟨.inr rfl, silent reached⟩
      · contradiction
  · split at due
    · next reached =>
      rw [← Option.some.inj due]
      exact ⟨.inr rfl, silent reached⟩
    · contradiction

theorem due?_eq_none_iff :
    l.due? now = none ↔ now < l.deadline ∧ ∀ due ∈ l.beatDue?, now < due := by
  unfold Live.due?
  cases l.beatDue? with
  | none => simp
  | some beat =>
    simp only [Option.mem_some_iff, forall_eq']
    constructor
    · intro quiet
      split at quiet
      · contradiction
      · split at quiet
        · contradiction
        · omega
    · rintro ⟨awake, later⟩
      rw [if_neg (by omega), if_neg (by omega)]

end Live

end CacheWatch
