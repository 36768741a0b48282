import CacheWatch.Proofs.Channel.Retry
import CacheWatch.Proofs.Channel.Timer

/-! Time arithmetic that can fail.
A sum of durations fails beyond the longest one, an instant beyond the last one, and a timer without
a period. A transport that fails there is the one that computes without bounds, because no opening
and no setting holds more than a 64-bit word of milliseconds.
-/
namespace CacheWatch

/-- The first instant that is out of range: seconds are counted by a signed 64-bit word. -/
def instantBound : Nat := seconds (Word.bound 63)

def sumOfDurations? (a b : Nat) : Option Nat :=
  if a + b ≤ longestDuration then some (a + b) else none

def instantAfter? (instant duration : Nat) : Option Nat :=
  if instant + duration < instantBound then some (instant + duration) else none

def timer? (first period : Nat) : Option Heartbeat :=
  if period = 0 then none else some ⟨period, first⟩

namespace Session

def onOpening? (s : Session) (now : Nat) (h : Handshake) : Option (Session × Step) := do
  let interval := period h
  let window ← sumOfDurations? interval (millis h.pingTimeout)
  match s.revision with
  | .v3 =>
    let first ← instantAfter? now interval
    let heartbeat ← timer? first interval
    some ({ s with window, heartbeat := some heartbeat }, .proceed)
  | .v4 => some ({ s with window }, .reply (.message Packet.join))

def onItem? (s : Session) (now : Nat) (item : Item) : Option (Session × Step) :=
  match item.opening? with
  | some h => s.onOpening? now h
  | none => some (s.onItem now item)

def receive? (s : Session) (now : Nat) (item : Item) : Option Reaction := do
  let (next, step) ← s.onItem? now item
  some (next.carryOut step)

end Session

/-- One turn of a session. The deadline is computed before anything is waited for. -/
def Live.turn? (l : Live) (now : Nat) (s : Stimulus) : Option (Live × Session.Reaction) := do
  let _ ← instantAfter? l.lastSeen l.session.window
  match s with
  | .item item =>
    let reaction ← l.session.receive? now item
    some (⟨reaction.session, now⟩, reaction)
  | other => some (l.react now other)

namespace RetryDelay

def next? (d : RetryDelay) : Option (Nat × RetryDelay) := do
  let twice ← sumOfDurations? d.current d.current
  some (d.current, { d with current := min twice d.max })

def afterSession? (d : RetryDelay) (established : Bool) : Option (Nat × RetryDelay) :=
  if established then d.reset.next? else d.next?

end RetryDelay

namespace Transport

def lose? (t : Transport) (now : Nat) (established : Bool) (loss : Loss) :
    Option (Transport × Message) := do
  let (delay, next) ← t.delay.afterSession? established
  some ({ t with
      attempt := if established then 0 else t.attempt
      delay := next
      phase := .waiting (now + delay) }, .disconnected loss.reason)

def step? (t : Transport) (now : Nat) (o : Occurrence) : Option (Transport × Output) :=
  match t.phase, o with
  | .dialling, .refused cause => do
    let (t, message) ← t.lose? now false (.transport cause)
    some (t, ⟨[], [message]⟩)
  | .live l, .stimulus s => do
    let (l, reaction) ← l.turn? now s
    match reaction.loss with
    | none => some ({ t with phase := .live l }, ⟨reaction.replies, reaction.messages⟩)
    | some loss =>
      let (t, message) ← t.lose? now l.session.established loss
      some (t, ⟨reaction.replies, reaction.messages ++ [message]⟩)
  | _, _ => some (t.step now o)

/-- The transport after occurrences, unless its arithmetic fails at one of them. -/
def after? (t : Transport) : List (Nat × Occurrence) → Option Transport
  | [] => some t
  | (now, o) :: rest => do
    let (t, _) ← t.step? now o
    t.after? rest

end Transport

/-! The bounds from which it follows that nothing fails. -/

def longestMillis : Nat := Word.bound 64 - 1

theorem le_longestMillis {n : Nat} : Word.fits 64 n ↔ n ≤ longestMillis := by
  simp only [Word.fits, longestMillis, decide_eq_true_eq]
  exact Nat.lt_iff_le_pred (Nat.two_pow_pos 64)

theorem millis_le_longest_sum {n : Nat} (le : n ≤ 2 * longestMillis) :
    millis n ≤ longestDuration := by
  have all : millis (2 * longestMillis) ≤ longestDuration := by decide
  exact Nat.le_trans (millis_le le) all

def Early (instant : Nat) : Prop := instant < seconds (2 ^ 62)

theorem Early.add {instant n : Nat} (early : Early instant) (le : n ≤ 2 * longestMillis) :
    instant + millis n < instantBound := by
  have room : seconds (2 ^ 62) + millis (2 * longestMillis) ≤ instantBound := by decide
  have shorter := millis_le le
  unfold Early at early
  omega

structure Handshake.Fits (h : Handshake) : Prop where
  interval : h.pingInterval ≤ longestMillis
  timeout : h.pingTimeout ≤ longestMillis

namespace Handshake

theorem word?_fits {value : Json.Tree} {n : Nat} (read : word? value = some n) :
    n ≤ longestMillis := by
  cases value with
  | number written =>
    rw [word?] at read
    split_ifs at read with guard
    cases read
    exact le_longestMillis.mp (Bool.and_eq_true _ _ ▸ guard).2
  | _ => contradiction

theorem single_word?_fits {key : String} {members : List (String × Json.Tree)} {n : Nat}
    (read : single key word? 0 members = some n) : n ≤ longestMillis := by
  unfold single at read
  split at read
  · cases read
    exact Nat.zero_le _
  · exact word?_fits read
  · contradiction

theorem ofMembers?_fits {members : List (String × Json.Tree)} {h : Handshake}
    (read : ofMembers? members = some h) : h.Fits := by
  simp only [ofMembers?, Option.bind_eq_bind, Option.bind_eq_some_iff] at read
  obtain ⟨sid, -, upgrades, -, interval, first, timeout, second, whole⟩ := read
  cases whole
  exact ⟨single_word?_fits first, single_word?_fits second⟩

theorem ofTree?_fits {tree : Json.Tree} {h : Handshake} (read : ofTree? tree = some h) :
    h.Fits := by
  cases tree with
  | object members =>
    obtain ⟨resolved, -, read⟩ := Option.bind_eq_some_iff.mp read
    exact ofMembers?_fits read
  | array items =>
    rw [ofTree?] at read
    split_ifs at read
    exact ofMembers?_fits read
  | _ => contradiction

end Handshake

theorem Frame.opening_fits {text : String} {h : Handshake}
    (decoded : decode text = .ok (.opening h)) : h.Fits := by
  unfold decode decodeChars at decoded
  split at decoded
  · contradiction
  · next kind data _ =>
    by_cases zero : kind = '0'
    · rw [if_pos zero] at decoded
      split at decoded
      · next read =>
        cases decoded
        obtain ⟨tree, -, inside⟩ := Option.bind_eq_some_iff.mp read
        exact Handshake.ofTree?_fits inside
      · contradiction
    · rw [if_neg zero] at decoded
      split_ifs at decoded <;> cases decoded

theorem Item.opening?_fits {item : Item} {h : Handshake} (opening : item.opening? = some h) :
    h.Fits := by
  cases item with
  | text frame => exact Frame.opening_fits (Item.opening?_text.mp opening)
  | _ => contradiction

theorem sumOfDurations?_of_le {a b : Nat} (le : a + b ≤ longestDuration) :
    sumOfDurations? a b = some (a + b) := if_pos le

theorem instantAfter?_of_lt {instant duration : Nat} (lt : instant + duration < instantBound) :
    instantAfter? instant duration = some (instant + duration) := if_pos lt

theorem timer?_of_pos {first period : Nat} (positive : 0 < period) :
    timer? first period = some ⟨period, first⟩ := if_neg (Nat.ne_of_gt positive)

namespace Session

structure Timed (s : Session) : Prop where
  awake : 0 < s.window
  window : ∃ n, n ≤ 2 * longestMillis ∧ s.window = millis n
  paced : ∀ heartbeat ∈ s.heartbeat, 0 < heartbeat.period ∧ heartbeat.period ≤ s.window
  joined : s.revision = .v4 → s.heartbeat = none

theorem timed_start (revision : Revision) : (start revision).Timed where
  awake := (by decide : 0 < handshakeWindow)
  window := ⟨20000, by decide, rfl⟩
  paced := by simp [start]
  joined := fun _ => rfl

theorem period_pos (h : Handshake) : 0 < period h :=
  millis_pos (Nat.lt_of_lt_of_le Nat.zero_lt_one (Nat.le_max_right _ _))

variable {s next : Session} {h : Handshake} {now : Nat}

theorem period_fits (fits : h.Fits) : max h.pingInterval 1 ≤ longestMillis :=
  Nat.max_le.mpr ⟨fits.interval, by decide⟩

theorem opening_in_range (fits : h.Fits) (early : Early now) :
    period h + millis h.pingTimeout ≤ longestDuration ∧ now + period h < instantBound ∧
      now + (period h + millis h.pingTimeout) < instantBound := by
  have interval := period_fits fits
  have timeout := fits.timeout
  rw [period_add_timeout]
  exact ⟨millis_le_longest_sum (by omega), early.add (by omega), early.add (by omega)⟩

theorem onOpening?_eq (fits : h.Fits) (early : Early now) :
    s.onOpening? now h = some (s.onOpening now h) := by
  obtain ⟨window, first, -⟩ := opening_in_range fits early
  simp only [onOpening?, onOpening, sumOfDurations?_of_le window, instantAfter?_of_lt first,
    timer?_of_pos (period_pos h), Option.bind_eq_bind, Option.bind_some]
  cases s.revision <;> rfl

theorem timed_onOpening (timed : s.Timed) (fits : h.Fits) : (s.onOpening now h).1.Timed := by
  have window := s.onOpening_window now h
  have revision := s.onOpening_revision now h
  have interval := period_fits fits
  have timeout := fits.timeout
  have positive := period_pos h
  refine ⟨by omega, ⟨max h.pingInterval 1 + h.pingTimeout, by omega, ?_⟩, ?_, ?_⟩
  · rw [window, period_add_timeout]
  · intro heartbeat found
    rw [window]
    cases framing : s.revision with
    | v3 =>
      rw [onOpening, framing] at found
      cases found
      exact ⟨positive, Nat.le_add_right _ _⟩
    | v4 =>
      rw [onOpening, framing] at found
      have kept : heartbeat ∈ s.heartbeat := found
      rw [timed.joined framing] at kept
      contradiction
  · intro framing
    rw [revision] at framing
    rw [onOpening, framing]
    exact timed.joined framing

theorem Timed.same (timed : s.Timed) (same : SameTimers s next) : next.Timed := by
  rw [SameTimers] at same
  rw [same]
  exact ⟨timed.awake, timed.window, timed.paced, timed.joined⟩

theorem receive?_eq (early : Early now) (item : Item) :
    s.receive? now item = some (s.receive now item) := by
  have same : s.onItem? now item = some (s.onItem now item) := by
    cases opening : item.opening? with
    | none => simp only [onItem?, opening]
    | some h =>
      simp only [onItem?, opening]
      rw [onOpening?_eq (Item.opening?_fits opening) early, s.onItem_opening now opening]
  rw [receive?, same]
  rfl

theorem timed_receive (timed : s.Timed) (item : Item) : (s.receive now item).session.Timed := by
  cases opening : item.opening? with
  | some h =>
    rw [s.receive_opening now opening]
    exact timed_onOpening timed (Item.opening?_fits opening)
  | none => exact timed.same (s.receive_sameTimers now opening)

theorem timed_beat (timed : s.Timed) : s.beat.session.Timed := by
  unfold beat
  split
  · exact timed
  · next heartbeat found =>
    refine ⟨timed.awake, timed.window, ?_, fun framing => ?_⟩
    · rintro _ ⟨⟩
      exact timed.paced heartbeat found
    · have silent := timed.joined framing
      rw [found] at silent
      contradiction

end Session

namespace Live

structure Timed (l : Live) : Prop where
  session : l.session.Timed
  seen : Early l.lastSeen

variable {l : Live} {now : Nat}

theorem Timed.in_range (timed : l.Timed) : l.deadline < instantBound := by
  obtain ⟨n, le, window⟩ := timed.session.window
  rw [Live.deadline, window]
  exact timed.seen.add le

theorem turn?_eq (timed : l.Timed) (early : Early now) (s : Stimulus) :
    l.turn? now s = some (l.react now s) := by
  have deadline := instantAfter?_of_lt timed.in_range
  cases s with
  | item item =>
    simp only [turn?, deadline, Session.receive?_eq early, Option.bind_eq_bind, Option.bind_some]
    rfl
  | beat => simp only [turn?, deadline, Option.bind_eq_bind, Option.bind_some]
  | silence => simp only [turn?, deadline, Option.bind_eq_bind, Option.bind_some]
  | unsent cause => simp only [turn?, deadline, Option.bind_eq_bind, Option.bind_some]

theorem timed_react (timed : l.Timed) (early : Early now) (s : Stimulus) :
    (l.react now s).1.Timed := by
  cases s with
  | item item => exact ⟨Session.timed_receive timed.session item, early⟩
  | beat => exact ⟨Session.timed_beat timed.session, timed.seen⟩
  | silence => exact timed
  | unsent cause => exact timed

end Live

namespace RetryDelay

structure Fits (d : RetryDelay) : Prop where
  initial : d.initial ≤ millis longestMillis
  current : d.current ≤ millis longestMillis
  max : d.max ≤ millis longestMillis

variable {d : RetryDelay}

theorem Fits.twice (fits : d.Fits) : d.current + d.current ≤ longestDuration := by
  have all : millis longestMillis + millis longestMillis ≤ longestDuration := by decide
  have := fits.current
  omega

theorem next?_eq (fits : d.Fits) : d.next? = some d.next := by
  unfold next? next
  have twice := fits.twice
  have doubled : doubled d.current = d.current + d.current := by
    unfold RetryDelay.doubled
    omega
  rw [sumOfDurations?_of_le twice, doubled]
  rfl

theorem next_fits (fits : d.Fits) : d.next.2.Fits :=
  ⟨fits.initial, Nat.le_trans (Nat.min_le_right _ _) fits.max, fits.max⟩

theorem Fits.reset (fits : d.Fits) : d.reset.Fits := ⟨fits.initial, fits.initial, fits.max⟩

theorem afterSession?_eq (fits : d.Fits) (established : Bool) :
    d.afterSession? established = some (d.afterSession established) := by
  cases established with
  | false => exact next?_eq fits
  | true => exact next?_eq fits.reset

theorem afterSession_fits (fits : d.Fits) (established : Bool) :
    (d.afterSession established).2.Fits := by
  cases established with
  | false => exact next_fits fits
  | true => exact next_fits fits.reset

end RetryDelay

namespace Transport

structure Timed (t : Transport) : Prop where
  delay : t.delay.Fits
  live : ∀ l, t.phase = .live l → l.Timed

variable {t : Transport} {now : Nat}

theorem lose?_eq (fits : t.delay.Fits) (established : Bool) (loss : Loss) :
    t.lose? now established loss = some (t.lose now established loss) := by
  unfold lose? lose
  rw [RetryDelay.afterSession?_eq fits]
  rfl

theorem timed_lose (fits : t.delay.Fits) (established : Bool) (loss : Loss) :
    (t.lose now established loss).1.Timed :=
  ⟨RetryDelay.afterSession_fits fits established, fun l live => by contradiction⟩

theorem step?_eq (timed : t.Timed) (early : Early now) (o : Occurrence) :
    t.step? now o = some (t.step now o) := by
  unfold step?
  split
  · next phase =>
    rw [lose?_eq timed.delay]
    simp only [step, phase]
    rfl
  · next l s phase =>
    rw [Live.turn?_eq (timed.live l phase) early]
    simp only [step, phase]
    cases ending : (l.react now s).2.loss with
    | none =>
      simp only [Option.bind_eq_bind, Option.bind_some, ending]
    | some loss =>
      simp only [Option.bind_eq_bind, Option.bind_some, ending, lose?_eq timed.delay]
  · rfl

theorem timed_step (timed : t.Timed) (early : Early now) (o : Occurrence) :
    (t.step now o).1.Timed := by
  unfold step
  split
  · next cause _ => exact timed_lose timed.delay false (.transport cause)
  · refine ⟨timed.delay, fun l live => ?_⟩
    cases live
    exact ⟨Session.timed_start t.revision, early⟩
  · next l s phase =>
    have next := Live.timed_react (timed.live l phase) early s
    simp only
    split
    · refine ⟨timed.delay, fun l live => ?_⟩
      cases live
      exact next
    · next loss _ => exact timed_lose timed.delay _ loss
  · exact ⟨timed.delay, fun l live => by contradiction⟩
  · exact timed

theorem after?_eq (timed : t.Timed) {occurrences : List (Nat × Occurrence)}
    (early : ∀ occurrence ∈ occurrences, Early occurrence.1) :
    t.after? occurrences = some (t.after occurrences) ∧ (t.after occurrences).Timed := by
  induction occurrences generalizing t with
  | nil => exact ⟨rfl, timed⟩
  | cons occurrence rest ih =>
    obtain ⟨now, o⟩ := occurrence
    obtain ⟨first, others⟩ := List.forall_mem_cons.mp early
    obtain ⟨same, last⟩ := ih (timed_step timed first o) others
    refine ⟨?_, last⟩
    rw [after?, step?_eq timed first]
    exact same

theorem timed_start (settings : ServerSettings) (o : TargetOverrides)
    (initial : Word.fits 64 settings.initialDelay) (bound : Word.fits 64 settings.maxDelay) :
    (start settings o).1.Timed := by
  have first := millis_le (le_longestMillis.mp initial)
  have most := millis_le (le_longestMillis.mp bound)
  refine ⟨?_, fun l live => ?_⟩
  · rw [start_delay]
    exact ⟨first, first, most⟩
  · have begun : (start settings o).1.phase = .dialling ∨ (start settings o).1.phase = .over := by
      unfold start
      split
      · exact .inl rfl
      · exact .inr rfl
    rcases begun with phase | phase
    · rw [phase] at live
      cases live
    · rw [phase] at live
      cases live

/-- Whatever handshakes a server sends, as many as it likes, and whatever delays the settings hold,
no arithmetic of a transport fails: neither for a window or a deadline, nor for the first instant
and the period of a timer, nor for a doubled delay. -/
theorem arithmetic_never_fails (settings : ServerSettings) (o : TargetOverrides)
    (initial : Word.fits 64 settings.initialDelay) (bound : Word.fits 64 settings.maxDelay)
    (occurrences : List (Nat × Occurrence))
    (early : ∀ occurrence ∈ occurrences, occurrence.1 < seconds (2 ^ 62)) :
    let t := (start settings o).1.after occurrences
    (start settings o).1.after? occurrences = some t ∧
      2 * t.delay.current ≤ longestDuration ∧
      (∀ l, t.phase = .live l →
        0 < l.session.window ∧ l.session.window ≤ longestDuration ∧ l.deadline < instantBound ∧
          ∀ heartbeat ∈ l.session.heartbeat,
            0 < heartbeat.period ∧ heartbeat.period ≤ l.session.window) ∧
      ∀ (text : String) (h : Handshake) (s : Session) (now : Nat),
        Frame.decode text = .ok (.opening h) → now < seconds (2 ^ 62) →
          let opened := (s.onOpening now h).1
          0 < Session.period h ∧ Session.period h ≤ opened.window ∧
            opened.window ≤ longestDuration ∧ now + Session.period h < instantBound ∧
              now + opened.window < instantBound := by
  intro t
  obtain ⟨same, timed⟩ := after?_eq (timed_start settings o initial bound) early
  refine ⟨same, ?_, fun l live => ?_, fun text h s now decoded earlier => ?_⟩
  · rw [Nat.two_mul]
    exact timed.delay.twice
  · have kept := timed.live l live
    obtain ⟨n, le, window⟩ := kept.session.window
    exact ⟨kept.session.awake, window ▸ millis_le_longest_sum le, kept.in_range, kept.session.paced⟩
  · intro opened
    have window : opened.window = Session.period h + millis h.pingTimeout :=
      s.onOpening_window now h
    obtain ⟨sum, first, deadline⟩ := Session.opening_in_range (Frame.opening_fits decoded) earlier
    rw [window]
    exact ⟨Session.period_pos h, Nat.le_add_right _ _, sum, first, deadline⟩

/-- The largest delays, and the largest opening in the last second of the clock, twice, with a
heartbeat that is asked for without a period between the two. -/
theorem arithmetic_never_fails_largest_words :
    ∃ settings occurrences, settings.initialDelay = 2 ^ 64 - 1 ∧ settings.maxDelay = 2 ^ 64 - 1 ∧
      (∀ occurrence ∈ occurrences, occurrence.1 < seconds (2 ^ 62)) ∧
      ∃ t l, (start settings ⟨none, none⟩).1.after? occurrences = some t ∧ t.phase = .live l ∧
        l.session.window = millis (2 * (2 ^ 64 - 1)) ∧ l.deadline < instantBound := by
  let settings :=
    { ServerSettings.default with initialDelay := 2 ^ 64 - 1, maxDelay := 2 ^ 64 - 1 }
  let largest : Item := .text
    "0\x7b\"pingInterval\":18446744073709551615,\"pingTimeout\":18446744073709551615\x7d"
  let last := seconds (2 ^ 62) - 1
  let occurrences : List (Nat × Occurrence) :=
    [(0, .refused ""), (1, .retry), (1, .opened), (2, .stimulus (.item largest)),
      (3, .stimulus (.item (.text "0\x7b\x7d"))), (last, .stimulus (.item largest))]
  have early : ∀ occurrence ∈ occurrences, occurrence.1 < seconds (2 ^ 62) := by decide +kernel
  obtain ⟨same, -, live⟩ := arithmetic_never_fails settings ⟨none, none⟩ (by decide +kernel)
    (by decide +kernel) occurrences early
  let heartbeat : Heartbeat := ⟨millis (2 ^ 64 - 1), last + millis (2 ^ 64 - 1)⟩
  let l : Live := ⟨⟨.v3, false, millis (2 * (2 ^ 64 - 1)), some heartbeat⟩, last⟩
  have phase : ((start settings ⟨none, none⟩).1.after occurrences).phase = .live l := by
    decide +kernel
  exact ⟨settings, occurrences, rfl, rfl, early, _, l, same, phase, rfl, (live.1 l phase).2.2.1⟩

end Transport

end CacheWatch
