import CacheWatch.Proofs.Channel.Timer
import Mathlib.Logic.Relation

/-! Runs of a session under a clock.
What is sent is sent at once, and a timer goes off at its instant. A session keeps a deadline that
only the server can move, and a schedule of heartbeats that only an opening can move. All that is
past is given latest first.
-/
namespace CacheWatch

structure Incident where
  instant : Nat
  stimulus : Stimulus
  sent : List Frame

namespace Incident

def opening? (i : Incident) : Option Handshake := i.stimulus.item?.bind Item.opening?

def beats (i : Incident) : List Nat := (i.sent.filter Frame.isPing).map fun _ => i.instant

end Incident

structure Vigil where
  live : Live
  clock : Nat
  past : List Incident

namespace Vigil

/-! What a past says about timers, beginning with its latest opening. -/

def opened? (past : List Incident) : Option (Nat × Handshake) :=
  past.findSome? fun i => i.opening?.map (i.instant, ·)

def since (past : List Incident) : List Incident := past.takeWhile (·.opening?.isNone)

def window (past : List Incident) : Nat :=
  match opened? past with
  | none => seconds 20
  | some (_, h) => millis (max h.pingInterval 1 + h.pingTimeout)

def lastItem (upgrade : Nat) : List Incident → Nat
  | [] => upgrade
  | i :: past => if i.stimulus.item?.isSome then i.instant else lastItem upgrade past

def beats (past : List Incident) : List Nat := past.flatMap Incident.beats

def schedule (opened : Nat) (h : Handshake) : Nat → List Nat
  | 0 => []
  | n + 1 => (opened + (n + 1) * millis (max h.pingInterval 1)) :: schedule opened h n

def heartbeat? : Revision → List Incident → Option Heartbeat
  | .v4, _ => none
  | .v3, past => (opened? past).map fun (opened, h) =>
    let period := millis (max h.pingInterval 1)
    ⟨period, opened + ((beats (since past)).length + 1) * period⟩

/-- The instant at which the earliest of later incidents came, or the clock if there is none. -/
def reached (clock : Nat) (later : List Incident) : Nat :=
  (later.getLast?.map Incident.instant).getD clock

def start (revision : Revision) (upgrade : Nat) : Vigil := ⟨.start revision upgrade, upgrade, []⟩

def incident (v : Vigil) (s : Stimulus) : Incident :=
  ⟨v.clock, s, (v.live.react v.clock s).2.replies⟩

def happen (v : Vigil) (s : Stimulus) : Vigil :=
  ⟨(v.live.react v.clock s).1, v.clock, v.incident s :: v.past⟩

/-- Time passes, but not beyond a timer. -/
inductive Step : Vigil → Vigil → Prop
  | wait (v : Vigil) (later : Nat) (forward : v.clock ≤ later) (waits : v.live.Waits later) :
      Step v { v with clock := later }
  | happen (v : Vigil) (s : Stimulus) (ready : v.live.Ready v.clock s)
      (alive : (v.live.react v.clock s).2.loss = none) : Step v (v.happen s)

structure Ends (v : Vigil) (s : Stimulus) (loss : Loss) : Prop where
  ready : v.live.Ready v.clock s
  lost : (v.live.react v.clock s).2.loss = some loss

structure Silent (v w : Vigil) : Prop where
  run : Relation.ReflTransGen Step v w
  beats : ∃ sent, w.past = sent ++ v.past ∧ ∀ i ∈ sent, i.stimulus = .beat
  deadline : w.live.deadline = v.live.deadline

def Run (revision : Revision) (upgrade : Nat) : Vigil → Prop :=
  Relation.ReflTransGen Step (start revision upgrade)

structure Keeps (revision : Revision) (upgrade : Nat) (v : Vigil) : Prop where
  framing : v.live.session.revision = revision
  patience : v.live.session.window = window v.past
  lastSeen : v.live.lastSeen = lastItem upgrade v.past
  timer : v.live.session.heartbeat = heartbeat? revision v.past
  waits : v.live.Waits v.clock
  scheduled : ∀ opened h, revision = .v3 → opened? v.past = some (opened, h) →
    beats (since v.past) = schedule opened h (beats (since v.past)).length
  unasked : revision = .v4 ∨ opened? v.past = none → beats v.past = []

variable {revision : Revision} {upgrade : Nat} {v : Vigil}

theorem opened?_opening {i : Incident} {h : Handshake} (opening : i.opening? = some h)
    (past : List Incident) : opened? (i :: past) = some (i.instant, h) := by
  rw [opened?, List.findSome?_cons, opening]
  rfl

theorem opened?_other {i : Incident} (other : i.opening? = none) (past : List Incident) :
    opened? (i :: past) = opened? past := by
  rw [opened?, List.findSome?_cons, other]
  rfl

theorem since_opening {i : Incident} {h : Handshake} (opening : i.opening? = some h)
    (past : List Incident) : since (i :: past) = [] := by
  rw [since, List.takeWhile_cons_of_neg (by simp [opening])]

theorem since_other {i : Incident} (other : i.opening? = none) (past : List Incident) :
    since (i :: past) = i :: since past := by
  rw [since, List.takeWhile_cons_of_pos (by simp [other])]
  rfl

theorem beats_nil_of_calm {i : Incident} (calm : ∀ frame ∈ i.sent, frame.isPing = false) :
    i.beats = [] := by
  have none : i.sent.filter Frame.isPing = [] := by
    refine List.filter_eq_nil_iff.mpr fun frame member => ?_
    rw [calm frame member]
    exact Bool.false_ne_true
  rw [Incident.beats, none, List.map_nil]

theorem beats_cons_calm {i : Incident} (calm : ∀ frame ∈ i.sent, frame.isPing = false)
    (past : List Incident) : beats (i :: past) = beats past := by
  rw [beats, List.flatMap_cons, beats_nil_of_calm calm, List.nil_append]
  rfl

theorem start_keeps (revision : Revision) (upgrade : Nat) :
    Keeps revision upgrade (start revision upgrade) where
  framing := rfl
  patience := rfl
  lastSeen := rfl
  timer := by cases revision <;> rfl
  waits := ⟨Nat.le_add_right _ _, fun due found => by contradiction⟩
  scheduled := fun opened h _ found => by contradiction
  unasked := fun _ => rfl

theorem Keeps.wait (keeps : Keeps revision upgrade v) {later : Nat} (waits : v.live.Waits later) :
    Keeps revision upgrade { v with clock := later } := { keeps with waits }

theorem heartbeat?_congr {past later : List Incident} (opened : opened? later = opened? past)
    (same : beats (since later) = beats (since past)) (revision : Revision) :
    heartbeat? revision later = heartbeat? revision past := by
  cases revision with
  | v3 => rw [heartbeat?, heartbeat?, opened, same]
  | v4 => rfl

theorem Keeps.opening (keeps : Keeps revision upgrade v) {item : Item} {h : Handshake}
    (found : item.opening? = some h) : Keeps revision upgrade (v.happen (.item item)) := by
  have opening : (v.incident (.item item)).opening? = some h := found
  have session : (v.happen (.item item)).live.session = (v.live.session.onOpening v.clock h).1 :=
    v.live.session.receive_opening v.clock found
  have calm : ∀ frame ∈ (v.incident (.item item)).sent, frame.isPing = false :=
    (v.live.session.receive_calm v.clock item).replies
  have opened : opened? (v.happen (.item item)).past = some (v.clock, h) :=
    opened?_opening opening v.past
  have begun : since (v.happen (.item item)).past = [] := since_opening opening v.past
  have timer : (v.happen (.item item)).live.session.heartbeat =
      heartbeat? revision (v.happen (.item item)).past := by
    have before := keeps.timer
    rw [session, Session.onOpening, keeps.framing]
    -- Nothing was sent yet since this opening, so the next heartbeat is the first of its schedule.
    cases revision with
    | v3 =>
      rw [heartbeat?, opened, begun]
      simp [Session.period, beats]
    | v4 => exact before
  refine ⟨?_, ?_, rfl, timer, ⟨Nat.le_add_right _ _, ?_⟩, ?_, ?_⟩
  · rw [session, Session.onOpening_revision, keeps.framing]
  · rw [session, Session.onOpening_window, Session.period_add_timeout, window, opened]
  · intro due next
    rw [Live.beatDue?, timer] at next
    cases revision with
    | v3 =>
      rw [heartbeat?, opened] at next
      rw [← Option.some.inj next]
      exact Nat.le_add_right _ _
    | v4 => contradiction
  · intro _ _ _ _
    rw [begun]
    rfl
  · intro unasked
    rw [happen, beats_cons_calm calm]
    refine keeps.unasked (unasked.imp_right fun none => ?_)
    rw [opened] at none
    contradiction

theorem Keeps.other (keeps : Keeps revision upgrade v) {item : Item}
    (found : item.opening? = none) : Keeps revision upgrade (v.happen (.item item)) := by
  have other : (v.incident (.item item)).opening? = none := found
  obtain ⟨framing, patience, timer⟩ :=
    (v.live.session.receive_sameTimers v.clock found).eqns
  have calm : ∀ frame ∈ (v.incident (.item item)).sent, frame.isPing = false :=
    (v.live.session.receive_calm v.clock item).replies
  have opened : opened? (v.happen (.item item)).past = opened? v.past := opened?_other other v.past
  have same : beats (since (v.happen (.item item)).past) = beats (since v.past) := by
    rw [happen, since_other other, beats_cons_calm calm]
  refine ⟨framing.trans keeps.framing, ?_, rfl, ?_, ⟨Nat.le_add_right _ _, ?_⟩, ?_, ?_⟩
  · rw [window, opened]
    exact patience.trans keeps.patience
  · rw [heartbeat?_congr opened same]
    exact timer.trans keeps.timer
  · intro due next
    refine keeps.waits.beat due ?_
    rw [Live.beatDue?, ← timer]
    exact next
  · rw [opened, same]
    exact keeps.scheduled
  · rw [opened, happen, beats_cons_calm calm]
    exact keeps.unasked

theorem Keeps.timer_opened (keeps : Keeps .v3 upgrade v) {opened : Nat} {h : Handshake}
    (opening : opened? v.past = some (opened, h)) :
    v.live.session.heartbeat = some ⟨millis (max h.pingInterval 1),
      opened + ((beats (since v.past)).length + 1) * millis (max h.pingInterval 1)⟩ := by
  rw [keeps.timer, heartbeat?, opening]
  rfl

theorem happen_beat {heartbeat : Heartbeat} (found : v.live.session.heartbeat = some heartbeat) :
    v.happen .beat =
      ⟨⟨{ v.live.session with
          heartbeat := some { heartbeat with due := heartbeat.due + heartbeat.period } },
        v.live.lastSeen⟩, v.clock, ⟨v.clock, .beat, [.ping ""]⟩ :: v.past⟩ := by
  rw [happen, incident, Live.react, Session.beat, found]

theorem Keeps.beat (keeps : Keeps .v3 upgrade v) {opened : Nat} {h : Handshake}
    (opening : opened? v.past = some (opened, h)) (ready : v.live.beatDue? = some v.clock) :
    Keeps .v3 upgrade (v.happen .beat) := by
  have timer := keeps.timer_opened opening
  have due : opened + ((beats (since v.past)).length + 1) * millis (max h.pingInterval 1) =
      v.clock := by
    rw [Live.beatDue?_some timer] at ready
    exact Option.some.inj ready
  rw [happen_beat timer, due]
  have other : (Incident.mk v.clock .beat [.ping ""]).opening? = none := rfl
  have later := (opened?_other other v.past).trans opening
  have longer : beats (since (⟨v.clock, .beat, [.ping ""]⟩ :: v.past)) =
      v.clock :: beats (since v.past) := by
    rw [since_other other]
    rfl
  refine ⟨keeps.framing, ?_, keeps.lastSeen, ?_, ⟨keeps.waits.silence, ?_⟩, ?_, ?_⟩
  · rw [window, later, ← opening]
    exact keeps.patience
  · rw [heartbeat?, later, longer, List.length_cons, ← due, Nat.add_assoc, ← Nat.succ_mul]
    rfl
  · intro due next
    rw [← Option.some.inj next]
    exact Nat.le_add_right _ _
  · intro _ _ _ found
    rw [later] at found
    cases found
    rw [longer, List.length_cons, schedule, due, ← keeps.scheduled opened h rfl opening]
  · rw [later]
    rintro (other | none) <;> contradiction

theorem Keeps.happen (keeps : Keeps revision upgrade v) {s : Stimulus}
    (ready : v.live.Ready v.clock s) (alive : (v.live.react v.clock s).2.loss = none) :
    Keeps revision upgrade (v.happen s) := by
  cases s with
  | item item =>
    cases found : item.opening? with
    | none => exact keeps.other found
    | some h => exact keeps.opening found
  | beat =>
    have due : v.live.session.heartbeat.map Heartbeat.due = some v.clock := ready
    rw [keeps.timer] at due
    cases revision with
    | v4 => contradiction
    | v3 =>
      cases opening : opened? v.past with
      | none =>
        rw [heartbeat?, opening] at due
        contradiction
      | some opened => exact keeps.beat opening ready
  | silence => contradiction
  | unsent cause => contradiction

theorem run_keeps (run : Run revision upgrade v) : Keeps revision upgrade v := by
  induction run with
  | refl => exact start_keeps revision upgrade
  | tail _ step ih =>
    cases step with
    | wait later _ waits => exact ih.wait waits
    | happen s ready alive => exact ih.happen ready alive

theorem Keeps.deadline (keeps : Keeps revision upgrade v) :
    v.live.deadline = lastItem upgrade v.past + window v.past := by
  rw [Live.deadline, keeps.lastSeen, keeps.patience]

theorem Ends.silence {s : Stimulus} {loss : Loss} (ends : v.Ends s loss)
    (reason : loss.reason = "heartbeat timeout") : s = .silence := by
  have lost := ends.lost
  rw [Loss.eq_of_reason reason] at lost
  cases s with
  | item item => exact ((v.live.session.receive_calm v.clock item).loss lost).elim
  | beat => exact absurd (v.live.session.beat_loss.symm.trans lost) (by simp)
  | silence => rfl
  | unsent cause => exact absurd (Option.some.inj lost) (by simp)

theorem Silent.trans {u v w : Vigil} (first : Silent u v) (second : Silent v w) : Silent u w := by
  obtain ⟨before, past, beaten⟩ := first.beats
  obtain ⟨after, later, beating⟩ := second.beats
  refine ⟨first.run.trans second.run, ⟨after ++ before, ?_, ?_⟩,
    second.deadline.trans first.deadline⟩
  · rw [later, past, List.append_assoc]
  · intro i member
    exact (List.mem_append.mp member).elim (beating i) (beaten i)

theorem Silent.goesOn {u v : Vigil} (first : Silent u v)
    (rest : ∃ w, Silent v w ∧ w.clock = v.live.deadline) :
    ∃ w, Silent u w ∧ w.clock = u.live.deadline := by
  obtain ⟨w, silent, reached⟩ := rest
  exact ⟨w, first.trans silent, reached.trans first.deadline⟩

theorem silent_wait {later : Nat} (forward : v.clock ≤ later) (waits : v.live.Waits later) :
    Silent v { v with clock := later } :=
  ⟨.single (.wait v later forward waits), ⟨[], rfl, by simp⟩, rfl⟩

theorem silent_beat {heartbeat : Heartbeat} (found : v.live.session.heartbeat = some heartbeat)
    (due : heartbeat.due = v.clock) : Silent v (v.happen .beat) := by
  have ready : v.live.Ready v.clock .beat := by
    rw [Live.Ready, Live.beatDue?_some found, due]
  refine ⟨.single (.happen v .beat ready v.live.session.beat_loss), ⟨[v.incident .beat], rfl, ?_⟩,
    ?_⟩
  · intro i member
    rw [List.mem_singleton.mp member]
    rfl
  · rw [happen_beat found]
    rfl

theorem silent_to_deadline (waits : v.live.Waits v.clock)
    (paced : ∀ heartbeat ∈ v.live.session.heartbeat, 0 < heartbeat.period) :
    ∃ w, Silent v w ∧ w.clock = v.live.deadline := by
  cases found : v.live.session.heartbeat with
  | none =>
    have last : v.live.Waits v.live.deadline := by
      refine ⟨Nat.le_refl _, ?_⟩
      rw [Live.beatDue?, found]
      rintro due ⟨⟩
    exact ⟨_, silent_wait waits.silence last, rfl⟩
  | some heartbeat =>
    -- Each beat brings the next one nearer to the deadline, by a period at least.
    obtain ⟨n, near⟩ : ∃ n, v.live.deadline ≤ heartbeat.due + n :=
      ⟨v.live.deadline, Nat.le_add_left _ _⟩
    induction n generalizing v heartbeat with
    | zero =>
      have due := Live.waits_of_due found (Nat.le_refl _) near
      exact ⟨_, silent_wait waits.silence due, rfl⟩
    | succ n ih =>
      rcases Nat.le_total v.live.deadline heartbeat.due with last | before
      · exact ⟨_, silent_wait waits.silence (Live.waits_of_due found (Nat.le_refl _) last), rfl⟩
      · have pace := paced heartbeat found
        have forward : v.clock ≤ heartbeat.due := waits.beat _ (Live.beatDue?_some found)
        have wait := silent_wait forward (Live.waits_of_due found before (Nat.le_refl _))
        have beat : Silent { v with clock := heartbeat.due } _ := silent_beat found rfl
        have beaten := wait.trans beat
        rw [@happen_beat { v with clock := heartbeat.due } heartbeat found] at beaten
        have nearer : v.live.deadline ≤ heartbeat.due + heartbeat.period + n := by omega
        refine beaten.goesOn
          (ih (Live.waits_of_due rfl before (Nat.le_add_right _ _)) ?_ _ rfl nearer)
        rintro _ ⟨⟩
        exact pace

/-- Each part of a past was the whole past of the session when the rest of it began. -/
theorem run_before (run : Run revision upgrade v) {later past : List Incident}
    (split : v.past = later ++ past) :
    ∃ w, Run revision upgrade w ∧ w.past = past ∧ w.clock = reached v.clock later := by
  -- Waiting leaves the past as it is, and an incident becomes the latest part of it.
  induction run generalizing later with
  | refl =>
    obtain ⟨rfl, rfl⟩ := List.append_eq_nil_iff.mp split.symm
    exact ⟨_, .refl, rfl, rfl⟩
  | @tail u v run step ih =>
    cases later with
    | nil => exact ⟨v, run.tail step, split, rfl⟩
    | cons i rest =>
      cases step with
      | wait now forward waits =>
        obtain ⟨w, before, same, clock⟩ := ih split
        refine ⟨w, before, same, clock.trans ?_⟩
        rw [reached, reached, List.getLast?_cons]
        rfl
      | happen s ready alive =>
        obtain ⟨first, split⟩ := List.cons.inj split
        obtain ⟨w, before, same, clock⟩ := ih split
        refine ⟨w, before, same, clock.trans ?_⟩
        rw [reached, reached, List.getLast?_cons, ← first]
        cases rest.getLast? <;> rfl

theorem opened?_split {later past : List Incident} {i : Incident} {h : Handshake}
    (opening : i.opening? = some h) (others : ∀ j ∈ later, j.opening? = none) :
    opened? (later ++ i :: past) = some (i.instant, h) ∧ since (later ++ i :: past) = later := by
  induction later with
  | nil => exact ⟨opened?_opening opening past, since_opening opening past⟩
  | cons j later ih =>
    have other := others j List.mem_cons_self
    obtain ⟨opened, same⟩ := ih fun j member => others j (List.mem_cons_of_mem _ member)
    rw [List.cons_append]
    exact ⟨(opened?_other other _).trans opened, by rw [since_other other, same]⟩

theorem beats_on_schedule (run : Run .v3 upgrade v) {later past before : List Incident}
    {i : Incident} {h : Handshake} (split : v.past = later ++ (past ++ i :: before))
    (opening : i.opening? = some h) (others : ∀ j ∈ past, j.opening? = none) :
    beats past = schedule i.instant h (beats past).length ∧
      reached v.clock later ≤
        i.instant + ((beats past).length + 1) * millis (max h.pingInterval 1) := by
  obtain ⟨w, run, same, clock⟩ := run_before run split
  have keeps := run_keeps run
  obtain ⟨opened, whole⟩ := @opened?_split past before i h opening others
  rw [← same] at opened whole
  have scheduled := keeps.scheduled i.instant h rfl opened
  have timer := keeps.timer_opened opened
  rw [whole] at scheduled timer
  refine ⟨scheduled, ?_⟩
  rw [← clock]
  exact keeps.waits.beat _ (Live.beatDue?_some timer)

theorem due_goes_off (run : Run revision upgrade v) :
    match v.live.due? v.clock with
    | some s => (s = .beat ∧ Step v (v.happen s)) ∨ (s = .silence ∧ v.Ends s .heartbeatTimeout)
    | none => Step v { v with clock := v.clock + 1 } := by
  have keeps := run_keeps run
  cases due : v.live.due? v.clock with
  | none =>
    obtain ⟨silence, beat⟩ := Live.due?_eq_none_iff.mp due
    exact .wait v _ (Nat.le_succ _) ⟨silence, beat⟩
  | some s =>
    obtain ⟨rfl | rfl, ready⟩ := Live.due?_ready keeps.waits due
    · exact .inl ⟨rfl, .happen v .beat ready v.live.session.beat_loss⟩
    · exact .inr ⟨rfl, ready, rfl⟩

theorem Keeps.paced (keeps : Keeps revision upgrade v) :
    ∀ heartbeat ∈ v.live.session.heartbeat, 0 < heartbeat.period := by
  rw [keeps.timer]
  cases revision with
  | v4 => intro heartbeat absent; contradiction
  | v3 =>
    intro heartbeat found
    obtain ⟨⟨opened, h⟩, -, rfl⟩ := Option.map_eq_some_iff.mp found
    exact Nat.mul_pos (by omega) (by decide)

/-- Only what arrives moves the deadline. Silence alone leads to it, whatever is sent meanwhile, and
only there it ends a session; heartbeats are sent on schedule until then. What the timer does of
itself is a step. -/
theorem deadline_moved_by_items (revision : Revision) (upgrade : Nat) (v : Vigil)
    (run : Run revision upgrade v) :
    let deadline := lastItem upgrade v.past + window v.past
    v.live.session.window = window v.past ∧
      v.clock ≤ deadline ∧
      (∀ s loss, v.Ends s loss → loss.reason = "heartbeat timeout" →
        s = .silence ∧ v.clock = deadline) ∧
      (∃ w, Silent v w ∧ w.clock = deadline ∧ w.Ends .silence .heartbeatTimeout) ∧
      (match v.live.due? v.clock with
        | some s =>
          (s = .beat ∧ Step v (v.happen s)) ∨ (s = .silence ∧ v.Ends s .heartbeatTimeout)
        | none => Step v { v with clock := v.clock + 1 }) ∧
      (revision = .v4 ∨ opened? v.past = none → beats v.past = []) ∧
      ∀ later past before i h, v.past = later ++ (past ++ i :: before) → revision = .v3 →
        i.opening? = some h → (∀ j ∈ past, j.opening? = none) →
        beats past = schedule i.instant h (beats past).length ∧
          reached v.clock later ≤
            i.instant + ((beats past).length + 1) * millis (max h.pingInterval 1) := by
  intro deadline
  have keeps := run_keeps run
  refine ⟨keeps.patience, ?_, ?_, ?_, due_goes_off run, keeps.unasked, ?_⟩
  · exact Nat.le_trans keeps.waits.silence (Nat.le_of_eq keeps.deadline)
  · intro s loss ends reason
    have silence := ends.silence reason
    subst silence
    exact ⟨rfl, ends.ready.symm.trans keeps.deadline⟩
  · obtain ⟨w, silent, clock⟩ := silent_to_deadline keeps.waits keeps.paced
    exact ⟨w, silent, clock.trans keeps.deadline, ⟨silent.deadline.trans clock.symm, rfl⟩⟩
  · intro later past before i h split same opening others
    subst same
    exact beats_on_schedule run split opening others

/-- A server of the third revision that falls silent as soon as it has opened the session. One
heartbeat is sent, and half a second later the session ends. -/
theorem deadline_moved_by_items_one_beat :
    ∃ v, Run .v3 0 v ∧ v.clock = millis 1500 ∧ beats v.past = [millis 1000] ∧
      v.Ends .silence .heartbeatTimeout ∧ v.clock = lastItem 0 v.past + window v.past := by
  have run := Relation.ReflTransGen.head
    (Step.happen (start .v3 0) (.item (.text "0\x7b\"pingInterval\":1000,\"pingTimeout\":500\x7d"))
      trivial (Option.isNone_iff_eq_none.mp (by decide +kernel))) <|
    .head (.wait _ (millis 1000) (by decide +kernel) (by decide +kernel)) <|
    .head (.happen _ .beat (by decide +kernel)
      (Option.isNone_iff_eq_none.mp (by decide +kernel))) <|
    .single (.wait _ (millis 1500) (by decide +kernel) (by decide +kernel))
  refine ⟨_, run, rfl, by decide +kernel, ⟨by decide +kernel, rfl⟩, ?_⟩
  exact ((deadline_moved_by_items _ _ _ run).2.2.1 .silence .heartbeatTimeout
    ⟨by decide +kernel, rfl⟩ rfl).2

end Vigil

end CacheWatch
