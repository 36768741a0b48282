import CacheWatch.Proofs.Channel.Noise
import CacheWatch.Proofs.Channel.Vigil
import Mathlib.Data.List.Basic

/-! What a session sends.
It answers pings with their own data, joins the root namespace, and sends heartbeats while a timer
for them runs. Nothing that a message holds is ever answered.
-/
namespace CacheWatch

theorem Frame.decode_encode {frame : Frame} (other : ∀ h, frame ≠ .opening h) :
    Frame.decode frame.encode = .ok frame := by
  rw [Frame.decode]
  cases frame with
  | opening h => exact absurd rfl (other h)
  | close => rfl
  | ping data => simp [encode, String.toList_append, decodeChars]
  | pong data => simp [encode, String.toList_append, decodeChars]
  | message data => simp [encode, String.toList_append, decodeChars]
  | upgrade => rfl
  | noop => rfl

def Item.answers (revision : Revision) : Item → List String
  | .text frame =>
    match frame.toList with
    | '2' :: data => ["3" ++ String.ofList data]
    | '0' :: body => if revision = .v4 ∧ (Handshake.ofChars? body).isSome then ["40"] else []
    | _ => []
  | _ => []

theorem Item.answers_cases {revision : Revision} {item : Item} {text : String}
    (answer : text ∈ item.answers revision) :
    (∃ data, text = "3" ++ data) ∨ (text = "40" ∧ revision = .v4) := by
  cases item with
  | text frame =>
    rw [answers] at answer
    split at answer
    · exact .inl ⟨_, List.mem_singleton.mp answer⟩
    · split_ifs at answer with joins
      · exact .inr ⟨List.mem_singleton.mp answer, joins.1⟩
      · simp at answer
    · simp at answer
  | binary => simp [answers] at answer
  | control => simp [answers] at answer
  | closed => simp [answers] at answer
  | failed cause => simp [answers] at answer

def Stimulus.goesOn (s : Stimulus) : Bool :=
  match Meaning.ofStimulus s with
  | .ending _ => false
  | _ => true

def Stimulus.opening? (s : Stimulus) : Option Handshake := s.item?.bind Item.opening?

/-- A session of the third revision runs a timer as soon as it is opened. -/
def Stimulus.startsTimer (revision : Revision) (s : Stimulus) : Bool :=
  revision = .v3 && s.opening?.isSome

theorem Stimulus.startsTimer_of_no_item {s : Stimulus} (other : s.item? = none)
    (revision : Revision) : s.startsTimer revision = false := by
  simp [startsTimer, opening?, other]

def Stimulus.answers (revision : Revision) (timed : Bool) : Stimulus → List String
  | .item arrived => arrived.answers revision
  | .beat => if timed then ["2"] else []
  | .silence => []
  | .unsent _ => []

/-- All that is sent for stimuli that leave a session alive. A heartbeat is due only while the timer
runs. -/
def Stimulus.speech (revision : Revision) (timed : Bool) : List Stimulus → List String
  | [] => []
  | s :: rest =>
    s.answers revision timed ++ speech revision (timed || s.startsTimer revision) rest

namespace Session

variable (s : Session)

theorem deliver_replies (message : Message) : (s.deliver message).replies = [] := by
  unfold deliver
  split <;> rfl

theorem carryOut_replies {step : Step} (silent : ∀ frame, step ≠ .reply frame) :
    (s.carryOut step).replies = [] := by
  cases step with
  | proceed => rfl
  | reply frame => exact absurd rfl (silent frame)
  | forward message => exact s.deliver_replies message
  | finish loss => rfl

theorem onPacket_silent (packet : Packet) (frame : Frame) :
    (s.onPacket packet).2 ≠ .reply frame := by
  cases packet with
  | connect ns => rw [onPacket]; split <;> simp
  | disconnect ns => rw [onPacket]; split <;> simp
  | error ns payload => rw [onPacket]; split <;> simp
  | event ns name payload =>
    rw [onPacket]
    split
    · cases Message.ofEvent? name payload <;> simp
    · simp
  | ack => simp [onPacket]
  | binary => simp [onPacket]

theorem onData_silent (data : String) (frame : Frame) : (s.onData data).2 ≠ .reply frame := by
  rw [onData]
  cases Packet.decode data with
  | ok packet => exact s.onPacket_silent packet frame
  | error e => simp

theorem receive_replies (now : Nat) (item : Item) :
    (s.receive now item).replies.map Frame.encode = item.answers s.revision := by
  cases item with
  | text frame =>
    rw [receive, onItem, onText, Frame.decode, Item.answers]
    cases written : frame.toList with
    | nil => rfl
    | cons kind data =>
      rw [Frame.decodeChars]
      split_ifs with opening close ping pong message upgrade noop
      · subst opening
        cases read : Handshake.ofChars? data with
        | none => simp [carryOut, quiet, read]
        | some h =>
          cases framing : s.revision with
          | v3 => simp [onOpening, framing, carryOut, quiet]
          | v4 =>
            have join : "4" ++ Packet.join = "40" := by decide
            simp [onOpening, framing, carryOut, Frame.encode, join, read]
      · subst close; rfl
      · subst ping; rfl
      · subst pong; rfl
      · subst message
        simp only
        rw [carryOut_replies _ (s.onData_silent _)]
        rfl
      · subst upgrade; rfl
      · subst noop; rfl
      · simp only
        split
        · simp_all
        · simp_all
        · rfl
  | binary => rfl
  | control => rfl
  | closed => rfl
  | failed cause => rfl

theorem receive_timed (now : Nat) (item : Item) :
    (s.receive now item).session.revision = s.revision ∧
      (s.receive now item).session.heartbeat.isSome =
        (s.heartbeat.isSome || (Stimulus.item item).startsTimer s.revision) := by
  cases opening : item.opening? with
  | none =>
    obtain ⟨framing, -, timer⟩ := (s.receive_sameTimers now opening).eqns
    have starts : (Stimulus.item item).startsTimer s.revision = false := by
      simp [Stimulus.startsTimer, Stimulus.opening?, Stimulus.item?, opening]
    rw [starts, Bool.or_false, timer]
    exact ⟨framing, rfl⟩
  | some h =>
    rw [s.receive_opening now opening]
    refine ⟨s.onOpening_revision now h, ?_⟩
    cases framing : s.revision <;>
      simp [onOpening, framing, Stimulus.startsTimer, Stimulus.opening?, Stimulus.item?, opening]

theorem react_speech (now : Nat) (stimulus : Stimulus) :
    (s.react now stimulus).replies.map Frame.encode =
        stimulus.answers s.revision s.heartbeat.isSome ∧
      (s.react now stimulus).session.revision = s.revision ∧
      (s.react now stimulus).session.heartbeat.isSome =
        (s.heartbeat.isSome || stimulus.startsTimer s.revision) := by
  cases stimulus with
  | item item => exact ⟨s.receive_replies now item, s.receive_timed now item⟩
  | beat =>
    rw [Stimulus.startsTimer_of_no_item rfl, Bool.or_false]
    change s.beat.replies.map Frame.encode = _ ∧ s.beat.session.revision = _ ∧
      s.beat.session.heartbeat.isSome = _
    cases timer : s.heartbeat with
    | none => simp [beat, timer, quiet, Stimulus.answers]
    | some heartbeat => simp [beat, timer, Stimulus.answers, Frame.encode]
  | silence =>
    rw [Stimulus.startsTimer_of_no_item rfl, Bool.or_false]
    exact ⟨rfl, rfl, rfl⟩
  | unsent cause =>
    rw [Stimulus.startsTimer_of_no_item rfl, Bool.or_false]
    exact ⟨rfl, rfl, rfl⟩

theorem carryOut_lost {step : Step} (lost : (s.carryOut step).loss ≠ none) :
    (s.carryOut step).replies = [] := by
  cases step with
  | proceed => rfl
  | reply frame => exact absurd rfl lost
  | forward message => exact s.deliver_replies message
  | finish loss => rfl

theorem react_lost {now : Nat} {stimulus : Stimulus} (lost : (s.react now stimulus).loss ≠ none) :
    (s.react now stimulus).replies = [] := by
  cases stimulus with
  | item item => exact carryOut_lost _ lost
  | beat => exact absurd s.beat_loss lost
  | silence => rfl
  | unsent cause => rfl

theorem goesOn_iff (now : Nat) (stimulus : Stimulus) :
    stimulus.goesOn ↔ (s.react now stimulus).loss = none := by
  have answers := Live.react_answers ⟨s, now⟩ now stimulus
  change (s.react now stimulus).Answers s.established _ at answers
  rw [Stimulus.goesOn]
  cases meaning : Meaning.ofStimulus stimulus <;> rw [meaning] at answers <;> simp [answers.2.2]

theorem startsTimer_goesOn {revision : Revision} {stimulus : Stimulus}
    (starts : stimulus.startsTimer revision) : stimulus.goesOn := by
  obtain ⟨h, opening⟩ := Option.isSome_iff_exists.mp (Bool.and_eq_true_iff.mp starts).2
  cases stimulus with
  | item item =>
    cases item with
    | text frame =>
      have decoded := Item.opening?_text.mp opening
      simp [Stimulus.goesOn, Meaning.ofStimulus, Meaning.ofItem, Meaning.ofText, decoded]
    | binary => rfl
    | control => rfl
    | closed => contradiction
    | failed cause => contradiction
  | beat => rfl
  | silence => contradiction
  | unsent cause => contradiction

/-- The stimuli that a session still reacts to, without the one that ends it. -/
def heard (stimuli : List (Nat × Stimulus)) : List Stimulus :=
  (stimuli.map Prod.snd).takeWhile Stimulus.goesOn

theorem run_speech (stimuli : List (Nat × Stimulus)) :
    (s.run stimuli).replies.map Frame.encode =
        Stimulus.speech s.revision s.heartbeat.isSome (heard stimuli) ∧
      (s.run stimuli).session.heartbeat.isSome =
        (s.heartbeat.isSome || (heard stimuli).any (·.startsTimer s.revision)) := by
  induction stimuli generalizing s with
  | nil => simp [run, heard, quiet, Stimulus.speech]
  | cons first rest ih =>
    obtain ⟨now, stimulus⟩ := first
    obtain ⟨replies, framing, timed⟩ := s.react_speech now stimulus
    rw [run]
    cases ending : (s.react now stimulus).loss with
    | some loss =>
      have lost : (s.react now stimulus).loss ≠ none := by simp [ending]
      have ended : stimulus.goesOn = false :=
        Bool.eq_false_iff.mpr fun alive => lost ((s.goesOn_iff now stimulus).mp alive)
      have nothing : heard ((now, stimulus) :: rest) = [] := by simp [heard, ended]
      have idle : stimulus.startsTimer s.revision = false :=
        Bool.eq_false_iff.mpr fun starts => by simp [startsTimer_goesOn starts] at ended
      rw [nothing]
      simp [s.react_lost lost, timed, idle, Stimulus.speech]
    | none =>
      have alive : stimulus.goesOn := (s.goesOn_iff now stimulus).mpr ending
      have more : heard ((now, stimulus) :: rest) = stimulus :: heard rest := by
        simp [heard, alive]
      obtain ⟨later, still⟩ := ih (s.react now stimulus).session
      rw [framing, timed] at later still
      rw [more]
      constructor
      · simp only [Reaction.andThen, List.map_append, replies, later, Stimulus.speech]
      · simp only [Reaction.andThen, still, List.any_cons, Bool.or_assoc]

theorem andThen_loss (first later : Reaction) : (first.andThen later).loss = later.loss := rfl

theorem andThen_assoc (first second third : Reaction) :
    (first.andThen second).andThen third = first.andThen (second.andThen third) := by
  simp only [Reaction.andThen, List.append_assoc]

theorem run_append (front back : List (Nat × Stimulus)) :
    s.run (front ++ back) =
      if (s.run front).loss = none then (s.run front).andThen ((s.run front).session.run back)
      else s.run front := by
  induction front generalizing s with
  | nil => exact (s.quiet_andThen _).symm
  | cons first front ih =>
    obtain ⟨now, stimulus⟩ := first
    rw [List.cons_append, run, run]
    cases ending : (s.react now stimulus).loss with
    | some loss => simp [ending]
    | none =>
      by_cases alive : ((s.react now stimulus).session.run front).loss = none
      · simp only [ih, andThen_loss, if_pos alive, andThen_assoc]
        rfl
      · rw [ih, if_neg alive]
        exact (if_neg alive).symm

end Session

namespace Stimulus

theorem speech_cases {revision : Revision} {timed : Bool} {stimuli : List Stimulus} {text : String}
    (sent : text ∈ speech revision timed stimuli) :
    (∃ data, text = "3" ++ data) ∨ (text = "40" ∧ revision = .v4) ∨
      (text = "2" ∧ (timed ∨ stimuli.any (·.startsTimer revision))) := by
  induction stimuli generalizing timed with
  | nil => simp [speech] at sent
  | cons s rest ih =>
    rw [speech, List.mem_append] at sent
    rcases sent with now | later
    · cases s with
      | item arrived =>
        rw [answers] at now
        rcases Item.answers_cases now with pong | join
        · exact .inl pong
        · exact .inr (.inl join)
      | beat =>
        rw [answers] at now
        split_ifs at now with due
        · exact .inr (.inr ⟨List.mem_singleton.mp now, .inl due⟩)
        · simp at now
      | silence => simp [answers] at now
      | unsent cause => simp [answers] at now
    · rcases ih later with pong | join | ⟨beat, due⟩
      · exact .inl pong
      · exact .inr (.inl join)
      · refine .inr (.inr ⟨beat, ?_⟩)
        rw [List.any_cons]
        rcases due with due | due
        · rcases Bool.or_eq_true_iff.mp due with due | starts
          · exact .inl due
          · exact .inr (by simp [starts])
        · exact .inr (by simp [due])

theorem opening_not_mem_speech {revision : Revision} {timed : Bool} {stimuli : List Stimulus}
    {h : Handshake} : (Frame.opening h).encode ∉ speech revision timed stimuli := by
  intro sent
  rcases speech_cases sent with ⟨data, pong⟩ | ⟨join, -⟩ | ⟨beat, -⟩
  · have whole := congrArg String.toList pong
    simp [Frame.encode, String.toList_append] at whole
  · simp [Frame.encode] at join
  · simp [Frame.encode] at beat

theorem join_not_mem_speech {timed : Bool} {stimuli : List Stimulus} :
    "40" ∉ speech .v3 timed stimuli := by
  intro sent
  rcases speech_cases sent with ⟨data, pong⟩ | ⟨-, framing⟩ | ⟨beat, -⟩
  · have whole := congrArg String.toList pong
    simp [String.toList_append] at whole
  · contradiction
  · simp at beat

theorem beat_not_mem_speech {revision : Revision} {stimuli : List Stimulus}
    (idle : stimuli.any (·.startsTimer revision) = false) :
    "2" ∉ speech revision false stimuli := by
  intro sent
  rcases speech_cases sent with ⟨data, pong⟩ | ⟨join, -⟩ | ⟨-, due⟩
  · have whole := congrArg String.toList pong
    simp [String.toList_append] at whole
  · simp at join
  · simp [idle] at due

end Stimulus

/-- A timer that goes off is running, so each beat of a timed run is sent. -/
theorem Vigil.run_answers {revision : Revision} {upgrade : Nat} {v : Vigil}
    (run : Run revision upgrade v) :
    ∀ i ∈ v.past, i.sent.map Frame.encode = i.stimulus.answers revision true := by
  induction run with
  | refl => simp [Vigil.start]
  | @tail u v before step ih =>
    cases step with
    | wait later forward waits => exact ih
    | happen s ready alive =>
      refine List.forall_mem_cons.mpr ⟨?_, ih⟩
      have sent := (u.live.session.react_speech u.clock s).1
      rw [(run_keeps before).framing] at sent
      cases s with
      | item arrived => exact sent
      | beat =>
        obtain ⟨heartbeat, found, -⟩ := Option.map_eq_some_iff.mp ready
        rw [found] at sent
        exact sent
      | silence => exact sent
      | unsent cause => exact sent

namespace Session

/-- A session answers pings, joins the root namespace when it is opened under the fourth revision,
and sends the heartbeats that an opening under the third one asks for. It sends nothing else, and
nothing at all when it is over. -/
theorem speaks_heartbeats_and_join (revision : Revision) (stimuli : List (Nat × Stimulus)) :
    let reaction := (start revision).run stimuli
    let texts := reaction.replies.map Frame.encode
    texts = Stimulus.speech revision false (heard stimuli) ∧
      (∀ later, texts <+: ((start revision).run (stimuli ++ later)).replies.map Frame.encode ∧
        (reaction.loss ≠ none → (start revision).run (stimuli ++ later) = reaction)) ∧
      (revision = .v3 → "40" ∉ texts) ∧
      (revision = .v4 → "2" ∉ texts) ∧
      ((∀ s ∈ heard stimuli, s.opening? = none) → "2" ∉ texts) ∧
      reaction.session.heartbeat.isSome = (heard stimuli).any (·.startsTimer revision) ∧
      (∀ frame ∈ reaction.replies, Frame.decode frame.encode = .ok frame) ∧
      ∀ upgrade v, Vigil.Run revision upgrade v →
        (v.past.reverse.flatMap (·.sent)).map Frame.encode =
          v.past.reverse.flatMap (·.stimulus.answers revision true) := by
  intro reaction texts
  obtain ⟨spoken, timed⟩ := run_speech (start revision) stimuli
  have spoken : texts = Stimulus.speech revision false (heard stimuli) := spoken
  refine ⟨spoken, fun later => ?_, ?_, ?_, ?_, timed, ?_, fun upgrade v timedRun => ?_⟩
  · rw [run_append]
    split
    · next alive =>
      refine ⟨?_, fun lost => absurd alive lost⟩
      simp [texts, reaction, Reaction.andThen]
    · exact ⟨List.prefix_refl _, fun _ => rfl⟩
  · rintro rfl
    rw [spoken]
    exact Stimulus.join_not_mem_speech
  · rintro rfl
    rw [spoken]
    exact Stimulus.beat_not_mem_speech (by simp [Stimulus.startsTimer])
  · intro unopened
    rw [spoken]
    refine Stimulus.beat_not_mem_speech ?_
    refine List.any_eq_false.mpr fun s member => ?_
    simp [Stimulus.startsTimer, unopened s member]
  · intro frame member
    refine Frame.decode_encode fun h opening => ?_
    have sent : frame.encode ∈ texts := List.mem_map_of_mem member
    rw [spoken, opening] at sent
    exact Stimulus.opening_not_mem_speech sent
  · rw [List.map_flatMap]
    refine List.flatMap_congr fun i member => ?_
    exact Vigil.run_answers timedRun i (List.mem_reverse.mp member)

end Session

end CacheWatch
