import CacheWatch.Proofs.Channel.Log
import Mathlib.Algebra.Group.Int.Defs
import Mathlib.Logic.Relation

/-! What a session does not notice.
Noise is told from what is written in an item alone. It leaves a session as it is and gets no
answer, so a run reads the same with noise as without it.
-/
namespace CacheWatch

/-- Packets that are none of the concern of a session, whatever state that is in. -/
inductive Packet.Irrelevant : Packet → Prop
  | ack : Irrelevant .ack
  | binary : Irrelevant .binary
  | connect {ns : String} (foreign : ns ≠ "/") : Irrelevant (.connect ns)
  | disconnect {ns : String} (foreign : ns ≠ "/") : Irrelevant (.disconnect ns)
  | error {ns : String} (foreign : ns ≠ "/") (payload : Json) : Irrelevant (.error ns payload)
  | event {ns : String} (foreign : ns ≠ "/") (name : String) (payload : Json) :
      Irrelevant (.event ns name payload)
  | unwatched {name : String} (other : name ∉ ["system", "rate-limit", "cache"])
      (payload : Json) : Irrelevant (.event "/" name payload)
  | noAllocation {payload : Json}
      (other : ∀ n, -2 ^ 63 ≤ n → n < 2 ^ 63 → payload ≠ .integer n) :
      Irrelevant (.event "/" "rate-limit" payload)

inductive Packet.Noise : List Char → Prop
  | undecodable {data : List Char} {e : ProtocolError}
      (failed : Packet.decodeChars data = .error e) :
      Noise data
  | irrelevant {data : List Char} {packet : Packet} (decoded : Packet.decodeChars data = .ok packet)
      (irrelevant : packet.Irrelevant) : Noise data

inductive Frame.Noise : List Char → Prop
  | empty : Noise []
  | unknown {kind : Char} (other : kind ∉ ['0', '1', '2', '3', '4', '5', '6']) (data : List Char) :
      Noise (kind :: data)
  | unreadable {data : List Char} (failed : Handshake.ofChars? data = none) : Noise ('0' :: data)
  | pong (data : List Char) : Noise ('3' :: data)
  | message {data : List Char} (noise : Packet.Noise data) : Noise ('4' :: data)
  | upgrade (data : List Char) : Noise ('5' :: data)
  | noop (data : List Char) : Noise ('6' :: data)

inductive Item.Noise : Item → Prop
  | text {frame : String} (noise : Frame.Noise frame.toList) : Noise (.text frame)
  | binary : Noise .binary
  | control : Noise .control

inductive Stimulus.NoiseAdded : List (Nat × Stimulus) → List (Nat × Stimulus) → Prop
  | at (front back : List (Nat × Stimulus)) (now : Nat) {item : Item} (noise : item.Noise) :
      NoiseAdded (front ++ back) (front ++ (now, .item item) :: back)

namespace Session

/-- What a session does about anything that happens to it. Only a deadline depends on the last
sign of life, and none is looked at here. -/
def react (s : Session) (now : Nat) (stimulus : Stimulus) : Reaction :=
  (Live.react ⟨s, now⟩ now stimulus).2

def Reaction.andThen (first later : Reaction) : Reaction :=
  ⟨later.session, first.replies ++ later.replies, first.messages ++ later.messages, later.loss⟩

def run (s : Session) : List (Nat × Stimulus) → Reaction
  | [] => s.quiet
  | (now, stimulus) :: rest =>
    let first := s.react now stimulus
    match first.loss with
    | some _ => first
    | none => first.andThen (first.session.run rest)

theorem quiet_andThen (s : Session) (later : Reaction) : s.quiet.andThen later = later := rfl

theorem onPacket_irrelevant (s : Session) {packet : Packet} (irrelevant : packet.Irrelevant) :
    s.onPacket packet = (s, .proceed) := by
  cases irrelevant with
  | ack => rfl
  | binary => rfl
  | connect foreign => simp only [onPacket, Packet.rootNamespace, foreign, false_and, if_false]
  | disconnect foreign => simp only [onPacket, Packet.rootNamespace, foreign, if_false]
  | error foreign payload => simp only [onPacket, Packet.rootNamespace, foreign, if_false]
  | event foreign name payload => simp only [onPacket, Packet.rootNamespace, foreign, if_false]
  | unwatched other payload =>
    simp only [List.mem_cons, List.not_mem_nil, or_false, not_or] at other
    obtain ⟨notSystem, notAllocation, notCache⟩ := other
    simp only [onPacket, Packet.rootNamespace, if_true, Message.ofEvent?, notSystem, notAllocation,
      notCache, if_false]
  | @noAllocation payload other =>
    have none : payload.signed? = none := by
      unfold Json.signed?
      split
      · next n =>
        refine if_neg fun fits => ?_
        rw [Word.fitsSigned, Bool.and_eq_true, decide_eq_true_iff, decide_eq_true_iff] at fits
        exact other n fits.1 fits.2 rfl
      · rfl
    simp only [onPacket, Packet.rootNamespace, if_true, Message.ofEvent?, none, Option.map_none,
      if_neg (by decide : ¬ "rate-limit" = "system")]

theorem onText_noise (s : Session) (now : Nat) {frame : String} (noise : Frame.Noise frame.toList) :
    s.onText now frame = (s, .proceed) := by
  rw [onText, Frame.decode]
  cases written : frame.toList with
  | nil => rfl
  | cons kind data =>
    rw [written] at noise
    cases noise with
    | unknown other =>
      simp only [List.mem_cons, List.not_mem_nil, or_false, not_or] at other
      simp only [Frame.decodeChars, other, if_false]
    | unreadable failed => simp only [Frame.decodeChars, failed, if_true]
    | pong => rfl
    | message noise =>
      change s.onData (String.ofList data) = _
      rw [onData, Packet.decode, String.toList_ofList]
      cases noise with
      | undecodable failed => rw [failed]
      | irrelevant decoded irrelevant =>
        rw [decoded]
        exact s.onPacket_irrelevant irrelevant
    | upgrade => rfl
    | noop => rfl

theorem receive_noise (s : Session) (now : Nat) {item : Item} (noise : item.Noise) :
    s.receive now item = s.quiet := by
  cases noise with
  | text noise =>
    rw [receive, onItem, s.onText_noise now noise]
    rfl
  | binary => rfl
  | control => rfl

theorem run_cons_congr {later others : List (Nat × Stimulus)}
    (same : ∀ s : Session, s.run later = s.run others) (s : Session) (first : Nat × Stimulus) :
    s.run (first :: later) = s.run (first :: others) := by
  rw [run, run, same]

theorem run_append_congr {later others : List (Nat × Stimulus)}
    (same : ∀ s : Session, s.run later = s.run others) (front : List (Nat × Stimulus))
    (s : Session) : s.run (front ++ later) = s.run (front ++ others) := by
  induction front generalizing s with
  | nil => exact same s
  | cons first front ih => exact run_cons_congr ih s first

theorem run_noiseAdded {before after : List (Nat × Stimulus)}
    (added : Stimulus.NoiseAdded before after) (s : Session) : s.run after = s.run before := by
  cases added with
  | «at» front back now noise =>
    refine run_append_congr (fun s => ?_) front s
    change (match (s.receive now _).loss with
      | some _ => s.receive now _
      | none => (s.receive now _).andThen ((s.receive now _).session.run back)) = s.run back
    rw [s.receive_noise now noise]
    exact s.quiet_andThen _

theorem Reaction.Answers.same {established : Bool} {meaning : Meaning} {first second : Reaction}
    (one : first.Answers established meaning) (other : second.Answers established meaning) :
    first.session.established = second.session.established ∧ first.messages = second.messages ∧
      first.loss = second.loss := by
  cases meaning <;> exact ⟨one.1.trans other.1.symm, one.2.1.trans other.2.1.symm,
    one.2.2.trans other.2.2.symm⟩

theorem run_established {s t : Session} (same : s.established = t.established)
    (stimuli : List (Nat × Stimulus)) :
    (s.run stimuli).messages = (t.run stimuli).messages ∧
      (s.run stimuli).loss = (t.run stimuli).loss := by
  induction stimuli generalizing s t with
  | nil => exact ⟨rfl, rfl⟩
  | cons first rest ih =>
    obtain ⟨now, stimulus⟩ := first
    have one := Live.react_answers ⟨s, now⟩ now stimulus
    have other := Live.react_answers ⟨t, now⟩ now stimulus
    change (s.react now stimulus).Answers s.established _ at one
    change (t.react now stimulus).Answers t.established _ at other
    rw [← same] at other
    obtain ⟨established, messages, loss⟩ := one.same other
    rw [run, run]
    cases ending : (s.react now stimulus).loss with
    | some lost =>
      rw [ending] at loss
      rw [← loss]
      exact ⟨messages, ending.trans loss⟩
    | none =>
      rw [ending] at loss
      rw [← loss]
      obtain ⟨others, last⟩ := ih established
      exact ⟨by simp only [Reaction.andThen, messages, others], last⟩

/-- Noise that is put in or left out, at any places, changes nothing in what a session sends,
delivers and ends with, and nothing in the session itself; no noise establishes or ends one. The
revision changes nothing in what is delivered and in the end. -/
theorem run_noise_invisible (s : Session) (stimuli others : List (Nat × Stimulus))
    (same : Relation.EqvGen Stimulus.NoiseAdded stimuli others) :
    s.run stimuli = s.run others ∧
      (∀ now item, item.Noise → s.receive now item = s.quiet) ∧
      ∀ revision, ({ s with revision }.run stimuli).messages = (s.run others).messages ∧
        ({ s with revision }.run stimuli).loss = (s.run others).loss := by
  have unchanged : s.run stimuli = s.run others := by
    induction same with
    | rel before after added => exact (run_noiseAdded added s).symm
    | refl stimuli => rfl
    | symm _ _ _ ih => exact ih.symm
    | trans _ _ _ _ _ first second => exact first.trans second
  refine ⟨unchanged, fun now item noise => s.receive_noise now noise, fun revision => ?_⟩
  rw [← unchanged]
  exact @run_established { s with revision } s rfl stimuli

/-- A foreign acknowledgement and an acknowledgement number, before and behind the first content,
in the place of a frame of no known kind. -/
theorem run_noise_invisible_foreign :
    let content : Nat × Stimulus := (2, .item (.text "42[\"rate-limit\",5]"))
    let noisy := [(1, .item (.text "40/admin,")), content, (3, .item (.text "43/admin,7[]"))]
    let others := [(0, .item (.text "x")), content]
    Relation.EqvGen Stimulus.NoiseAdded noisy others ∧
      (Session.start .v3).run noisy = (Session.start .v3).run others := by
  intro content noisy others
  have foreign : Item.Noise (.text "40/admin,") :=
    .text (.message (.irrelevant (by rfl) (.connect (by decide : "/admin" ≠ "/"))))
  have number : Item.Noise (.text "43/admin,7[]") :=
    .text (.message (.irrelevant (by rfl) .ack))
  have unknown : Item.Noise (.text "x") := .text (.unknown (by decide) [])
  have last := Stimulus.NoiseAdded.at [(1, .item (.text "40/admin,")), content] [] 3 number
  have first := Stimulus.NoiseAdded.at [] [content] 1 foreign
  have instead := Stimulus.NoiseAdded.at [] [content] 0 unknown
  have same : Relation.EqvGen Stimulus.NoiseAdded noisy others :=
    .trans _ _ _ (.symm _ _ (.rel _ _ last)) <|
      .trans _ _ _ (.symm _ _ (.rel _ _ first)) (.rel _ _ instead)
  exact ⟨same, (run_noise_invisible (.start .v3) noisy others same).1⟩

end Session

end CacheWatch
