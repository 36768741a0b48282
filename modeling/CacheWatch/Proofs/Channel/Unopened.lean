import CacheWatch.Proofs.Channel.Log
import CacheWatch.Proofs.Channel.Vigil

/-! Sessions that the server does not open.
Any item begins the wait for an opening anew, so nothing bounds the length of such a session: it
lasts as long as something arrives within each window. All that is past is given latest first.
-/
namespace CacheWatch

/-- An item that leaves a session as unopened as it was, and does not end it. -/
structure Item.Idle (item : Item) : Prop where
  unopened : item.opening? = none
  goesOn : ∀ loss, Meaning.ofItem item ≠ .ending loss

theorem Session.receive_alive_iff (s : Session) (now : Nat) (item : Item) :
    (s.receive now item).loss = none ↔ ∀ loss, Meaning.ofItem item ≠ .ending loss := by
  have answers := s.receive_answers now item
  cases meaning : Meaning.ofItem item
  case ending loss =>
    rw [meaning] at answers
    constructor
    · intro alive
      rw [answers.2.2] at alive
      contradiction
    · intro other
      exact (other loss rfl).elim
  all_goals
    rw [meaning] at answers
    exact ⟨fun _ => by simp, fun _ => answers.2.2⟩

namespace Vigil

def arrivals (past : List Incident) : List (Nat × Item) :=
  past.filterMap fun i => i.stimulus.item?.map (i.instant, ·)

def lastArrival (upgrade : Nat) : List (Nat × Item) → Nat
  | [] => upgrade
  | (instant, _) :: _ => instant

/-- Idle items, each of which came within the window that the one before it began. -/
inductive Steady (upgrade : Nat) : List (Nat × Item) → Prop
  | start : Steady upgrade []
  | next {earlier : List (Nat × Item)} {instant : Nat} {item : Item}
      (steady : Steady upgrade earlier) (forward : lastArrival upgrade earlier ≤ instant)
      (soon : instant ≤ lastArrival upgrade earlier + seconds 20) (idle : item.Idle) :
      Steady upgrade ((instant, item) :: earlier)

/-- After these items a session can be alive at an instant without having been opened. -/
def Unopened (revision : Revision) (upgrade : Nat) (items : List (Nat × Item)) (clock : Nat) :
    Prop :=
  ∃ v, Run revision upgrade v ∧ opened? v.past = none ∧ arrivals v.past = items ∧ v.clock = clock

variable {revision : Revision} {upgrade : Nat} {v : Vigil}

theorem arrivals_item {i : Incident} {item : Item} (arrived : i.stimulus.item? = some item)
    (past : List Incident) : arrivals (i :: past) = (i.instant, item) :: arrivals past :=
  List.filterMap_cons_some (by rw [arrived]; rfl)

theorem lastItem_eq (upgrade : Nat) (past : List Incident) :
    lastItem upgrade past = lastArrival upgrade (arrivals past) := by
  induction past with
  | nil => rfl
  | cons i past ih =>
    cases arrived : i.stimulus.item? with
    | none =>
      have same : arrivals (i :: past) = arrivals past :=
        List.filterMap_cons_none (by rw [arrived]; rfl)
      rw [lastItem, arrived, same, ← ih]
      rfl
    | some item =>
      rw [lastItem, arrived, arrivals_item arrived]
      rfl

theorem opened?_eq_none_iff {i : Incident} {past : List Incident} :
    opened? (i :: past) = none ↔ i.opening? = none ∧ opened? past = none := by
  cases opening : i.opening? with
  | none => simp [opened?_other opening]
  | some h => simp [opened?_opening opening]

theorem Keeps.heartbeat_unopened (keeps : Keeps revision upgrade v)
    (unopened : opened? v.past = none) : v.live.session.heartbeat = none := by
  rw [keeps.timer]
  cases revision with
  | v3 => rw [heartbeat?, unopened, Option.map_none]
  | v4 => rfl

theorem Keeps.waits_unopened_iff (keeps : Keeps revision upgrade v)
    (unopened : opened? v.past = none) {later : Nat} :
    v.live.Waits later ↔ later ≤ lastArrival upgrade (arrivals v.past) + seconds 20 := by
  have deadline := keeps.deadline
  rw [lastItem_eq, window, unopened] at deadline
  constructor
  · intro waits
    exact Nat.le_trans waits.silence (Nat.le_of_eq deadline)
  · intro early
    refine ⟨Nat.le_trans early (Nat.le_of_eq deadline.symm), ?_⟩
    rw [Live.beatDue?, keeps.heartbeat_unopened unopened]
    rintro due ⟨⟩

theorem run_steady (run : Run revision upgrade v) (unopened : opened? v.past = none) :
    Steady upgrade (arrivals v.past) ∧ lastArrival upgrade (arrivals v.past) ≤ v.clock := by
  induction run with
  | refl => exact ⟨.start, Nat.le_refl _⟩
  | @tail u v run step ih =>
    have keeps := run_keeps run
    cases step with
    | wait later forward waits =>
      obtain ⟨steady, before⟩ := ih unopened
      exact ⟨steady, Nat.le_trans before forward⟩
    | happen s ready alive =>
      obtain ⟨other, still⟩ := opened?_eq_none_iff.mp unopened
      obtain ⟨steady, before⟩ := ih still
      cases s with
      | item item =>
        have soon := (keeps.waits_unopened_iff still).mp keeps.waits
        have idle : item.Idle := ⟨other, (u.live.session.receive_alive_iff u.clock item).mp alive⟩
        have latest : arrivals (u.happen (.item item)).past = (u.clock, item) :: arrivals u.past :=
          arrivals_item rfl _
        rw [latest]
        exact ⟨.next steady before soon idle, Nat.le_refl _⟩
      | beat =>
        rw [Live.Ready, Live.beatDue?, keeps.heartbeat_unopened still] at ready
        contradiction
      | silence => contradiction
      | unsent cause => contradiction

theorem Unopened.wait {items : List (Nat × Item)} {clock later : Nat}
    (alive : Unopened revision upgrade items clock) (forward : clock ≤ later)
    (soon : later ≤ lastArrival upgrade items + seconds 20) :
    Unopened revision upgrade items later := by
  obtain ⟨v, run, unopened, rfl, rfl⟩ := alive
  have waits := ((run_keeps run).waits_unopened_iff unopened).mpr soon
  exact ⟨{ v with clock := later }, run.tail (.wait v later forward waits), unopened, rfl, rfl⟩

theorem Unopened.arrive {items : List (Nat × Item)} {clock : Nat} {item : Item}
    (alive : Unopened revision upgrade items clock) (idle : item.Idle) :
    Unopened revision upgrade ((clock, item) :: items) clock := by
  obtain ⟨v, run, unopened, rfl, rfl⟩ := alive
  have goesOn := (v.live.session.receive_alive_iff v.clock item).mpr idle.goesOn
  refine ⟨v.happen (.item item), run.tail (.happen v (.item item) trivial goesOn), ?_, ?_, rfl⟩
  · exact opened?_eq_none_iff.mpr ⟨idle.unopened, unopened⟩
  · exact arrivals_item rfl _

theorem Steady.unopened {items : List (Nat × Item)} (steady : Steady upgrade items) :
    Unopened revision upgrade items (lastArrival upgrade items) := by
  induction steady with
  | start => exact ⟨Vigil.start revision upgrade, .refl, rfl, rfl, rfl⟩
  | next _ forward soon idle ih => exact (ih.wait forward soon).arrive idle

theorem unopened_iff {items : List (Nat × Item)} {clock : Nat} :
    Unopened revision upgrade items clock ↔ Steady upgrade items ∧
      lastArrival upgrade items ≤ clock ∧ clock ≤ lastArrival upgrade items + seconds 20 := by
  constructor
  · rintro ⟨v, run, unopened, rfl, rfl⟩
    have keeps := run_keeps run
    obtain ⟨steady, before⟩ := run_steady run unopened
    exact ⟨steady, before, (keeps.waits_unopened_iff unopened).mp keeps.waits⟩
  · rintro ⟨steady, forward, soon⟩
    exact steady.unopened.wait forward soon

/-- A session that is not opened can be alive exactly while the items come steadily, and for one
window behind the last of them. It is over within a window of the upgrade just if nothing came
after the upgrade. -/
theorem unopened_waits_from_last_arrival (revision : Revision) (upgrade : Nat)
    (items : List (Nat × Item)) :
    (∀ clock, Unopened revision upgrade items clock ↔ Steady upgrade items ∧
      lastArrival upgrade items ≤ clock ∧ clock ≤ lastArrival upgrade items + seconds 20) ∧
    (Steady upgrade items →
      ((∀ clock, Unopened revision upgrade items clock → clock ≤ upgrade + seconds 20) ↔
        lastArrival upgrade items ≤ upgrade)) := by
  refine ⟨fun clock => unopened_iff, fun steady => ⟨fun bounded => ?_, fun still clock alive => ?_⟩⟩
  · have last := bounded (lastArrival upgrade items + seconds 20)
      (unopened_iff.mpr ⟨steady, Nat.le_add_right _ _, Nat.le_refl _⟩)
    exact Nat.le_of_add_le_add_right last
  · exact Nat.le_trans (unopened_iff.mp alive).2.2 (Nat.add_le_add_right still _)

/-- One idle frame after a quarter of a minute, and the session is alive after half a minute. -/
theorem unopened_beyond_window :
    ¬ ∀ clock, Unopened .v3 0 [(seconds 15, .text "6")] clock → clock ≤ 0 + seconds 20 := by
  intro bounded
  have run := Relation.ReflTransGen.head
    (Step.wait (start .v3 0) (seconds 15) (by decide) (by decide)) <|
    .head (.happen _ (.item (.text "6")) trivial
      (Option.isNone_iff_eq_none.mp (by decide +kernel))) <|
    .single (.wait _ (seconds 30) (by decide) (by decide +kernel))
  have alive := bounded (seconds 30) ⟨_, run, by decide +kernel, by decide +kernel, rfl⟩
  exact absurd alive (by decide)

end Vigil

end CacheWatch
