import CacheWatch.Proofs.Monitor.Run
import CacheWatch.Tool.Probe

/-! What a wait for an introduction comes to, told from the arrivals alone.
The deadline is moved by the first introduction and by nothing behind it, as later ones only allow
more time than is left.
-/
namespace CacheWatch.Tool

namespace Arrival

def isIntroduction (a : Arrival) : Bool := a.message.system?.isSome

def isLimit (a : Arrival) : Bool := a.message.allocation?.isSome

def loss? (a : Arrival) : Option String :=
  match a.message with
  | .disconnected reason => some reason
  | _ => none

def dated (a : Arrival) : Instant × Message := (a.clock, a.message)

end Arrival

namespace Probe

def deadlineAfter (limit : Nat) (past : List Arrival) : Nat :=
  match past.find? Arrival.isIntroduction with
  | none => limit
  | some first => min limit (first.time + grace)

def Satisfied (past : List Arrival) : Prop :=
  (∃ a ∈ past, a.isIntroduction) ∧ ∃ a ∈ past, a.isLimit

/-- No arrival falls on the deadline that is in force when it comes. -/
def Apart (limit : Nat) (arrivals : List Arrival) : Prop :=
  ∀ i (inside : i < arrivals.length),
    arrivals[i].time ≠ deadlineAfter limit (arrivals.take i)

def Timely (limit : Nat) (consumed : List Arrival) : Prop :=
  ∀ i (inside : i < consumed.length), ¬ Satisfied (consumed.take i) ∧
    consumed[i].time < deadlineAfter limit (consumed.take i)

/-- Arrivals are consumed until nothing is missing, no more arrives, or the deadline passes. -/
structure Waits (limit : Nat) (consumed rest : List Arrival) : Prop where
  timely : Timely limit consumed
  ended : Satisfied consumed ∨ rest = [] ∨
    ∃ late ∈ rest.head?, deadlineAfter limit consumed < late.time

variable {limit : Nat} {past consumed rest arrivals : List Arrival} {a first : Arrival}

theorem deadlineAfter_of_some (found : past.find? Arrival.isIntroduction = some first) :
    deadlineAfter limit past = min limit (first.time + grace) := by
  rw [deadlineAfter, found]

theorem deadlineAfter_of_none (unfound : past.find? Arrival.isIntroduction = none) :
    deadlineAfter limit past = limit := by
  rw [deadlineAfter, unfound]

theorem deadlineAfter_le (limit : Nat) (past : List Arrival) :
    deadlineAfter limit past ≤ limit := by
  unfold deadlineAfter
  split
  · exact Nat.le_refl _
  · exact Nat.min_le_left _ _

theorem exists_first (introduced : ∃ a ∈ past, a.isIntroduction) :
    ∃ first, past.find? Arrival.isIntroduction = some first :=
  Option.isSome_iff_exists.mp (List.find?_isSome.mpr introduced)

theorem find?_introduction_eq_none (missing : ¬ ∃ a ∈ past, a.isIntroduction) :
    past.find? Arrival.isIntroduction = none := by
  simpa using missing

theorem deadlineAfter_append (introduced : ∃ a ∈ past, a.isIntroduction) (more : List Arrival) :
    deadlineAfter limit (past ++ more) = deadlineAfter limit past := by
  obtain ⟨first, found⟩ := exists_first introduced
  rw [deadlineAfter_of_some found]
  apply deadlineAfter_of_some
  rw [List.find?_append, found, Option.some_or]

theorem deadlineAfter_concat (latest : ∀ earlier ∈ past, earlier.time ≤ a.time) :
    deadlineAfter limit (past ++ [a]) =
      if a.isIntroduction then min (deadlineAfter limit past) (a.time + grace)
      else deadlineAfter limit past := by
  by_cases introduced : ∃ a ∈ past, a.isIntroduction
  · obtain ⟨first, found⟩ := exists_first introduced
    have earlier := latest first (List.mem_of_find?_eq_some found)
    rw [deadlineAfter_append introduced, deadlineAfter_of_some found]
    split
    · rw [Nat.min_assoc, Nat.min_eq_left (Nat.add_le_add_right earlier grace)]
    · rfl
  · have unfound := find?_introduction_eq_none introduced
    rw [deadlineAfter_of_none unfound]
    split
    · next introduction =>
      apply deadlineAfter_of_some
      rw [List.find?_append, unfound, Option.none_or, List.find?_singleton, if_pos introduction]
    · next other =>
      apply deadlineAfter_of_none
      rw [List.find?_append, unfound, Option.none_or, List.find?_singleton, if_neg other]

structure Reflects (m : Monitor) (limit : Nat) (past : List Arrival) (p : Probe) : Prop where
  monitor : p.monitor = m.applyAll (past.map Arrival.dated)
  deadline : p.deadline = deadlineAfter limit past
  introduced : p.introduced = past.any Arrival.isIntroduction
  limited : p.limited = past.any Arrival.isLimit
  lastReason : p.lastReason = (past.filterMap Arrival.loss?).getLast?

variable {m : Monitor} {p : Probe}

theorem start_reflects (m : Monitor) (now timeout : Nat) :
    Reflects m (now + timeout) [] (start m now timeout) :=
  ⟨rfl, rfl, rfl, rfl, rfl⟩

theorem Reflects.isComplete_iff (reflects : Reflects m limit past p) :
    p.isComplete ↔ Satisfied past := by
  rw [isComplete, reflects.introduced, reflects.limited, Bool.and_eq_true, List.any_eq_true,
    List.any_eq_true]
  rfl

theorem consume_eq (p : Probe) (a : Arrival) :
    p.consume a =
      { monitor := (p.monitor.apply a.clock a.message).1
        deadline := if a.isIntroduction then min p.deadline (a.time + grace) else p.deadline
        introduced := p.introduced || a.isIntroduction
        limited := p.limited || a.isLimit
        lastReason := a.loss?.or p.lastReason } := by
  obtain ⟨time, clock, message⟩ := a
  obtain ⟨m, deadline, introduced, limited, lastReason⟩ := p
  cases message with
  | cache raw =>
    cases outcome : CacheEvent.ofJson raw clock with
    | ok event =>
      simp [consume, note, Monitor.apply_accepted m outcome, Arrival.isIntroduction,
        Arrival.isLimit, Arrival.loss?, Message.system?, Message.allocation?]
    | error reason =>
      simp [consume, note, Monitor.apply_rejected m outcome, Arrival.isIntroduction,
        Arrival.isLimit, Arrival.loss?, Message.system?, Message.allocation?]
  | _ =>
    simp [consume, note, Monitor.apply, Monitor.withLink, Arrival.isIntroduction,
      Arrival.isLimit, Arrival.loss?, Message.system?, Message.allocation?]

theorem Reflects.consume (reflects : Reflects m limit past p)
    (latest : ∀ earlier ∈ past, earlier.time ≤ a.time) :
    Reflects m limit (past ++ [a]) (p.consume a) := by
  rw [consume_eq]
  constructor
  · rw [List.map_append, List.map_singleton, Arrival.dated, Monitor.applyAll_snoc,
      reflects.monitor]
  · rw [deadlineAfter_concat latest, reflects.deadline]
  · rw [List.any_append, reflects.introduced, List.any_cons, List.any_nil, Bool.or_false]
  · rw [List.any_append, reflects.limited, List.any_cons, List.any_nil, Bool.or_false]
  · rw [List.filterMap_append, List.getLast?_append, reflects.lastReason]
    cases loss : a.loss? <;> simp [loss]

theorem Timely.concat (timely : Timely limit past) (wanted : ¬ Satisfied past)
    (early : a.time < deadlineAfter limit past) : Timely limit (past ++ [a]) := by
  intro i inside
  rw [List.length_append, List.length_singleton] at inside
  rcases Nat.lt_succ_iff_lt_or_eq.mp inside with before | rfl
  · rw [List.take_append_of_le_length (Nat.le_of_lt before), List.getElem_append_left before]
    exact timely i before
  · rw [List.take_left' rfl, List.getElem_concat_length rfl]
    exact ⟨wanted, early⟩

/-- The induction is on what is still to arrive, and the deadline is the one that the arrivals
behind leave. -/
theorem run_waits (reflects : Reflects m limit past p) (timely : Timely limit past)
    (ordered : (past ++ rest).Pairwise (·.time ≤ ·.time)) (apart : Apart limit (past ++ rest)) :
    ∃ consumed left, past ++ rest = consumed ++ left ∧ Waits limit consumed left ∧
      Reflects m limit consumed (p.run rest) := by
  induction rest generalizing past p with
  | nil => exact ⟨past, [], rfl, ⟨timely, .inr (.inl rfl)⟩, reflects⟩
  | cons a rest ih =>
    rw [run]
    by_cases satisfied : Satisfied past
    · rw [reflects.isComplete_iff.mpr satisfied, Bool.true_or, if_pos rfl]
      exact ⟨past, a :: rest, rfl, ⟨timely, .inl satisfied⟩, reflects⟩
    · have incomplete : p.isComplete = false :=
        Bool.eq_false_iff.mpr (mt reflects.isComplete_iff.mp satisfied)
      simp only [incomplete, Bool.false_or, decide_eq_true_eq, reflects.deadline]
      split
      · next late =>
        exact ⟨past, a :: rest, rfl, ⟨timely, .inr (.inr ⟨a, rfl, late⟩)⟩, reflects⟩
      · next reached =>
        have inside : past.length < (past ++ a :: rest).length := by simp
        have other := apart past.length inside
        rw [List.take_left' rfl, List.getElem_append_right (Nat.le_refl _)] at other
        have early : a.time < deadlineAfter limit past := by
          simp only [Nat.sub_self, List.getElem_cons_zero] at other
          omega
        have latest : ∀ earlier ∈ past, earlier.time ≤ a.time := fun earlier member =>
          (List.pairwise_append.mp ordered).2.2 earlier member a List.mem_cons_self
        rw [List.append_cons] at ordered apart ⊢
        exact ih (reflects.consume latest) (timely.concat satisfied early) ordered apart

section Outcome

variable (is : arrivals = consumed ++ rest) (ordered : arrivals.Pairwise (·.time ≤ ·.time))
  (waits : Waits limit consumed rest)
include is ordered waits

theorem Waits.late (unsatisfied : ¬ Satisfied consumed) :
    ∀ a ∈ rest, deadlineAfter limit consumed < a.time := by
  intro a member
  rcases waits.ended with satisfied | none | ⟨late, head, past⟩
  · exact absurd satisfied unsatisfied
  · rw [none] at member
    contradiction
  · obtain ⟨tail, rfl⟩ := List.head?_eq_some_iff.mp head
    rw [is] at ordered
    have behind := (List.pairwise_append.mp ordered).2.1
    rcases List.mem_cons.mp member with rfl | member
    · exact past
    · exact Nat.lt_of_lt_of_le past ((List.pairwise_cons.mp behind).1 a member)

theorem Waits.introduced_iff :
    (∃ a ∈ consumed, a.isIntroduction) ↔ ∃ a ∈ arrivals, a.isIntroduction ∧ a.time < limit := by
  constructor
  · rintro ⟨a, member, introduction⟩
    obtain ⟨i, inside, rfl⟩ := List.mem_iff_getElem.mp member
    have early := Nat.lt_of_lt_of_le (waits.timely i inside).2 (deadlineAfter_le _ _)
    exact ⟨_, is ▸ List.mem_append_left rest member, introduction, early⟩
  · rintro ⟨a, member, introduction, early⟩
    by_contra missing
    rw [is, List.mem_append] at member
    rcases member with consumed | left
    · exact missing ⟨a, consumed, introduction⟩
    · have late := waits.late is ordered (fun satisfied => missing satisfied.1) a left
      rw [deadlineAfter_of_none (find?_introduction_eq_none missing)] at late
      omega

/-- No arrival is consumed past the deadline that there is in the end: until the first introduction
the limit holds, and that introduction comes no earlier than what was consumed before. -/
theorem Waits.before_deadline (introduced : ∃ a ∈ consumed, a.isIntroduction)
    (member : a ∈ consumed) : a.time < deadlineAfter limit consumed := by
  obtain ⟨i, inside, rfl⟩ := List.mem_iff_getElem.mp member
  have early := (waits.timely i inside).2
  by_cases before : ∃ a ∈ consumed.take i, a.isIntroduction
  · have same : deadlineAfter limit (consumed.take i ++ consumed.drop i) = _ :=
      deadlineAfter_append before _
    rw [List.take_append_drop] at same
    rw [same]
    exact early
  · rw [deadlineAfter_of_none (find?_introduction_eq_none before)] at early
    obtain ⟨first, found⟩ := exists_first introduced
    have behind : first ∈ consumed.drop i := by
      have somewhere := List.mem_of_find?_eq_some found
      rw [← List.take_append_drop i consumed, List.mem_append] at somewhere
      exact somewhere.resolve_left fun earlier => before ⟨first, earlier, List.find?_some found⟩
    have later : consumed[i].time ≤ first.time := by
      rw [is] at ordered
      have sorted := (List.pairwise_append.mp ordered).1.drop (i := i)
      rw [List.drop_eq_getElem_cons inside] at behind sorted
      rcases List.mem_cons.mp behind with same | after
      · exact Nat.le_of_eq (congrArg Arrival.time same.symm)
      · exact (List.pairwise_cons.mp sorted).1 first after
    have spare : 0 < grace := by decide
    rw [deadlineAfter_of_some found]
    omega

theorem Waits.limited_iff (introduced : ∃ a ∈ consumed, a.isIntroduction) :
    (∃ a ∈ consumed, a.isLimit) ↔
      ∃ a ∈ arrivals, a.isLimit ∧ a.time < deadlineAfter limit arrivals := by
  have deadline : deadlineAfter limit arrivals = deadlineAfter limit consumed := by
    rw [is, deadlineAfter_append introduced]
  rw [deadline]
  constructor
  · rintro ⟨a, member, limits⟩
    have early := waits.before_deadline is ordered introduced member
    exact ⟨a, is ▸ List.mem_append_left rest member, limits, early⟩
  · rintro ⟨a, member, limits, early⟩
    by_contra missing
    rw [is, List.mem_append] at member
    rcases member with consumed | left
    · exact missing ⟨a, consumed, limits⟩
    · have late := waits.late is ordered (fun satisfied => missing satisfied.2) a left
      omega

end Outcome

theorem Reflects.result_eq {now timeout : Nat}
    (reflects : Reflects m (now + timeout) consumed ((start m now timeout).run arrivals)) :
    result m now timeout arrivals =
      if consumed.any Arrival.isIntroduction then .ok (m.applyAll (consumed.map Arrival.dated))
      else .error ⟨(m.applyAll (consumed.map Arrival.dated)).origin.address, timeout / seconds 1,
        (consumed.filterMap Arrival.loss?).getLast?⟩ := by
  rw [result, reflects.introduced, reflects.monitor, reflects.lastReason]

theorem Failure.message_eq (f : Failure) :
    f.message = "no handshake from server \"" ++ f.address ++ "\" within " ++
      toString f.timeout ++ "s" ++ f.reason.elim "" (": " ++ ·) := by
  unfold message
  cases f.reason <;> rfl

/-- A wait succeeds just if an introduction arrives in time. What it consumes is settled by the
first introduction alone, and the answer is what the consumed messages say. -/
theorem wait_told_by_arrivals (origin : Origin) (capacity now timeout : Nat)
    {arrivals : List Arrival} (ordered : arrivals.Pairwise (·.time ≤ ·.time))
    (apart : Apart (now + timeout) arrivals) :
    let fresh := Monitor.start origin capacity
    let outcome := result fresh now timeout arrivals
    ∃ consumed rest, arrivals = consumed ++ rest ∧ Waits (now + timeout) consumed rest ∧
      ((∃ m, outcome = .ok m) ↔ ∃ a ∈ arrivals, a.isIntroduction ∧ a.time < now + timeout) ∧
      (∀ m, outcome = .ok m →
        m = fresh.applyAll (consumed.map Arrival.dated) ∧
          m.allocation =
            (Monitor.allocations (consumed.map Arrival.dated)).getLast?.getD 0 ∧
          ((∃ a ∈ consumed, a.isLimit) ↔
            ∃ a ∈ arrivals, a.isLimit ∧ a.time < deadlineAfter (now + timeout) arrivals)) ∧
      ∀ failure, outcome = .error failure →
        failure.reason = (consumed.filterMap Arrival.loss?).getLast? ∧
          failure.message = "no handshake from server \"" ++ origin.address ++ "\" within " ++
            toString (timeout / seconds 1) ++ "s" ++ failure.reason.elim "" (": " ++ ·) := by
  intro fresh outcome
  obtain ⟨consumed, rest, is, waits, reflects⟩ :=
    run_waits (start_reflects fresh now timeout) (fun _ => nofun) ordered apart
  rw [List.nil_append] at is
  have follows := Monitor.applyAll_follows origin capacity (consumed.map Arrival.dated)
  have introduced_iff := waits.introduced_iff is ordered
  have origin_eq : (fresh.applyAll (consumed.map Arrival.dated)).origin = origin := follows.origin
  have outcome_eq : outcome = _ := reflects.result_eq
  rw [origin_eq] at outcome_eq
  refine ⟨consumed, rest, is, waits, ?_⟩
  by_cases introduced : ∃ a ∈ consumed, a.isIntroduction
  · rw [if_pos (List.any_eq_true.mpr introduced)] at outcome_eq
    refine ⟨⟨fun _ => introduced_iff.mp introduced, fun _ => ⟨_, outcome_eq⟩⟩, ?_, ?_⟩
    · intro m ok
      obtain rfl := Except.ok.inj (outcome_eq.symm.trans ok)
      refine ⟨rfl, ?_, waits.limited_iff is ordered introduced⟩
      rw [follows.allocation, Monitor.allocations, List.filterMap_reverse, List.head?_reverse]
      rfl
    · intro failure error
      simp only [outcome_eq, reduceCtorEq] at error
  · rw [if_neg (mt List.any_eq_true.mp introduced)] at outcome_eq
    refine ⟨⟨?_, fun inTime => absurd (introduced_iff.mpr inTime) introduced⟩, ?_, ?_⟩
    · rintro ⟨m, ok⟩
      simp only [outcome_eq, reduceCtorEq] at ok
    · intro m ok
      simp only [outcome_eq, reduceCtorEq] at ok
    · intro failure error
      obtain rfl := Except.error.inj (outcome_eq.symm.trans error)
      exact ⟨rfl, Failure.message_eq _⟩

/-- A second introduction does not leave time for a rate limit that the first one does not. -/
theorem wait_told_by_arrivals_introduced_twice :
    let arrivals : List Arrival :=
      [⟨millis 500, ⟨0, 0⟩, .disconnected "refused"⟩, ⟨millis 1500, ⟨1, 0⟩, .connecting 2⟩,
        ⟨millis 2000, ⟨2, 0⟩, .system ⟨"2.0.0", true, []⟩⟩,
        ⟨millis 2400, ⟨2, 0⟩, .system ⟨"2.0.1", true, []⟩⟩,
        ⟨millis 2600, ⟨2, 0⟩, .rateLimit 450⟩]
    arrivals.Pairwise (·.time ≤ ·.time) ∧ Apart (0 + seconds 5) arrivals ∧
      ∃ m, result (.start ⟨"server", false⟩ 50) 0 (seconds 5) arrivals = .ok m ∧
        m.version = "2.0.1" ∧ m.allocation = 0 := by
  intro arrivals
  have ordered : arrivals.Pairwise (·.time ≤ ·.time) := by decide
  have apart : Apart (0 + seconds 5) arrivals := by
    unfold Apart
    decide +kernel
  obtain ⟨_, _, -, -, succeeds, -⟩ :=
    wait_told_by_arrivals ⟨"server", false⟩ 50 0 (seconds 5) ordered apart
  obtain ⟨m, ok⟩ := succeeds.mpr ⟨arrivals[2], by simp, by decide, by decide⟩
  have shown : (result (.start ⟨"server", false⟩ 50) 0 (seconds 5) arrivals).toOption.map
      (fun m => (m.version, m.allocation)) = some ("2.0.1", 0) := by decide +kernel
  rw [ok] at shown
  obtain ⟨version, allocation⟩ := Prod.mk.inj (Option.some.inj shown)
  exact ⟨ordered, apart, m, ok, version, allocation⟩

end Probe

end CacheWatch.Tool
