import CacheWatch.Proofs.Channel.Log
import CacheWatch.Proofs.Settings.Server
import Mathlib.Algebra.Group.Nat.Defs

/-! How long a transport waits after each session.
The delays double from one failure to the next, up to the bound, and an established session begins
them anew. Below the bound nothing is cut off, because no bound of the settings comes near the
longest duration.
-/
namespace CacheWatch

theorem millis_pos {n : Nat} (positive : 0 < n) : 0 < millis n := Nat.mul_pos positive (by decide)

theorem millis_le {m n : Nat} (le : m ≤ n) : millis m ≤ millis n := Nat.mul_le_mul_right _ le

theorem millis_le_longest {n : Nat} (fits : Word.fits 64 n) : millis n ≤ longestDuration := by
  have below : n < 18446744073709551616 := of_decide_eq_true fits
  change n * 1000000 ≤ 18446744073709551616 * 1000000000 - 1
  omega

namespace RetryDelay

structure Schedule (initial max : Nat) (outcomes : List Bool) (delays : List Nat) : Prop where
  each : delays.length = outcomes.length
  doubled : ∀ i j : Nat, j ≤ i → outcomes[j]? = some true →
    (∀ l : Nat, j < l → l ≤ i → outcomes[l]? = some false) →
    delays[i]? = some (min (initial * 2 ^ (i - j)) max)
  doubledFromStart : ∀ i : Nat, (∀ l : Nat, l ≤ i → outcomes[l]? = some false) →
    delays[i]? = some (min (initial * 2 ^ i) max)
  renewed : ∀ i : Nat, outcomes[i]? = some true → delays[i]? = some initial
  bounded : ∀ delay ∈ delays, 0 < delay ∧ delay ≤ max
  rising : ∀ i delay later : Nat, outcomes[i + 1]? = some false → delays[i]? = some delay →
    delays[i + 1]? = some later → delay ≤ later ∧ (delay = max → later = max)

/-- How often the delay has been doubled, for each of some sessions and `n` times before them. -/
def doublings (n : Nat) : List Bool → List Nat
  | [] => []
  | established :: rest =>
    let n := if established then 0 else n
    n :: doublings (n + 1) rest

theorem doublings_length (n : Nat) (outcomes : List Bool) :
    (doublings n outcomes).length = outcomes.length := by
  induction outcomes generalizing n with
  | nil => rfl
  | cons established rest ih => rw [doublings, List.length_cons, List.length_cons, ih]

theorem doublings_failed {outcomes : List Bool} {i : Nat}
    (failed : ∀ l, l ≤ i → outcomes[l]? = some false) (n : Nat) :
    (doublings n outcomes)[i]? = some (n + i) := by
  induction outcomes generalizing n i with
  | nil => exact absurd (failed 0 (Nat.zero_le i)) (by simp)
  | cons established rest ih =>
    have first : established = false := by simpa using failed 0 (Nat.zero_le i)
    subst first
    cases i with
    | zero => rfl
    | succ i =>
      have others := ih (fun l le => failed (l + 1) (Nat.succ_le_succ le)) (n + 1)
      rw [Nat.add_right_comm] at others
      exact others

theorem doublings_since {outcomes : List Bool} {i j : Nat} (le : j ≤ i)
    (established : outcomes[j]? = some true)
    (failed : ∀ l, j < l → l ≤ i → outcomes[l]? = some false) (n : Nat) :
    (doublings n outcomes)[i]? = some (i - j) := by
  induction outcomes generalizing n i j with
  | nil => contradiction
  | cons first rest ih =>
    cases j with
    | zero =>
      have same : first = true := by simpa using established
      subst same
      cases i with
      | zero => rfl
      | succ i =>
        have others := @doublings_failed rest i
          (fun l le => failed (l + 1) (Nat.succ_pos l) (Nat.succ_le_succ le)) 1
        rw [Nat.add_comm] at others
        exact others
    | succ j =>
      obtain ⟨i, rfl⟩ : ∃ k, i = k + 1 := ⟨i - 1, by omega⟩
      rw [Nat.add_sub_add_right]
      exact ih (Nat.le_of_succ_le_succ le) established
        (fun l after le => failed (l + 1) (Nat.succ_lt_succ after) (Nat.succ_le_succ le)) _

theorem doublings_next {outcomes : List Bool} {i n m : Nat}
    (failed : outcomes[i + 1]? = some false) (found : (doublings n outcomes)[i]? = some m) :
    (doublings n outcomes)[i + 1]? = some (m + 1) := by
  induction outcomes generalizing n i with
  | nil => contradiction
  | cons first rest ih =>
    cases i with
    | zero =>
      have begun : (if first then 0 else n) = m := Option.some.inj found
      obtain ⟨rest, rfl⟩ : ∃ tail, rest = false :: tail := by
        cases rest with
        | nil => contradiction
        | cons second tail => exact ⟨tail, by simpa using failed⟩
      rw [← begun]
      rfl
    | succ i => exact ih failed found

variable {initial max : Nat}

/-- The longest duration cuts nothing off that the bound does not cut off as well. -/
theorem next_eq (fits : max ≤ longestDuration) (n : Nat) :
    (⟨initial, max, min (initial * 2 ^ n) max⟩ : RetryDelay).next =
      (min (initial * 2 ^ n) max, ⟨initial, max, min (initial * 2 ^ (n + 1)) max⟩) := by
  have twice : min (doubled (min (initial * 2 ^ n) max)) max = min (initial * 2 ^ (n + 1)) max := by
    rw [doubled, Nat.pow_succ, ← Nat.mul_assoc]
    omega
  rw [next, twice]

theorem afterSession_eq (le : initial ≤ max) (fits : max ≤ longestDuration) (n : Nat)
    (established : Bool) :
    let m := if established then 0 else n
    (⟨initial, max, min (initial * 2 ^ n) max⟩ : RetryDelay).afterSession established =
      (min (initial * 2 ^ m) max, ⟨initial, max, min (initial * 2 ^ (m + 1)) max⟩) := by
  cases established with
  | false => exact next_eq fits n
  | true =>
    have anew : initial = min (initial * 2 ^ 0) max := by
      rw [Nat.pow_zero, Nat.mul_one, Nat.min_eq_left le]
    have same : (⟨initial, max, min (initial * 2 ^ n) max⟩ : RetryDelay).reset =
        ⟨initial, max, min (initial * 2 ^ 0) max⟩ := by
      rw [reset, ← anew]
    rw [afterSession, if_pos rfl, same]
    exact next_eq fits 0

theorem afterSessions_eq (le : initial ≤ max) (fits : max ≤ longestDuration) (n : Nat)
    (outcomes : List Bool) :
    (⟨initial, max, min (initial * 2 ^ n) max⟩ : RetryDelay).afterSessions outcomes =
      (doublings n outcomes).map fun m => min (initial * 2 ^ m) max := by
  induction outcomes generalizing n with
  | nil => rfl
  | cons established rest ih =>
    rw [afterSessions, afterSession_eq le fits n established]
    exact congrArg _ (ih _)

theorem start_schedule (positive : 0 < initial) (le : initial ≤ max)
    (fits : max ≤ longestDuration) (outcomes : List Bool) :
    Schedule initial max outcomes ((start initial max).afterSessions outcomes) := by
  have closed : (start initial max).afterSessions outcomes =
      (doublings 0 outcomes).map fun m => min (initial * 2 ^ m) max := by
    rw [← afterSessions_eq le fits 0, Nat.pow_zero, Nat.mul_one, Nat.min_eq_left le]
    rfl
  rw [closed]
  have since : ∀ i j : Nat, j ≤ i → outcomes[j]? = some true →
      (∀ l : Nat, j < l → l ≤ i → outcomes[l]? = some false) →
      ((doublings 0 outcomes).map fun m => min (initial * 2 ^ m) max)[i]? =
        some (min (initial * 2 ^ (i - j)) max) := by
    intro i j before established failed
    rw [List.getElem?_map, doublings_since before established failed]
    rfl
  refine ⟨?_, since, ?_, ?_, ?_, ?_⟩
  · rw [List.length_map, doublings_length]
  · intro i failed
    rw [List.getElem?_map, doublings_failed failed, Nat.zero_add]
    rfl
  · intro i established
    have anew := since i i (Nat.le_refl i) established fun l after le => by omega
    rw [Nat.sub_self, Nat.pow_zero, Nat.mul_one, Nat.min_eq_left le] at anew
    exact anew
  · intro delay member
    obtain ⟨m, -, rfl⟩ := List.mem_map.mp member
    have grown : 0 < initial * 2 ^ m := Nat.mul_pos positive (Nat.two_pow_pos m)
    omega
  · intro i delay later failed first second
    rw [List.getElem?_map, Option.map_eq_some_iff] at first
    obtain ⟨m, found, rfl⟩ := first
    rw [List.getElem?_map, doublings_next failed found] at second
    have twice : min (initial * 2 ^ m * 2) max = later := by
      rw [Nat.mul_assoc, ← Nat.pow_succ]
      exact Option.some.inj second
    omega

end RetryDelay

namespace Attempt

def outcomes (log : List Attempt) : List Bool :=
  (log.reverse.filter (·.reading.isOver)).map (·.reading.content.isSome)

theorem outcomes_over {a : Attempt} (ended : a.reading.isOver) (past : List Attempt) :
    outcomes (a :: past) = outcomes past ++ [a.reading.content.isSome] := by
  simp [outcomes, ended]

theorem outcomes_open {a : Attempt} (unfinished : a.reading.isOver = false) (past : List Attempt) :
    outcomes (a :: past) = outcomes past := by
  simp [outcomes, unfinished]

end Attempt

namespace Transport

open Attempt (record outcomes outcomes_over outcomes_open)

def retryDue? (t : Transport) : Option Nat :=
  match t.phase with
  | .waiting due => some due
  | _ => none

/-- How long a transport will wait, where an occurrence makes it begin to. -/
def sleep? (t : Transport) (now : Nat) (o : Occurrence) : Option Nat :=
  match t.retryDue? with
  | none => (t.step now o).1.retryDue?.map (· - now)
  | some _ => none

def sleeps (t : Transport) : List (Nat × Occurrence) → List Nat
  | [] => []
  | (now, o) :: rest => (t.sleep? now o).toList ++ (t.step now o).1.sleeps rest

variable {t : Transport} {log : List Attempt} {now : Nat} {o : Occurrence}

inductive Passes (t : Transport) (now : Nat) (o : Occurrence) (before after : List Bool) : Prop
  | on (awake : t.sleep? now o = none) (delay : (t.step now o).1.delay = t.delay)
      (same : after = before)
  | ends (established : Bool) (asleep : t.sleep? now o = some (t.delay.afterSession established).1)
      (delay : (t.step now o).1.delay = (t.delay.afterSession established).2)
      (longer : after = before ++ [established])

theorem Passes.idle {before : List Bool} (still : (t.step now o).1 = t) :
    Passes t now o before before := by
  refine .on ?_ (by rw [still]) rfl
  rw [sleep?, still]
  cases asleep : t.retryDue? with
  | none => rfl
  | some due => rfl

theorem Passes.lose {before after : List Bool} {established : Bool} {loss : Loss}
    (awake : t.retryDue? = none) (lost : (t.step now o).1 = (t.lose now established loss).1)
    (longer : after = before ++ [established]) : Passes t now o before after := by
  refine .ends established ?_ (by rw [lost]; rfl) longer
  rw [sleep?, awake, lost]
  exact congrArg some (Nat.add_sub_cancel_left _ _)

theorem Keeps.passes (keeps : Keeps t log) (now : Nat) (o : Occurrence) :
    Passes t now o (outcomes log) (outcomes (record log o)) := by
  cases keeps with
  | closed phase => exact .idle (by simp only [step, phase])
  | dialling phase _ =>
    have awake : t.retryDue? = none := by rw [retryDue?, phase]
    cases o with
    | refused cause =>
      have ended : (Attempt.refused cause).reading.isOver := rfl
      rw [outcomes_open rfl]
      exact .lose awake (by simp only [step, phase]; rfl) (outcomes_over ended _)
    | opened =>
      refine .on ?_ ?_ ?_
      · simp only [sleep?, awake, step, phase]
        rfl
      · simp only [step, phase]
      · exact (outcomes_open rfl _).trans (outcomes_open rfl _).symm
    | stimulus s => exact .idle (by simp only [step, phase])
    | retry => exact .idle (by simp only [step, phase])
  | @live l stimuli past phase _ unfinished established =>
    have awake : t.retryDue? = none := by rw [retryDue?, phase]
    have unended : (Attempt.socket stimuli).reading.isOver = false := by
      rw [Attempt.reading, Reading.isOver, unfinished]
      rfl
    cases o with
    | stimulus s =>
      have answers := l.react_answers now s
      rw [← established] at answers
      obtain ⟨content, loss, -⟩ := Reading.read_answered unfinished answers
      rw [← Reading.ofStimuli_snoc] at content loss
      rw [← l.react_session now s] at content
      rw [outcomes_open unended]
      cases ending : (l.react now s).2.loss with
      | none =>
        rw [ending] at loss
        have unended : (Attempt.socket (stimuli ++ [s])).reading.isOver = false := by
          rw [Attempt.reading, Reading.isOver, loss]
          rfl
        refine .on ?_ ?_ (outcomes_open unended past)
        · simp only [sleep?, awake, step, phase, ending]
          rfl
        · simp only [step, phase, ending]
      | some lost =>
        rw [ending] at loss
        have ended : (Attempt.socket (stimuli ++ [s])).reading.isOver := by
          rw [Attempt.reading, Reading.isOver, loss]
          rfl
        have lose : (t.step now (.stimulus s)).1 =
            (t.lose now (l.react now s).1.session.established lost).1 := by
          simp only [step, phase, ending]
        refine .lose awake lose ?_
        rw [← content]
        exact outcomes_over ended past
    | refused cause => exact .idle (by simp only [step, phase])
    | opened => exact .idle (by simp only [step, phase])
    | retry =>
      have same : record (.socket stimuli :: past) .retry = .socket stimuli :: past := by
        simp only [record, unended, Bool.false_eq_true, if_false]
      rw [same]
      exact .idle (by simp only [step, phase])
  | @waiting due a past phase finished _ =>
    by_cases retry : o = .retry
    · subst retry
      have longer : record (a :: past) .retry = .dialling :: a :: past := by
        cases a <;> simp only [record, finished, if_true]
      rw [longer]
      refine .on ?_ ?_ (outcomes_open rfl _)
      · simp only [sleep?, retryDue?, phase]
      · simp only [step, phase, dial]
    · obtain ⟨b, recorded, same⟩ := Attempt.record_over finished past retry
      have unchanged : outcomes (b :: past) = outcomes (a :: past) := by
        rw [outcomes_over finished, outcomes_over (by rwa [same]), same]
      rw [recorded, unchanged]
      exact .idle (by cases o <;> first | contradiction | simp only [step, phase])

theorem Keeps.sleeps_eq (keeps : Keeps t log) (occurrences : List (Nat × Occurrence)) :
    ∃ ended, outcomes (logAfter log occurrences) = outcomes log ++ ended ∧
      t.sleeps occurrences = t.delay.afterSessions ended := by
  induction occurrences generalizing t log with
  | nil => exact ⟨[], (List.append_nil _).symm, rfl⟩
  | cons occurrence rest ih =>
    obtain ⟨now, o⟩ := occurrence
    obtain ⟨ended, all, sleeps⟩ := ih (step_keeps keeps now o).1
    change outcomes (logAfter (record log o) rest) = _ at all
    rw [Transport.sleeps, sleeps]
    cases keeps.passes now o with
    | on awake delay same =>
      rw [awake, delay]
      exact ⟨ended, all.trans (by rw [same]), rfl⟩
    | ends established asleep delay longer =>
      rw [asleep, delay]
      refine ⟨established :: ended, all.trans ?_, rfl⟩
      rw [longer, List.append_assoc, List.singleton_append]

theorem start_delay (settings : ServerSettings) (o : TargetOverrides) :
    (start settings o).1.delay =
      RetryDelay.start (millis settings.initialDelay) (millis settings.maxDelay) := by
  unfold start
  cases target settings o <;> rfl

theorem start_outcomes (settings : ServerSettings) (o : TargetOverrides) :
    outcomes (startLog settings o) = [] := by
  unfold startLog
  cases target settings o <;> rfl

end Transport

theorem ServerSettings.delays_of_validate {settings : ServerSettings}
    (accepted : settings.validate = .ok ()) :
    0 < settings.initialDelay ∧ settings.initialDelay ≤ settings.maxDelay :=
  have usable := validates_iff.mp accepted
  ⟨usable.delay, usable.bound⟩

namespace Transport

/-- With settings that are accepted, a transport waits after each session for the first delay,
doubled as often as attempts have failed since the last established session, and at most for the
bound. -/
theorem sleeps_schedule (settings : ServerSettings) (accepted : settings.validate = .ok ())
    (fits : Word.fits 64 settings.maxDelay) (o : TargetOverrides)
    (occurrences : List (Nat × Occurrence)) :
    RetryDelay.Schedule (millis settings.initialDelay) (millis settings.maxDelay)
      (Attempt.outcomes (logAfter (startLog settings o) occurrences))
      ((start settings o).1.sleeps occurrences) := by
  obtain ⟨positive, le⟩ := ServerSettings.delays_of_validate accepted
  obtain ⟨ended, all, sleeps⟩ := (start_keeps settings o).1.sleeps_eq occurrences
  rw [start_outcomes, List.nil_append] at all
  rw [all, sleeps, start_delay]
  exact RetryDelay.start_schedule (millis_pos positive) (millis_le le) (millis_le_longest fits)
    ended

/-- With the largest bound that settings can hold: two failures, an established session, and one
more failure. -/
theorem sleeps_schedule_largest_bound :
    ∃ settings occurrences, settings.validate = .ok () ∧ settings.maxDelay = 2 ^ 64 - 1 ∧
      (start settings ⟨none, none⟩).1.sleeps occurrences =
        [millis (2 ^ 63), millis (2 ^ 64 - 1), millis (2 ^ 63), millis (2 ^ 64 - 1)] ∧
      RetryDelay.Schedule (millis settings.initialDelay) (millis settings.maxDelay)
        [false, false, true, false] ((start settings ⟨none, none⟩).1.sleeps occurrences) := by
  let settings := { ServerSettings.default with initialDelay := 2 ^ 63, maxDelay := 2 ^ 64 - 1 }
  let occurrences : List (Nat × Occurrence) :=
    [(0, .refused ""), (1, .retry), (1, .refused ""), (2, .retry), (2, .opened),
      (3, .stimulus (.item (.text "40"))), (4, .stimulus .silence), (5, .retry), (5, .refused "")]
  have accepted : settings.validate = .ok () :=
    ServerSettings.validate_eq_ok_iff.mpr (by decide +kernel)
  have ended : Attempt.outcomes (logAfter (startLog settings ⟨none, none⟩) occurrences) =
      [false, false, true, false] := by
    decide +kernel
  refine ⟨settings, occurrences, accepted, rfl, by decide +kernel, ?_⟩
  rw [← ended]
  exact sleeps_schedule settings accepted (by decide +kernel) ⟨none, none⟩ occurrences

end Transport

end CacheWatch
