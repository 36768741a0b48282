import CacheWatch.Clock.Label
import CacheWatch.Proofs.Clock.Date

/-! When a raw timestamp has a label.
A text is only read as an instant inside the calendar, in UTC. The viewer's offset is applied later,
and takes an instant of the first or the last day out of the calendar when it crosses the end.
-/
namespace CacheWatch

structure Timestamp.Representable (t : Timestamp) : Prop where
  instant : Date.inRange t.instant.dayNumber
  offset : t.offset.natAbs < 86400

namespace Instant

/-- At the offset the clocks show a date behind the last day or before the first. -/
def Leaves (i : Instant) (offset : Int) : Prop :=
  (i.dayNumber = Date.lastDay ∧ 86400 ≤ i.secondOfDay + offset) ∨
    (i.dayNumber = Date.firstDay ∧ i.secondOfDay + offset < 0)

variable {i : Instant} {offset : Int}

theorem localDay_cases (i : Instant) (within : offset.natAbs < 86400) :
    (86400 ≤ i.secondOfDay + offset ∧ Timestamp.localDay i offset = i.dayNumber + 1) ∨
      (i.secondOfDay + offset < 0 ∧ Timestamp.localDay i offset = i.dayNumber - 1) ∨
      (0 ≤ i.secondOfDay + offset ∧ i.secondOfDay + offset < 86400 ∧
        Timestamp.localDay i offset = i.dayNumber) := by
  unfold Timestamp.localDay dayNumber secondOfDay
  omega

theorem leaves_iff (inside : Date.inRange i.dayNumber) (within : offset.natAbs < 86400) :
    i.Leaves offset ↔ ¬ Date.inRange (Timestamp.localDay i offset) := by
  have bounds := Date.inRange_iff.mp inside
  rw [Date.inRange_iff, Leaves]
  simp only [Date.firstDay_eq, Date.lastDay_eq] at bounds ⊢
  rcases i.localDay_cases within with ⟨later, day⟩ | ⟨under, day⟩ | ⟨low, high, day⟩ <;>
    rw [day] <;> omega

theorem not_leaves_of_inside (inside : Date.firstDay < i.dayNumber ∧ i.dayNumber < Date.lastDay) :
    ¬ i.Leaves offset := by
  rintro (⟨last, -⟩ | ⟨first, -⟩)
  · exact inside.2.ne last
  · exact inside.1.ne' first

theorem not_leaves_utc (i : Instant) : ¬ i.Leaves 0 := by
  have second : i.secondOfDay < 86400 := by
    unfold secondOfDay
    omega
  rintro (⟨-, later⟩ | ⟨-, under⟩) <;> omega

end Instant

namespace Timestamp

theorem representable_of_timestamp? {w : WrittenTime} {t : Timestamp}
    (denoted : w.timestamp? = some t) : t.Representable := by
  obtain ⟨checked, same⟩ := Option.ite_none_right_eq_some.mp denoted
  simp only [Bool.and_eq_true, decide_eq_true_eq] at checked
  obtain ⟨⟨-, offset⟩, instant⟩ := checked
  obtain rfl := Option.some.inj same
  exact ⟨instant, offset⟩

theorem representable_of_ofText? {raw : String} {t : Timestamp} (read : ofText? raw = some t) :
    t.Representable := by
  have denoted : ∃ w : WrittenTime, w.timestamp? = some t := by
    simp only [ofText?, ofChars?] at read
    split at read
    · rename_i first
      obtain ⟨w, -, same⟩ := Option.bind_eq_some_iff.mp first
      exact ⟨w, by rw [same, read]⟩
    · obtain ⟨w, -, same⟩ := Option.bind_eq_some_iff.mp read
      exact ⟨w, same⟩
  obtain ⟨w, same⟩ := denoted
  exact representable_of_timestamp? same

theorem calendarText?_eq_none_iff {instant : Instant} {viewer : Timestamp} :
    calendarText? instant viewer = none ↔ ¬ Date.inRange (localDay instant viewer.offset) ∨
      ¬ Date.inRange (localDay viewer.instant viewer.offset) := by
  simp [calendarText?, imp_iff_not_or]

end Timestamp

namespace CalendarLabel

open Timestamp (Representable)

variable {raw : String} {viewer t : Timestamp}

theorem ofText?_of_read (read : Timestamp.ofText? raw = some t) :
    ofText? raw viewer = (Timestamp.calendarText? t.instant viewer).map shown := by
  rw [ofText?, read]

theorem ofText?_eq_none_iff (read : Timestamp.ofText? raw = some t)
    (representable : viewer.Representable) : ofText? raw viewer = none ↔
      t.instant.Leaves viewer.offset ∨ viewer.instant.Leaves viewer.offset := by
  have inside := Timestamp.representable_of_ofText? read
  rw [ofText?_of_read read, Option.map_eq_none_iff, Timestamp.calendarText?_eq_none_iff,
    Instant.leaves_iff inside.instant representable.offset,
    Instant.leaves_iff representable.instant representable.offset]

theorem exists_label (representable : viewer.Representable)
    (away : viewer.offset = 0 ∨
      ((Date.firstDay < viewer.instant.dayNumber ∧ viewer.instant.dayNumber < Date.lastDay) ∧
        ∀ t, Timestamp.ofText? raw = some t →
          Date.firstDay < t.instant.dayNumber ∧ t.instant.dayNumber < Date.lastDay)) :
    ∃ label, ofText? raw viewer = some label := by
  cases read : Timestamp.ofText? raw with
  | none => exact ⟨invalid, by rw [ofText?, read]⟩
  | some t =>
    rw [← Option.ne_none_iff_exists', ne_eq, ofText?_eq_none_iff read representable]
    rintro (event | now)
    · rcases away with utc | ⟨-, inside⟩
      · exact t.instant.not_leaves_utc (utc ▸ event)
      · exact Instant.not_leaves_of_inside (inside t read) event
    · rcases away with utc | ⟨inside, -⟩
      · exact viewer.instant.not_leaves_utc (utc ▸ now)
      · exact Instant.not_leaves_of_inside inside now

/-- The label is missing just when the offset takes what is shown, or the viewer's own time, over an
end of the calendar. Away from both ends, or in UTC, there always is one. -/
theorem missing_iff_leaves (raw : String) (viewer : Timestamp) :
    (Timestamp.ofText? raw = none → ofText? raw viewer = some invalid) ∧
    (viewer.Representable →
      (viewer.offset = 0 ∨
        ((Date.firstDay < viewer.instant.dayNumber ∧ viewer.instant.dayNumber < Date.lastDay) ∧
          ∀ t, Timestamp.ofText? raw = some t →
            Date.firstDay < t.instant.dayNumber ∧ t.instant.dayNumber < Date.lastDay)) →
      ∃ label, ofText? raw viewer = some label) ∧
    ∀ t, Timestamp.ofText? raw = some t → t.Representable ∧
      (ofText? raw viewer = none ∨ ∃ text, ofText? raw viewer = some (shown text)) ∧
      (viewer.Representable → (ofText? raw viewer = none ↔
        t.instant.Leaves viewer.offset ∨ viewer.instant.Leaves viewer.offset)) := by
  refine ⟨fun unread => by rw [ofText?, unread], exists_label, fun t read => ?_⟩
  refine ⟨Timestamp.representable_of_ofText? read, ?_, ofText?_eq_none_iff read⟩
  rw [ofText?_of_read read]
  cases Timestamp.calendarText? t.instant viewer with
  | none => exact .inl rfl
  | some text => exact .inr ⟨text, rfl⟩

/-- The last second of the calendar is on no date an hour east of UTC. -/
theorem missing_past_last_day :
    let raw := "+262142-12-31 23:59:59 +0000"
    let viewer : Timestamp := ⟨⟨1525960800, 0⟩, 3600⟩
    viewer.Representable ∧ Timestamp.ofText? raw = some ⟨⟨8210266876799, 0⟩, 0⟩ ∧
      ofText? raw viewer = none := by
  refine ⟨⟨?_, ?_⟩, ?_, ?_⟩ <;> decide +kernel

end CalendarLabel

end CacheWatch
