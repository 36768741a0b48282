import CacheWatch.Proofs.Clock.Date

/-! Weekdays of dates.
The weekday of a date is told from its year, month and day, without counting days. Days of equal
weekdays are whole weeks apart.
-/
namespace CacheWatch

namespace Weekday

/-- Counted from Monday. -/
def index : Weekday → Int
  | monday => 0
  | tuesday => 1
  | wednesday => 2
  | thursday => 3
  | friday => 4
  | saturday => 5
  | sunday => 6

def all : List Weekday := [monday, tuesday, wednesday, thursday, friday, saturday, sunday]

theorem mem_all (w : Weekday) : w ∈ all := by
  cases w <;> decide

theorem index_injective {v w : Weekday} (same : v.index = w.index) : v = w := by
  have apart : ∀ v ∈ all, ∀ w ∈ all, v.index = w.index → v = w := by decide
  exact apart v v.mem_all w w.mem_all same

theorem index_ofDayNumber (n : Int) : (ofDayNumber n).index = (n + 3) % 7 := by
  have low : 0 ≤ (n + 3) % 7 := by omega
  have high : (n + 3) % 7 < 7 := by omega
  unfold ofDayNumber
  generalize (n + 3) % 7 = k at low high
  interval_cases k <;> rfl

theorem ofDayNumber_eq {m n : Int} (same : ofDayNumber m = ofDayNumber n) : m % 7 = n % 7 := by
  have indices := congrArg index same
  rw [index_ofDayNumber, index_ofDayNumber] at indices
  omega

end Weekday

namespace Date

variable {d : Date}

/-- How far the weekdays of a month are moved in a year that begins with March. -/
def monthShift (month : Nat) : Int :=
  match month with
  | 1 | 5 => 6
  | 2 | 6 => 2
  | 3 | 11 => 1
  | 4 | 7 => 4
  | 8 => 0
  | 10 => 5
  | _ => 3

/-- Each year moves the weekdays by one, and each leap day in it by another one. -/
def weekdayIndex (d : Date) : Int :=
  (d.marchYear + d.marchYear / 4 - d.marchYear / 100 + d.marchYear / 400 + monthShift d.month +
    d.day) % 7

theorem dayNumber_eq_marchYear (d : Date) :
    d.dayNumber = 365 * d.marchYear + d.marchYear / 4 - d.marchYear / 100 + d.marchYear / 400 +
      d.dayOfMarchYear - 719468 := by
  simp only [dayNumber, marchYear, dayOfMarchYear]
  generalize (if d.month ≤ 2 then d.year - 1 else d.year) = y
  omega

theorem index_of_date (valid : d.isValid) :
    (Weekday.ofDayNumber d.dayNumber).index = d.weekdayIndex := by
  obtain ⟨⟨low, high⟩, -, -⟩ := isValid_iff.mp valid
  -- A year is a day longer than whole weeks, so both sides agree but for the days of the months.
  rw [Weekday.index_ofDayNumber, dayNumber_eq_marchYear, weekdayIndex, dayOfMarchYear]
  generalize d.marchYear = y
  obtain ⟨year, month, day⟩ := d
  interval_cases month <;> simp [monthShift] <;> omega

example : weekdayIndex ⟨2018, 5, 10⟩ = 3 := by decide

theorem next_valid (valid : d.isValid) : d.next.isValid := by
  obtain ⟨⟨low, high⟩, first, last⟩ := isValid_iff.mp valid
  have some (year : Int) (month : Nat) : 1 ≤ daysInMonth year month := by
    unfold daysInMonth
    split_ifs <;> omega
  rw [isValid_iff]
  unfold next
  split_ifs
  · exact ⟨⟨low, high⟩, by simp, by assumption⟩
  · exact ⟨⟨by simp, by simp; omega⟩, Nat.le_refl _, some _ _⟩
  · exact ⟨⟨Nat.le_refl _, by simp⟩, Nat.le_refl _, some _ _⟩

/-- Every number is the number of a day: enough eras ago there is an earlier one, and days follow
each other without a gap. -/
theorem exists_dayNumber (n : Int) : ∃ d : Date, d.isValid ∧ d.dayNumber = n := by
  have onward (k : Nat) (d : Date) (valid : d.isValid) :
      ∃ later : Date, later.isValid ∧ later.dayNumber = d.dayNumber + k := by
    induction k generalizing d with
    | zero => exact ⟨d, valid, by simp⟩
    | succ k ih =>
      obtain ⟨later, laterValid, number⟩ := ih d.next (next_valid valid)
      exact ⟨later, laterValid, by rw [number, dayNumber_next valid]; push_cast; omega⟩
  have early : dayNumber ⟨1970 - 400 * n.natAbs, 1, 1⟩ = -146097 * n.natAbs := by
    simp only [dayNumber]
    omega
  obtain ⟨d, valid, number⟩ := onward (n + 146097 * n.natAbs).toNat
    ⟨1970 - 400 * n.natAbs, 1, 1⟩ rfl
  exact ⟨d, valid, by rw [number, early]; omega⟩

end Date

end CacheWatch
