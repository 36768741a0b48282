import CacheWatch.Clock.Date
import Mathlib.Tactic.IntervalCases
import Mathlib.Tactic.Ring
import Mathlib.Tactic.SplitIfs

/-! Days and their numbers.
The next day has the next number, and a day is found again from its number. For the way back a
number is split into eras, centuries, spans of four years and years, each counted from a March.
-/
namespace CacheWatch.Date

variable {d : Date}

theorem isLeap_iff {year : Int} :
    isLeap year ↔ year % 4 = 0 ∧ (year % 100 ≠ 0 ∨ year % 400 = 0) := by
  simp [isLeap]

theorem isValid_iff :
    d.isValid ↔ (1 ≤ d.month ∧ d.month ≤ 12) ∧ 1 ≤ d.day ∧ d.day ≤ daysInMonth d.year d.month := by
  simp [isValid, and_assoc]

theorem daysInMonth_le (year : Int) (month : Nat) : daysInMonth year month ≤ 31 := by
  unfold daysInMonth
  split_ifs <;> omega

def next (d : Date) : Date :=
  if d.day < daysInMonth d.year d.month then { d with day := d.day + 1 }
  else if d.month < 12 then ⟨d.year, d.month + 1, 1⟩
  else ⟨d.year + 1, 1, 1⟩

theorem dayNumber_next (valid : d.isValid) : d.next.dayNumber = d.dayNumber + 1 := by
  obtain ⟨⟨low, high⟩, first, last⟩ := isValid_iff.mp valid
  obtain ⟨year, month, day⟩ := d
  simp only at low high first last
  by_cases within : day < daysInMonth year month
  · simp only [next, if_pos within, dayNumber]
    omega
  · obtain rfl : day = daysInMonth year month := by omega
    simp only [next, if_neg within]
    clear within first last valid
    by_cases february : month = 2
    · -- The day behind February begins another year of those counted from March.
      subst february
      by_cases leap : isLeap year
      · have years := isLeap_iff.mp leap
        simp [dayNumber, daysInMonth, leap]
        omega
      · have years := mt isLeap_iff.mpr leap
        simp [dayNumber, daysInMonth, leap]
        omega
    · interval_cases month <;> simp [dayNumber, daysInMonth] at february ⊢ <;> omega

example : dayNumber ⟨1970, 1, 1⟩ = 0 := by decide

def marchYear (d : Date) : Int := if d.month ≤ 2 then d.year - 1 else d.year

def dayOfMarchYear (d : Date) : Int := (153 * ((d.month + 9) % 12) + 2) / 5 + d.day - 1

/-- Only a year that ends with a leap day has a day 365. -/
theorem dayOfMarchYear_bounds (valid : d.isValid) :
    0 ≤ d.dayOfMarchYear ∧ d.dayOfMarchYear ≤ 365 ∧
      (d.dayOfMarchYear = 365 → d.marchYear % 4 = 3 ∧
        (d.marchYear % 100 = 99 → d.marchYear % 400 = 399)) := by
  obtain ⟨⟨low, high⟩, first, last⟩ := isValid_iff.mp valid
  obtain ⟨year, month, day⟩ := d
  simp only [daysInMonth, dayOfMarchYear, marchYear] at low high first last ⊢
  by_cases february : month = 2
  · subst february
    by_cases leap : isLeap year
    · have years := isLeap_iff.mp leap
      simp [leap] at last ⊢
      omega
    · simp [leap] at last ⊢
      omega
  · interval_cases month <;> simp at february last ⊢ <;> omega

theorem month_of_dayOfMarchYear (valid : d.isValid) :
    (5 * d.dayOfMarchYear + 2) / 153 = (d.month + 9) % 12 := by
  obtain ⟨⟨low, high⟩, first, last⟩ := isValid_iff.mp valid
  obtain ⟨year, month, day⟩ := d
  simp only [daysInMonth, dayOfMarchYear] at low high first last ⊢
  by_cases february : month = 2
  · subst february
    split_ifs at last <;> omega
  · interval_cases month <;> simp at february last ⊢ <;> omega

theorem eq_of_marchYear (valid : d.isValid) :
    let shifted := ((d.month : Int) + 9) % 12
    let month := if shifted < 10 then shifted + 3 else shifted - 9
    d = ⟨d.marchYear + (if month ≤ 2 then 1 else 0), month.toNat,
      (d.dayOfMarchYear - (153 * shifted + 2) / 5 + 1).toNat⟩ := by
  obtain ⟨⟨low, high⟩, -, -⟩ := isValid_iff.mp valid
  intro shifted month
  have same : month = d.month := by
    simp only [month, shifted]
    split_ifs <;> omega
  have day : d.dayOfMarchYear - (153 * shifted + 2) / 5 + 1 = d.day := by
    simp only [dayOfMarchYear, shifted]
    ring
  have year : d.marchYear + (if month ≤ 2 then 1 else 0) = d.year := by
    rw [same, marchYear]
    split_ifs <;> omega
  rw [day, year, same]
  rfl

section Era

variable {century quad year : Int} (centuries : 0 ≤ century ∧ century ≤ 3)
  (quads : 0 ≤ quad ∧ quad ≤ 24) (years : 0 ≤ year ∧ year ≤ 3)
include centuries quads years

theorem dayNumber_eq {era : Int}
    (is : d.marchYear = 400 * era + (100 * century + 4 * quad + year)) :
    d.dayNumber + 719468 = 146097 * era +
      (36524 * century + (1461 * quad + 365 * year + d.dayOfMarchYear)) := by
  have inEra : d.marchYear / 400 = era ∧ d.marchYear % 400 = 100 * century + 4 * quad + year := by
    omega
  have number : d.dayNumber + 719468 = d.marchYear / 400 * 146097 +
      (d.marchYear % 400 * 365 + d.marchYear % 400 / 4 - d.marchYear % 400 / 100 +
        d.dayOfMarchYear) := by
    simp only [dayNumber, marchYear, dayOfMarchYear]
    omega
  rw [number, inEra.1, inEra.2]
  omega

/-- The year in an era is found from the day in it. Leap days are taken off after every fourth year,
put back after every hundredth and taken off again after the last. -/
theorem yearOfEra_eq {day dayOfEra : Int} (days : 0 ≤ day ∧ day ≤ 365)
    (leap : day = 365 → year = 3 ∧ (quad = 24 → century = 3))
    (is : dayOfEra = 36524 * century + (1461 * quad + 365 * year + day)) :
    (dayOfEra - dayOfEra / 1460 + dayOfEra / 36524 - dayOfEra / 146096) / 365 =
      100 * century + 4 * quad + year := by
  have whole : dayOfEra / 36524 - dayOfEra / 146096 = century := by
    have rest : 0 ≤ 1461 * quad + 365 * year + day ∧ 1461 * quad + 365 * year + day ≤ 36524 ∧
        (1461 * quad + 365 * year + day = 36524 → century = 3) := by omega
    rw [is]
    generalize 1461 * quad + 365 * year + day = rest at rest
    obtain ⟨low, high⟩ := centuries
    interval_cases century <;> omega
  have quarters : dayOfEra / 1460 =
      25 * century + quad + (24 * century + quad + 365 * year + day) / 1460 := by
    rw [is, show 36524 * century + (1461 * quad + 365 * year + day) =
      (24 * century + quad + 365 * year + day) + (25 * century + quad) * 1460 by omega,
      Int.add_mul_ediv_right _ _ (by omega)]
    omega
  have lastQuarter : (24 * century + quad + 365 * year + day) / 1460 =
      if 1460 ≤ 24 * century + quad + 365 * year + day then 1 else 0 := by
    split_ifs <;> omega
  have summed : dayOfEra - dayOfEra / 1460 + dayOfEra / 36524 - dayOfEra / 146096 =
      (day - (if 1460 ≤ 24 * century + quad + 365 * year + day then 1 else 0)) +
        (100 * century + 4 * quad + year) * 365 := by
    rw [← lastQuarter]
    omega
  rw [summed, Int.add_mul_ediv_right _ _ (by omega)]
  split_ifs <;> omega

end Era

theorem ofDayNumber_dayNumber (valid : d.isValid) : ofDayNumber d.dayNumber = d := by
  obtain ⟨first, last, leap⟩ := dayOfMarchYear_bounds valid
  obtain ⟨era, century, quad, year, centuries, quads, years, is⟩ :
      ∃ era century quad year : Int, (0 ≤ century ∧ century ≤ 3) ∧ (0 ≤ quad ∧ quad ≤ 24) ∧
        (0 ≤ year ∧ year ≤ 3) ∧ d.marchYear = 400 * era + (100 * century + 4 * quad + year) :=
    ⟨d.marchYear / 400, d.marchYear % 400 / 100, d.marchYear % 100 / 4, d.marchYear % 4,
      by omega, by omega, by omega, by omega⟩
  have number := dayNumber_eq centuries quads years is
  have ends : d.dayOfMarchYear = 365 → year = 3 ∧ (quad = 24 → century = 3) := by omega
  have inEra : (d.dayNumber + 719468) / 146097 = era ∧ (d.dayNumber + 719468) % 146097 =
      36524 * century + (1461 * quad + 365 * year + d.dayOfMarchYear) := by
    rw [Int.ediv_emod_unique (by omega)]
    refine ⟨by omega, by omega, by omega⟩
  have yearOfEra := yearOfEra_eq centuries quads years ⟨first, last⟩ ends inEra.2
  have dayOfYear : (d.dayNumber + 719468) % 146097 - (365 * (100 * century + 4 * quad + year) +
      (100 * century + 4 * quad + year) / 4 - (100 * century + 4 * quad + year) / 100) =
        d.dayOfMarchYear := by
    have fours : (100 * century + 4 * quad + year) / 4 = 25 * century + quad := by
      clear is inEra number yearOfEra leap ends
      omega
    have hundreds : (100 * century + 4 * quad + year) / 100 = century := by
      clear is inEra number yearOfEra leap ends
      omega
    rw [inEra.2, fours, hundreds]
    ring
  have whole : 100 * century + 4 * quad + year + era * 400 = d.marchYear := by
    rw [is]
    ring
  simp only [ofDayNumber, yearOfEra, dayOfYear, month_of_dayOfMarchYear valid, inEra.1, whole]
  exact (eq_of_marchYear valid).symm

theorem dayNumber_bounds (valid : d.isValid) (years : 0 ≤ d.year ∧ d.year ≤ 9999) :
    -1000000 ≤ d.dayNumber ∧ d.dayNumber ≤ 3000000 := by
  obtain ⟨first, last, -⟩ := dayOfMarchYear_bounds valid
  have march : -1 ≤ d.marchYear ∧ d.marchYear ≤ 9999 := by
    unfold marchYear
    split_ifs <;> omega
  have parts : d.marchYear = 400 * (d.marchYear / 400) + (100 * (d.marchYear % 400 / 100) +
      4 * (d.marchYear % 100 / 4) + d.marchYear % 4) := by omega
  have number := dayNumber_eq (by omega) (by omega) (by omega) parts
  omega

theorem firstDay_eq : firstDay = -96465292 := by decide

theorem lastDay_eq : lastDay = 95026236 := by decide

theorem inRange_iff {day : Int} : inRange day ↔ firstDay ≤ day ∧ day ≤ lastDay := by
  simp [inRange]

end CacheWatch.Date
