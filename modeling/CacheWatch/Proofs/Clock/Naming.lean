import CacheWatch.Clock.Label
import CacheWatch.Proofs.Clock.Timestamp
import CacheWatch.Proofs.Clock.Weekday

/-! What is named by the label of a date near the viewer's own.
The words of a label come before its first digit, so that words and clock are told apart. The words
name one date in a fortnight, the clock one minute of a day.
-/
namespace CacheWatch

open Json (Stops stops_cons takeWhile_digits isDigit_toDigits decimalValue_toDigits)
open Text (zeroPadded isDigit_zeroPadded length_zeroPadded decimalValue_zeroPadded)

structure LocalTime where
  date : Date
  hour : Nat
  minute : Nat

namespace LocalTime

structure ShownAt (t : LocalTime) (i : Instant) (offset : Int) : Prop where
  date : t.date.isValid
  hour : t.hour < 24
  minute : t.minute < 60
  second : ∃ second : Nat, second < 60 ∧ i.seconds + offset =
    t.date.dayNumber * 86400 + (t.hour * 3600 + t.minute * 60 + second : Nat)

variable {t : LocalTime} {i j : Instant} {offset : Int}

theorem ShownAt.localDay (shown : t.ShownAt i offset) :
    Timestamp.localDay i offset = t.date.dayNumber := by
  obtain ⟨-, hour, minute, second, small, is⟩ := shown
  rw [Timestamp.localDay, is]
  omega

theorem exists_shownAt (i : Instant) (offset : Int) : ∃ t : LocalTime, t.ShownAt i offset := by
  obtain ⟨date, valid, number⟩ := Date.exists_dayNumber (Timestamp.localDay i offset)
  let second := Timestamp.localSecond i offset
  have inDay : second < 86400 ∧
      i.seconds + offset = Timestamp.localDay i offset * 86400 + second := by
    simp only [second, Timestamp.localSecond, Timestamp.localDay]
    omega
  have hour : second / 3600 < 24 := by omega
  have minute : second / 60 % 60 < 60 := Nat.mod_lt _ (by decide)
  have parts : second / 3600 * 3600 + second / 60 % 60 * 60 + second % 60 = second := by omega
  refine ⟨⟨date, second / 3600, second / 60 % 60⟩, valid, hour, minute, second % 60,
    Nat.mod_lt _ (by decide), ?_⟩
  rw [parts, number]
  exact inDay.2

theorem ShownAt.of_same_minute (shown : t.ShownAt i offset)
    (day : Timestamp.localDay i offset = Timestamp.localDay j offset)
    (minute : Timestamp.localSecond i offset / 60 = Timestamp.localSecond j offset / 60) :
    t.ShownAt j offset := by
  obtain ⟨date, hour, inHour, second, small, is⟩ := shown
  refine ⟨date, hour, inHour, Timestamp.localSecond j offset % 60, by omega, ?_⟩
  unfold Timestamp.localDay at day
  unfold Timestamp.localSecond at minute ⊢
  omega

end LocalTime

inductive DayName where
  | today
  | yesterday
  | tomorrow
  | last (weekday : Weekday)
  | coming (weekday : Weekday)
deriving DecidableEq

namespace DayName

def all : List DayName :=
  today :: yesterday :: tomorrow :: (Weekday.all.map last ++ Weekday.all.map coming)

theorem mem_all (name : DayName) : name ∈ all := by
  cases name with
  | last weekday => simp [all, weekday.mem_all]
  | coming weekday => simp [all, weekday.mem_all]
  | _ => decide

def text : DayName → String
  | today => "Today"
  | yesterday => "Yesterday"
  | tomorrow => "Tomorrow"
  | last weekday => "Last " ++ weekday.name
  | coming weekday => weekday.name

/-- The date that is meant, `distance` days behind the viewer's. -/
def Means (name : DayName) (distance day : Int) : Prop :=
  match name with
  | today => distance = 0
  | yesterday => distance = -1
  | tomorrow => distance = 1
  | last weekday => (-6 ≤ distance ∧ distance ≤ -2) ∧ weekday = .ofDayNumber day
  | coming weekday => (2 ≤ distance ∧ distance ≤ 6) ∧ weekday = .ofDayNumber day

variable {name : DayName} {distance day : Int}

theorem text_injective {first second : DayName} (same : first.text = second.text) :
    first = second := by
  have apart : ∀ first ∈ all, ∀ second ∈ all, first.text = second.text → first = second := by
    decide +kernel
  exact apart first first.mem_all second second.mem_all same

theorem undigital (name : DayName) : ∀ c ∈ name.text.toList, !c.isDigit := by
  have words : ∀ name ∈ all, name.text.toList.all (!·.isDigit) := by decide +kernel
  exact List.all_eq_true.mp (words name name.mem_all)

theorem exists_means (near : distance.natAbs ≤ 6) (day : Int) :
    ∃ name : DayName, name.Means distance day := by
  rcases (by omega : distance = 0 ∨ distance = -1 ∨ distance = 1 ∨
    (-6 ≤ distance ∧ distance ≤ -2) ∨ (2 ≤ distance ∧ distance ≤ 6)) with
    now | before | behind | past | future
  · exact ⟨today, now⟩
  · exact ⟨yesterday, before⟩
  · exact ⟨tomorrow, behind⟩
  · exact ⟨last _, past, rfl⟩
  · exact ⟨coming _, future, rfl⟩

/-- Of dates in reach no two have the same name: those that share a weekday are a week apart. -/
theorem means_unique {here first second : Int} (one : name.Means (first - here) first)
    (other : name.Means (second - here) second) : first = second := by
  cases name with
  | today | yesterday | tomorrow => exact sub_left_inj.mp (one.trans other.symm)
  | last weekday | coming weekday =>
    obtain ⟨window, is⟩ := one
    obtain ⟨sameWindow, same⟩ := other
    have weeks := Weekday.ofDayNumber_eq (is.symm.trans same)
    omega

variable (means : name.Means distance day)
include means

theorem weekday_iff (w : Weekday) : name = last w ∨ name = coming w ↔
    (2 ≤ distance.natAbs ∧ distance.natAbs ≤ 6) ∧ w = .ofDayNumber day := by
  cases name with
  | today | yesterday | tomorrow =>
    have distance : distance = _ := means
    simp [distance]
  | last weekday | coming weekday =>
    obtain ⟨window, rfl⟩ := means
    have apart : 2 ≤ distance.natAbs ∧ distance.natAbs ≤ 6 := by omega
    simp [apart, eq_comm]

theorem last_iff : (∃ w, name = last w) ↔ -6 ≤ distance ∧ distance ≤ -2 := by
  cases name with
  | today | yesterday | tomorrow =>
    have distance : distance = _ := means
    simp [distance]
  | last weekday =>
    obtain ⟨past, rfl⟩ := means
    simp [past]
  | coming weekday =>
    obtain ⟨future, rfl⟩ := means
    have other : ¬ (-6 ≤ distance ∧ distance ≤ -2) := by omega
    simp [other]

end DayName

namespace Timestamp

def namedText (name : DayName) (second : Nat) : String := name.text ++ (" at " ++ clockText second)

theorem dayText_of_means {name : DayName} {distance day : Int} (means : name.Means distance day)
    (second : Nat) : dayText distance day second = namedText name second := by
  unfold dayText
  cases name with
  | today =>
    obtain rfl : distance = 0 := means
    rfl
  | yesterday =>
    obtain rfl : distance = -1 := means
    rfl
  | tomorrow =>
    obtain rfl : distance = 1 := means
    rfl
  | last weekday =>
    obtain ⟨past, rfl⟩ := means
    rw [if_neg (by omega), if_neg (by omega), if_neg (by omega), if_pos (by simpa using past)]
    rfl
  | coming weekday =>
    obtain ⟨future, rfl⟩ := means
    rw [if_neg (by omega), if_neg (by omega), if_neg (by omega), if_neg (by simp; omega),
      if_pos (by simpa using future)]
    rfl

theorem dayText_of_far {distance : Int} (far : 6 < distance.natAbs) (day : Int) (second : Nat) :
    dayText distance day second = dateText day := by
  unfold dayText
  rw [if_neg (by omega), if_neg (by omega), if_neg (by omega), if_neg (by simp; omega),
    if_neg (by simp; omega)]

def shownHour (hour : Nat) : Nat := if hour % 12 = 0 then 12 else hour % 12

def meridiem (hour : Nat) : Char := if hour < 12 then 'A' else 'P'

theorem toList_clockText (second : Nat) : (clockText second).toList =
    Nat.toDigits 10 (shownHour (second / 3600)) ++
      ':' :: ((zeroPadded 2 (second / 60 % 60)).toList ++
        [' ', meridiem (second / 3600), 'M']) := by
  have half : (if second / 3600 < 12 then " AM" else " PM").toList =
      [' ', meridiem (second / 3600), 'M'] := by
    unfold meridiem
    split_ifs <;> rfl
  simp only [clockText, String.toList_append, half]
  simp [shownHour]

theorem meridiem_eq_iff {hour : Nat} : meridiem hour = 'A' ↔ hour < 12 := by
  simp [meridiem]

theorem hour_eq {first second : Nat} (inFirst : first < 24) (inSecond : second < 24)
    (shown : shownHour first = shownHour second) (half : meridiem first = meridiem second) :
    first = second := by
  -- Within a half of the day the hours shown are all different.
  have halves : first < 12 ↔ second < 12 := by
    rw [← meridiem_eq_iff, half, meridiem_eq_iff]
  unfold shownHour at shown
  split_ifs at shown <;> omega

theorem toDigits_append_inj {m n : Nat} {rest others : List Char} (stops : Stops rest)
    (othersStop : Stops others)
    (same : Nat.toDigits 10 m ++ rest = Nat.toDigits 10 n ++ others) : m = n ∧ rest = others := by
  have digits := congrArg (List.takeWhile Char.isDigit) same
  rw [(takeWhile_digits (isDigit_toDigits m) stops).1,
    (takeWhile_digits (isDigit_toDigits n) othersStop).1] at digits
  obtain rfl : m = n := by
    rw [← decimalValue_toDigits m, digits, decimalValue_toDigits]
  exact ⟨rfl, List.append_cancel_left same⟩

/-- Noon and midnight are both twelve, in different halves of the day. -/
theorem minute_of_clockText {first second : Nat} (inFirst : first < 86400)
    (inSecond : second < 86400) (same : clockText first = clockText second) :
    first / 60 = second / 60 := by
  have chars := congrArg String.toList same
  rw [toList_clockText, toList_clockText] at chars
  obtain ⟨shown, behind⟩ := toDigits_append_inj (stops_cons rfl) (stops_cons rfl) chars
  obtain ⟨minutes, halves⟩ := List.append_inj (List.cons.inj behind).2
    (by rw [length_zeroPadded (by omega) (by omega), length_zeroPadded (by omega) (by omega)])
  have minute : first / 60 % 60 = second / 60 % 60 := by
    rw [← decimalValue_zeroPadded 2 (first / 60 % 60), minutes, decimalValue_zeroPadded]
  have half : meridiem (first / 3600) = meridiem (second / 3600) := by simpa using halves
  have hour := hour_eq (by omega) (by omega) shown half
  omega

theorem takeWhile_namedText (name : DayName) (second : Nat) :
    (namedText name second).toList.takeWhile (!·.isDigit) = name.text.toList ++ " at ".toList := by
  obtain ⟨d, ds, hour⟩ := List.exists_cons_of_ne_nil
    (Nat.toDigits_ne_nil (n := shownHour (second / 3600)) (b := 10))
  have digit : d.isDigit := isDigit_toDigits _ d (hour ▸ List.mem_cons_self)
  have between : " at ".toList.all (!·.isDigit) := by decide
  have words : ∀ c ∈ name.text.toList ++ " at ".toList, !c.isDigit := by
    intro c member
    rcases List.mem_append.mp member with inName | behind
    · exact name.undigital c inName
    · exact List.all_eq_true.mp between c behind
  rw [namedText, String.toList_append, String.toList_append, ← List.append_assoc,
    List.takeWhile_append_of_pos words, toList_clockText, hour, List.cons_append,
    List.takeWhile_cons_of_neg (by simp [digit]), List.append_nil]

theorem namedText_injective {first second : DayName} {s t : Nat}
    (same : namedText first s = namedText second t) :
    first = second ∧ clockText s = clockText t := by
  have words := congrArg (fun text => text.toList.takeWhile (!·.isDigit)) same
  simp only [takeWhile_namedText, List.append_cancel_right_eq, String.toList_inj] at words
  obtain rfl := DayName.text_injective words
  have chars := congrArg String.toList same
  simp only [namedText, String.toList_append, List.append_cancel_left_eq,
    String.toList_inj] at chars
  exact ⟨rfl, chars⟩

def undigited (name : DayName) (morning : Bool) : List Char :=
  name.text.toList ++ (if morning then " at : AM" else " at : PM").toList

theorem filter_digits {ds : List Char} (digits : ∀ c ∈ ds, c.isDigit) :
    ds.filter (!·.isDigit) = [] :=
  List.filter_eq_nil_iff.mpr fun c member => by simp [digits c member]

theorem filter_clockText (second : Nat) : (clockText second).toList.filter (!·.isDigit) =
    (if second / 3600 < 12 then ": AM" else ": PM").toList := by
  have colon (cs : List Char) :
      (':' :: cs).filter (!·.isDigit) = ':' :: cs.filter (!·.isDigit) := rfl
  rw [toList_clockText, List.filter_append, colon, List.filter_append,
    filter_digits (isDigit_toDigits _), filter_digits (isDigit_zeroPadded _ _), meridiem]
  split_ifs <;> decide

theorem filter_namedText (name : DayName) (second : Nat) :
    (namedText name second).toList.filter (!·.isDigit) =
      undigited name (second / 3600 < 12) := by
  have words : name.text.toList.filter (!·.isDigit) = name.text.toList :=
    List.filter_eq_self.mpr name.undigital
  have between : " at ".toList.filter (!·.isDigit) = " at ".toList := by decide
  rw [namedText, String.toList_append, String.toList_append, List.filter_append,
    List.filter_append, words, between, filter_clockText, undigited]
  refine congrArg (name.text.toList ++ ·) ?_
  by_cases morning : second / 3600 < 12
  · simp [morning]
  · simp [morning]

/-- What has no digit is found in a label just if it is found in the label without its digits. -/
theorem infix_undigited {word : List Char} (undigital : ∀ c ∈ word, !c.isDigit)
    {name : DayName} {second : Nat} (within : word <:+: (namedText name second).toList) :
    word <:+: undigited name (second / 3600 < 12) := by
  have filtered := List.IsInfix.filter (!·.isDigit) within
  rwa [filter_namedText, List.filter_eq_self.mpr undigital] at filtered

theorem weekday_infix_iff (w : Weekday) (name : DayName) (second : Nat) :
    w.name.toList <:+: (namedText name second).toList ↔ name = .last w ∨ name = .coming w := by
  constructor
  · intro within
    have found := infix_undigited (DayName.undigital (.coming w)) within
    -- Without the digits there are few labels, and each pair can be compared.
    have all : ∀ w ∈ Weekday.all, ∀ name ∈ DayName.all, ∀ morning,
        w.name.toList <:+: undigited name morning → name = .last w ∨ name = .coming w := by
      decide +kernel
    exact all w w.mem_all name name.mem_all _ found
  · rintro (rfl | rfl)
    · exact ⟨"Last ".toList, (" at " ++ clockText second).toList, by simp [namedText, DayName.text]⟩
    · exact ⟨[], (" at " ++ clockText second).toList, by simp [namedText, DayName.text]⟩

theorem last_infix_iff (name : DayName) (second : Nat) :
    "Last".toList <:+: (namedText name second).toList ↔ ∃ w, name = .last w := by
  constructor
  · intro within
    have undigital : "Last".toList.all (!·.isDigit) := by decide
    have found := infix_undigited (List.all_eq_true.mp undigital) within
    have all : ∀ name ∈ DayName.all, ∀ morning,
        "Last".toList <:+: undigited name morning → ∃ w ∈ Weekday.all, name = .last w := by
      decide +kernel
    obtain ⟨w, -, is⟩ := all name name.mem_all _ found
    exact ⟨w, is⟩
  · rintro ⟨w, rfl⟩
    exact ⟨[], (" " ++ w.name ++ (" at " ++ clockText second)).toList, by
      simp [namedText, DayName.text]⟩

theorem mem_yearText {year : Int} {c : Char} (member : c ∈ (yearText year).toList) :
    c.isDigit ∨ c = '-' ∨ c = '+' := by
  unfold yearText at member
  split_ifs at member
  · exact .inl (isDigit_zeroPadded _ _ c member)
  all_goals
    rw [String.toList_append, List.mem_append] at member
    rcases member with sign | digit
    · have is := List.mem_singleton.mp sign
      tauto
    · exact .inl (isDigit_zeroPadded _ _ c digit)

theorem mem_dateText {day : Int} {c : Char} (member : c ∈ (dateText day).toList) :
    c.isDigit ∨ c = '/' ∨ c = '-' ∨ c = '+' := by
  simp only [dateText, String.toList_append, List.mem_append] at member
  rcases member with (((month | slash) | day) | slash) | year
  · exact .inl (isDigit_zeroPadded _ _ c month)
  · exact .inr (.inl (List.mem_singleton.mp slash))
  · exact .inl (isDigit_zeroPadded _ _ c day)
  · exact .inr (.inl (List.mem_singleton.mp slash))
  · exact (mem_yearText year).imp_right .inr

theorem not_mem_dateText (day : Int) : 'a' ∉ (dateText day).toList := by
  intro member
  rcases mem_dateText member with digit | slash | minus | plus
  · exact absurd digit (by decide)
  · exact absurd slash (by decide)
  · exact absurd minus (by decide)
  · exact absurd plus (by decide)

theorem not_infix_dateText {word : List Char} (letter : 'a' ∈ word) (day : Int) :
    ¬ word <:+: (dateText day).toList := fun within =>
  not_mem_dateText day (within.subset letter)

theorem namedText_ne_dateText (name : DayName) (second : Nat) (day : Int) :
    namedText name second ≠ dateText day := by
  intro same
  have letter : 'a' ∈ (namedText name second).toList := by
    simp [namedText]
  exact not_mem_dateText day (same ▸ letter)

section Label

variable {viewer : Timestamp} {a b : Instant}

theorem calendarText?_eq (instant : Instant) (viewer : Timestamp) :
    calendarText? instant viewer =
      if Date.inRange (localDay instant viewer.offset) ∧
        Date.inRange (localDay viewer.instant viewer.offset) then
          some (dayText (localDay instant viewer.offset - localDay viewer.instant viewer.offset)
            (localDay instant viewer.offset) (localSecond instant viewer.offset))
      else none := by
  simp [calendarText?]

theorem localSecond_lt (i : Instant) (offset : Int) : localSecond i offset < 86400 := by
  unfold localSecond
  omega

theorem same_minute_of_namedText {name : DayName}
    (means : name.Means (localDay a viewer.offset - localDay viewer.instant viewer.offset)
      (localDay a viewer.offset))
    (shown : calendarText? b viewer = some (namedText name (localSecond a viewer.offset))) :
    localDay a viewer.offset = localDay b viewer.offset ∧
      localSecond a viewer.offset / 60 = localSecond b viewer.offset / 60 := by
  rw [calendarText?_eq, Option.ite_none_right_eq_some] at shown
  have same := Option.some.inj shown.2
  by_cases near : (localDay b viewer.offset - localDay viewer.instant viewer.offset).natAbs ≤ 6
  · obtain ⟨other, meant⟩ := DayName.exists_means near (localDay b viewer.offset)
    rw [dayText_of_means meant] at same
    obtain ⟨rfl, clocks⟩ := namedText_injective same
    exact ⟨DayName.means_unique means meant,
      (minute_of_clockText (localSecond_lt ..) (localSecond_lt ..) clocks).symm⟩
  · rw [dayText_of_far (by omega)] at same
    exact absurd same.symm (namedText_ne_dateText _ _ _)

end Label

/-- Near the viewer's date a label is given to one minute only, and by its words alone tells on
which side of that date it lies. -/
theorem relative_label_names_minute (viewer : Timestamp) (a : Instant)
    (day : Date.inRange (localDay a viewer.offset))
    (today : Date.inRange (localDay viewer.instant viewer.offset)) :
    ∃ here now : LocalTime, ∃ text : String,
      here.ShownAt a viewer.offset ∧ now.ShownAt viewer.instant viewer.offset ∧
        calendarText? a viewer = some text ∧
        let distance := here.date.dayNumber - now.date.dayNumber
        (distance.natAbs ≤ 6 →
          ∀ b, calendarText? b viewer = some text → here.ShownAt b viewer.offset) ∧
        (∀ w : Weekday, w.name.toList <:+: text.toList ↔
          (2 ≤ distance.natAbs ∧ distance.natAbs ≤ 6) ∧ w.index = here.date.weekdayIndex) ∧
        ("Last".toList <:+: text.toList ↔ -6 ≤ distance ∧ distance ≤ -2) := by
  obtain ⟨here, shown⟩ := LocalTime.exists_shownAt a viewer.offset
  obtain ⟨now, clock⟩ := LocalTime.exists_shownAt viewer.instant viewer.offset
  have text := (calendarText?_eq a viewer).trans (if_pos ⟨day, today⟩)
  refine ⟨here, now, _, shown, clock, text, ?_⟩
  rw [← shown.localDay, ← clock.localDay]
  intro distance
  have weekday (w : Weekday) : w.index = here.date.weekdayIndex ↔
      w = .ofDayNumber (localDay a viewer.offset) := by
    rw [shown.localDay, ← Date.index_of_date shown.date]
    exact ⟨Weekday.index_injective, congrArg _⟩
  by_cases near : distance.natAbs ≤ 6
  · obtain ⟨name, means⟩ := DayName.exists_means near (localDay a viewer.offset)
    rw [dayText_of_means means] at text ⊢
    refine ⟨fun _ b sharing => ?_, fun w => ?_, ?_⟩
    · obtain ⟨days, minutes⟩ := same_minute_of_namedText means sharing
      exact shown.of_same_minute days minutes
    · rw [weekday, ← DayName.weekday_iff means]
      exact weekday_infix_iff w name _
    · rw [← DayName.last_iff means]
      exact last_infix_iff name _
  · -- Farther away a date is written out, without the letter that all names have.
    rw [dayText_of_far (by omega)] at text ⊢
    refine ⟨fun within => absurd within near, fun w => ?_, ?_⟩
    · have letter : ∀ w ∈ Weekday.all, 'a' ∈ w.name.toList := by decide
      exact iff_of_false (not_infix_dateText (letter w w.mem_all) _) fun other => near other.1.2
    · exact iff_of_false (not_infix_dateText (by decide) _) (by omega)

/-- A leap day, five minutes behind midnight, as seen two days later. -/
theorem relative_label_names_minute_leap_day :
    let viewer : Timestamp := ⟨⟨1709398800, 0⟩, -18000⟩
    let a : Instant := ⟨1709183100, 0⟩
    Date.inRange (localDay a viewer.offset) ∧
      Date.inRange (localDay viewer.instant viewer.offset) ∧
      calendarText? a viewer = some "Last Thursday at 12:05 AM" ∧
      ∃ here : LocalTime, here.ShownAt a viewer.offset ∧
        ∀ b, calendarText? b viewer = some "Last Thursday at 12:05 AM" →
          here.ShownAt b viewer.offset := by
  intro viewer a
  have day : Date.inRange (localDay a viewer.offset) := by decide
  have today : Date.inRange (localDay viewer.instant viewer.offset) := by decide
  have label : calendarText? a viewer = some "Last Thursday at 12:05 AM" := by decide +kernel
  obtain ⟨here, now, text, shown, clock, is, minute, -⟩ :=
    relative_label_names_minute viewer a day today
  obtain rfl := Option.some.inj (label.symm.trans is)
  rw [← shown.localDay, ← clock.localDay] at minute
  exact ⟨day, today, label, here, shown, minute (by decide)⟩

end Timestamp

end CacheWatch
