import CacheWatch.Proofs.Clock.Timestamp

/-! Both encodings of a time are read back.
RFC 3339 is tried first and stops at the blank in front of an offset, so a time in three words is
left to the other grammar, which takes the words alone and needs nothing that stands behind them.
-/
namespace CacheWatch

open Text (Blank Solid Apart zeroPadded isDigit_zeroPadded solid_of_digits solid_cons)

namespace WrittenTime

/-- The texts of a time, with white space around them and further words behind an offset. -/
inductive Encodes (w : WrittenTime) : String → Prop
  | rfc3339 {front back : List Char} (before : Blank front) (behind : Blank back) :
      Encodes w (String.ofList (front ++ (w.rfc3339.toList ++ back)))
  | spaced {front rest : List Char} (before : Blank front) (apart : Apart rest) :
      Encodes w (String.ofList (front ++ (w.spaced.toList ++ rest)))

def secondOfDay (w : WrittenTime) : Nat := w.hour * 3600 + w.minute * 60 + w.second

def instant (w : WrittenTime) : Instant :=
  ⟨w.date.dayNumber * 86400 + w.secondOfDay - w.offset, w.nanos⟩

variable {w : WrittenTime}

theorem Civil.secondOfDay_lt (civil : w.Civil) : w.secondOfDay < 86400 := by
  have hour := civil.hour
  have minute := civil.minute
  have second := civil.second
  unfold secondOfDay
  omega

theorem Civil.timestamp?_eq (civil : w.Civil) : w.timestamp? = some ⟨w.instant, w.offset⟩ := by
  have second := civil.second
  have ordinary : w.second ≠ 60 := by omega
  have within := civil.secondOfDay_lt
  have days := Date.dayNumber_bounds civil.date civil.year
  have day := civil.day
  have ranges : Date.inRange w.date.dayNumber ∧ Date.inRange (w.instant.seconds / 86400) := by
    rw [Date.inRange_iff, Date.inRange_iff, Date.firstDay_eq, Date.lastDay_eq, instant]
    simp only
    omega
  have opened := ranges.2
  simp only [instant] at opened
  simp only [timestamp?, if_neg ordinary]
  rw [if_pos]
  · rfl
  · simp only [Bool.and_eq_true, decide_eq_true_eq]
    exact ⟨⟨⟨⟨⟨⟨⟨civil.date, ranges.1⟩, civil.hour⟩, civil.minute⟩, second.le⟩, civil.nanos⟩, day⟩,
      opened⟩

theorem Civil.localDay_instant (civil : w.Civil) :
    Timestamp.localDay w.instant w.offset = w.date.dayNumber ∧
      Timestamp.localSecond w.instant w.offset = w.secondOfDay := by
  have within := civil.secondOfDay_lt
  simp only [Timestamp.localDay, Timestamp.localSecond, instant]
  omega

section Solid

theorem solid_zeroPadded (width n : Nat) : Solid (zeroPadded width n).toList :=
  solid_of_digits (isDigit_zeroPadded width n)

theorem solid_dateChars (w : WrittenTime) : Solid w.dateChars.toList := by
  have dash : Solid "-".toList := by decide
  simp only [dateChars, String.toList_append]
  exact ((((solid_zeroPadded 4 _).append dash).append (solid_zeroPadded 2 _)).append dash).append
    (solid_zeroPadded 2 _)

theorem Civil.solid_timeChars (civil : w.Civil) : Solid w.timeChars.toList := by
  have colon : Solid ":".toList := by decide
  have fraction : Solid (fractionText w.nanos).toList := by
    by_cases zero : w.nanos = 0
    · rw [zero]
      decide
    · obtain ⟨core, text, -, -, digit, -⟩ := Timestamp.exists_fraction zero civil.nanos
      rw [text]
      exact solid_cons (by decide) (solid_of_digits digit)
  simp only [timeChars, String.toList_append]
  exact (((((solid_zeroPadded 2 _).append colon).append (solid_zeroPadded 2 _)).append colon).append
    (solid_zeroPadded 2 _)).append fraction

theorem solid_offsetText {separator : String} (solid : Solid separator.toList) (offset : Int) :
    Solid (offsetText separator offset).toList := by
  rw [Timestamp.toList_offsetText]
  refine solid_cons ?_ ((solid_zeroPadded 2 _).append (solid.append (solid_zeroPadded 2 _)))
  split_ifs <;> rfl

theorem Civil.solid_rfc3339 (civil : w.Civil) : Solid w.rfc3339.toList := by
  have zone : Solid (if w.offset = 0 then "Z" else offsetText ":" w.offset).toList := by
    split_ifs
    · decide
    · exact solid_offsetText (by decide) w.offset
  simp only [rfc3339, String.toList_append]
  exact (((solid_dateChars w).append (by decide)).append civil.solid_timeChars).append zone

end Solid

theorem toList_rfc3339 (w : WrittenTime) : w.rfc3339.toList =
    w.dateChars.toList ++ 'T' :: (w.timeChars.toList ++
      (if w.offset = 0 then "Z" else offsetText ":" w.offset).toList) := by
  have parts : "T".toList = ['T'] := rfl
  simp only [rfc3339, String.toList_append, List.append_assoc, parts, List.cons_append,
    List.nil_append]

theorem toList_spaced (w : WrittenTime) : w.spaced.toList = w.dateChars.toList ++
    ' ' :: (w.timeChars.toList ++ ' ' :: (offsetText "" w.offset).toList) := by
  have blank : " ".toList = [' '] := rfl
  simp only [spaced, String.toList_append, List.append_assoc, blank, List.cons_append,
    List.nil_append]

section Words

variable {front rest : List Char}

theorem solid_offset (w : WrittenTime) : Solid (offsetText "" w.offset).toList :=
  solid_offsetText (by decide) w.offset

theorem offset_ne_nil (w : WrittenTime) : (offsetText "" w.offset).toList ≠ [] := by
  simp [Timestamp.toList_offsetText]

theorem dateChars_ne_nil (w : WrittenTime) : w.dateChars.toList ≠ [] := by
  simp [dateChars]

theorem timeChars_ne_nil (w : WrittenTime) : w.timeChars.toList ≠ [] := by
  simp [timeChars]

theorem trim_spaced (w : WrittenTime) (before : Blank front) (rest : List Char) :
    Text.trim (front ++ (w.spaced.toList ++ rest)) = w.dateChars.toList ++
      ' ' :: (w.timeChars.toList ++ ' ' ::
        ((offsetText "" w.offset).toList ++ Text.trimRight rest)) := by
  have trimmed := Text.trim_words before w.solid_dateChars w.solid_offset w.dateChars_ne_nil
    w.offset_ne_nil (' ' :: (w.timeChars.toList ++ [' '])) rest
  rw [toList_spaced]
  simpa only [List.append_assoc, List.cons_append, List.nil_append] using trimmed

theorem Civil.threeWords_spaced (civil : w.Civil) (before : Blank front) (apart : Apart rest) :
    Timestamp.threeWords (Text.words (Text.trim (front ++ (w.spaced.toList ++ rest)))) =
      some w.spaced.toList := by
  have blank : Text.isBlank ' ' := by decide
  have three : Text.words (front ++ (w.spaced.toList ++ rest)) = w.dateChars.toList ::
      w.timeChars.toList :: (offsetText "" w.offset).toList :: Text.words rest := by
    rw [Text.words_append_of_blank before, toList_spaced]
    simp only [List.append_assoc, List.cons_append]
    rw [Text.words_append_cons blank, Text.words_append_cons blank,
      Text.words_of_solid w.solid_dateChars w.dateChars_ne_nil,
      Text.words_of_solid civil.solid_timeChars w.timeChars_ne_nil,
      Text.words_append w.solid_offset w.offset_ne_nil apart]
    rfl
  rw [Text.words_trim, three, toList_spaced]
  rfl

end Words

end WrittenTime

namespace Timestamp

variable {w : WrittenTime}

theorem rfc3339?_rfc3339 (civil : w.Civil) : rfc3339? w.rfc3339.toList = some w := by
  have read := zone_text civil.minutes civil.day []
  rw [List.append_nil] at read
  have first : ∃ c rest,
      (if w.offset = 0 then "Z" else offsetText ":" w.offset).toList = c :: rest ∧
        c.isDigit = false ∧ c ≠ '.' := by
    split_ifs
    · exact ⟨'Z', [], by decide⟩
    · rw [toList_offsetText]
      refine ⟨_, _, rfl, ?_⟩
      split_ifs <;> decide
  obtain ⟨c, rest, text, other, point⟩ := first
  rw [text] at read
  rw [WrittenTime.toList_rfc3339, text, rfc3339?_append civil (.inl rfl) (Json.stops_cons other)
    (by simpa using point), read]
  rfl

theorem rfc3339?_spaced (civil : w.Civil) (rest : List Char) :
    rfc3339? (w.dateChars.toList ++ ' ' :: (w.timeChars.toList ++ ' ' :: rest)) = none := by
  rw [rfc3339?_append civil (.inr rfl) (Json.stops_cons rfl) (by simp)]
  rfl

theorem ofText?_of_encodes (civil : w.Civil) {raw : String} (encodes : w.Encodes raw) :
    ofText? raw = some ⟨w.instant, w.offset⟩ := by
  have denoted := civil.timestamp?_eq
  cases encodes with
  | rfc3339 before behind =>
    rw [ofText?, ofChars?, String.toList_ofList, Text.trim_append before behind civil.solid_rfc3339,
      rfc3339?_rfc3339 civil, Option.bind_some, denoted]
  | spaced before apart =>
    rw [ofText?, ofChars?, String.toList_ofList, civil.threeWords_spaced before apart,
      w.trim_spaced before, rfc3339?_spaced civil, Option.bind_some, spaced?_spaced civil,
      Option.bind_some, denoted]
    rfl

/-- Both texts of a civil time are read back, and what is shown of one depends on its instant alone:
the texts of one instant at any offsets have the same label for every viewer. -/
theorem encodings_read_back (civil : w.Civil) :
    (∀ raw, w.Encodes raw → ofText? raw = some ⟨w.instant, w.offset⟩) ∧
    (Date.ofDayNumber (localDay w.instant w.offset) = w.date ∧
      localSecond w.instant w.offset = w.hour * 3600 + w.minute * 60 + w.second ∧
      w.instant.nanos = w.nanos) ∧
    ∀ v : WrittenTime, v.Civil → v.instant = w.instant →
      ∀ raw raw', w.Encodes raw → v.Encodes raw' → ∀ viewer,
        CalendarLabel.ofText? raw viewer = (calendarText? w.instant viewer).map .shown ∧
        CalendarLabel.ofText? raw' viewer = CalendarLabel.ofText? raw viewer := by
  refine ⟨fun raw encodes => ofText?_of_encodes civil encodes, ?_, ?_⟩
  · obtain ⟨day, second⟩ := civil.localDay_instant
    refine ⟨?_, second, rfl⟩
    rw [day, Date.ofDayNumber_dayNumber civil.date]
  · intro v other same raw raw' encodes encodes' viewer
    have label : CalendarLabel.ofText? raw viewer =
        (calendarText? w.instant viewer).map .shown := by
      rw [CalendarLabel.ofText?, ofText?_of_encodes civil encodes]
    refine ⟨label, ?_⟩
    rw [label, CalendarLabel.ofText?, ofText?_of_encodes other encodes', same]

/-- At five and a half hours behind UTC the old year lasts on. -/
theorem encodings_read_back_new_year :
    let w : WrittenTime := ⟨⟨2020, 12, 31⟩, 23, 30, 0, 500000000, -19800⟩
    let v : WrittenTime := ⟨⟨2021, 1, 1⟩, 5, 0, 0, 500000000, 0⟩
    let raw := " 2020-12-31 23:30:00.5 -0530 EST m=+0.5\n"
    w.Civil ∧ v.Civil ∧ v.instant = w.instant ∧
      ofText? raw = some ⟨⟨1609477200, 500000000⟩, -19800⟩ ∧
      ∀ viewer, CalendarLabel.ofText? "2021-01-01T05:00:00.5Z" viewer =
        CalendarLabel.ofText? raw viewer := by
  intro w v raw
  have civil : w.Civil := by constructor <;> decide
  have other : v.Civil := by constructor <;> decide
  have same : v.instant = w.instant := by decide
  have encodes : w.Encodes raw := by
    have text : raw =
        String.ofList ([' '] ++ (w.spaced.toList ++ " EST m=+0.5\n".toList)) := by decide +kernel
    rw [text]
    exact .spaced (by decide) (by decide)
  have encodes' : v.Encodes "2021-01-01T05:00:00.5Z" := by
    have text : "2021-01-01T05:00:00.5Z" = String.ofList ([] ++ (v.rfc3339.toList ++ [])) := by
      decide +kernel
    rw [text]
    exact .rfc3339 (by decide) (by decide)
  obtain ⟨read, -, labels⟩ := encodings_read_back civil
  have instant : w.instant = ⟨1609477200, 500000000⟩ := by decide
  exact ⟨civil, other, same, instant ▸ read raw encodes, fun viewer =>
    (labels v other same raw _ encodes encodes' viewer).2⟩

end Timestamp

end CacheWatch
