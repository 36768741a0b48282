import CacheWatch.Clock.Timestamp

/-! Times as the operator reads them.
A date near the viewer's own is named by its weekday, any other is written out.
-/
namespace CacheWatch

open Text (zeroPadded)

namespace Timestamp

/-- The days since 1970 at the place of an offset. -/
def localDay (instant : Instant) (offset : Int) : Int := (instant.seconds + offset) / 86400

def localSecond (instant : Instant) (offset : Int) : Nat :=
  ((instant.seconds + offset) % 86400).toNat

def clockText (second : Nat) : String :=
  let hour := second / 3600
  let shown := if hour % 12 = 0 then 12 else hour % 12
  toString shown ++ ":" ++ zeroPadded 2 (second / 60 % 60) ++ (if hour < 12 then " AM" else " PM")

/-- Four digits, or a sign and at least four digits for a year that needs one. -/
def yearText (year : Int) : String :=
  if 0 ≤ year && year ≤ 9999 then zeroPadded 4 year.toNat
  else (if year < 0 then "-" else "+") ++ zeroPadded 4 year.natAbs

def dateText (day : Int) : String :=
  let d := Date.ofDayNumber day
  zeroPadded 2 d.month ++ "/" ++ zeroPadded 2 d.day ++ "/" ++ yearText d.year

/-- A local day and time, `distance` days behind the viewer's. -/
def dayText (distance day : Int) (second : Nat) : String :=
  let time := " at " ++ clockText second
  if distance = 0 then "Today" ++ time
  else if distance = -1 then "Yesterday" ++ time
  else if distance = 1 then "Tomorrow" ++ time
  else if -6 ≤ distance && distance ≤ -2 then
    "Last " ++ (Weekday.ofDayNumber day).name ++ time
  else if 2 ≤ distance && distance ≤ 6 then (Weekday.ofDayNumber day).name ++ time
  else dateText day

/-- An instant as seen by a viewer; nothing when a local date leaves the calendar. -/
def calendarText? (instant : Instant) (viewer : Timestamp) : Option String :=
  let day := localDay instant viewer.offset
  let today := localDay viewer.instant viewer.offset
  if Date.inRange day && Date.inRange today then
    some (dayText (day - today) day (localSecond instant viewer.offset))
  else none

end Timestamp

inductive CalendarLabel where
  | shown (text : String)
  | invalid
deriving DecidableEq, Repr

namespace CalendarLabel

def text : CalendarLabel → String
  | shown text => text
  | invalid => "Invalid date"

def isValid : CalendarLabel → Bool
  | shown _ => true
  | invalid => false

def ofText? (raw : String) (viewer : Timestamp) : Option CalendarLabel :=
  match Timestamp.ofText? raw with
  | none => some invalid
  | some t => (Timestamp.calendarText? t.instant viewer).map shown

end CalendarLabel

namespace Instant

/-- The clock of a place with an offset, as if it were one without. -/
def shifted (i : Instant) (offset : Int) : Instant := { i with seconds := i.seconds + offset }

def dayNumber (i : Instant) : Int := i.seconds / 86400

def secondOfDay (i : Instant) : Nat := (i.seconds % 86400).toNat

/-- Nanoseconds from `earlier` to `later`. A leap second of the one that is earlier in its day
is counted when the clocks show it as passed. -/
def nanosBetween (earlier later : Instant) : Int :=
  let leap : Int :=
    if earlier.secondOfDay < later.secondOfDay then (if 1000000000 ≤ earlier.nanos then 1 else 0)
    else if later.secondOfDay < earlier.secondOfDay then
      (if 1000000000 ≤ later.nanos then -1 else 0)
    else 0
  (later.seconds - earlier.seconds + leap) * 1000000000 + ((later.nanos : Int) - earlier.nanos)

def ageText (instant now : Instant) : String :=
  let seconds := (nanosBetween instant now).tdiv 1000000000
  if seconds < 1 then "just now"
  else if seconds < 60 then toString seconds ++ "s ago"
  else if seconds < 3600 then toString (seconds / 60) ++ "m ago"
  else if seconds < 86400 then toString (seconds / 3600) ++ "h ago"
  else toString (seconds / 86400) ++ "d ago"

/-- The UTC clock with seconds; a leap second is second 60. -/
def clockText (i : Instant) : String :=
  let second := i.secondOfDay
  zeroPadded 2 (second / 3600) ++ ":" ++ zeroPadded 2 (second / 60 % 60) ++ ":" ++
    zeroPadded 2 (second % 60 + i.nanos / 1000000000)

end Instant

end CacheWatch
