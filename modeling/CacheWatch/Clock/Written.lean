import CacheWatch.Clock.Label

/-! Times in writing: the two encodings of the server, and UTC with as many digits as needed. -/
namespace CacheWatch

open Text (zeroPadded)

def fractionText (nanos : Nat) : String :=
  if nanos = 0 then ""
  else
    let ds := (zeroPadded 9 nanos).toList
    "." ++ String.ofList ((ds.reverse.dropWhile (· = '0')).reverse)

def offsetText (separator : String) (offset : Int) : String :=
  (if offset < 0 then "-" else "+") ++ zeroPadded 2 (offset.natAbs / 3600) ++ separator ++
    zeroPadded 2 (offset.natAbs / 60 % 60)

namespace WrittenTime

def dateChars (w : WrittenTime) : String :=
  zeroPadded 4 w.date.year.toNat ++ "-" ++ zeroPadded 2 w.date.month ++ "-" ++
    zeroPadded 2 w.date.day

def timeChars (w : WrittenTime) : String :=
  zeroPadded 2 w.hour ++ ":" ++ zeroPadded 2 w.minute ++ ":" ++ zeroPadded 2 w.second ++
    fractionText w.nanos

def rfc3339 (w : WrittenTime) : String :=
  w.dateChars ++ "T" ++ w.timeChars ++ (if w.offset = 0 then "Z" else offsetText ":" w.offset)

def spaced (w : WrittenTime) : String :=
  w.dateChars ++ " " ++ w.timeChars ++ " " ++ offsetText "" w.offset

end WrittenTime

namespace Instant

/-- RFC 3339 in UTC with no, three, six or nine digits behind the second. -/
def text (i : Instant) : String :=
  let d := Date.ofDayNumber i.dayNumber
  let nanos := i.nanos % 1000000000
  let part :=
    if nanos = 0 then ""
    else if nanos % 1000000 = 0 then "." ++ zeroPadded 3 (nanos / 1000000)
    else if nanos % 1000 = 0 then "." ++ zeroPadded 6 (nanos / 1000)
    else "." ++ zeroPadded 9 nanos
  Timestamp.yearText d.year ++ "-" ++ zeroPadded 2 d.month ++ "-" ++ zeroPadded 2 d.day ++ "T" ++
    i.clockText ++ part ++ "Z"

end Instant

end CacheWatch
