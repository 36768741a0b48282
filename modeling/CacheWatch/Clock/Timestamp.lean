import CacheWatch.Clock.Date
import CacheWatch.Clock.Instant
import CacheWatch.Text.Blank
import CacheWatch.Text.Digits

/-! Timestamps of the server, in two encodings.
RFC 3339, and date, time and numeric offset as three words with anything behind them.
-/
namespace CacheWatch

/-- An instant together with the offset it was written with, in seconds east of UTC. -/
structure Timestamp where
  instant : Instant
  offset : Int
deriving DecidableEq, Repr

structure WrittenTime where
  date : Date
  hour : Nat
  minute : Nat
  second : Nat
  nanos : Nat
  offset : Int
deriving DecidableEq, Repr

namespace WrittenTime

/-- The instant that is denoted. Second 60 is the leap second behind second 59. -/
def timestamp? (w : WrittenTime) : Option Timestamp :=
  let day := w.date.dayNumber
  let second := if w.second = 60 then 59 else w.second
  let seconds := day * 86400 + (w.hour * 3600 + w.minute * 60 + second : Nat) - w.offset
  if w.date.isValid && Date.inRange day && w.hour < 24 && w.minute < 60 && w.second ≤ 60 &&
      w.nanos < 1000000000 && w.offset.natAbs < 86400 && Date.inRange (seconds / 86400) then
    some ⟨⟨seconds, if w.second = 60 then w.nanos + 1000000000 else w.nanos⟩, w.offset⟩
  else none

end WrittenTime

namespace Timestamp

open Text (decimalValue)

/-- At least `least` digits, and no more than `most` of those that follow each other. -/
def digits (least most : Nat) (cs : List Char) : Option (Nat × List Char) :=
  let ds := (cs.takeWhile Char.isDigit).take most
  if ds.length < least then none else some (decimalValue ds, cs.drop ds.length)

def mark (c : Char) : List Char → Option (List Char)
  | [] => none
  | d :: rest => if d = c then some rest else none

/-- Nine digits of a fraction count, further ones are cut. -/
def fraction (cs : List Char) : Option (Nat × List Char) :=
  match cs with
  | '.' :: rest =>
    let ds := rest.takeWhile Char.isDigit
    if ds.isEmpty then none
    else some (decimalValue (ds.take 9) * Nat.pow 10 (9 - ds.length), rest.drop ds.length)
  | _ => some (0, cs)

/-- A sign; the minus sign has two forms. -/
def sign : List Char → Option (Bool × List Char)
  | '+' :: rest => some (false, rest)
  | '-' :: rest => some (true, rest)
  | '−' :: rest => some (true, rest)
  | _ => none

/-- Two digits of hours and two of minutes with a separator that `skip` passes over. -/
def signedOffset (skip : List Char → Option (List Char)) (cs : List Char) :
    Option (Int × List Char) := do
  let (negative, cs) ← sign cs
  let (hours, cs) ← digits 2 2 cs
  let cs ← skip cs
  let (minutes, cs) ← digits 2 2 cs
  if minutes < 60 then
    let seconds : Int := hours * 3600 + minutes * 60
    some (if negative then -seconds else seconds, cs)
  else none

def zone (cs : List Char) : Option (Int × List Char) :=
  match cs with
  | 'Z' :: rest => some (0, rest)
  | 'z' :: rest => some (0, rest)
  | _ => signedOffset (mark ':') cs

def rfc3339? (cs : List Char) : Option WrittenTime := do
  let (year, cs) ← digits 4 4 cs
  let cs ← mark '-' cs
  let (month, cs) ← digits 2 2 cs
  let cs ← mark '-' cs
  let (day, cs) ← digits 2 2 cs
  let cs ← match cs with
    | 'T' :: rest => some rest
    | 't' :: rest => some rest
    | ' ' :: rest => some rest
    | _ => none
  let (hour, cs) ← digits 2 2 cs
  let cs ← mark ':' cs
  let (minute, cs) ← digits 2 2 cs
  let cs ← mark ':' cs
  let (second, cs) ← digits 2 2 cs
  let (nanos, cs) ← fraction cs
  let (offset, cs) ← zone cs
  if cs.isEmpty then some ⟨⟨year, month, day⟩, hour, minute, second, nanos, offset⟩ else none

/-- Up to four digits, or any number of them behind a sign. -/
def year (cs : List Char) : Option (Int × List Char) :=
  match Text.trimLeft cs with
  | '-' :: rest => (digits 1 rest.length rest).map (fun (n, after) => (-(n : Int), after))
  | '+' :: rest => (digits 1 rest.length rest).map (fun (n, after) => ((n : Int), after))
  | cs => (digits 1 4 cs).map (fun (n, after) => ((n : Int), after))

/-- One or two digits, with white space allowed in front. -/
def pair (cs : List Char) : Option (Nat × List Char) := digits 1 2 (Text.trimLeft cs)

def skipSeparators (cs : List Char) : List Char :=
  cs.dropWhile (fun c => c = ':' || Text.isBlank c)

def spaced? (cs : List Char) : Option WrittenTime := do
  let (year, cs) ← year cs
  let cs ← mark '-' cs
  let (month, cs) ← pair cs
  let cs ← mark '-' cs
  let (day, cs) ← pair cs
  let (hour, cs) ← pair (Text.trimLeft cs)
  let cs ← mark ':' cs
  let (minute, cs) ← pair cs
  let cs ← mark ':' cs
  let (second, cs) ← pair cs
  let (nanos, cs) ← fraction cs
  let (offset, cs) ← signedOffset (some ∘ skipSeparators) (Text.trimLeft cs)
  if cs.isEmpty then some ⟨⟨year, month, day⟩, hour, minute, second, nanos, offset⟩ else none

/-- The first three words with one blank between them. -/
def threeWords : List (List Char) → Option (List Char)
  | date :: time :: offset :: _ => some (date ++ ' ' :: (time ++ ' ' :: offset))
  | _ => none

def ofChars? (raw : List Char) : Option Timestamp :=
  let cs := Text.trim raw
  match (rfc3339? cs).bind WrittenTime.timestamp? with
  | some t => some t
  | none => ((threeWords (Text.words cs)).bind spaced?).bind WrittenTime.timestamp?

def ofText? (raw : String) : Option Timestamp := ofChars? raw.toList

end Timestamp

end CacheWatch
