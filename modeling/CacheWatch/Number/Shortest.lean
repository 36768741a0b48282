import CacheWatch.Number.Binary64

/-! The shortest decimal that reads back, and decimals with a fixed number of places. -/
namespace CacheWatch.Binary64

/-- `digits * 10 ^ exponent`. -/
structure Decimal where
  digits : Nat
  exponent : Int
deriving DecidableEq, Repr

def Decimal.scaled (d : Decimal) : Nat × Nat :=
  if 0 ≤ d.exponent then (d.digits * Nat.pow 10 d.exponent.toNat, 1)
  else (d.digits, Nat.pow 10 (-d.exponent).toNat)

/-- A decimal rounds to the number at `place`: it lies between the midpoints to the two
neighbours, and on a midpoint only when the place is even. -/
def Decimal.roundsTo (d : Decimal) (place : Nat) : Bool :=
  let (num, den) := d.scaled
  let twice := 2 * num * scale
  let low := (units (place - 1) + units place) * den
  let high := (units place + units (place + 1)) * den
  if place % 2 = 0 then low ≤ twice && twice ≤ high else low < twice && twice < high

/-- The whole number of times `10 ^ exponent` fits into the number at `place`. -/
def floorAt (place : Nat) (exponent : Int) : Nat :=
  if 0 ≤ exponent then units place / (scale * Nat.pow 10 exponent.toNat)
  else units place * Nat.pow 10 (-exponent).toNat / scale

/-- The decimal below on the grid `10 ^ exponent` is strictly nearer than the one above, or
equally near with an even last digit. -/
def lowerIsNearer (place : Nat) (exponent : Int) : Bool :=
  let low := floorAt place exponent
  let (num, den) := Decimal.scaled ⟨2 * low + 1, exponent⟩
  let twice := 2 * units place * den
  let middle := num * scale
  if twice < middle then true else if middle < twice then false else low % 2 = 0

/-- A decimal on the grid that rounds to the number, the nearer one of two. -/
def onGrid (place : Nat) (exponent : Int) : Option Decimal :=
  let low : Decimal := ⟨floorAt place exponent, exponent⟩
  let high : Decimal := ⟨floorAt place exponent + 1, exponent⟩
  match low.digits ≠ 0 && low.roundsTo place, high.roundsTo place with
  | true, true => some (if lowerIsNearer place exponent then low else high)
  | true, false => some low
  | false, true => some high
  | false, false => none

def search (place : Nat) : Nat → Int → Decimal
  | 0, exponent => ⟨floorAt place exponent, exponent⟩
  | n + 1, exponent => (onGrid place exponent).getD (search place n (exponent - 1))

/-- Trailing zeros move into the exponent. -/
def Decimal.stripped : Nat → Decimal → Decimal
  | 0, d => d
  | n + 1, d =>
    if d.digits ≠ 0 && d.digits % 10 = 0 then stripped n ⟨d.digits / 10, d.exponent + 1⟩
    else d

/-- The exponent of the leading digit of the number at `place`, or one more. -/
def leadingExponent (place : Nat) : Int :=
  let u := units place
  ((Nat.toDigits 10 (u / scale)).length : Int) -
    (if u / scale = 0 then ((Nat.toDigits 10 (scale / (u + 1))).length : Int) else 0)

/-- The decimal with the fewest digits that rounds to the number; of those the nearest. -/
def shortest (x : Binary64) : Decimal :=
  if x.place = 0 then ⟨0, 0⟩
  else (search x.place 20 (leadingExponent x.place + 1)).stripped 20

/-- The magnitude with `places` digits behind the point, ties to even, as a whole number of
last places. -/
def fixedPlaces (x : Binary64) (places : Nat) : Nat :=
  let num := x.magnitude * Nat.pow 10 places
  let low := num / scale
  let twice := 2 * (num % scale)
  if twice < scale then low
  else if scale < twice then low + 1
  else if low % 2 = 0 then low else low + 1

/-- Decimal text with a fixed number of places; a negative number keeps its sign. -/
def fixedText (x : Binary64) (places : Nat) : String :=
  let n := x.fixedPlaces places
  let whole := toString (n / Nat.pow 10 places)
  let sign := if x.negative then "-" else ""
  if places = 0 then sign ++ whole
  else
    let part := Nat.toDigits 10 (n % Nat.pow 10 places)
    sign ++ whole ++ "." ++ String.ofList (List.replicate (places - part.length) '0' ++ part)

end CacheWatch.Binary64
