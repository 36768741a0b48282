/-! Finite binary64 numbers in exact arithmetic.
The numbers of one sign are counted upward from zero, so the neighbours of a number are one
place below and above it, and every number is a whole count of the smallest positive one.
-/
namespace CacheWatch

/-- A finite binary64 number: a sign and a place among the numbers that are not negative. -/
structure Binary64 where
  negative : Bool
  place : Nat
  finite : place < 2047 * Nat.pow 2 52
deriving DecidableEq

namespace Binary64

def binade : Nat := Nat.pow 2 52

/-- The first place that no finite number has. -/
def bound : Nat := 2047 * Nat.pow 2 52

/-- Units in one, a unit being the smallest positive number. -/
def scale : Nat := Nat.pow 2 1074

/-- The number at a place, counted in units. -/
def units (place : Nat) : Nat :=
  if place < binade then place else (binade + place % binade) * Nat.pow 2 (place / binade - 1)

/-- The last place whose number is at most `u` units. -/
def floorPlace (u : Nat) : Nat :=
  let shift := u.log2 - 52
  shift * binade + u / Nat.pow 2 shift

/-- The place nearest to `num / den`, the even one of two that are equally near. -/
def nearestPlace (num den : Nat) : Nat :=
  let low := floorPlace (num * scale / den)
  let twice := 2 * num * scale
  let middle := (units low + units (low + 1)) * den
  if twice < middle then low
  else if middle < twice then low + 1
  else if low % 2 = 0 then low else low + 1

/-- `num / den` rounded to nearest, ties to even; nothing beyond the finite range. -/
def ofQuotient (negative : Bool) (num den : Nat) : Option Binary64 :=
  let place := nearestPlace num den
  if h : place < 2047 * Nat.pow 2 52 then some ⟨negative, place, h⟩ else none

def zero (negative : Bool) : Binary64 := ⟨negative, 0, by decide⟩

def one : Binary64 := ⟨false, 1023 * Nat.pow 2 52, by decide⟩

/-- `digits * 10 ^ exponent`, rounded to nearest. A magnitude that is far outside the range
is recognised by its number of digits alone. -/
def ofDecimal (negative : Bool) (digits : Nat) (exponent : Int) : Option Binary64 :=
  if digits = 0 then some (zero negative)
  else
    let leading := exponent + digits.log2
    if leading < -4000 then some (zero negative)
    else if 400 < exponent then none
    else if 0 ≤ exponent then ofQuotient negative (digits * Nat.pow 10 exponent.toNat) 1
    else ofQuotient negative digits (Nat.pow 10 (-exponent).toNat)

def magnitude (x : Binary64) : Nat := units x.place

def ofInt? (n : Int) : Option Binary64 := ofQuotient (decide (n < 0)) n.natAbs 1

def divNat? (x : Binary64) (n : Nat) : Option Binary64 :=
  ofQuotient x.negative x.magnitude (n * scale)

def mulNat? (x : Binary64) (n : Nat) : Option Binary64 :=
  ofQuotient x.negative (x.magnitude * n) scale

/-- Multiplication, rounded to nearest; nothing beyond the finite range. -/
def mul? (x y : Binary64) : Option Binary64 :=
  ofQuotient (x.negative != y.negative) (x.magnitude * y.magnitude) (scale * scale)

def div? (x y : Binary64) : Option Binary64 :=
  ofQuotient (x.negative != y.negative) x.magnitude y.magnitude

def lastPower : Nat := 308

def powerOfTen? (n : Nat) : Option Binary64 := ofQuotient false (Nat.pow 10 n) 1

/-- The product with a power of ten; only zero has one with a power that is out of range. -/
def scaledUp? (x : Binary64) (n : Nat) : Option Binary64 :=
  if n ≤ lastPower then (powerOfTen? n).bind x.mul? else if x.place = 0 then some x else none

/-- Divided by the largest power of ten so many times, or until nothing is left. -/
def worn? : Nat → Binary64 → Option Binary64
  | 0, x => some x
  | n + 1, x => if x.place = 0 then some x else ((powerOfTen? lastPower).bind x.div?).bind (worn? n)

/-- The quotient by a power of ten, in as many steps as the powers in range need. -/
def scaledDown? (x : Binary64) (n : Nat) : Option Binary64 :=
  (worn? ((n - 1) / lastPower) x).bind fun y =>
    (powerOfTen? (n - (n - 1) / lastPower * lastPower)).bind y.div?

/-- `digits * 10 ^ exponent` in the arithmetic of the numbers themselves. The digits are rounded
and then the product or the quotient, so the number nearest to the decimal may be missed. -/
def ofParts (negative : Bool) (digits : Nat) (exponent : Int) : Option Binary64 :=
  (ofQuotient false digits 1).bind fun x =>
    (if 0 ≤ exponent then x.scaledUp? exponent.toNat else x.scaledDown? (-exponent).toNat).map
      fun y => { y with negative }

/-- Comparison by value; the two zeros are equal. -/
def le (x y : Binary64) : Bool :=
  match x.negative, y.negative with
  | false, false => x.place ≤ y.place
  | true, true => y.place ≤ x.place
  | true, false => true
  | false, true => x.place = 0 && y.place = 0

/-- The 64 bits of the interchange format. -/
def toBits (x : Binary64) : Nat := (if x.negative then Nat.pow 2 63 else 0) + x.place

end Binary64

end CacheWatch
