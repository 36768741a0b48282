/-! Punycode: ASCII labels that stand for labels with other characters. -/
namespace CacheWatch.Url.Punycode

/-- Letters come before digits. -/
def digitValue? (c : Char) : Option Nat :=
  if 'a' ≤ c && c ≤ 'z' then some (c.toNat - 'a'.toNat)
  else if '0' ≤ c && c ≤ '9' then some (c.toNat - '0'.toNat + 26)
  else none

def threshold (position bias : Nat) : Nat :=
  if position ≤ bias then 1 else if bias + 26 ≤ position then 26 else position - bias

/-- A number with digits of growing weight, and what follows it. -/
def delta (bias : Nat) : Nat → Nat → Nat → List Char → Option (Nat × List Char)
  | _, _, _, [] => none
  | position, weight, sum, c :: rest =>
    match digitValue? c with
    | none => none
    | some d =>
      let t := threshold position bias
      let sum := sum + d * weight
      if d < t then some (sum, rest)
      else delta bias (position + 36) (weight * (36 - t)) sum rest

/-- Divides by 35 until the number is small; every step is worth 36. -/
def shrink : Nat → Nat → Nat → Nat
  | 0, n, k => k + 36 * n / (n + 38)
  | fuel + 1, n, k => if 455 < n then shrink fuel (n / 35) (k + 36) else k + 36 * n / (n + 38)

def nextBias (delta count : Nat) (isFirst : Bool) : Nat :=
  let n := if isFirst then delta / 700 else delta / 2
  shrink 64 (n + n / count) 0

/-- Inserts the characters that the numbers place. `next` is the smallest code point that may come
next, `place` where the last one was put. -/
def insertAll :
    Nat → List Char → Nat → Nat → Nat → Bool → List Char → Option (List Char)
  | 0, _, _, _, _, _, _ => none
  | fuel + 1, out, next, place, bias, isFirst, cs =>
    if cs.isEmpty then some out
    else
      match delta bias 36 1 0 cs with
      | none => none
      | some (d, rest) =>
        let count := out.length + 1
        let code := next + (place + d) / count
        let place := (place + d) % count
        if code.isValidChar then
          insertAll fuel (out.take place ++ Char.ofNat code :: out.drop place) code (place + 1)
            (nextBias d count isFirst) false rest
        else none

/-- What stands before the last hyphen is taken over, what stands behind it places the others. -/
def decode? (cs : List Char) : Option (List Char) :=
  let coded := (cs.reverse.takeWhile (· ≠ '-')).reverse
  let plain := cs.take (cs.length - coded.length - 1)
  insertAll (coded.length + 1) plain 128 0 72 true coded

/-- Letters first, as digits are read. -/
def digit (n : Nat) : Char := Char.ofNat (if n < 26 then 'a'.toNat + n else '0'.toNat + (n - 26))

theorem threshold_pos (position bias : Nat) : 0 < threshold position bias := by
  unfold threshold
  split
  · omega
  · split <;> omega

def digits (bias position n : Nat) : List Char :=
  let t := threshold position bias
  if n < t then [digit n]
  else digit (t + (n - t) % (36 - t)) :: digits bias (position + 36) ((n - t) / (36 - t))
termination_by n
decreasing_by
  have := threshold_pos position bias
  exact Nat.lt_of_le_of_lt (Nat.div_le_self _ _) (by omega)

structure Written where
  out : List Char
  distance : Nat
  bias : Nat
  count : Nat
  isFirst : Bool

namespace Written

/-- Passes a place of the text, and writes its character if it is the one looked for. -/
def pass (code : Nat) (w : Written) (c : Char) : Written :=
  if c.toNat < code then { w with distance := w.distance + 1 }
  else if c.toNat = code then
    ⟨w.out ++ digits w.bias 36 w.distance, 0, nextBias w.distance (w.count + 1) w.isFirst,
      w.count + 1, false⟩
  else w

/-- Goes through the text for one code point after another. `next` is the smallest that may come. -/
def passAll (text : List Char) : Nat → List Nat → Written → Written
  | _, [], w => w
  | next, code :: codes, w =>
    let start := { w with distance := w.distance + (code - next) * (w.count + 1) }
    let done := text.foldl (pass code) start
    passAll text (code + 1) codes { done with distance := done.distance + 1 }

end Written

/-- The text in ASCII: its own ASCII characters, a hyphen, and the places of the others. -/
def encode (text : List Char) : List Char :=
  let plain := text.filter (·.toNat < 128)
  let codes := ((text.filter (128 ≤ ·.toNat)).map Char.toNat).eraseDups.mergeSort (· ≤ ·)
  plain ++ (if plain.isEmpty then [] else ['-']) ++
    (Written.passAll text 128 codes ⟨[], 0, 72, plain.length, true⟩).out

end CacheWatch.Url.Punycode
