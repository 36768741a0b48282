/-! Digits: what they are worth, and numbers with a fixed width. -/
namespace CacheWatch.Text

def digitValue (c : Char) : Nat := c.toNat - '0'.toNat

def decimalValue (ds : List Char) : Nat := ds.foldl (fun n d => 10 * n + digitValue d) 0

def hexValue? (c : Char) : Option Nat :=
  if '0' ≤ c && c ≤ '9' then some (c.toNat - '0'.toNat)
  else if 'a' ≤ c && c ≤ 'f' then some (c.toNat - 'a'.toNat + 10)
  else if 'A' ≤ c && c ≤ 'F' then some (c.toNat - 'A'.toNat + 10)
  else none

/-- The number that digits of either case denote in base sixteen. -/
def hexNumber? (ds : List Char) : Option Nat :=
  ds.foldl (fun n d =>
    match n, hexValue? d with
    | some n, some d => some (16 * n + d)
    | _, _ => none) (some 0)

def zeroPadded (width n : Nat) : String :=
  let ds := Nat.toDigits 10 n
  String.ofList (List.replicate (width - ds.length) '0' ++ ds)

end CacheWatch.Text
