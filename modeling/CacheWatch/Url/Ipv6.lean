import CacheWatch.Text.Digits
import CacheWatch.Text.Split

/-! IPv6 addresses: eight groups of 16 bits. One run of zeros may be left out, and the last two
groups may be written as an IPv4 address.
-/
namespace CacheWatch.Url.Ipv6

def group? (cs : List Char) : Option Nat :=
  if cs.isEmpty || 4 < cs.length then none else Text.hexNumber? cs

def byte? (cs : List Char) : Option Nat :=
  if cs.isEmpty || !cs.all Char.isDigit || (1 < cs.length && cs.head? = some '0') then none
  else
    let n := Text.decimalValue cs
    if n < 256 then some n else none

def quad? (cs : List Char) : Option (List Nat) :=
  match (Text.splitAt '.' cs).map byte? with
  | [some a, some b, some c, some d] => some [a * 256 + b, c * 256 + d]
  | _ => none

/-- Groups, of which the last may be written as four bytes if that is allowed. -/
def pieces? (quadAllowed : Bool) : List (List Char) → Option (List Nat)
  | [] => some []
  | [last] =>
    match group? last with
    | some n => some [n]
    | none => if quadAllowed then quad? last else none
  | piece :: rest =>
    match group? piece, pieces? quadAllowed rest with
    | some n, some ns => some (n :: ns)
    | _, _ => none

/-- One side of the place where zeros are left out; it may be empty. -/
def side? (quadAllowed : Bool) (cs : List Char) : Option (List Nat) :=
  if cs.isEmpty then some [] else pieces? quadAllowed (Text.splitAt ':' cs)

def splitAtGap : List Char → Option (List Char × List Char)
  | ':' :: ':' :: rest => some ([], rest)
  | c :: rest => (splitAtGap rest).map (fun (left, right) => (c :: left, right))
  | [] => none

/-- The eight groups of an address. The double colon stands for at least one group. -/
def groups? (cs : List Char) : Option (List Nat) :=
  match splitAtGap cs with
  | some (left, right) =>
    match side? false left, side? true right with
    | some left, some right =>
      let given := left.length + right.length
      if given ≤ 7 then some (left ++ List.replicate (8 - given) 0 ++ right) else none
    | _, _ => none
  | none =>
    match side? true cs with
    | some groups => if groups.length = 8 then some groups else none
    | none => none

def zeroRun (groups : List Nat) : Nat := (groups.takeWhile (· = 0)).length

/-- The first longest run of zeros, as the place where it begins and its length. -/
def longestRun (groups : List Nat) : Nat × Nat :=
  (List.range groups.length).foldl
    (fun best start =>
      let length := zeroRun (groups.drop start)
      if best.2 < length then (start, length) else best) (0, 0)

def groupsChars (groups : List Nat) : List Char :=
  Text.joinWith ':' (groups.map (Nat.toDigits 16))

/-- Lower case; the first longest run of two or more zeros is left out. -/
def text (groups : List Nat) : String :=
  let (start, length) := longestRun groups
  String.ofList
    (if length < 2 then groupsChars groups
     else
       groupsChars (groups.take start) ++
         ':' :: ':' :: groupsChars (groups.drop (start + length)))

end CacheWatch.Url.Ipv6
