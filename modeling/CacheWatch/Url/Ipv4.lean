import CacheWatch.Text.Digits
import CacheWatch.Text.Split

/-! IPv4 addresses as hosts write them: up to four numbers, each decimal, octal or hexadecimal,
where the last one fills all bytes that are left.
-/
namespace CacheWatch.Url.Ipv4

def isOctalDigit (c : Char) : Bool := '0' ≤ c && c ≤ '7'

def number? (cs : List Char) : Option Nat :=
  match cs with
  | [] => none
  | '0' :: 'x' :: ds => Text.hexNumber? ds
  | '0' :: 'X' :: ds => Text.hexNumber? ds
  | '0' :: d :: ds =>
    if (d :: ds).all isOctalDigit then
      some ((d :: ds).foldl (fun n d => 8 * n + Text.digitValue d) 0)
    else none
  | ds => if ds.all Char.isDigit then some (Text.decimalValue ds) else none

/-- The labels of a name, without an empty one behind a last point. -/
def labels (cs : List Char) : List (List Char) :=
  let pieces := Text.splitAt '.' cs
  if pieces.getLast? = some [] then pieces.dropLast else pieces

/-- A name whose last label is a number has to be an address. -/
def looksNumeric (cs : List Char) : Bool :=
  match (labels cs).getLast? with
  | none => false
  | some last => (!last.isEmpty && last.all Char.isDigit) || (number? last).isSome

def numbers? : List (List Char) → Option (List Nat)
  | [] => some []
  | piece :: rest =>
    match number? piece, numbers? rest with
    | some n, some ns => some (n :: ns)
    | _, _ => none

/-- All numbers but the last are bytes. -/
def address? (cs : List Char) : Option Nat :=
  match numbers? (labels cs) with
  | none => none
  | some ns =>
    let bytes := ns.dropLast
    match ns.getLast? with
    | none => none
    | some last =>
      if ns.length ≤ 4 && bytes.all (· < 256) && last < Nat.pow 256 (4 - bytes.length) then
        some (bytes.foldr (fun b n => b * 16777216 + n / 256) 0 + last)
      else none

def text (address : Nat) : String :=
  toString (address / 16777216) ++ "." ++ toString (address / 65536 % 256) ++ "." ++
    toString (address / 256 % 256) ++ "." ++ toString (address % 256)

end CacheWatch.Url.Ipv4
