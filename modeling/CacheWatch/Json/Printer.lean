import CacheWatch.Json.Basic
import CacheWatch.Number.Shortest

/-! Compact JSON text. -/
namespace CacheWatch

/-- Shortest digits, with at least one decimal between `1e-5` and `1e16`; elsewhere one digit
before the point and an exponent, whose plus sign is written. -/
def Binary64.jsonChars (x : Binary64) : List Char :=
  let d := x.shortest
  let digits := Nat.toDigits 10 d.digits
  let lead : Int := d.exponent + digits.length - 1
  let body :=
    if d.digits = 0 then ['0', '.', '0']
    else if 0 ≤ d.exponent && lead < 16 then
      digits ++ List.replicate d.exponent.toNat '0' ++ ['.', '0']
    else if d.exponent < 0 && 0 ≤ lead then
      digits.take (lead.toNat + 1) ++ '.' :: digits.drop (lead.toNat + 1)
    else if -5 ≤ lead && lead < 0 then
      '0' :: '.' :: (List.replicate (-lead - 1).toNat '0' ++ digits)
    else
      let sign := if lead < 0 then '-' else '+'
      let mantissa := match digits with
        | [] => []
        | [one] => [one]
        | first :: rest => first :: '.' :: rest
      mantissa ++ 'e' :: sign :: Nat.toDigits 10 lead.natAbs
  if x.negative then '-' :: body else body

namespace Json

def hexDigit (n : Nat) : Char := Nat.digitChar (n % 16)

/-- Control characters below the blank are escaped, with a short form for five of them. -/
def escaped (c : Char) : List Char :=
  if c = '"' then ['\\', '"']
  else if c = '\\' then ['\\', '\\']
  else if c = '\x08' then ['\\', 'b']
  else if c = '\x0c' then ['\\', 'f']
  else if c = '\n' then ['\\', 'n']
  else if c = '\r' then ['\\', 'r']
  else if c = '\t' then ['\\', 't']
  else if c.toNat < 32 then ['\\', 'u', '0', '0', hexDigit (c.toNat / 16), hexDigit c.toNat]
  else [c]

def quoted (s : String) : List Char := '"' :: (s.toList.flatMap escaped ++ ['"'])

def integerChars : Int → List Char
  | .ofNat n => Nat.toDigits 10 n
  | .negSucc n => '-' :: Nat.toDigits 10 (n + 1)

mutual

def chars : Json → List Char
  | null => ['n', 'u', 'l', 'l']
  | bool true => ['t', 'r', 'u', 'e']
  | bool false => ['f', 'a', 'l', 's', 'e']
  | integer n => integerChars n
  | float x => x.jsonChars
  | string s => quoted s
  | array items => '[' :: (itemsChars items ++ [']'])
  | object members => '\x7b' :: (membersChars members ++ ['\x7d'])

def itemsChars : List Json → List Char
  | [] => []
  | [item] => item.chars
  | item :: rest => item.chars ++ ',' :: itemsChars rest

def membersChars : List (String × Json) → List Char
  | [] => []
  | [(key, value)] => quoted key ++ ':' :: value.chars
  | (key, value) :: rest => quoted key ++ ':' :: (value.chars ++ ',' :: membersChars rest)

end

def text (value : Json) : String := String.ofList value.chars

end Json

end CacheWatch
