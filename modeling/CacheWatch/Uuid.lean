import CacheWatch.Text.Digits

/-! Profile identifiers: thirty-two hexadecimal digits. -/
namespace CacheWatch

structure Uuid where
  digits : List (Fin 16)
  length_eq : digits.length = 32
deriving DecidableEq

namespace Uuid

def hexDigit? (c : Char) : Option (Fin 16) := (Text.hexValue? c).map (Fin.ofNat 16)

def hexDigits? : List Char → Option (List (Fin 16))
  | [] => some []
  | c :: rest =>
    match hexDigit? c, hexDigits? rest with
    | some d, some ds => some (d :: ds)
    | _, _ => none

def groups : List Nat := [8, 4, 4, 4, 12]

def group : List Nat → List Char → List Char
  | [], _ => []
  | [_], cs => cs
  | n :: sizes, cs => cs.take n ++ '-' :: group sizes (cs.drop n)

def ungroup : List Nat → List Char → Option (List Char)
  | [], cs => if cs.isEmpty then some [] else none
  | [n], cs => if cs.length = n then some cs else none
  | n :: sizes, cs =>
    match cs.drop n with
    | '-' :: rest => (ungroup sizes rest).map (cs.take n ++ ·)
    | _ => none

def ofDigits? (ds : List (Fin 16)) : Option Uuid :=
  if h : ds.length = 32 then some ⟨ds, h⟩ else none

def ofPlain? (cs : List Char) : Option Uuid := do ofDigits? (← hexDigits? cs)

def ofHyphenated? (cs : List Char) : Option Uuid := do ofPlain? (← ungroup groups cs)

def resourceName : List Char := ['u', 'r', 'n', ':', 'u', 'u', 'i', 'd', ':']

/-- Plain digits, hyphenated, hyphenated in braces, or hyphenated behind `urn:uuid:` in any
case. -/
def ofText? (text : String) : Option Uuid :=
  let cs := text.toList
  if (cs.take 9).map Char.toLower = resourceName then ofHyphenated? (cs.drop 9)
  else
    match cs with
    | '\x7b' :: rest => if rest.getLast? = some '\x7d' then ofHyphenated? rest.dropLast else none
    | cs => if cs.length = 32 then ofPlain? cs else ofHyphenated? cs

/-- Lower case, hyphenated. -/
def text (id : Uuid) : String :=
  String.ofList (group groups (id.digits.map (fun d => Nat.digitChar d.val)))

end Uuid

end CacheWatch
