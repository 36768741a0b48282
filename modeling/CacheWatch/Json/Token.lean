import CacheWatch.Json.Basic
import CacheWatch.Text.Digits

/-! Tokens of JSON text.
A number or a string is kept as written; whether it denotes a value is decided later, because a
part of a document that nobody reads has to be well formed and nothing more.
-/
namespace CacheWatch.Json

open Text (decimalValue digitValue hexValue?)

/-- One character of a string as written: itself, or four hexadecimal digits. -/
inductive Unit16 where
  | plain (c : Char)
  | code (n : Nat)
deriving DecidableEq

/-- A number as far as it is taken up: `digits * 10 ^ exponent`. It is integral when there is no
point and no exponent and every digit is taken up. -/
structure Numeral where
  negative : Bool
  digits : Nat
  exponent : Int
  integral : Bool
deriving DecidableEq

inductive Token where
  | openArray
  | closeArray
  | openObject
  | closeObject
  | comma
  | colon
  | null
  | bool (value : Bool)
  | number (written : Numeral)
  | string (written : List Unit16)
deriving DecidableEq

def isBlank (c : Char) : Bool := c = ' ' || c = '\t' || c = '\n' || c = '\r'

def simpleEscape? (c : Char) : Option Char :=
  if c = '"' || c = '\\' || c = '/' then some c
  else if c = 'b' then some '\x08'
  else if c = 'f' then some '\x0c'
  else if c = 'n' then some '\n'
  else if c = 'r' then some '\r'
  else if c = 't' then some '\t'
  else none

def stringBody : List Char → Option (List Unit16 × List Char)
  | [] => none
  | '"' :: rest => some ([], rest)
  | '\\' :: 'u' :: a :: b :: c :: d :: rest =>
    match hexValue? a, hexValue? b, hexValue? c, hexValue? d, stringBody rest with
    | some a, some b, some c, some d, some (units, after) =>
      some (.code (((a * 16 + b) * 16 + c) * 16 + d) :: units, after)
    | _, _, _, _, _ => none
  | '\\' :: c :: rest =>
    match simpleEscape? c, stringBody rest with
    | some c, some (units, after) => some (.plain c :: units, after)
    | _, _ => none
  | c :: rest =>
    if c = '\\' || c.toNat < 32 then none
    else (stringBody rest).map (fun (units, after) => (.plain c :: units, after))

/-- One zero, or digits that do not begin with a zero. -/
def wholePart (cs : List Char) : Option (List Char × List Char) :=
  match cs with
  | [] => none
  | c :: rest =>
    if c = '0' then some (['0'], rest)
    else if c.isDigit then some (c :: rest.takeWhile Char.isDigit, rest.dropWhile Char.isDigit)
    else none

def fraction (cs : List Char) : Option (List Char × List Char) :=
  match cs with
  | '.' :: rest =>
    let ds := rest.takeWhile Char.isDigit
    if ds.isEmpty then none else some (ds, rest.dropWhile Char.isDigit)
  | _ => some ([], cs)

def exponentPart (cs : List Char) : Option (Option Int × List Char) :=
  match cs with
  | [] => some (none, [])
  | e :: rest =>
    if e = 'e' || e = 'E' then
      let (negative, rest) : Bool × List Char := match rest with
        | '-' :: r => (true, r)
        | '+' :: r => (false, r)
        | r => (false, r)
      let ds := rest.takeWhile Char.isDigit
      if ds.isEmpty then none
      else
        let n : Int := decimalValue ds
        some (some (if negative then -n else n), rest.dropWhile Char.isDigit)
    else some (none, e :: rest)

/-- Appends digits to a number for as long as it fits a word, and counts those that are left. -/
def takeUp (n : Nat) : List Char → Nat × Nat
  | [] => (n, 0)
  | d :: ds =>
    let next := 10 * n + digitValue d
    if Word.fits 64 next then takeUp next ds else (n, ds.length + 1)

/-- Digits before the point that are left out count as zeros, and those behind it not at all. -/
def numeral (cs : List Char) : Option (Numeral × List Char) := do
  let (negative, cs) : Bool × List Char := match cs with
    | '-' :: r => (true, r)
    | r => (false, r)
  let (whole, cs) ← wholePart cs
  let (behind, cs) ← fraction cs
  let (exponent, cs) ← exponentPart cs
  let (front, zeros) := takeUp 0 whole
  let (digits, ignored) := takeUp front behind
  some (⟨negative, digits, exponent.getD 0 + zeros - (behind.length - ignored : Nat),
    behind.isEmpty && exponent.isNone && zeros = 0⟩, cs)

def token (cs : List Char) : Option (Token × List Char) :=
  match cs with
  | '[' :: rest => some (.openArray, rest)
  | ']' :: rest => some (.closeArray, rest)
  | '\x7b' :: rest => some (.openObject, rest)
  | '\x7d' :: rest => some (.closeObject, rest)
  | ',' :: rest => some (.comma, rest)
  | ':' :: rest => some (.colon, rest)
  | 'n' :: 'u' :: 'l' :: 'l' :: rest => some (.null, rest)
  | 't' :: 'r' :: 'u' :: 'e' :: rest => some (.bool true, rest)
  | 'f' :: 'a' :: 'l' :: 's' :: 'e' :: rest => some (.bool false, rest)
  | '"' :: rest => (stringBody rest).map (fun (units, after) => (.string units, after))
  | cs => (numeral cs).map (fun (written, after) => (.number written, after))

/-- All tokens of a text. Every token takes a character, so as many steps as there are
characters are enough. -/
def tokensWithin : Nat → List Char → Option (List Token)
  | _, [] => some []
  | 0, _ :: _ => none
  | n + 1, c :: rest =>
    if isBlank c then tokensWithin n rest
    else do
      let (first, after) ← token (c :: rest)
      let others ← tokensWithin n after
      some (first :: others)

def tokens (cs : List Char) : Option (List Token) := tokensWithin cs.length cs

end CacheWatch.Json
