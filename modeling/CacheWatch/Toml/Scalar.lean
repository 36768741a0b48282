import CacheWatch.Clock.Timestamp
import CacheWatch.Number.Binary64
import CacheWatch.Number.Word
import CacheWatch.Toml.Basic

/-! TOML numbers and times. -/
namespace CacheWatch.Toml

/-- Digits, where an underscore may stand between two of them. -/
def digitTail (isDigit : Char → Bool) : List Char → List Char × List Char
  | '_' :: d :: rest =>
    if isDigit d then
      let (ds, after) := digitTail isDigit rest
      (d :: ds, after)
    else ([], '_' :: d :: rest)
  | d :: rest =>
    if isDigit d then
      let (ds, after) := digitTail isDigit rest
      (d :: ds, after)
    else ([], d :: rest)
  | [] => ([], [])

def digitRun (isDigit : Char → Bool) : List Char → Option (List Char × List Char)
  | d :: rest =>
    if isDigit d then
      let (ds, after) := digitTail isDigit rest
      some (d :: ds, after)
    else none
  | [] => none

/-- One zero, or digits that do not begin with a zero. -/
def wholePart (cs : List Char) : Option (List Char × List Char) :=
  match cs with
  | '0' :: rest => some (['0'], rest)
  | cs => digitRun Char.isDigit cs

def optionalSign : List Char → Bool × List Char
  | '-' :: rest => (true, rest)
  | '+' :: rest => (false, rest)
  | cs => (false, cs)

def fraction? : List Char → Option (List Char × List Char)
  | '.' :: rest => digitRun Char.isDigit rest
  | _ => none

def exponent? : List Char → Option (Int × List Char)
  | e :: rest =>
    if e = 'e' || e = 'E' then
      let (negative, rest) := optionalSign rest
      (digitRun Char.isDigit rest).map (fun (ds, after) =>
        let n : Int := Text.decimalValue ds
        (if negative then -n else n, after))
    else none
  | [] => none

/-- A number that is not positive may be too large; it is minus infinity then. -/
def floatOf? (negative : Bool) (digits : Nat) (exponent : Int) : Option Toml :=
  if negative || (Binary64.ofDecimal false digits exponent).isSome then some .float else none

def integerOf? (n : Int) : Option Toml :=
  if Word.fitsSigned n then some (.integer n) else none

def isBaseDigit (base : Nat) (c : Char) : Bool :=
  match Text.hexValue? c with
  | some d => d < base
  | none => false

def based (base : Nat) (cs : List Char) : Option (Toml × List Char) :=
  match digitRun (isBaseDigit base) cs with
  | none => none
  | some (ds, after) =>
    let n : Nat := ds.foldl (fun n d => base * n + (Text.hexValue? d).getD 0) 0
    (integerOf? n).map (·, after)

def decimal (cs : List Char) : Option (Toml × List Char) :=
  let (negative, cs) := optionalSign cs
  match cs with
  | 'i' :: 'n' :: 'f' :: rest => some (.float, rest)
  | 'n' :: 'a' :: 'n' :: rest => some (.float, rest)
  | cs =>
    match wholePart cs with
    | none => none
    | some (whole, after) =>
      match fraction? after with
      | some (part, after) =>
        let (exponent, after) := (exponent? after).getD (0, after)
        (floatOf? negative (Text.decimalValue (whole ++ part)) (exponent - part.length)).map
          (·, after)
      | none =>
        match exponent? after with
        | some (exponent, after) =>
          (floatOf? negative (Text.decimalValue whole) exponent).map (·, after)
        | none =>
          let n : Int := Text.decimalValue whole
          (integerOf? (if negative then -n else n)).map (·, after)

def dateEnd? (cs : List Char) : Option (List Char) := do
  let (year, cs) ← Timestamp.digits 4 4 cs
  let cs ← Timestamp.mark '-' cs
  let (month, cs) ← Timestamp.digits 2 2 cs
  let cs ← Timestamp.mark '-' cs
  let (day, cs) ← Timestamp.digits 2 2 cs
  if Date.isValid ⟨year, month, day⟩ then some cs else none

def clockEnd? (cs : List Char) : Option (List Char) := do
  let (hour, cs) ← Timestamp.digits 2 2 cs
  let cs ← Timestamp.mark ':' cs
  let (minute, cs) ← Timestamp.digits 2 2 cs
  let cs ← Timestamp.mark ':' cs
  let (second, cs) ← Timestamp.digits 2 2 cs
  if hour < 24 ∧ minute < 60 ∧ second ≤ 60 then
    some (((Timestamp.fraction cs).map Prod.snd).getD cs)
  else none

def offsetEnd (cs : List Char) : List Char :=
  match cs with
  | 'Z' :: rest => rest
  | 'z' :: rest => rest
  | '−' :: _ => cs
  | cs =>
    match Timestamp.signedOffset (Timestamp.mark ':') cs with
    | some (offset, rest) => if offset.natAbs < 86400 then rest else cs
    | none => cs

def timeEnd? (cs : List Char) : Option (List Char) :=
  match dateEnd? cs with
  | none => clockEnd? cs
  | some [] => some []
  | some (mark :: rest) =>
    if mark = 'T' || mark = 't' || mark = ' ' then
      match clockEnd? rest with
      | some after => some (offsetEnd after)
      | none => some (mark :: rest)
    else some (mark :: rest)

def scalar (cs : List Char) : Option (Toml × List Char) :=
  match timeEnd? cs with
  | some after => some (.time, after)
  | none =>
    match cs with
    | '0' :: 'x' :: rest => based 16 rest
    | '0' :: 'o' :: rest => based 8 rest
    | '0' :: 'b' :: rest => based 2 rest
    | cs => decimal cs

end CacheWatch.Toml
