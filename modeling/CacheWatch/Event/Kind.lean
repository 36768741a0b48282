import CacheWatch.Json.Basic
import CacheWatch.Text.Blank
import CacheWatch.Text.Digits

/-! The four kinds of cache events, and the tags that denote them. -/
namespace CacheWatch

inductive EventKind where
  | profileId
  | nameHistory
  | profile
  | blacklist
deriving DecidableEq, Repr

namespace EventKind

def code : EventKind → Nat
  | profileId => 0
  | nameHistory => 1
  | profile => 2
  | blacklist => 3

def ofCode? (n : Int) : Option EventKind :=
  if n = 0 then some profileId
  else if n = 1 then some nameHistory
  else if n = 2 then some profile
  else if n = 3 then some blacklist
  else none

def tag : EventKind → String
  | profileId => "ProfileIdEvent"
  | nameHistory => "NameHistoryEvent"
  | profile => "ProfileEvent"
  | blacklist => "BlacklistEvent"

def ofTag? (name : String) : Option EventKind :=
  [profileId, nameHistory, profile, blacklist].find? (fun kind => kind.tag = name)

def label : EventKind → String
  | profileId => "Profile ID"
  | nameHistory => "Name History"
  | profile => "Profile"
  | blacklist => "Blacklist"

def signedNumber? (cs : List Char) : Option Int :=
  let (negative, ds) : Bool × List Char := match cs with
    | '-' :: r => (true, r)
    | '+' :: r => (false, r)
    | r => (false, r)
  if ds.isEmpty || !ds.all Char.isDigit then none
  else
    let n : Int := Text.decimalValue ds
    some (if negative then -n else n)

/-- The kind that the text of a tag denotes: a code or a symbolic name, white space aside. -/
def ofText? (s : String) : Option EventKind :=
  let cs := Text.trim s.toList
  ((signedNumber? cs).bind ofCode?).orElse (fun _ => ofTag? (String.ofList cs))

/-- The kind that a tag denotes. A number counts only when it is written as an integer. -/
def ofJson? : Json → Option EventKind
  | .integer n => ofCode? n
  | .string s => ofText? s
  | _ => none

end EventKind

end CacheWatch
