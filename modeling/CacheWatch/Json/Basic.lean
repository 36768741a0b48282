import CacheWatch.Number.Binary64
import CacheWatch.Number.Word

/-! JSON values.
An object keeps its members in strictly increasing key order, so equal objects are equal values.
-/
namespace CacheWatch

/-- Integers stay exact; every other number is a binary64. -/
inductive Json where
  | null
  | bool (value : Bool)
  | integer (value : Int)
  | float (value : Binary64)
  | string (value : String)
  | array (items : List Json)
  | object (members : List (String × Json))

namespace Json

abbrev Members := List (String × Json)

namespace Members

def find? (key : String) : Members → Option Json
  | [] => none
  | (k, v) :: rest => if k = key then some v else find? key rest

def insert (key : String) (value : Json) : Members → Members
  | [] => [(key, value)]
  | (k, v) :: rest =>
    if key < k then (key, value) :: (k, v) :: rest
    else if k = key then (key, value) :: rest
    else (k, v) :: insert key value rest

/-- Of members with one key the last one counts. -/
def ofList (members : List (String × Json)) : Members :=
  members.foldl (fun done member => insert member.1 member.2 done) []

def without (keys : List String) (members : Members) : Members :=
  members.filter (fun member => !keys.contains member.1)

/-- Key order: by code point, each key once. -/
def Sorted (members : Members) : Prop := members.Pairwise (fun a b => a.1 < b.1)

end Members

def signed? : Json → Option Int
  | integer n => if Word.fitsSigned n then some n else none
  | _ => none

def string? : Json → Option String
  | string s => some s
  | _ => none

def bool? : Json → Option Bool
  | bool b => some b
  | _ => none

def array? : Json → Option (List Json)
  | array items => some items
  | _ => none

def object? : Json → Option Members
  | object members => some members
  | _ => none

end Json

end CacheWatch
