/-! TOML tables, and the two ways in which a document extends them: an assignment under a dotted
key, and a header.
-/
namespace CacheWatch

/-- How a table came to be. It decides who may extend the table. -/
inductive TableOrigin where
  /-- Written in braces, and complete as it stands. -/
  | inline
  /-- Opened by its own header. -/
  | header
  /-- Opened by a dotted key. -/
  | dotted
  /-- Opened by the header of a table below it. -/
  | implied
deriving DecidableEq, Repr

/-- Numbers that are not integers, and times, are recognised and not kept. -/
inductive Toml where
  | string (text : String)
  | integer (value : Int)
  | float
  | bool (value : Bool)
  | time
  | array (items : List Toml)
  | table (origin : TableOrigin) (members : List (String × Toml))
  /-- Tables that were opened one after the other by headers in double brackets. -/
  | tables (items : List (List (String × Toml)))

namespace Toml

abbrev Members := List (String × Toml)

namespace Members

def find? (key : String) : Members → Option Toml
  | [] => none
  | (k, v) :: rest => if k = key then some v else find? key rest

def set (key : String) (value : Toml) : Members → Members
  | [] => [(key, value)]
  | (k, v) :: rest => if k = key then (key, value) :: rest else (k, v) :: set key value rest

end Members

structure Key where
  above : List String
  name : String
deriving DecidableEq, Repr

def withLast (change : Members → Option Members) (items : List Members) : Option (List Members) :=
  match items.getLast? with
  | none => none
  | some last => (change last).map (fun last => items.dropLast ++ [last])

/-- Sets a new member below tables that dotted keys may extend. The table that receives the
member was itself opened by a dotted key. -/
def assignBelow (name : String) (value : Toml) : List String → Members → Option Members
  | [], ms => if (Members.find? name ms).isSome then none else some (Members.set name value ms)
  | parent :: rest, ms =>
    match Members.find? parent ms with
    | none =>
      (assignBelow name value rest []).map (fun t => Members.set parent (.table .dotted t) ms)
    | some (.table .dotted t) =>
      (assignBelow name value rest t).map (fun t => Members.set parent (.table .dotted t) ms)
    | some (.table .implied t) =>
      if rest.isEmpty then none
      else (assignBelow name value rest t).map (fun t => Members.set parent (.table .implied t) ms)
    | some (.tables items) =>
      if rest.isEmpty then none
      else (withLast (assignBelow name value rest) items).map
        (fun items => Members.set parent (.tables items) ms)
    | some _ => none

def assign (ms : Members) (key : Key) (value : Toml) : Option Members :=
  assignBelow key.name value key.above ms

def assignAll (ms : Members) (assignments : List (Key × Toml)) : Option Members :=
  assignments.foldlM (fun ms (key, value) => assign ms key value) ms

structure Header where
  isArray : Bool
  key : Key
deriving DecidableEq, Repr

/-- Opens a table and fills it. Only an implied table may be opened once more. -/
def openTable (isArray : Bool) (name : String) (fill : Members → Option Members)
    (ms : Members) : Option Members :=
  match isArray, Members.find? name ms with
  | false, none => (fill []).map (fun t => Members.set name (.table .header t) ms)
  | false, some (.table .implied t) =>
    (fill t).map (fun t => Members.set name (.table .header t) ms)
  | true, none => (fill []).map (fun t => Members.set name (.tables [t]) ms)
  | true, some (.tables items) =>
    (fill []).map (fun t => Members.set name (.tables (items ++ [t])) ms)
  | _, _ => none

/-- Opens a table below others; those that are missing are implied. -/
def openBelow (isArray : Bool) (name : String) (fill : Members → Option Members) :
    List String → Members → Option Members
  | [], ms => openTable isArray name fill ms
  | parent :: rest, ms =>
    match Members.find? parent ms with
    | none =>
      (openBelow isArray name fill rest []).map
        (fun t => Members.set parent (.table .implied t) ms)
    | some (.table .inline _) => none
    | some (.table origin t) =>
      (openBelow isArray name fill rest t).map
        (fun t => Members.set parent (.table origin t) ms)
    | some (.tables items) =>
      (withLast (openBelow isArray name fill rest) items).map
        (fun items => Members.set parent (.tables items) ms)
    | some _ => none

inductive Statement where
  | header (header : Header)
  | assignment (key : Key) (value : Toml)

/-- Adds one section, a header with the assignments below it. -/
def addSection (root : Members) (header : Option Header) (assignments : List (Key × Toml)) :
    Option Members :=
  match header with
  | none => assignAll root assignments
  | some h => openBelow h.isArray h.key.name (assignAll · assignments) h.key.above root

/-- The table that statements denote, given the section that is being read, its assignments
last first. -/
def buildFrom (root : Members) (header : Option Header) (done : List (Key × Toml)) :
    List Statement → Option Members
  | [] => addSection root header done.reverse
  | .assignment key value :: rest => buildFrom root header ((key, value) :: done) rest
  | .header next :: rest =>
    match addSection root header done.reverse with
    | none => none
    | some root => buildFrom root (some next) [] rest

def build (statements : List Statement) : Option Members := buildFrom [] none [] statements

end Toml

end CacheWatch
