import CacheWatch.Json.Token

/-! From JSON text to values, by way of a tree that keeps numbers and strings as written.
The tree is built in one pass over the tokens with the open brackets on a stack, so its depth is
not limited; a value that is taken from it is.
-/
namespace CacheWatch.Json

inductive Tree where
  | null
  | bool (value : Bool)
  | number (written : Numeral)
  | string (written : List Unit16)
  | array (items : List Tree)
  | object (members : List (List Unit16 × Tree))

/-- An open bracket and what stands behind it so far, last first. -/
inductive Open where
  | array (items : List Tree)
  | object (members : List (List Unit16 × Tree)) (key : List Unit16)

inductive Expected where
  | value
  | firstItem
  | firstKey
  | key (members : List (List Unit16 × Tree))
  | colon (members : List (List Unit16 × Tree)) (key : List Unit16)
  | behind (done : Tree)

def leaf? : Token → Option Tree
  | .null => some .null
  | .bool b => some (.bool b)
  | .number written => some (.number written)
  | .string written => some (.string written)
  | _ => none

def build : List Token → Expected → List Open → Option Tree
  | [], .behind done, [] => some done
  | [], _, _ => none
  | .closeArray :: rest, .firstItem, .array _ :: up => build rest (.behind (.array [])) up
  | t :: rest, .firstItem, up | t :: rest, .value, up =>
    match t with
    | .openArray => build rest .firstItem (.array [] :: up)
    | .openObject => build rest .firstKey up
    | t =>
      match leaf? t with
      | some done => build rest (.behind done) up
      | none => none
  | .closeObject :: rest, .firstKey, up => build rest (.behind (.object [])) up
  | .string k :: rest, .firstKey, up => build rest (.colon [] k) up
  | .string k :: rest, .key members, up => build rest (.colon members k) up
  | .colon :: rest, .colon members k, up => build rest .value (.object members k :: up)
  | .comma :: rest, .behind done, .array items :: up =>
    build rest .value (.array (done :: items) :: up)
  | .closeArray :: rest, .behind done, .array items :: up =>
    build rest (.behind (.array (done :: items).reverse)) up
  | .comma :: rest, .behind done, .object members k :: up =>
    build rest (.key ((k, done) :: members)) up
  | .closeObject :: rest, .behind done, .object members k :: up =>
    build rest (.behind (.object ((k, done) :: members).reverse)) up
  | _ :: _, _, _ => none

def tree (cs : List Char) : Option Tree := do build (← tokens cs) .value []

/-- The characters that a written string denotes: a high surrogate has to be followed by a low
one, which never stands alone. -/
def resolve : List Unit16 → Option (List Char)
  | [] => some []
  | .plain c :: rest => (resolve rest).map (c :: ·)
  | .code high :: .code low :: rest =>
    if 0xD800 ≤ high && high < 0xDC00 then
      if 0xDC00 ≤ low && low < 0xE000 then
        (resolve rest).map (Char.ofNat (0x10000 + (high - 0xD800) * 0x400 + (low - 0xDC00)) :: ·)
      else none
    else if 0xDC00 ≤ high && high < 0xE000 then none
    else (resolve (.code low :: rest)).map (Char.ofNat high :: ·)
  | .code n :: rest =>
    if 0xD800 ≤ n && n < 0xE000 then none else (resolve rest).map (Char.ofNat n :: ·)

def resolveText (written : List Unit16) : Option String := (resolve written).map String.ofList

/-- An integer that fits a signed or unsigned 64-bit word stays one; minus zero is not an
integer. Any other number is rounded twice, and refused if its magnitude is out of range. -/
def Numeral.value? (written : Numeral) : Option Json :=
  let n : Int := if written.negative then -(written.digits : Int) else written.digits
  if written.integral && !(written.negative && written.digits = 0) &&
      (Word.fitsSigned n || Word.fits 64 n.toNat && 0 ≤ n) then some (.integer n)
  else (Binary64.ofParts written.negative written.digits written.exponent).map .float

def depthLimit : Nat := 127

mutual

/-- The value of a tree whose brackets nest at most `depth` deep. -/
def Tree.valueWithin (depth : Nat) : Tree → Option Json
  | .null => some .null
  | .bool b => some (.bool b)
  | .number written => written.value?
  | .string written => (resolveText written).map .string
  | .array items =>
    if depth = 0 then none else (itemsWithin (depth - 1) items).map .array
  | .object members =>
    if depth = 0 then none
    else (membersWithin (depth - 1) members).map (fun ms => .object (Members.ofList ms))

def itemsWithin (depth : Nat) : List Tree → Option (List Json)
  | [] => some []
  | item :: rest =>
    match item.valueWithin depth, itemsWithin depth rest with
    | some item, some rest => some (item :: rest)
    | _, _ => none

def membersWithin (depth : Nat) : List (List Unit16 × Tree) → Option (List (String × Json))
  | [] => some []
  | (key, item) :: rest =>
    match resolveText key, item.valueWithin depth, membersWithin depth rest with
    | some key, some item, some rest => some ((key, item) :: rest)
    | _, _, _ => none

end

def Tree.value? (t : Tree) : Option Json := t.valueWithin depthLimit

def read (cs : List Char) : Option Json := do (← tree cs).value?

def ofText (s : String) : Option Json := read s.toList

end CacheWatch.Json
