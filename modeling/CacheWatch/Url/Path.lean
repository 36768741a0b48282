import CacheWatch.Text.Percent
import CacheWatch.Text.Split

/-! Paths: segments between slashes, with dot segments resolved. -/
namespace CacheWatch.Url

def isPathSpecial (c : Char) : Bool :=
  [' ', '"', '#', '<', '>', '?', '\x60', '\x7b', '\x7d'].contains c

namespace Path

def isSlash (c : Char) : Bool := c = '/' || c = '\\'

/-- A point, as itself or encoded. -/
def isDot (segment : List Char) : Bool :=
  segment = ['.'] || segment.map Char.toLower = ['%', '2', 'e']

/-- Two points, each as itself or encoded. -/
def isDoubleDot (segment : List Char) : Bool :=
  match segment with
  | '.' :: rest => isDot rest
  | '%' :: '2' :: e :: rest => (e = 'e' || e = 'E') && isDot rest
  | _ => false

/-- A letter and a colon or bar name a drive, which two points do not leave. -/
def isDrive (segment : List Char) : Bool :=
  match segment with
  | [letter, mark] => letter.isAlpha && (mark = ':' || mark = '|')
  | _ => false

def up (above : List (List Char)) : List (List Char) :=
  match above with
  | [] => []
  | last :: rest => if isDrive last then last :: rest else rest

/-- The segments that remain, given those already found, last first. -/
def resolveFrom (above : List (List Char)) : List (List Char) → List (List Char)
  | [] => above.reverse
  | [last] =>
    if isDoubleDot last then ([] :: up above).reverse
    else if isDot last then ([] :: above).reverse
    else (last :: above).reverse
  | segment :: rest =>
    if isDoubleDot segment then resolveFrom (up above) rest
    else if isDot segment then resolveFrom above rest
    else resolveFrom (segment :: above) rest

def resolve (segments : List (List Char)) : List (List Char) := resolveFrom [] segments

/-- The segments of a path as written; a backslash is a slash, and the first one may be missing. -/
def ofChars (cs : List Char) : List (List Char) :=
  let slashed := cs.map (fun c => if c = '\\' then '/' else c)
  let body := match slashed with
    | '/' :: rest => rest
    | rest => rest
  resolve ((Text.splitAt '/' body).map (Text.percentEncode isPathSpecial))

def chars (segments : List (List Char)) : List Char := '/' :: Text.joinWith '/' segments

end Path

end CacheWatch.Url
