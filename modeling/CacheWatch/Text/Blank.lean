/-! Unicode white space: trimming and words. -/
namespace CacheWatch.Text

/-- The characters with the property White_Space. -/
def isBlank (c : Char) : Bool :=
  let n := c.toNat
  (9 ≤ n && n ≤ 13) || n = 0x20 || n = 0x85 || n = 0xA0 || n = 0x1680 ||
    (0x2000 ≤ n && n ≤ 0x200A) || n = 0x2028 || n = 0x2029 || n = 0x202F || n = 0x205F ||
    n = 0x3000

def trimLeft (cs : List Char) : List Char := cs.dropWhile isBlank

def trimRight (cs : List Char) : List Char := (cs.reverse.dropWhile isBlank).reverse

def trim (cs : List Char) : List Char := trimRight (trimLeft cs)

def trimmed (s : String) : String := String.ofList (trim s.toList)

/-- The maximal runs of other characters. -/
def words (cs : List Char) : List (List Char) :=
  let (word, done) := cs.foldr
    (fun c (word, done) =>
      if isBlank c then ([], if word.isEmpty then done else word :: done) else (c :: word, done))
    ([], [])
  if word.isEmpty then done else word :: done

def padRight (width : Nat) (s : String) : String :=
  s ++ String.ofList (List.replicate (width - s.length) ' ')

end CacheWatch.Text
