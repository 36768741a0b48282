import CacheWatch.Text.ClusterClass
import CacheWatch.Text.Ignorable

/-! The columns that a cluster of characters takes on a screen of cells.
Most characters take the same columns wherever they stand. Emoji, the selectors of their style, and
a few letters look at what follows them, so a cluster is measured from its end.
-/
namespace CacheWatch.Text

def wideRanges : List (Nat × Nat) := [
  (0x1100, 0x115f), (0x231a, 0x231b), (0x2329, 0x232a), (0x23e9, 0x23ec), (0x23f0, 0x23f0),
  (0x23f3, 0x23f3), (0x25fd, 0x25fe), (0x2614, 0x2615), (0x2630, 0x2637), (0x2648, 0x2653),
  (0x267f, 0x267f), (0x268a, 0x268f), (0x2693, 0x2693), (0x26a1, 0x26a1), (0x26aa, 0x26ab),
  (0x26bd, 0x26be), (0x26c4, 0x26c5), (0x26ce, 0x26ce), (0x26d4, 0x26d4), (0x26ea, 0x26ea),
  (0x26f2, 0x26f3), (0x26f5, 0x26f5), (0x26fa, 0x26fa), (0x26fd, 0x26fd), (0x2705, 0x2705),
  (0x270a, 0x270b), (0x2728, 0x2728), (0x274c, 0x274c), (0x274e, 0x274e), (0x2753, 0x2755),
  (0x2757, 0x2757), (0x2795, 0x2797), (0x27b0, 0x27b0), (0x27bf, 0x27bf), (0x2b1b, 0x2b1c),
  (0x2b50, 0x2b50), (0x2b55, 0x2b55), (0x2e80, 0x2e99), (0x2e9b, 0x2ef3), (0x2f00, 0x2fd5),
  (0x2ff0, 0x3029), (0x3030, 0x303e), (0x3041, 0x3096), (0x309b, 0x30ff), (0x3105, 0x312f),
  (0x3131, 0x3163), (0x3165, 0x318e), (0x3190, 0x31e5), (0x31ef, 0x321e), (0x3220, 0x3247),
  (0x3250, 0xa48c), (0xa490, 0xa4c6), (0xa960, 0xa97c), (0xac00, 0xd7a3), (0xf900, 0xfaff),
  (0xfe10, 0xfe19), (0xfe30, 0xfe52), (0xfe54, 0xfe66), (0xfe68, 0xfe6b), (0xff01, 0xff60),
  (0xffe0, 0xffe6), (0x16fe0, 0x16fe3), (0x16ff2, 0x16ff6), (0x17000, 0x18cd5), (0x18cff, 0x18d1e),
  (0x18d80, 0x18df2), (0x1aff0, 0x1aff3), (0x1aff5, 0x1affb), (0x1affd, 0x1affe),
  (0x1b000, 0x1b122), (0x1b132, 0x1b132), (0x1b150, 0x1b152), (0x1b155, 0x1b155),
  (0x1b164, 0x1b167), (0x1b170, 0x1b2fb), (0x1d300, 0x1d356), (0x1d360, 0x1d376),
  (0x1f004, 0x1f004), (0x1f0cf, 0x1f0cf), (0x1f18e, 0x1f18e), (0x1f191, 0x1f19a),
  (0x1f200, 0x1f202), (0x1f210, 0x1f23b), (0x1f240, 0x1f248), (0x1f250, 0x1f251),
  (0x1f260, 0x1f265), (0x1f300, 0x1f320), (0x1f32d, 0x1f335), (0x1f337, 0x1f37c),
  (0x1f37e, 0x1f393), (0x1f3a0, 0x1f3ca), (0x1f3cf, 0x1f3d3), (0x1f3e0, 0x1f3f0),
  (0x1f3f4, 0x1f3f4), (0x1f3f8, 0x1f43e), (0x1f440, 0x1f440), (0x1f442, 0x1f4fc),
  (0x1f4ff, 0x1f53d), (0x1f54b, 0x1f54e), (0x1f550, 0x1f567), (0x1f57a, 0x1f57a),
  (0x1f595, 0x1f596), (0x1f5a4, 0x1f5a4), (0x1f5fb, 0x1f64f), (0x1f680, 0x1f6c5),
  (0x1f6cc, 0x1f6cc), (0x1f6d0, 0x1f6d2), (0x1f6d5, 0x1f6d8), (0x1f6dc, 0x1f6df),
  (0x1f6eb, 0x1f6ec), (0x1f6f4, 0x1f6fc), (0x1f7e0, 0x1f7eb), (0x1f7f0, 0x1f7f0),
  (0x1f90c, 0x1f93a), (0x1f93c, 0x1f945), (0x1f947, 0x1f9ff), (0x1fa70, 0x1fa7c),
  (0x1fa80, 0x1fa8a), (0x1fa8e, 0x1fac6), (0x1fac8, 0x1fac8), (0x1facd, 0x1fadc),
  (0x1fadf, 0x1faea), (0x1faef, 0x1faf8), (0x20000, 0x2fffd), (0x30000, 0x3fffd)]

def isControl (c : Char) : Bool := c.toNat < 32 || (127 ≤ c.toNat && c.toNat < 160)

/-- Marks before a number or a letter that are written over or under it. -/
def isOverlaidLead (c : Char) : Bool :=
  let n := c.toNat
  n = 0x605 || n = 0x70f || n = 0x890 || n = 0x891 || n = 0x8e2 || n = 0xa8fa ||
    (inRanges leadingRanges c && 0xd4e ≤ n && n ≠ 0x110bd && n ≠ 0x110cd)

/-- The characters that take no column. The filler of an initial consonant is wide, as a syllable
begins with it. -/
def isZeroWidth (c : Char) : Bool :=
  c.toNat ≠ 0x115f && (isIgnorable c || isExtending c || isHangulVowel c.toNat ||
    isFinal c.toNat || isOverlaidLead c)

/-- The columns of a character that stands alone. -/
def columnsAlone (c : Char) : Nat :=
  if c.toNat < 0xa1 then 1
  else if isZeroWidth c then 0
  else if c = '\u17d8' then 3
  else if inRanges wideRanges c then 2
  else 1

/-- What stands behind a character, as far as it changes the columns. -/
inductive Follower where
  | plain
  | emoji
  | tone
  /-- A joiner before an emoji, with a keycap before it or not. -/
  | joined (keycap : Bool)
  /-- The selector of the emoji style, before a joiner or not. -/
  | emojiStyle (attached : Bool)
  | textStyle
  | wideStyle
  /-- The end of a flag's tag before a joiner. -/
  | tagEnd
  | tagLetters (count : Nat)
  | tagDigits (count : Nat)
  /-- A consonant that can be written below another. -/
  | subscript
  | kiratE
  | kiratAi
deriving DecidableEq, Repr

def isSubscript (c : Char) : Bool :=
  inRanges [(0x1780, 0x1782), (0x1784, 0x1787), (0x1789, 0x178c), (0x178e, 0x1793),
    (0x1795, 0x1798), (0x179b, 0x179d), (0x17a0, 0x17a0), (0x17a2, 0x17a2), (0x17a7, 0x17a7),
    (0x17ab, 0x17ac), (0x17af, 0x17af)] c

/-- Ignorable marks that do not part a consonant from the sign before it. -/
def isTransparent (c : Char) : Bool :=
  inRanges [(0x34f, 0x34f), (0x17b4, 0x17b5), (0x180b, 0x180d), (0x180f, 0x180f),
    (0x200d, 0x200d), (0xfe00, 0xfe0f), (0xe0100, 0xe01ef)] c

def isQuotationMark (c : Char) : Bool :=
  c = '\u2018' || c = '\u2019' || c = '\u201c' || c = '\u201d'

def isTagLetter (c : Char) : Bool := 0xe0061 ≤ c.toNat && c.toNat ≤ 0xe007a

def isTagDigit (c : Char) : Bool := 0xe0030 ≤ c.toNat && c.toNat ≤ 0xe0039

def isBlackFlag (c : Char) : Bool := c.toNat = 0x1f3f4

namespace Follower

/-- What a character is to the one before it, when nothing behind it matters. -/
def of (c : Char) : Follower :=
  if c.toNat < 0x1780 then .plain
  else if isTone c then .tone
  else if isEmoji c then .emoji
  else if c = '\ufe01' then .wideStyle
  else if c = '\ufe0e' then .textStyle
  else if c = '\ufe0f' then .emojiStyle false
  else if isSubscript c then .subscript
  else if c.toNat = 0x16d67 then .kiratE
  else if c.toNat = 0x16d68 then .kiratAi
  else .plain

/-- A character in front of a joiner that is in front of an emoji. -/
def beforeJoiner (c : Char) : Option Follower :=
  if c = '\u20e3' then some (.joined true)
  else if isTone c then some .tone
  else if c.toNat = 0xe007f then some .tagEnd
  else if isEmoji c then some .emoji
  else none

/-- A tag is read from its end: up to three digits, then up to six letters, then the flag. -/
def beforeTag (c : Char) : Follower → Option Follower
  | .tagEnd =>
    if isTagLetter c then some (.tagLetters 1)
    else if isTagDigit c then some (.tagDigits 1) else none
  | .tagLetters n =>
    if isTagLetter c && n < 6 then some (.tagLetters (n + 1))
    else if isTagDigit c && n < 5 then some (.tagDigits 1)
    else if isBlackFlag c && 3 ≤ n then some .emoji else none
  | .tagDigits n =>
    if isTagDigit c && n < 3 then some (.tagDigits (n + 1))
    else if isBlackFlag c && n = 3 then some .emoji else none
  | _ => none

/-- A vowel sign of Kirat Rai before one that it is written with: the columns it adds. -/
def beforeKirat (c : Char) : Follower → Option (Nat × Follower)
  | .kiratE =>
    if c.toNat = 0x16d63 || c.toNat = 0x16d69 then some (0, .plain)
    else if c.toNat = 0x16d67 then some (0, .kiratAi)
    else if c.toNat = 0x16d68 then some (1, .kiratE) else none
  | .kiratAi => if c.toNat = 0x16d63 then some (0, .plain) else none
  | _ => none

/-- A character whose columns depend on what follows: the columns of both, when those behind it
take `columns`. -/
def before (c : Char) (columns : Nat) (next : Follower) : Option (Nat × Follower) :=
  match next with
  | .emojiStyle attached =>
    if hasStyles c then some (if attached then columns else columns + 2, .emoji) else none
  | .textStyle => if narrowsAsText c then some (columns + 1, .plain) else none
  | .wideStyle => if isQuotationMark c then some (columns + 2, .plain) else none
  | .subscript =>
    if c = '\u17d2' then some (columns - 1, .plain)
    else if isTransparent c then some (columns, .subscript) else none
  | .emoji => if c = '\u200d' then some (columns, .joined false) else none
  | .tone =>
    if c = '\u200d' then some (columns, .joined false)
    else if takesTone c then some (columns, .emoji) else none
  | .joined keycap =>
    if c = '\ufe0f' then some (columns, .emojiStyle true)
    else if keycap then none else (beforeJoiner c).map (columns, ·)
  | .tagEnd | .tagLetters _ | .tagDigits _ => (beforeTag c next).map (columns, ·)
  | .kiratE | .kiratAi =>
    (beforeKirat c next).map (fun (added, follower) => (columns + added, follower))
  | .plain => none

end Follower

def measure (c : Char) (behind : Nat × Follower) : Nat × Follower :=
  (behind.2.before c behind.1).getD (behind.1 + columnsAlone c, .of c)

def columns (cluster : List Char) : Nat := (cluster.foldr measure (0, .plain)).1

end CacheWatch.Text
