import CacheWatch.Screen.Row
import CacheWatch.Text.Blank

/-! Running text that wraps between words.
Blanks are kept, except those that fill up the line they stand behind. A word that is longer than a
line goes on in the next one.
-/
namespace CacheWatch.Screen

open Row (span)

/-- Text on its way into lines: the lines that are done, the line at work, and the blanks and the
word behind it that have no place yet. -/
structure Wrapping where
  lines : List (List (List Char))
  line : List (List Char)
  blanks : List (List Char)
  word : List (List Char)
  /-- The cluster before is no blank. -/
  solid : Bool

namespace Wrapping

def start : Wrapping := ⟨[], [], [], [], false⟩

/-- A place to wrap at: the blank without width, and white space that does not hold words
together. -/
def isBreak (cluster : List Char) : Bool :=
  cluster = ['\u200b'] || cluster.all Text.isBlank && cluster ≠ ['\u00a0']

def place (w : Wrapping) : Wrapping :=
  { w with line := w.line ++ w.blanks ++ w.word, blanks := [], word := [] }

/-- Without the blanks in front that there is room for. -/
def withoutBlanks (room : Nat) : List (List Char) → List (List Char)
  | [] => []
  | blank :: rest =>
    if room < Text.columns blank then blank :: rest
    else withoutBlanks (room - Text.columns blank) rest

def feed (width : Nat) (w : Wrapping) : Wrapping :=
  { w with
    lines := w.lines ++ [w.line]
    line := []
    blanks := withoutBlanks (width - span w.line) w.blanks }

def push (w : Wrapping) (cluster : List Char) : Wrapping :=
  if isBreak cluster then { w with blanks := w.blanks ++ [cluster], solid := false }
  else { w with word := w.word ++ [cluster], solid := true }

def settles (width : Nat) (w : Wrapping) (cluster : List Char) : Bool :=
  w.solid && isBreak cluster ||
    w.line.isEmpty && width < span w.word + span w.blanks + Text.columns cluster

def isFull (width : Nat) (w : Wrapping) (cluster : List Char) : Bool :=
  width ≤ span w.line ||
    0 < Text.columns cluster && width ≤ span w.line + span w.blanks + span w.word

/-- A blank that would begin a line is lost. -/
def advance (width : Nat) (w : Wrapping) (cluster : List Char) : Wrapping :=
  if w.isFull width cluster then
    if isBreak cluster && (w.feed width).blanks.isEmpty then w.feed width
    else (w.feed width).push cluster
  else w.push cluster

def step (width : Nat) (w : Wrapping) (cluster : List Char) : Wrapping :=
  if width < Text.columns cluster then w
  else (if w.settles width cluster then w.place else w).advance width cluster

/-- The lines when nothing follows. There is always one. -/
def finish (w : Wrapping) : List (List (List Char)) :=
  let last := w.line ++ w.blanks ++ w.word
  if last.isEmpty && !w.lines.isEmpty then w.lines else w.lines ++ [last]

end Wrapping

namespace Row

def wrapped (width : Nat) (row : Row) : List String :=
  if width = 0 then []
  else (((row.flatMap clusters).foldl (Wrapping.step width) .start).finish).map ink

end Row

end CacheWatch.Screen
