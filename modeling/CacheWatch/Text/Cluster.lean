import CacheWatch.Text.ClusterClass

/-! Clusters: the runs of characters that a reader takes for one.
The text is read from the left. What the text so far ends with decides whether the next character
goes on with the last cluster.
-/
namespace CacheWatch.Text

/-- How far a conjunct of consonants has come. -/
inductive Conjunct where
  | absent
  | consonant
  | linked
deriving DecidableEq, Repr

structure Ending where
  last : ClusterClass
  conjunct : Conjunct
  /-- A pictograph with marks, then a joiner or nothing. -/
  pictured : Bool
  /-- A flag letter without a partner. -/
  unpaired : Bool
deriving DecidableEq, Repr

namespace Ending

def start : Ending := ⟨.control, .absent, false, false⟩

def joins (e : Ending) (next : ClusterClass) : Bool :=
  match e.last, next with
  | .carriageReturn, .lineFeed => true
  | .control, _ | .carriageReturn, _ | .lineFeed, _ => false
  | _, .control | _, .carriageReturn | _, .lineFeed => false
  | .initial, .initial | .initial, .vowel | .initial, .openSyllable
  | .initial, .closedSyllable => true
  | .openSyllable, .vowel | .openSyllable, .final | .vowel, .vowel | .vowel, .final => true
  | .closedSyllable, .final | .final, .final => true
  | _, .extending | _, .joiner | _, .spacing | .leading, _ => true
  | _, .consonant => e.conjunct = .linked
  | .joiner, .pictograph => e.pictured
  | .flagLetter, .flagLetter => e.unpaired
  | _, _ => false

/-- Marks let a conjunct go on, except the one that keeps consonants apart. -/
def conjunctAfter (e : Ending) (c : Char) (k : ClusterClass) : Conjunct :=
  match k with
  | .consonant => .consonant
  | .joiner => e.conjunct
  | .extending =>
    if c = '\u200c' then .absent
    else if isLinker c && e.conjunct ≠ .absent then .linked
    else e.conjunct
  | _ => .absent

def picturedAfter (e : Ending) (k : ClusterClass) : Bool :=
  match k with
  | .pictograph => true
  | .joiner | .extending => e.pictured && e.last ≠ .joiner
  | _ => false

def after (e : Ending) (c : Char) : Ending :=
  let k := ClusterClass.of c
  ⟨k, e.conjunctAfter c k, e.picturedAfter k, k = .flagLetter && !e.unpaired⟩

end Ending

/-- What goes on with the cluster before, and the clusters behind it. -/
def clustersFrom (e : Ending) : List Char → List Char × List (List Char)
  | [] => ([], [])
  | c :: cs =>
    let (same, later) := clustersFrom (e.after c) cs
    if e.joins (.of c) then (c :: same, later) else ([], (c :: same) :: later)

def clusters (cs : List Char) : List (List Char) := (clustersFrom .start cs).2

end CacheWatch.Text
