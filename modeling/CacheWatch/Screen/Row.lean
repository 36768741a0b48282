import CacheWatch.Text.Cluster
import CacheWatch.Text.Width

/-! Rows of text on a screen of cells.
A cluster is put into the first of the cells that it takes, and its other cells are blank. Running
text and the lines of a list differ in what becomes of clusters that take no cell, and in where a
row is cut that is too long.
-/
namespace CacheWatch.Screen

/-- A row in pieces of one look each. Clusters do not reach from one piece into the next. -/
abbrev Row := List String

namespace Row

/-- The clusters of a piece that can be shown: those without controls. -/
def clusters (piece : String) : List (List Char) :=
  (Text.clusters piece.toList).filter (fun cluster => !cluster.any Text.isControl)

def span : List (List Char) → Nat
  | [] => 0
  | cluster :: rest => Text.columns cluster + span rest

/-- Running text on the screen: a cluster that takes no cell is left out. -/
def ink (clusters : List (List Char)) : String :=
  String.ofList (clusters.flatMap (fun cluster =>
    match Text.columns cluster with
    | 0 => []
    | more + 1 => cluster ++ List.replicate more ' '))

/-- The clusters up to the first one without room, given the columns used so far. One that is wider
than a whole line is passed over. -/
def cut (width used : Nat) : List (List Char) → List (List Char)
  | [] => []
  | cluster :: rest =>
    if width < Text.columns cluster then cut width used rest
    else if width < used + Text.columns cluster then []
    else cluster :: cut width (used + Text.columns cluster) rest

def flowing (width : Nat) (row : Row) : String := ink (cut width 0 (row.flatMap clusters))

def fit (room : Nat) : List (List Char) → List (List Char)
  | [] => []
  | cluster :: rest =>
    if room < Text.columns cluster then [] else cluster :: fit (room - Text.columns cluster) rest

/-- The pieces of a line in a list as far as there is room. Nothing follows a piece that is cut. -/
def fitted (room : Nat) : Row → List (List (List Char))
  | [] => []
  | piece :: rest =>
    let kept := fit room (clusters piece)
    if room = 0 then []
    else if kept.length < (clusters piece).length then [kept]
    else kept :: fitted (room - span kept) rest

/-- A cluster in front of others: what goes to the end of the cell before it, and the cells. -/
def addCluster (cluster : List Char) (behind : List Char × List (List Char)) :
    List Char × List (List Char) :=
  match Text.columns cluster with
  | 0 => (cluster ++ behind.1, behind.2)
  | 1 => ([], (cluster ++ behind.1) :: behind.2)
  | more + 2 =>
    ([], cluster :: (List.replicate more [' '] ++ (' ' :: behind.1) :: behind.2))

/-- In a list a cluster that takes no cell goes into the cell before it, and at the beginning of a
piece into the first cell. -/
def cells (clusters : List (List Char)) : List (List Char) :=
  match clusters.foldr addCluster ([], []) with
  | (_, []) => []
  | (first, cell :: rest) => (first ++ cell) :: rest

/-- The cells under a wide cluster are not drawn: they look blank. Only behind an emoji selector
are they drawn with what is in them. -/
def drawn (covered : Nat) : List (List Char) → List Char
  | [] => []
  | cell :: rest =>
    let reach := Text.columns cell - 1
    if covered = 0 then cell ++ drawn (if cell.contains '\ufe0f' then 0 else reach) rest
    else ' ' :: drawn reach rest

def listed (room : Nat) (row : Row) : String :=
  String.ofList (drawn 0 ((fitted room row).flatMap cells))

end Row

end CacheWatch.Screen
