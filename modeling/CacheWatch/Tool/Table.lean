import CacheWatch.Monitor

/-! A table of keys and values, and the status of a server as one.
Widths count the bytes of a text; padding counts its characters.
-/
namespace CacheWatch.Tool

structure Row where
  key : String
  values : List String
deriving DecidableEq, Repr

namespace Table

def longest (least : Nat) (texts : List String) : Nat :=
  texts.foldl (fun width text => max width text.utf8ByteSize) least

def keyWidth (rows : List Row) : Nat := longest 3 (rows.map Row.key)

def valueWidth (rows : List Row) : Nat := longest 5 (rows.flatMap Row.values)

def dashes (n : Nat) : String := String.ofList (List.replicate n '-')

def separator (rows : List Row) : String :=
  dashes (keyWidth rows) ++ "-+-" ++ dashes (valueWidth rows)

def line (rows : List Row) (label value : String) : String :=
  Text.padRight (keyWidth rows) label ++ " | " ++ value

def rowLines (rows : List Row) (row : Row) : List String :=
  match row.values with
  | [] => []
  | first :: others => line rows row.key first :: others.map (line rows "")

def bodyLines (all : List Row) : List Row → List String
  | [] => []
  | [last] => rowLines all last
  | row :: rest => rowLines all row ++ separator all :: bodyLines all rest

def lines (rows : List Row) : List String :=
  line rows "Key" "Value" :: separator rows :: bodyLines rows rows

def text (rows : List Row) : String := String.join ((lines rows).map (· ++ "\n"))

end Table

def pluginValues (m : Monitor) : List String :=
  if m.pluginsUnavailable then ["not supported"]
  else if m.plugins.isEmpty then ["none"]
  else m.plugins.map (fun plugin => plugin.name ++ " v" ++ plugin.version)

def rateValue (m : Monitor) : String :=
  toString m.allocation ++ " / " ++ toString Monitor.ceiling ++
    " (" ++ m.percent.fixedText 1 ++ "%)"

def statusRows (m : Monitor) : List Row :=
  [⟨"Address", [m.origin.address]⟩, ⟨"Version", [m.version]⟩, ⟨"Plugins", pluginValues m⟩,
    ⟨"RateLimit", [rateValue m]⟩]

end CacheWatch.Tool
