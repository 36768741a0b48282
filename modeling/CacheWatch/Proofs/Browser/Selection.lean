import CacheWatch.Proofs.Browser.Cursor
import CacheWatch.Proofs.Screen.Panels

/-! Where the selection is between keys and messages.
A message that is applied alone moves the events down and not the selection, which stays in the
history all the same: a history never becomes shorter. Each key restores what it disturbs itself.
-/
namespace CacheWatch.Browser

inductive Input where
  | press (key : Keystroke)
  | apply (clock : Instant) (message : Message)
  | sync

def accept (b : Browser) : Input → Browser
  | .press key => b.press key
  | .apply clock message => (b.apply clock message).1
  | .sync => b.sync

variable {b : Browser}

end CacheWatch.Browser
