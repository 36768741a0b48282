/-! Revisions of the framing protocol: who drives the heartbeats. -/
namespace CacheWatch

inductive Revision where
  /-- The client sends heartbeats. -/
  | v3
  /-- The server sends heartbeats, and the client joins the namespace. -/
  | v4
deriving DecidableEq, Repr

namespace Revision

def ofNumber? (n : Nat) : Option Revision :=
  if n = 3 then some v3 else if n = 4 then some v4 else none

def queryText : Revision → String
  | v3 => "3"
  | v4 => "4"

end Revision

end CacheWatch
