import CacheWatch.Json.Printer
import CacheWatch.Text.Quoted

/-! Violations of the framing protocol. -/
namespace CacheWatch

inductive ProtocolError where
  | unsupportedRevision (number : Nat)
  | emptyFrame
  | unknownFrame (kind : Char)
  | emptyPacket
  | unknownPacket (kind : Char)
  | bodyNotArray (body : String)
  | emptyBody
  | nameNotText (name : Json)
  | unreadableJson

namespace ProtocolError

def message : ProtocolError → String
  | unsupportedRevision number => "unsupported Engine.IO revision " ++ toString number
  | emptyFrame => "empty Engine.IO frame"
  | unknownFrame kind => "unknown Engine.IO packet type " ++ Text.quotedChar kind
  | emptyPacket => "empty Socket.IO packet"
  | unknownPacket kind => "unknown Socket.IO packet type " ++ Text.quotedChar kind
  | bodyNotArray body => "event body is not an array: " ++ body
  | emptyBody => "event body is empty"
  | nameNotText name => "event name is not a string: " ++ name.text
  | unreadableJson => "unreadable JSON"

end ProtocolError

end CacheWatch
