import CacheWatch.Channel.Handshake
import CacheWatch.Channel.ProtocolError

/-! Frames of the transport: one digit for the kind, then data. -/
namespace CacheWatch

inductive Frame where
  | opening (handshake : Handshake)
  | close
  | ping (data : String)
  | pong (data : String)
  | message (data : String)
  | upgrade
  | noop
deriving DecidableEq, Repr

namespace Frame

def decodeChars : List Char → Except ProtocolError Frame
  | [] => .error .emptyFrame
  | kind :: data =>
    if kind = '0' then
      match Handshake.ofChars? data with
      | some handshake => .ok (.opening handshake)
      | none => .error .unreadableJson
    else if kind = '1' then .ok .close
    else if kind = '2' then .ok (.ping (String.ofList data))
    else if kind = '3' then .ok (.pong (String.ofList data))
    else if kind = '4' then .ok (.message (String.ofList data))
    else if kind = '5' then .ok .upgrade
    else if kind = '6' then .ok .noop
    else .error (.unknownFrame kind)

def decode (text : String) : Except ProtocolError Frame := decodeChars text.toList

/-- The text of a frame. Only a server opens, so an opening frame is written without its body. -/
def encode : Frame → String
  | opening _ => "0"
  | close => "1"
  | ping data => "2" ++ data
  | pong data => "3" ++ data
  | message data => "4" ++ data
  | upgrade => "5"
  | noop => "6"

end Frame

end CacheWatch
