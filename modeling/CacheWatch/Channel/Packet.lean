import CacheWatch.Channel.ProtocolError
import CacheWatch.Json.Reader

/-! Packets inside message frames: a digit for the kind, a namespace, an acknowledgement number
and a body.
-/
namespace CacheWatch

inductive Packet where
  | connect (ns : String)
  | disconnect (ns : String)
  | event (ns name : String) (payload : Json)
  | ack
  | error (ns : String) (payload : Json)
  | binary

namespace Packet

def rootNamespace : String := "/"

/-- A namespace begins with a slash and ends before a comma, which is passed over. -/
def splitNamespace (cs : List Char) : String × List Char :=
  if cs.head? = some '/' then
    (String.ofList (cs.takeWhile (· ≠ ',')), (cs.dropWhile (· ≠ ',')).drop 1)
  else (rootNamespace, cs)

def eventBody (body : List Char) : Except ProtocolError (String × Json) :=
  match Json.read body with
  | none => .error .unreadableJson
  | some (.array []) => .error .emptyBody
  | some (.array (.string name :: arguments)) => .ok (name, arguments.head?.getD .null)
  | some (.array (name :: _)) => .error (.nameNotText name)
  | some _ => .error (.bodyNotArray (String.ofList body))

/-- The payload of an error: nothing, JSON, or the text itself. -/
def errorBody (body : List Char) : Json :=
  if body.isEmpty then .null else (Json.read body).getD (.string (String.ofList body))

def decodeChars : List Char → Except ProtocolError Packet
  | [] => .error .emptyPacket
  | kind :: rest =>
    if kind = '5' || kind = '6' then .ok .binary
    else
      let (ns, rest) := splitNamespace rest
      let body := rest.dropWhile Char.isDigit
      if kind = '0' then .ok (.connect ns)
      else if kind = '1' then .ok (.disconnect ns)
      else if kind = '2' then
        match eventBody body with
        | .ok (name, payload) => .ok (.event ns name payload)
        | .error e => .error e
      else if kind = '3' then .ok .ack
      else if kind = '4' then .ok (.error ns (errorBody body))
      else .error (.unknownPacket kind)

def decode (data : String) : Except ProtocolError Packet := decodeChars data.toList

def join : String := "0"

end Packet

end CacheWatch
