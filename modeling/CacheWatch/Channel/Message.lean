import CacheWatch.Event.Payload

/-! What the transport delivers to the owner of the state. -/
namespace CacheWatch

structure Plugin where
  name : String
  version : String
deriving DecidableEq, Repr

def Plugin.fields : List String := ["Name", "Version"]

def Plugin.ofJson? (value : Json) : Option Plugin :=
  (Field.members? fields value).map (fun ms =>
    ⟨Field.text "Name" ms, Field.text "Version" ms⟩)

/-- What the server says about itself after each connection. -/
structure SystemInfo where
  version : String
  pluginsSupported : Bool
  plugins : List Plugin
deriving DecidableEq, Repr

namespace SystemInfo

def fields : List String := ["version", "pluginsSupported", "plugins"]

def empty : SystemInfo := ⟨"", false, []⟩

def ofJson? (value : Json) : Option SystemInfo :=
  (Field.members? fields value).map (fun ms =>
    ⟨Field.text "version" ms, Field.orDefault Json.bool? false "pluginsSupported" ms,
      Field.orDefault (Field.list? Plugin.ofJson?) [] "plugins" ms⟩)

end SystemInfo

inductive Message where
  /-- The number of the attempt since the last established session. -/
  | connecting (attempt : Nat)
  | connected
  | disconnected (reason : String)
  | system (info : SystemInfo)
  | rateLimit (allocation : Int)
  | cache (raw : Json)

namespace Message

def ofEvent? (name : String) (payload : Json) : Option Message :=
  if name = "system" then some (system ((SystemInfo.ofJson? payload).getD SystemInfo.empty))
  else if name = "rate-limit" then payload.signed?.map rateLimit
  else if name = "cache" then some (cache payload)
  else none

/-- Messages that a server sends about its content, as opposed to the link. -/
def isData : Message → Bool
  | system _ => true
  | rateLimit _ => true
  | cache _ => true
  | _ => false

end Message

end CacheWatch
