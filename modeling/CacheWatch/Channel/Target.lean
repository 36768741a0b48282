import CacheWatch.Channel.ProtocolError
import CacheWatch.Channel.Revision
import CacheWatch.Settings.Server
import CacheWatch.Url.Basic

/-! The URL that the channel dials. -/
namespace CacheWatch

inductive TargetError where
  | protocol (cause : ProtocolError)
  | url (cause : Url.UrlError)

def TargetError.message : TargetError → String
  | protocol cause => "protocol error: " ++ cause.message
  | url cause => cause.message

structure TargetOverrides where
  address : Option String
  path : Option String
deriving DecidableEq, Repr

/-- What stands behind the two slashes: the address without white space around it, and the path
with exactly one slash at its end. -/
def targetChars (settings : ServerSettings) (o : TargetOverrides) : List Char :=
  let address := o.address.getD settings.address
  let path := (o.path.getD settings.path).toList
  Text.trim address.toList ++ (path.reverse.dropWhile (· = '/')).reverse ++ ['/']

def channelUrl (settings : ServerSettings) (o : TargetOverrides) (revision : Revision) :
    Except Url.UrlError Url :=
  match Url.ofChars settings.secure (targetChars settings o) with
  | .error e => .error e
  | .ok url => .ok (url.addQuery ("EIO=" ++ revision.queryText ++ "&transport=websocket"))

structure Target where
  url : Url
  revision : Revision

def target (settings : ServerSettings) (o : TargetOverrides) : Except TargetError Target :=
  match Revision.ofNumber? settings.revision with
  | none => .error (.protocol (.unsupportedRevision settings.revision))
  | some revision =>
    match channelUrl settings o revision with
    | .error e => .error (.url e)
    | .ok url => .ok ⟨url, revision⟩

end CacheWatch
