import CacheWatch.Url.Host
import CacheWatch.Url.Path

/-! URLs of the channel: what stands behind the two slashes of `ws` and `wss`. -/
namespace CacheWatch

/-- Every part but the host is kept in its encoded form. -/
structure Url where
  secure : Bool
  username : List Char
  password : List Char
  host : Url.Host
  /-- The port, if it is not the default one. -/
  port : Option Nat
  path : List (List Char)
  query : Option (List Char)
  fragment : Option (List Char)
deriving DecidableEq

namespace Url

def scheme (secure : Bool) : String := if secure then "wss" else "ws"

def defaultPort (secure : Bool) : Nat := if secure then 443 else 80

def dialledPort (u : Url) : Nat := u.port.getD (defaultPort u.secure)

def isEnd (c : Char) : Bool := c = '/' || c = '\\' || c = '?' || c = '#'

/-- Tabs and line ends do not count. -/
def isIgnored (c : Char) : Bool := c = '\t' || c = '\n' || c = '\r'

def isUserSpecial (c : Char) : Bool :=
  isPathSpecial c || ['/', ':', ';', '=', '@', '[', '\\', ']', '^', '|'].contains c

def isQuerySpecial (c : Char) : Bool := [' ', '"', '#', '<', '>', '\''].contains c

def isFragmentSpecial (c : Char) : Bool := [' ', '"', '<', '>', '\x60'].contains c

/-- The user information before the last at sign, and what follows that sign. -/
def splitUser (authority : List Char) : Option (List Char × List Char) :=
  if authority.contains '@' then
    let host := (authority.reverse.takeWhile (· ≠ '@')).reverse
    some (authority.take (authority.length - host.length - 1), host)
  else none

def userOf (cs : List Char) : List Char × List Char :=
  (Text.percentEncode isUserSpecial (cs.takeWhile (· ≠ ':')),
    Text.percentEncode isUserSpecial ((cs.dropWhile (· ≠ ':')).drop 1))

/-- The host up to the first colon outside brackets, and what follows. -/
def splitHost (inBrackets : Bool) : List Char → List Char × List Char
  | [] => ([], [])
  | c :: rest =>
    if c = ':' && !inBrackets then ([], c :: rest)
    else
      let inside := if c = '[' then true else if c = ']' then false else inBrackets
      let (host, after) := splitHost inside rest
      (c :: host, after)

/-- The port behind a host. An empty port and the default one are none. -/
def portOf (secure : Bool) (cs : List Char) : Except UrlError (Option Nat) :=
  match cs with
  | [] => .ok none
  | _ :: ds =>
    if !ds.all Char.isDigit || 65535 < Text.decimalValue ds then .error .invalidPort
    else if ds.isEmpty || Text.decimalValue ds = defaultPort secure then .ok none
    else .ok (some (Text.decimalValue ds))

def splitTail (cs : List Char) : List Char × Option (List Char) × Option (List Char) :=
  let beforeFragment := cs.takeWhile (· ≠ '#')
  let fragment := match cs.dropWhile (· ≠ '#') with
    | [] => none
    | _ :: rest => some rest
  let query := match beforeFragment.dropWhile (· ≠ '?') with
    | [] => none
    | _ :: rest => some rest
  (beforeFragment.takeWhile (· ≠ '?'), query, fragment)

def ofChars (secure : Bool) (written : List Char) : Except UrlError Url :=
  let cs := (written.filter (!isIgnored ·)).dropWhile Path.isSlash
  let authority := cs.takeWhile (!isEnd ·)
  let tail := cs.dropWhile (!isEnd ·)
  let (user, hostAndPort) := (splitUser authority).getD ([], authority)
  let (username, password) := userOf user
  let (host, port) := splitHost false hostAndPort
  match Host.ofChars? host with
  | .error e => .error e
  | .ok host =>
    match portOf secure port with
    | .error e => .error e
    | .ok port =>
      let (path, query, fragment) := splitTail tail
      .ok ⟨secure, username, password, host, port, Path.ofChars path,
        query.map (Text.percentEncode isQuerySpecial),
        fragment.map (Text.percentEncode isFragmentSpecial)⟩

def addQuery (u : Url) (pairs : String) : Url :=
  let before := u.query.getD []
  { u with query := some (if before.isEmpty then pairs.toList else before ++ '&' :: pairs.toList) }

def userChars (u : Url) : List Char :=
  if u.username.isEmpty && u.password.isEmpty then []
  else
    u.username ++ (if u.password.isEmpty then [] else ':' :: u.password) ++ ['@']

def portText (u : Url) : String :=
  match u.port with
  | none => ""
  | some port => ":" ++ toString port

def text (u : Url) : String :=
  scheme u.secure ++ "://" ++ String.ofList u.userChars ++ u.host.text ++ u.portText ++
    String.ofList (Path.chars u.path ++ (u.query.map ('?' :: ·)).getD [] ++
      (u.fragment.map ('#' :: ·)).getD [])

end Url

end CacheWatch
