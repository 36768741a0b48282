import CacheWatch.Text.Percent
import CacheWatch.Text.Split
import CacheWatch.Url.Direction
import CacheWatch.Url.Ipv4
import CacheWatch.Url.Ipv6
import CacheWatch.Url.Label

/-! Hosts: names, IPv4 addresses, and IPv6 addresses in brackets. Names are written in ASCII. -/
namespace CacheWatch.Url

inductive UrlError where
  | emptyHost
  | invalidPort
  | invalidIpv4
  | invalidIpv6
  | invalidName
deriving DecidableEq, Repr

namespace UrlError

def cause : UrlError → String
  | emptyHost => "empty host"
  | invalidPort => "invalid port number"
  | invalidIpv4 => "invalid IPv4 address"
  | invalidIpv6 => "invalid IPv6 address"
  | invalidName => "invalid international domain name"

def message (e : UrlError) : String := "invalid channel URL: " ++ e.cause

end UrlError

inductive Host where
  | name (labels : String)
  | ipv4 (address : Nat)
  | ipv6 (groups : List Nat)
deriving DecidableEq, Repr

namespace Host

def isForbidden (c : Char) : Bool :=
  c.toNat < 33 || c.toNat = 127 ||
    ['#', '%', '/', ':', '<', '>', '?', '@', '[', '\\', ']', '^', '|'].contains c

/-- The name that remains when encoded bytes are resolved, in lower case. -/
def nameOf? (cs : List Char) : Option (List Char) :=
  match (Text.percentDecode? cs).map (·.map Char.toLower) with
  | none => none
  | some decoded =>
    if decoded.any isForbidden then none
    else
      match (Text.splitAt '.' decoded).mapM Label.text? with
      | none => none
      | some texts =>
        if texts.any Direction.isMixed && !texts.all Direction.keeps then none
        else some (Text.joinWith '.' (texts.map Label.encode))

def ofBracketed? (cs : List Char) : Except UrlError Host :=
  if cs.getLast? = some ']' then
    match Ipv6.groups? cs.dropLast with
    | some groups => .ok (ipv6 groups)
    | none => .error .invalidIpv6
  else .error .invalidIpv6

def ofName? (cs : List Char) : Except UrlError Host :=
  match nameOf? cs with
  | none => .error .invalidName
  | some decoded =>
    if Ipv4.looksNumeric decoded then
      match Ipv4.address? decoded with
      | some address => .ok (ipv4 address)
      | none => .error .invalidIpv4
    else .ok (name (String.ofList decoded))

def ofChars? (cs : List Char) : Except UrlError Host :=
  match cs with
  | [] => .error .emptyHost
  | '[' :: rest => ofBracketed? rest
  | cs => ofName? cs

def text : Host → String
  | name labels => labels
  | ipv4 address => Ipv4.text address
  | ipv6 groups => "[" ++ Ipv6.text groups ++ "]"

end Host

end CacheWatch.Url
