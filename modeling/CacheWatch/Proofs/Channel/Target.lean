import CacheWatch.Channel.Target
import CacheWatch.Proofs.Json.Number
import CacheWatch.Proofs.Url.Plain

/-! The URL that is dialled, as a text.
It is put together from an address and a path as plain text and then read as a URL, which has to
find the same host, port and path again.
-/
namespace CacheWatch

inductive Given : Option String → String → String → Prop where
  | override (configured given : String) : Given (some given) configured given
  | configured (given : String) : Given none given given

theorem Given.getD_eq {override : Option String} {configured given : String}
    (chosen : Given override configured given) : override.getD configured = given := by
  cases chosen <;> rfl

theorem Given.of_getD (override : Option String) (configured : String) :
    Given override configured (override.getD configured) := by
  cases override with
  | none => exact .configured configured
  | some given => exact .override configured given

def HostName.withPort (h : HostName) (port : Option Nat) : HostPort where
  host := h.chars
  port := port.map (Nat.toDigits 10)
  written := h.written
  digits := by
    intro ds member
    obtain ⟨p, -, rfl⟩ := Option.mem_map.mp member
    exact ⟨Nat.toDigits_ne_nil, Json.isDigit_toDigits p⟩

/-- A port as a URL shows it: not at all if it is the default one of the scheme. -/
def Url.shownPort (secure : Bool) : Option Nat → String
  | none => ""
  | some p => if p = defaultPort secure then "" else ":" ++ toString p

theorem HostName.number_withPort (h : HostName) (port : Option Nat) (secure : Bool) :
    (h.withPort port).number secure = port.getD (Url.defaultPort secure) := by
  cases port with
  | none => rfl
  | some p => exact Json.decimalValue_toDigits p

theorem Url.text_addQuery {u : Url} (noQuery : u.query = none) (noFragment : u.fragment = none)
    (pairs : String) :
    (u.addQuery pairs).text =
      scheme u.secure ++ "://" ++ String.ofList u.userChars ++ u.host.text ++ u.portText ++
        (String.ofList (Path.chars u.path) ++ "?" ++ pairs) := by
  have query : String.ofList (Path.chars u.path ++ '?' :: pairs.toList ++ []) =
      String.ofList (Path.chars u.path) ++ "?" ++ pairs := by
    rw [List.append_nil, String.ofList_append, String.ofList_cons, String.ofList_toList,
      ← String.append_assoc]
    rfl
  rw [text, addQuery, noQuery, noFragment]
  exact congrArg _ query

section Target

variable {settings : ServerSettings} {o : TargetOverrides} {front back : List Char}

theorem targetChars_eq (a : HostPort) (before : Text.Blank front) (behind : Text.Blank back)
    {path : String}
    (address : Given o.address settings.address (String.ofList (front ++ (a.chars ++ back))))
    (written : Given o.path settings.path path) :
    targetChars settings o =
      a.chars ++ ((path.toList.reverse.dropWhile (· = '/')).reverse ++ ['/']) := by
  rw [targetChars, address.getD_eq, written.getD_eq, String.toList_ofList,
    Text.trim_append before behind a.solid_chars, List.append_assoc]

theorem Revision.queryText_eq {n : Nat} {revision : Revision}
    (spoken : ofNumber? n = some revision) : revision.queryText = toString n := by
  unfold ofNumber? at spoken
  split_ifs at spoken with three four
  · cases spoken
    rw [three]
    rfl
  · cases spoken
    rw [four]
    rfl

def plainUrl (secure : Bool) (host : HostName) (port : Option Nat) (path : PlainPath) : Url where
  secure := secure
  username := []
  password := []
  host := .name (String.ofList host.lower.chars)
  port := port.filter (· ≠ Url.defaultPort secure)
  path := path.directory
  query := none
  fragment := none

theorem ofChars_plain (secure : Bool) (host : HostName) {port : Option Nat} (path : PlainPath)
    (bound : ∀ p ∈ port, p ≤ 65535) :
    Url.ofChars secure ((host.withPort port).chars ++ (path.chars ++ ['/'])) =
      .ok (plainUrl secure host port path) := by
  have numbered : Url.portOf secure (host.withPort port).portChars =
      .ok (port.filter (· ≠ Url.defaultPort secure)) := by
    rw [Url.portOf_portChars, host.number_withPort port secure]
    cases port with
    | none => cases secure <;> rfl
    | some p =>
      rw [Option.getD_some, if_neg (Nat.not_lt.mpr (bound p rfl))]
      split_ifs with standard <;> simp [Option.filter, standard]
  have kept : (Text.joinWith '/' path.directory).filter (!Url.isIgnored ·) =
      Text.joinWith '/' path.directory :=
    List.filter_eq_self.mpr fun c member => by
      obtain ⟨-, -, -, kept⟩ := path.of_mem_joined member
      simp [kept]
  rw [path.chars_slash]
  refine (Url.ofChars_eq_ok_iff ..).mpr ⟨_, _, host.ofChars?_chars, numbered, ?_⟩
  rw [kept, ← path.chars_slash, path.splitTail_chars]
  simp only [path.ofChars_chars]
  rfl

theorem portText_plainUrl (secure : Bool) (host : HostName) (port : Option Nat) (path : PlainPath) :
    (plainUrl secure host port path).portText = Url.shownPort secure port := by
  cases port with
  | none => rfl
  | some p =>
    by_cases standard : p = Url.defaultPort secure
    · simp [plainUrl, Url.portText, Url.shownPort, Option.filter, standard]
    · simp [plainUrl, Url.portText, Url.shownPort, Option.filter, standard]

theorem text_plainUrl (secure : Bool) (host : HostName) (port : Option Nat) (path : PlainPath)
    (pairs : String) :
    ((plainUrl secure host port path).addQuery pairs).text =
      (if secure then "wss" else "ws") ++ "://" ++ String.ofList (host.chars.map Char.toLower) ++
        Url.shownPort secure port ++ String.ofList path.chars ++ "/?" ++ pairs := by
  have user : String.ofList (plainUrl secure host port path).userChars = "" := by rfl
  have name : (plainUrl secure host port path).host.text =
      String.ofList (host.chars.map Char.toLower) := congrArg String.ofList host.chars_lower
  have slashed : String.ofList (Url.Path.chars (plainUrl secure host port path).path) ++ "?" =
      String.ofList path.chars ++ "/?" := by
    rw [plainUrl, path.chars_directory, String.ofList_append, String.append_assoc]
    rfl
  rw [Url.text_addQuery rfl rfl, portText_plainUrl, user, name, slashed, String.append_empty,
    ← String.append_assoc, ← String.append_assoc]
  rfl

/-- A plain target is dialled as it is given, but for white space around the address, capitals in
the name, the default port, and slashes at the end of the path. -/
theorem channelUrl_text {n : Nat} {revision : Revision}
    (spoken : Revision.ofNumber? n = some revision) (host : HostName) {port : Option Nat}
    (bound : ∀ p ∈ port, p ≤ 65535) (path : PlainPath) (slashes : Nat)
    (before : Text.Blank front) (behind : Text.Blank back)
    (address : Given o.address settings.address
      (String.ofList (front ++ ((host.withPort port).chars ++ back))))
    (written : Given o.path settings.path
      (String.ofList (path.chars ++ List.replicate slashes '/'))) :
    ∃ url, channelUrl settings o revision = .ok url ∧
      url.text = (if settings.secure then "wss" else "ws") ++ "://" ++
        String.ofList (host.chars.map Char.toLower) ++ Url.shownPort settings.secure port ++
        String.ofList path.chars ++ "/?EIO=" ++ toString n ++ "&transport=websocket" := by
  have read : Url.ofChars settings.secure (targetChars settings o) =
      .ok (plainUrl settings.secure host port path) := by
    rw [targetChars_eq _ before behind address written, String.toList_ofList,
      path.dropWhile_slashes, ofChars_plain settings.secure host path bound]
  have query (rest : String) : "/?" ++ ("EIO=" ++ rest) = "/?EIO=" ++ rest := by
    rw [← String.append_assoc]
    rfl
  refine ⟨_, by rw [channelUrl, read], ?_⟩
  rw [text_plainUrl, Revision.queryText_eq spoken]
  simp only [String.append_assoc, query]

/-- The default port goes, and the override wins. -/
theorem channelUrl_text_default_port :
    ∃ url, channelUrl ⟨"127.0.0.1:36623", "/ui/socket.io//", true, 4, 1000, 10000⟩
        ⟨some "\t Cache.Example:443 ", none⟩ .v4 = .ok url ∧
      url.text = "wss://cache.example/ui/socket.io/?EIO=4&transport=websocket" := by
  let host : HostName := ⟨["Cache".toList, "Example".toList], by decide, by decide⟩
  let path : PlainPath := ⟨["ui".toList, "socket.io".toList], by decide, by decide⟩
  have address : "\t Cache.Example:443 " =
      String.ofList (['\t', ' '] ++ ((host.withPort (some 443)).chars ++ [' '])) := by rfl
  have written : "/ui/socket.io//" = String.ofList (path.chars ++ List.replicate 2 '/') := by rfl
  have bound : ∀ p ∈ some 443, p ≤ 65535 := by decide
  have before : Text.Blank ['\t', ' '] := by decide
  have behind : Text.Blank [' '] := by decide
  rw [address, written]
  exact channelUrl_text (n := 4) rfl host bound path 2 before behind (.override _ _) (.configured _)

end Target

end CacheWatch
