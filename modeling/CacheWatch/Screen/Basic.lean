import CacheWatch.Browser
import CacheWatch.Screen.Event
import CacheWatch.Screen.Wrap

/-! The panels of the screen as rows of text. -/
namespace CacheWatch

inductive GaugeLevel where
  | live
  | pending
  | down
deriving DecidableEq, Repr

structure Screen where
  header : List String
  plugins : List String
  gauge : String
  gaugeLevel : GaugeLevel
  streamTitle : String
  stream : List String
  detailTitle : String
  detail : List String
  footer : String
deriving DecidableEq, Repr

namespace Screen

/-- The room that the layout leaves: the columns of the screen and of the two panels side by side,
and the rows inside the panels. -/
structure Room where
  columns : Nat
  left : Nat
  right : Nat
  header : Nat
  middle : Nat
  stream : Nat
  detail : Nat
  footer : Nat
deriving DecidableEq, Repr

def Room.inside (room : Room) : Nat := room.columns - 2

def pluginRoom (m : Monitor) : Nat := max 1 (min 4 m.plugins.length)

/-- The room on a screen of at least twenty rows more than the plugin panel asks for: every panel
has the height that it asks for, and the stream has what is left. -/
def Room.ofSize (columns rows : Nat) (m : Monitor) : Room where
  columns
  left := (columns + 1) / 2 - 2
  right := columns / 2 - 2
  header := 1
  middle := pluginRoom m
  stream := rows - 17 - pluginRoom m
  detail := 7
  footer := 1

/-- A row without the blanks at its end. -/
def trimmedRow (row : String) : String :=
  String.ofList ((row.toList.reverse.dropWhile (· = ' ')).reverse)

/-- The rows of a panel that has room for some of them, without the empty ones at the end. -/
def shownRows (room : Nat) (rows : List String) : List String :=
  (((rows.take room).map trimmedRow).reverse.dropWhile String.isEmpty).reverse

def clipped (room : Nat) (text : String) : String :=
  trimmedRow (String.ofList (text.toList.take room))

def separator : String := "  │  "

def linkText : Link → String
  | .connected => "● Connected"
  | .connecting attempt => "◌ Connecting (attempt " ++ toString attempt ++ ")"
  | .disconnected => "○ Disconnected"

def headerRow (b : Browser) : Row :=
  let m := b.monitor
  [" ", linkText m.link, separator, "Server ",
    (if m.version.isEmpty then "unknown" else m.version), separator,
    "Address ", m.origin.address] ++
    (match b.channelUrl with
     | none => []
     | some url => [separator, url])

/-- The flag is looked at before the list. -/
def pluginRows (m : Monitor) : List Row :=
  if m.pluginsUnavailable then [["Plugins are not supported by this server"]]
  else if m.plugins.isEmpty then [["No plugins loaded"]]
  else m.plugins.map (fun plugin => [plugin.name, " v" ++ plugin.version])

def gaugeText (m : Monitor) : String :=
  m.rateLabel ++ " (" ++ m.percent.fixedText 0 ++ "%)"

def tenths (n : Nat) : Binary64 := (Binary64.ofDecimal false n (-1)).getD (.zero false)

def gaugeLevelOf (m : Monitor) : GaugeLevel :=
  if (tenths 9).le m.ratio then .down
  else if (tenths 6).le m.ratio then .pending
  else .live

def streamTitleOf (b : Browser) : String :=
  "Cache Events (" ++ toString b.monitor.history.length ++ ")" ++
    (if b.follow then " [follow]" else "")

def markedBy (mark : String) (room : Room) (offset : Int) (event : CacheEvent) : String :=
  String.ofList (mark.toList.take room.inside) ++
    (streamRow offset event).listed (room.inside - 2)

def markedRows (b : Browser) (room : Room) (offset : Int) : List String :=
  b.monitor.history.entries.zipIdx.map (fun (event, row) =>
    markedBy (if row = b.selected then "▶ " else "  ") room offset event)

/-- The first row that is shown, scrolled no further than the selection needs. -/
def firstRow (b : Browser) (room : Room) : Nat := b.selected - (room.stream - 1)

def streamRows (b : Browser) (room : Room) (offset : Int) : List String :=
  if b.monitor.history.entries.isEmpty then
    [Row.flowing room.inside ["Waiting for cache events..."]]
  else (markedRows b room offset).drop (firstRow b room)

def detailTitleOf (b : Browser) : String :=
  match b.selectedEvent? with
  | none => "Detail"
  | some event => event.kind.label ++ " Event"

def detailLines (b : Browser) (room : Room) (viewer : Timestamp) : Option (List String) :=
  match b.selectedEvent? with
  | none => some [Row.flowing room.inside ["No event selected"]]
  | some event =>
    (detailRows viewer event).map (fun rows => rows.flatMap (Row.wrapped room.inside))

def footerRow (b : Browser) (now : Instant) : Row :=
  let m := b.monitor
  let last := match m.lastEventAt with
    | none => "never"
    | some instant => instant.ageText now
  [" ", "[j/k]", " Select  ", separator, "[g/G]", " Newest/Oldest  ", separator, "[Space]",
    " Follow (" ++ (if b.follow then "on" else "off") ++ ")  ", separator, "[q]", " Quit",
    separator,
    toString m.received ++ " received, " ++ toString m.dropped ++ " dropped, last " ++ last]

/-- The screen as a viewer sees it. There is none when a timestamp on it has no label. -/
def render (b : Browser) (room : Room) (viewer : Timestamp) : Option Screen :=
  (detailLines b room viewer).map (fun detail =>
    { header := shownRows room.header [(headerRow b).flowing room.inside]
      plugins := shownRows room.middle ((pluginRows b.monitor).map (Row.flowing room.left))
      gauge := if room.middle = 0 then "" else clipped room.right (gaugeText b.monitor)
      gaugeLevel := gaugeLevelOf b.monitor
      streamTitle := clipped (room.inside - 1) (streamTitleOf b)
      stream := shownRows room.stream (streamRows b room viewer.offset)
      detailTitle := clipped (room.inside - 1) (detailTitleOf b)
      detail := shownRows room.detail detail
      footer := if room.footer = 0 then ""
        else trimmedRow ((footerRow b viewer.instant).flowing room.columns) })

end Screen

end CacheWatch
