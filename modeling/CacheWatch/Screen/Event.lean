import CacheWatch.Clock.Label
import CacheWatch.Event.Envelope
import CacheWatch.Screen.Row
import CacheWatch.Text.Blank

/-! How events are shown: one row in the stream, and the rows of the selected one.
There are no rows for an event with a timestamp that has no label.
-/
namespace CacheWatch.Screen

def field (label value : String) : Row := [Text.padRight 14 label, value]

def calendar (viewer : Timestamp) (raw : String) : Option String :=
  (CalendarLabel.ofText? raw viewer).map CalendarLabel.text

def headline (event : CacheEvent) : String :=
  match event.payload with
  | .profileId id name .. => "\"" ++ name ++ "\" → " ++ CacheEvent.idText id
  | .nameHistory history _ =>
    CacheEvent.keyText event.key ++ " (" ++ toString history.length ++ " names)"
  | .profile id name .. => name ++ " (" ++ CacheEvent.idText id ++ ")"
  | .blacklist hashes _ => toString hashes.length ++ " hashes"

def streamRow (offset : Int) (event : CacheEvent) : Row :=
  [(event.receivedAt.shifted offset).clockText, " ",
    "[" ++ Text.padRight 12 event.kind.label ++ "]", " ", headline event]

def listedHashes : Nat := 4

def dateRow (viewer : Timestamp) (label raw : String) : Option Row :=
  (calendar viewer raw).map (field label)

def dateRows (viewer : Timestamp) (label raw : String) : Option (List Row) :=
  if raw.isEmpty then some [] else (dateRow viewer label raw).map ([·])

def nameRow (viewer : Timestamp) (change : NameChange) : Option Row :=
  if change.changedToAt.isEmpty then some (field change.name "original name")
  else (calendar viewer change.changedToAt).map (fun date => field change.name ("since " ++ date))

def nameRows (viewer : Timestamp) (history : List NameChange) : Option (List Row) :=
  if history.isEmpty then some [field "Names" "none"] else history.mapM (nameRow viewer)

def textureRows (viewer : Timestamp) : Option ProfileTextures → Option (List Row)
  | none => some [field "Textures" "none"]
  | some t => do
    let dated ← dateRows viewer "Textures at" t.timestamp
    some (dated ++ t.textures.map (fun (kind, url) => field kind url))

def payloadRows (viewer : Timestamp) (event : CacheEvent) : Option (List Row) :=
  match event.payload with
  | .profileId id name firstSeenAt lastSeenAt validUntil _ => do
    let first ← dateRow viewer "First seen" firstSeenAt
    let last ← dateRows viewer "Last seen" lastSeenAt
    let validTo ← dateRow viewer "Valid until" validUntil
    some ([field "Name" name, field "Profile" (CacheEvent.idText id), first] ++ last ++ [validTo])
  | .nameHistory history _ => do
    let names ← nameRows viewer history
    some (field "Profile" (CacheEvent.keyText event.key) :: names)
  | .profile id name properties textures _ => do
    let textured ← textureRows viewer textures
    some ([field "Name" name, field "Profile" (CacheEvent.idText id)] ++
      (if properties.isEmpty then []
       else [field "Properties" (", ".intercalate (properties.map Prod.fst))]) ++ textured)
  | .blacklist hashes _ =>
    some (field "Hashes" (toString hashes.length) ::
      ((hashes.take listedHashes).map (fun hash => ["  " ++ hash]) ++
        (if listedHashes < hashes.length then
          [["  ... and " ++ toString (hashes.length - listedHashes) ++ " more"]]
         else [])))

def detailRows (viewer : Timestamp) (event : CacheEvent) : Option (List Row) :=
  (payloadRows viewer event).map
    (· ++ [field "Received" (event.receivedAt.ageText viewer.instant)])

end CacheWatch.Screen
