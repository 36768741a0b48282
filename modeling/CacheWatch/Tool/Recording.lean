import CacheWatch.Channel.Transport
import CacheWatch.Clock.Label
import CacheWatch.Tool.Probe

/-! Recorded sessions: on each line the time at which a frame arrived, a blank, and the frame.
The socket opens with the first frame and is closed behind the last one.
-/
namespace CacheWatch.Tool.Recording

/-- A line of a recording; nothing if it does not begin with a time. -/
def entry? (line : String) : Option (Instant × String) :=
  let cs := line.toList
  let time := cs.takeWhile (· ≠ ' ')
  match (Timestamp.rfc3339? time).bind WrittenTime.timestamp? with
  | some t => some (t.instant, String.ofList (cs.drop (time.length + 1)))
  | none => none

def entries (lines : List String) : List (Instant × String) := lines.filterMap entry?

/-- What happens to a transport whose first session is the recorded one. -/
def occurrences (frames : List (Instant × String)) : List (Instant × Occurrence) :=
  match frames.head?, frames.getLast? with
  | some first, some last =>
    (first.1, .opened) ::
      (frames.map (fun (clock, frame) => (clock, .stimulus (.item (.text frame)))) ++
        [(last.1, .stimulus (.item .closed))])
  | _, _ => []

def arrivalsFrom (t : Transport) (beginning : Instant) :
    List (Instant × Occurrence) → List Arrival
  | [] => []
  | (clock, o) :: rest =>
    let now := (beginning.nanosBetween clock).toNat
    let (t, output) := t.step now o
    output.messages.map (⟨now, clock, ·⟩) ++ arrivalsFrom t beginning rest

def arrivals (frames : List (Instant × String)) (server : ServerSettings) : List Arrival :=
  let beginning := (frames.head?.map Prod.fst).getD ⟨0, 0⟩
  let (t, output) := Transport.start server ⟨none, none⟩
  output.messages.map (⟨0, beginning, ·⟩) ++ arrivalsFrom t beginning (occurrences frames)

end CacheWatch.Tool.Recording
