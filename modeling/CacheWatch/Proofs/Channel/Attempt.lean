import CacheWatch.Channel.Transport
import Mathlib.Data.List.Induction

/-! What the attempts of a transport come to, read off what happened in each of them.
There are no sessions, timers, replies or queues here: a socket is read item by item, up to the
first one that ends it, and attempts are numbered.
-/
namespace CacheWatch

/-- What an item means to a session, in whatever state that is. -/
inductive Meaning where
  | nothing
  | acknowledged
  | content (message : Message)
  | ending (loss : Loss)

namespace Meaning

def ofPacket : Packet → Meaning
  | .connect ns => if ns = Packet.rootNamespace then acknowledged else nothing
  | .disconnect ns => if ns = Packet.rootNamespace then ending .namespaceClosed else nothing
  | .error ns payload => if ns = Packet.rootNamespace then ending (.refused payload) else nothing
  | .event ns name payload =>
    if ns = Packet.rootNamespace then
      match Message.ofEvent? name payload with
      | some message => content message
      | none => nothing
    else nothing
  | .ack => nothing
  | .binary => nothing

def ofData (data : String) : Meaning :=
  match Packet.decode data with
  | .ok packet => ofPacket packet
  | .error _ => nothing

def ofText (text : String) : Meaning :=
  match Frame.decode text with
  | .ok .close => ending .closedByServer
  | .ok (.message data) => ofData data
  | _ => nothing

def ofItem : Item → Meaning
  | .text frame => ofText frame
  | .binary => nothing
  | .control => nothing
  | .closed => ending .connectionClosed
  | .failed cause => ending (.transport cause)

def ofStimulus : Stimulus → Meaning
  | .item item => ofItem item
  | .beat => nothing
  | .silence => ending .heartbeatTimeout
  | .unsent cause => ending (.transport cause)

end Meaning

theorem Message.ofEvent?_isData {name : String} {payload : Json} {message : Message}
    (found : Message.ofEvent? name payload = some message) : message.isData := by
  unfold Message.ofEvent? at found
  split at found
  · cases found; rfl
  · split at found
    · obtain ⟨allocation, _, rfl⟩ := Option.map_eq_some_iff.mp found
      rfl
    · split at found
      · cases found; rfl
      · contradiction

namespace Meaning

def DeliversData : Meaning → Prop
  | content message => message.isData
  | _ => True

theorem ofPacket_deliversData (packet : Packet) : (ofPacket packet).DeliversData := by
  cases packet with
  | connect ns => simp only [ofPacket]; split <;> trivial
  | disconnect ns => simp only [ofPacket]; split <;> trivial
  | error ns payload => simp only [ofPacket]; split <;> trivial
  | event ns name payload =>
    simp only [ofPacket]
    split
    · cases found : Message.ofEvent? name payload with
      | none => trivial
      | some message => exact Message.ofEvent?_isData found
    · trivial
  | ack => trivial
  | binary => trivial

theorem ofText_deliversData (text : String) : (ofText text).DeliversData := by
  unfold ofText
  split
  · trivial
  · next data _ =>
    unfold ofData
    split
    · exact ofPacket_deliversData _
    · trivial
  · trivial

theorem ofStimulus_deliversData (s : Stimulus) : (ofStimulus s).DeliversData := by
  cases s with
  | item item =>
    cases item with
    | text frame => exact ofText_deliversData frame
    | binary => trivial
    | control => trivial
    | closed => trivial
    | failed cause => trivial
  | beat => trivial
  | silence => trivial
  | unsent cause => trivial

end Meaning

structure Reading where
  content : Option (List Message)
  loss : Option Loss

namespace Reading

def start : Reading := ⟨none, none⟩

def isOver (r : Reading) : Bool := r.loss.isSome

/-- Content establishes a socket as much as an acknowledgement does. What lies behind the end of
a socket is not read. -/
def read (r : Reading) (meaning : Meaning) : Reading :=
  match r.loss, meaning with
  | some _, _ => r
  | none, .nothing => r
  | none, .acknowledged => { r with content := some (r.content.getD []) }
  | none, .content message => { r with content := some (r.content.getD [] ++ [message]) }
  | none, .ending loss => { r with loss := some loss }

def ofStimuli (stimuli : List Stimulus) : Reading :=
  stimuli.foldl (fun r s => r.read (.ofStimulus s)) start

def contentMessages : Option (List Message) → List Message
  | none => []
  | some content => .connected :: content

def lossMessages : Option Loss → List Message
  | none => []
  | some loss => [.disconnected loss.reason]

def messages (r : Reading) : List Message := contentMessages r.content ++ lossMessages r.loss

theorem ofStimuli_snoc (stimuli : List Stimulus) (s : Stimulus) :
    ofStimuli (stimuli ++ [s]) = (ofStimuli stimuli).read (.ofStimulus s) := by
  simp only [ofStimuli, List.foldl_append, List.foldl_cons, List.foldl_nil]

theorem read_over {r : Reading} (closed : r.isOver) (meaning : Meaning) : r.read meaning = r := by
  obtain ⟨loss, found⟩ := Option.isSome_iff_exists.mp closed
  simp only [read, found]

theorem ofStimuli_over {stimuli : List Stimulus} (closed : (ofStimuli stimuli).isOver)
    (behind : List Stimulus) : ofStimuli (stimuli ++ behind) = ofStimuli stimuli := by
  induction behind using List.reverseRecOn with
  | nil => rw [List.append_nil]
  | append_singleton behind s ih =>
    rw [← List.append_assoc, ofStimuli_snoc, ih, read_over closed]

def HoldsData (r : Reading) : Prop := ∀ content ∈ r.content, ∀ message ∈ content, message.isData

theorem read_holdsData {r : Reading} (held : r.HoldsData) {meaning : Meaning}
    (data : meaning.DeliversData) : (r.read meaning).HoldsData := by
  unfold read
  split
  · exact held
  · exact held
  · intro content same message member
    cases same
    cases before : r.content with
    | none => simp [before] at member
    | some content => exact held content before message (by simpa [before] using member)
  · next said _ =>
    intro content same message member
    cases same
    rcases List.mem_append.mp member with earlier | last
    · cases before : r.content with
      | none => simp [before] at earlier
      | some content => exact held content before message (by simpa [before] using earlier)
    · rw [List.mem_singleton.mp last]
      exact data
  · exact held

theorem ofStimuli_holdsData (stimuli : List Stimulus) : (ofStimuli stimuli).HoldsData := by
  induction stimuli using List.reverseRecOn with
  | nil =>
    intro content absent
    contradiction
  | append_singleton stimuli s ih =>
    rw [ofStimuli_snoc]
    exact read_holdsData ih (Meaning.ofStimulus_deliversData s)

end Reading

def Stimulus.item? : Stimulus → Option Item
  | .item arrived => some arrived
  | _ => none

inductive Attempt where
  | dialling
  | refused (cause : String)
  | socket (stimuli : List Stimulus)
deriving DecidableEq

namespace Attempt

def reading : Attempt → Reading
  | dialling => .start
  | refused cause => ⟨none, some (.transport cause)⟩
  | socket stimuli => .ofStimuli stimuli

def messages (number : Nat) (a : Attempt) : List Message :=
  .connecting number :: a.reading.messages

def next (number : Nat) (a : Attempt) : Nat :=
  if a.reading.content.isSome then 1 else min (number + 1) Transport.lastAttempt

def extend (a : Attempt) (items : List Item) : Attempt :=
  match a with
  | socket stimuli => socket (stimuli ++ items.map .item)
  | a => a

def items : Attempt → List Item
  | socket stimuli => stimuli.filterMap Stimulus.item?
  | _ => []

/-! Logs hold attempts, the latest first. -/

def nextNumber : List Attempt → Nat
  | [] => 1
  | a :: past => a.next (nextNumber past)

def logMessages : List Attempt → List Message
  | [] => []
  | a :: past => logMessages past ++ a.messages (nextNumber past)

/-- Writes down an occurrence. A new attempt begins only behind one that is over. -/
def record : List Attempt → Occurrence → List Attempt
  | dialling :: past, .refused cause => refused cause :: past
  | dialling :: past, .opened => socket [] :: past
  | socket stimuli :: past, .stimulus s => socket (stimuli ++ [s]) :: past
  | a :: past, .retry => if a.reading.isOver then dialling :: a :: past else a :: past
  | log, _ => log

def leave (behind : List Item) : List Attempt → List Attempt
  | [] => []
  | a :: past => a.extend behind :: past

theorem logMessages_congr {a b : Attempt} (same : b.reading = a.reading) (past : List Attempt) :
    logMessages (b :: past) = logMessages (a :: past) := by
  simp only [logMessages, messages, same]

theorem nextNumber_congr {a b : Attempt} (same : b.reading = a.reading) (past : List Attempt) :
    nextNumber (b :: past) = nextNumber (a :: past) := by
  simp only [nextNumber, next, same]

theorem record_over {a : Attempt} (closed : a.reading.isOver) (past : List Attempt) {o : Occurrence}
    (other : o ≠ .retry) : ∃ b, record (a :: past) o = b :: past ∧ b.reading = a.reading := by
  cases a with
  | dialling => contradiction
  | refused cause => cases o <;> first | contradiction | exact ⟨_, rfl, rfl⟩
  | socket stimuli =>
    cases o with
    | stimulus s => exact ⟨_, rfl, Reading.ofStimuli_over closed [s]⟩
    | refused cause => exact ⟨_, rfl, rfl⟩
    | opened => exact ⟨_, rfl, rfl⟩
    | retry => contradiction

theorem reading_extend {a : Attempt} (closed : a.reading.isOver) (items : List Item) :
    (a.extend items).reading = a.reading := by
  cases a with
  | dialling => rfl
  | refused cause => rfl
  | socket stimuli => exact Reading.ofStimuli_over closed _

theorem reading_holdsData (a : Attempt) : a.reading.HoldsData := by
  cases a with
  | socket stimuli => exact Reading.ofStimuli_holdsData stimuli
  | dialling => intro content absent; contradiction
  | refused cause => intro content absent; contradiction

theorem record_item (stimuli : List Stimulus) (past : List Attempt) (item : Item) :
    (record (.socket stimuli :: past) (.stimulus (.item item))).reverse.flatMap items =
      (Attempt.socket stimuli :: past).reverse.flatMap items ++ [item] := by
  simp [record, items, Stimulus.item?]

theorem record_items (log : List Attempt) {o : Occurrence}
    (other : ∀ item, o ≠ .stimulus (.item item)) :
    (record log o).reverse.flatMap items = log.reverse.flatMap items := by
  unfold record
  split
  · simp [items]
  · simp [items]
  · next stimuli past s =>
    cases s with
    | item item => exact (other item rfl).elim
    | beat => simp [items, Stimulus.item?]
    | silence => simp [items, Stimulus.item?]
    | unsent cause => simp [items, Stimulus.item?]
  · split
    · simp [items]
    · rfl
  · rfl

theorem record_socket (stimuli : List Stimulus) (past : List Attempt) {o : Occurrence}
    (same : o ≠ .retry) :
    ∃ longer, record (.socket stimuli :: past) o = .socket longer :: past := by
  cases o with
  | retry => contradiction
  | stimulus s => exact ⟨stimuli ++ [s], rfl⟩
  | refused cause => exact ⟨stimuli, rfl⟩
  | opened => exact ⟨stimuli, rfl⟩

theorem leave_items {log : List Attempt} {behind : List Item}
    (socket : behind ≠ [] → ∃ stimuli past, log = .socket stimuli :: past) :
    (leave behind log).reverse.flatMap items = log.reverse.flatMap items ++ behind := by
  cases behind with
  | nil =>
    cases log with
    | nil => rfl
    | cons a past => cases a <;> simp [leave, extend, items]
  | cons item rest =>
    obtain ⟨stimuli, past, rfl⟩ := socket (List.cons_ne_nil item rest)
    simp [leave, extend, items, List.filterMap_map, Function.comp_def, Stimulus.item?]

end Attempt

end CacheWatch
