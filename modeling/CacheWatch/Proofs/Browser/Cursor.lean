import CacheWatch.Browser
import CacheWatch.Proofs.Monitor.Run

/-! Which event is selected, whatever is drained and pressed.
A reference knows no rows. Its cursor follows the newest event, or it stays on the event with a
number and is pushed along only when that event leaves the history.
-/
namespace CacheWatch

open Monitor (acceptedEvents acceptedEvents_append acceptedEvents_reverse Follows)

namespace Browser

inductive Move where
  | stay
  | finish
  | older (rows : Nat)
  | newer (rows : Nat)
  | newest
  | oldest
  | toggle

def Move.ofCharacter (control : Bool) : Char → Move
  | 'q' => .finish
  | 'c' => if control then .finish else .stay
  | 'j' => .older 1
  | 'k' => .newer 1
  | ' ' => .toggle
  | 'g' => .newest
  | 'G' => .oldest
  | 'u' => .newer page
  | 'd' => .older page
  | _ => .stay

def Move.ofKey (key : Keystroke) : Move :=
  match key.code with
  | .character c => .ofCharacter key.control c
  | .escape => .finish
  | .enter => .stay
  | .down => .older 1
  | .up => .newer 1
  | .home => .newest
  | .end => .oldest
  | .pageUp => .newer page
  | .pageDown => .older page
  | .other => .stay

def move (b : Browser) : Move → Browser
  | .stay => b
  | .finish => b.finish
  | .older rows => b.older rows
  | .newer rows => b.newer rows
  | .newest => b.newest
  | .oldest => b.oldest
  | .toggle => b.toggleFollow

def boundCharacters : List Char := ['q', 'c', 'j', 'k', ' ', 'g', 'G', 'u', 'd']

theorem pressCharacter_of_unbound {c : Char} (unbound : c ∉ boundCharacters) (b : Browser)
    (control : Bool) : b.pressCharacter control c = b := by
  unfold pressCharacter
  split
  case h_10 => rfl
  all_goals exact absurd (by decide) unbound

theorem Move.ofCharacter_of_unbound {c : Char} (unbound : c ∉ boundCharacters) (control : Bool) :
    Move.ofCharacter control c = .stay := by
  unfold Move.ofCharacter
  split
  case h_10 => rfl
  all_goals exact absurd (by decide) unbound

theorem pressCharacter_eq_move (b : Browser) (control : Bool) (c : Char) :
    b.pressCharacter control c = b.move (.ofCharacter control c) := by
  by_cases unbound : c ∉ boundCharacters
  · rw [b.pressCharacter_of_unbound unbound, Move.ofCharacter_of_unbound unbound]
    rfl
  · have bound := not_not.mp unbound
    simp only [boundCharacters, List.mem_cons, List.not_mem_nil, or_false] at bound
    rcases bound with rfl | rfl | rfl | rfl | rfl | rfl | rfl | rfl | rfl
    case inr.inl => cases control <;> rfl
    all_goals rfl

theorem press_eq_move (b : Browser) (key : Keystroke) : b.press key = b.move (.ofKey key) := by
  obtain ⟨code, control⟩ := key
  cases code with
  | character c => exact b.pressCharacter_eq_move control c
  | _ => rfl

inductive Action where
  | drain (messages : List (Instant × Message))
  | press (key : Keystroke)

def Action.messages : Action → List (Instant × Message)
  | .drain messages => messages
  | .press _ => []

def delivered (actions : List Action) : List (Instant × Message) := actions.flatMap Action.messages

def act (b : Browser) : Action → Browser
  | .drain messages => b.drain messages
  | .press key => b.press key

def run (b : Browser) (actions : List Action) : Browser := actions.foldl act b

inductive Cursor where
  | following
  /-- Events are numbered from zero in the order of their arrival. -/
  | on (number : Nat)

def Cursor.isFollowing : Cursor → Bool
  | following => true
  | on _ => false

structure Reference where
  capacity : Nat
  arrived : Nat
  cursor : Cursor

namespace Reference

/-- The number of the newest event, and of the oldest one that is kept; zero before there is any. -/
def newest (r : Reference) : Nat := r.arrived - 1

def oldest (r : Reference) : Nat := r.arrived - (r.capacity + 1)

def number (r : Reference) : Nat :=
  match r.cursor with
  | .following => r.newest
  | .on number => number

def stayOn (r : Reference) (number : Nat) : Reference :=
  { r with cursor := .on (max number r.oldest) }

def arrive (r : Reference) (events : Nat) : Reference :=
  let later := { r with arrived := r.arrived + events }
  match r.cursor with
  | .following => later
  | .on number => later.stayOn number

def follow (r : Reference) : Reference := { r with cursor := .following }

def move (r : Reference) : Move → Reference
  | .stay => r
  | .finish => r
  | .older rows => r.stayOn (r.number - rows)
  | .newer rows => if r.newest ≤ r.number + rows then r.follow else r.stayOn (r.number + rows)
  | .newest => r.follow
  | .oldest => r.stayOn 0
  | .toggle => if r.cursor.isFollowing then r.stayOn r.newest else r.follow

def act (r : Reference) : Action → Reference
  | .drain messages => r.arrive (acceptedEvents messages).length
  | .press key => r.move (.ofKey key)

def run (r : Reference) (actions : List Action) : Reference := actions.foldl act r

theorem arrive_capacity (r : Reference) (events : Nat) :
    (r.arrive events).capacity = r.capacity := by
  unfold arrive
  split <;> rfl

theorem arrive_arrived (r : Reference) (events : Nat) :
    (r.arrive events).arrived = r.arrived + events := by
  unfold arrive
  split <;> rfl

theorem arrive_newest (r : Reference) (events : Nat) :
    (r.arrive events).newest = r.arrived + events - 1 := by
  rw [newest, arrive_arrived]

theorem arrive_oldest (r : Reference) (events : Nat) :
    (r.arrive events).oldest = r.arrived + events - (r.capacity + 1) := by
  rw [oldest, arrive_arrived, arrive_capacity]

theorem arrive_isFollowing (r : Reference) (events : Nat) :
    (r.arrive events).cursor.isFollowing = r.cursor.isFollowing := by
  unfold arrive
  split
  · rfl
  · next cursor =>
    rw [cursor]
    rfl

theorem arrive_number (r : Reference) (events : Nat) :
    (r.arrive events).number =
      if r.cursor.isFollowing then r.arrived + events - 1
      else max r.number (r.arrived + events - (r.capacity + 1)) := by
  obtain ⟨capacity, arrived, cursor⟩ := r
  cases cursor <;> rfl

theorem arrive_row (r : Reference) (present : r.number ≤ r.newest) (events : Nat) :
    (r.arrive events).newest - (r.arrive events).number =
      min (if r.cursor.isFollowing then 0 else r.newest - r.number + events)
        (min (r.arrived + events) (r.capacity + 1) - 1) := by
  rw [newest] at present
  rw [arrive_newest, arrive_number, newest]
  split
  · rw [Nat.sub_self, Nat.zero_min]
  · rcases Nat.le_total (r.arrived + events) (r.capacity + 1) with free | full
    · rw [Nat.min_eq_left free, Nat.sub_eq_zero_of_le free, Nat.max_zero]
      omega
    · rw [Nat.min_eq_right full, Nat.add_sub_cancel]
      omega

/-- Events that arrive in two parts push the cursor no further than if they arrive together. -/
theorem arrive_add (r : Reference) (first second : Nat) :
    (r.arrive first).arrive second = r.arrive (first + second) := by
  obtain ⟨capacity, arrived, cursor⟩ := r
  cases cursor with
  | following =>
    exact congrArg (Reference.mk capacity · .following) (Nat.add_assoc arrived first second)
  | on number =>
    have pushed : max (max number (arrived + first - (capacity + 1)))
        (arrived + first + second - (capacity + 1)) =
          max number (arrived + (first + second) - (capacity + 1)) := by
      rw [Nat.max_assoc, Nat.max_eq_right (Nat.sub_le_sub_right (Nat.le_add_right _ _) _),
        Nat.add_assoc]
    exact congrArg₂ (Reference.mk capacity) (Nat.add_assoc arrived first second)
      (congrArg Cursor.on pushed)

end Reference

variable {origin : Origin} {capacity : Nat} {past : List (Instant × Message)} {b : Browser}
  {r : Reference}

/-- A browser shows a reference, after messages that are given latest first. -/
structure Refines (origin : Origin) (capacity : Nat) (past : List (Instant × Message))
    (b : Browser) (r : Reference) : Prop where
  monitor : Follows origin capacity past b.monitor
  seen : b.seen = b.monitor.received
  bound : r.capacity = capacity
  arrived : r.arrived = (acceptedEvents past).length
  follow : b.follow = r.cursor.isFollowing
  row : b.selected = r.newest - r.number
  kept : r.oldest ≤ r.number
  present : r.number ≤ r.newest

theorem Refines.lastRow (refines : Refines origin capacity past b r) :
    b.lastRow = r.newest - r.oldest := by
  have length := refines.monitor.history.length
  have bound := refines.bound
  have arrived := refines.arrived
  rw [refines.monitor.capacity] at length
  unfold Browser.lastRow Reference.newest Reference.oldest
  omega

theorem Refines.selected_le (refines : Refines origin capacity past b r) :
    b.selected ≤ b.lastRow := by
  rw [refines.lastRow, refines.row]
  exact Nat.sub_le_sub_left refines.kept _

theorem Refines.empty_iff (refines : Refines origin capacity past b r) :
    b.monitor.history.entries = [] ↔ r.arrived = 0 := by
  have length : b.monitor.history.entries.length = _ := refines.monitor.history.length
  rw [← refines.arrived] at length
  rw [← List.length_eq_zero_iff, length]
  omega

theorem Refines.number_of_follow (refines : Refines origin capacity past b r)
    (follow : b.follow = true) : r.number = r.newest := by
  have following := refines.follow
  rw [follow] at following
  unfold Reference.number
  cases cursor : r.cursor with
  | following => rfl
  | on number =>
    rw [cursor] at following
    contradiction

theorem start_refines (origin : Origin) (capacity : Nat) (earlier : List (Instant × Message))
    (channelUrl : Option String) :
    Refines origin capacity earlier.reverse
      (start ((Monitor.start origin capacity).applyAll earlier) channelUrl)
      ⟨capacity, (acceptedEvents earlier).length, .following⟩ := by
  have arrived : (acceptedEvents earlier).length = (acceptedEvents earlier.reverse).length := by
    rw [acceptedEvents_reverse, List.length_reverse]
  refine ⟨Monitor.applyAll_follows origin capacity earlier, rfl, rfl, arrived, rfl,
    (Nat.sub_self _).symm, ?_, Nat.le_refl _⟩
  exact Nat.sub_le_sub_left (Nat.le_add_left 1 capacity) _

theorem applyAll_received (follows : Follows origin capacity past b.monitor)
    (batch : List (Instant × Message)) :
    Follows origin capacity (batch.reverse ++ past) (b.monitor.applyAll batch) ∧
      (b.monitor.applyAll batch).received =
        b.monitor.received + (acceptedEvents batch).length := by
  have later : Follows origin capacity (batch.reverse ++ past) (b.monitor.applyAll batch) :=
    @Monitor.applyAll_keeps (fun run m => Follows origin capacity (run ++ past) m) b.monitor
      follows Monitor.apply_follows batch
  refine ⟨later, ?_⟩
  rw [later.received, follows.received, acceptedEvents_append, acceptedEvents_reverse,
    List.length_append, List.length_reverse, Nat.add_comm]

theorem Refines.sync_eq (refines : Refines origin capacity past b r) : b.sync = b := by
  have row : min (if b.follow then 0 else b.selected + (b.seen - b.seen)) b.lastRow =
      b.selected := by
    split
    · next follow =>
      rw [refines.row, refines.number_of_follow follow, Nat.sub_self, Nat.zero_min]
    · rw [Nat.sub_self, Nat.add_zero, Nat.min_eq_left refines.selected_le]
  rw [sync, ← refines.seen, row]

theorem Refines.drain_eq (refines : Refines origin capacity past b r)
    (batch : List (Instant × Message)) :
    b.drain batch = { b with monitor := b.monitor.applyAll batch }.sync := by
  cases batch with
  | nil => exact refines.sync_eq.symm
  | cons first rest => rfl

theorem Refines.drain_selected (refines : Refines origin capacity past b r)
    (batch : List (Instant × Message)) :
    (b.drain batch).selected =
      min (if b.follow then 0 else b.selected + (acceptedEvents batch).length)
        (min (r.arrived + (acceptedEvents batch).length) (capacity + 1) - 1) := by
  obtain ⟨later, counted⟩ := applyAll_received refines.monitor batch
  have length := later.history.length
  have received := later.received
  rw [later.capacity, ← received, counted, refines.monitor.received, ← refines.arrived] at length
  rw [refines.drain_eq batch, sync, Browser.lastRow, length, counted, refines.seen,
    Nat.add_sub_cancel_left]

theorem Refines.drain (refines : Refines origin capacity past b r)
    (batch : List (Instant × Message)) :
    Refines origin capacity (batch.reverse ++ past) (b.drain batch)
      (r.arrive (acceptedEvents batch).length) := by
  obtain ⟨later, counted⟩ := applyAll_received refines.monitor batch
  have arrived : r.arrived + (acceptedEvents batch).length =
      (acceptedEvents (batch.reverse ++ past)).length := by
    rw [← later.received, counted, refines.monitor.received, refines.arrived]
  have kept : r.arrived - (r.capacity + 1) ≤ r.number := refines.kept
  have present : r.number ≤ r.arrived - 1 := refines.present
  have row := r.arrive_row refines.present (acceptedEvents batch).length
  rw [← refines.follow, ← refines.row, refines.bound, ← refines.drain_selected batch] at row
  rw [refines.drain_eq batch] at row ⊢
  refine ⟨later, rfl, ?_, ?_, ?_, ?_, ?_, ?_⟩
  · rw [Reference.arrive_capacity, refines.bound]
  · rw [Reference.arrive_arrived, arrived]
  · rw [Reference.arrive_isFollowing, ← refines.follow]
    rfl
  · exact row.symm
  · rw [Reference.arrive_oldest, Reference.arrive_number]
    split <;> omega
  · rw [Reference.arrive_newest, Reference.arrive_number]
    split <;> omega

theorem Refines.stayOn (refines : Refines origin capacity past b r) {number row : Nat}
    (present : number ≤ r.newest) (same : row = r.newest - max number r.oldest) :
    Refines origin capacity past { b with selected := row, follow := false }
      (r.stayOn number) := by
  have room := Nat.le_trans refines.kept refines.present
  exact { refines with
    follow := rfl
    row := same
    kept := Nat.le_max_right _ _
    present := Nat.max_le.mpr ⟨present, room⟩ }

theorem Refines.newest (refines : Refines origin capacity past b r) :
    Refines origin capacity past b.newest r.follow :=
  { refines with
    follow := rfl
    row := (Nat.sub_self _).symm
    kept := Nat.le_trans refines.kept refines.present
    present := Nat.le_refl _ }

theorem Refines.older (refines : Refines origin capacity past b r) (rows : Nat) :
    Refines origin capacity past (b.older rows) (r.stayOn (r.number - rows)) := by
  have row := refines.row
  have kept := refines.kept
  have present := refines.present
  refine refines.stayOn (by omega) ?_
  rw [refines.lastRow, row]
  omega

theorem Refines.newer (refines : Refines origin capacity past b r) (rows : Nat) :
    Refines origin capacity past (b.newer rows) (r.move (.newer rows)) := by
  have row := refines.row
  have kept := refines.kept
  have present := refines.present
  rw [Reference.move]
  split
  · next reached =>
    have first : b.selected - rows = 0 := by omega
    have same : b.newer rows = b.newest := by
      simp only [Browser.newer, Browser.newest, first, decide_true, Bool.or_true]
    rw [same]
    exact refines.newest
  · next below =>
    -- A browser that follows selects row zero, which is not left by moving up.
    have away : b.selected - rows ≠ 0 := by omega
    have free : b.follow = false := by
      refine Bool.eq_false_iff.mpr fun follow => ?_
      have number := refines.number_of_follow follow
      omega
    have same : b.newer rows = { b with selected := b.selected - rows, follow := false } := by
      simp only [Browser.newer, away, free, decide_false, Bool.or_false]
    rw [same]
    exact refines.stayOn (by omega) (by omega)

theorem Refines.toggleFollow (refines : Refines origin capacity past b r) :
    Refines origin capacity past b.toggleFollow (r.move .toggle) := by
  rw [Browser.toggleFollow, Reference.move, ← refines.follow]
  split
  · next follow =>
    have row := refines.row
    have number := refines.number_of_follow follow
    have kept := refines.kept
    exact refines.stayOn (Nat.le_refl _) (by omega)
  · exact refines.newest

theorem Refines.move (refines : Refines origin capacity past b r) (m : Move) :
    Refines origin capacity past (b.move m) (r.move m) := by
  cases m with
  | stay => exact refines
  | finish => exact { refines with }
  | older rows => exact refines.older rows
  | newer rows => exact refines.newer rows
  | newest => exact refines.newest
  | oldest =>
    refine refines.stayOn (Nat.zero_le _) ?_
    rw [refines.lastRow, Nat.zero_max]
  | toggle => exact refines.toggleFollow

theorem Refines.act (refines : Refines origin capacity past b r) (action : Action) :
    Refines origin capacity (action.messages.reverse ++ past) (b.act action) (r.act action) := by
  cases action with
  | drain messages => exact refines.drain messages
  | press key =>
    rw [Browser.act, press_eq_move]
    exact refines.move (.ofKey key)

theorem Refines.run (refines : Refines origin capacity past b r) (actions : List Action) :
    Refines origin capacity ((delivered actions).reverse ++ past) (b.run actions)
      (r.run actions) := by
  induction actions generalizing past b r with
  | nil => exact refines
  | cons action actions ih =>
    rw [delivered, List.flatMap_cons, List.reverse_append, List.append_assoc]
    exact ih (refines.act action)

/-- A reference determines which row is selected and whether the newest event is followed. -/
theorem Refines.unique {later : List (Instant × Message)} {b' : Browser}
    (refines : Refines origin capacity past b r) (refines' : Refines origin capacity later b' r)
    (monitor : b.monitor = b'.monitor) (finished : b.finished = b'.finished)
    (channelUrl : b.channelUrl = b'.channelUrl) : b = b' := by
  have selected : b.selected = b'.selected := refines.row.trans refines'.row.symm
  have follow : b.follow = b'.follow := refines.follow.trans refines'.follow.symm
  have seen : b.seen = b'.seen := by rw [refines.seen, refines'.seen, monitor]
  obtain ⟨⟩ := b
  obtain ⟨⟩ := b'
  congr

theorem drain_monitor (b : Browser) (batch : List (Instant × Message)) :
    (b.drain batch).monitor = b.monitor.applyAll batch := by
  cases batch <;> rfl

theorem drain_finished (b : Browser) (batch : List (Instant × Message)) :
    (b.drain batch).finished = b.finished := by
  cases batch <;> rfl

theorem drain_channelUrl (b : Browser) (batch : List (Instant × Message)) :
    (b.drain batch).channelUrl = b.channelUrl := by
  cases batch <;> rfl

theorem Refines.drain_append (refines : Refines origin capacity past b r)
    (first second : List (Instant × Message)) :
    (b.drain first).drain second = b.drain (first ++ second) := by
  have parts := (refines.drain first).drain second
  have whole := refines.drain (first ++ second)
  rw [Reference.arrive_add] at parts
  rw [acceptedEvents_append, List.length_append] at whole
  refine parts.unique whole ?_ ?_ ?_
  · rw [drain_monitor, drain_monitor, drain_monitor]
    exact (List.foldl_append ..).symm
  · rw [drain_finished, drain_finished, drain_finished]
  · rw [drain_channelUrl, drain_channelUrl, drain_channelUrl]

theorem Refines.drain_flatten (refines : Refines origin capacity past b r)
    (batches : List (List (Instant × Message))) :
    batches.foldl Browser.drain b = b.drain batches.flatten := by
  induction batches generalizing past b r with
  | nil => rfl
  | cons batch batches ih =>
    rw [List.foldl_cons, ih (refines.drain batch), refines.drain_append, List.flatten_cons]

theorem Refines.selectedEvent? (refines : Refines origin capacity past b r) :
    b.selectedEvent? = (acceptedEvents past).reverse[r.number]? := by
  have entries : b.monitor.history.entries = _ := refines.monitor.history
  have row : b.selected = r.arrived - 1 - r.number := refines.row
  have kept : r.arrived - (r.capacity + 1) ≤ r.number := refines.kept
  have present : r.number ≤ r.arrived - 1 := refines.present
  have bound := refines.bound
  have inside : b.selected < capacity + 1 := by omega
  rw [Browser.selectedEvent?, History.get?, entries, refines.monitor.capacity,
    List.getElem?_take_of_lt inside]
  rcases Nat.eq_zero_or_pos r.arrived with none | some
  · rw [refines.arrived] at none
    rw [List.eq_nil_of_length_eq_zero none]
    rfl
  · have number : r.number < (acceptedEvents past).length := by
      rw [← refines.arrived]
      omega
    rw [List.getElem?_reverse number, row, refines.arrived]

theorem selectedEvent?_first {b : Browser} (first : b.selected = 0) :
    b.selectedEvent? = b.monitor.history.newest? := by
  rw [selectedEvent?, first, History.get?, History.newest?, List.head?_eq_getElem?]

theorem selectedEvent?_last {b : Browser} (last : b.selected = b.lastRow) :
    b.selectedEvent? = b.monitor.history.oldest? := by
  rw [selectedEvent?, last, History.get?, History.oldest?, List.getLast?_eq_getElem?]
  rfl

theorem selectedEvent?_eq_none_iff {b : Browser} (last : b.selected ≤ b.lastRow) :
    b.selectedEvent? = none ↔ b.monitor.history.entries = [] := by
  rw [lastRow, History.length] at last
  rw [selectedEvent?, History.get?, List.getElem?_eq_none_iff, ← List.length_eq_zero_iff]
  omega

theorem Refines.selectedEvent?_eq_none (refines : Refines origin capacity past b r) :
    b.selectedEvent? = none ↔ b.monitor.history.entries = [] :=
  selectedEvent?_eq_none_iff refines.selected_le

structure Carries (capacity arrived : Nat) (b after : Browser) : Prop where
  following : b.follow = true →
    after.selected = 0 ∧ after.selectedEvent? = after.monitor.history.newest?
  kept : b.follow = false → ∀ event, b.selectedEvent? = some event →
    b.selected + arrived ≤ capacity →
      after.selected = b.selected + arrived ∧ after.selectedEvent? = some event
  evicted : b.follow = false → capacity < b.selected + arrived →
    after.selected = after.lastRow ∧ after.selectedEvent? = after.monitor.history.oldest?
  empty : b.follow = false → b.monitor.history.entries = [] →
    after.selected = after.lastRow ∧ after.selectedEvent? = after.monitor.history.oldest?
  shown : 0 < arrived → after.selectedEvent? ≠ none

theorem Refines.carries (refines : Refines origin capacity past b r)
    (batch : List (Instant × Message)) :
    Carries capacity (acceptedEvents batch).length b (b.drain batch) := by
  have later := refines.drain batch
  have selected := refines.drain_selected batch
  have lastRow := later.lastRow
  have bound := refines.bound
  have row : b.selected = r.arrived - 1 - r.number := refines.row
  have kept : r.arrived - (r.capacity + 1) ≤ r.number := refines.kept
  have present : r.number ≤ r.arrived - 1 := refines.present
  rw [Reference.arrive_newest, Reference.arrive_oldest] at lastRow
  constructor
  · intro follow
    rw [if_pos follow, Nat.zero_min] at selected
    exact ⟨selected, selectedEvent?_first selected⟩
  · intro free event shown room
    rw [if_neg (Bool.eq_false_iff.mp free)] at selected
    have follow := refines.follow.symm.trans free
    have old := refines.selectedEvent?.symm.trans shown
    obtain ⟨inside, -⟩ := List.getElem?_eq_some_iff.mp old
    have counted := inside
    rw [List.length_reverse, ← refines.arrived] at counted
    have number : (r.arrive (acceptedEvents batch).length).number = r.number := by
      rw [Reference.arrive_number, follow]
      exact Nat.max_eq_left (by omega)
    refine ⟨by omega, ?_⟩
    rw [later.selectedEvent?, number, acceptedEvents_append, List.reverse_append,
      List.getElem?_append_left inside]
    exact old
  · intro free full
    rw [if_neg (Bool.eq_false_iff.mp free)] at selected
    have last : (b.drain batch).selected = (b.drain batch).lastRow := by omega
    exact ⟨last, selectedEvent?_last last⟩
  · intro free empty
    rw [if_neg (Bool.eq_false_iff.mp free)] at selected
    have arrived : r.arrived = 0 := refines.empty_iff.mp empty
    have last : (b.drain batch).selected = (b.drain batch).lastRow := by omega
    exact ⟨last, selectedEvent?_last last⟩
  · intro arrived none
    have empty := later.empty_iff.mp (later.selectedEvent?_eq_none.mp none)
    rw [Reference.arrive_arrived] at empty
    omega

/-- Selecting is a view of the reference: a drain carries the selection along with its event, or to
the oldest one that is left, and it does not matter how messages are split into drains. -/
theorem selection_stays_on_event (origin : Origin) (capacity : Nat)
    (earlier : List (Instant × Message)) (channelUrl : Option String) (actions : List Action) :
    let b := (start ((Monitor.start origin capacity).applyAll earlier) channelUrl).run actions
    let r := Reference.run ⟨capacity, (acceptedEvents earlier).length, .following⟩ actions
    let events := acceptedEvents (earlier ++ delivered actions)
    (∀ batch, Carries capacity (acceptedEvents batch).length b (b.drain batch)) ∧
      b.follow = r.cursor.isFollowing ∧
      r.arrived = events.length ∧
      r.oldest ≤ r.number ∧
      r.number ≤ r.newest ∧
      b.selected = r.newest - r.number ∧
      b.selectedEvent? = events[r.number]? ∧
      (b.selectedEvent? = none ↔ b.monitor.history.entries = []) ∧
      ∀ batches : List (List (Instant × Message)),
        batches.foldl drain b = b.drain batches.flatten := by
  intro b r events
  have refines : Refines origin capacity ((delivered actions).reverse ++ earlier.reverse) b r :=
    (start_refines origin capacity earlier channelUrl).run actions
  rw [← List.reverse_append] at refines
  refine ⟨refines.carries, refines.follow, ?_, refines.kept, refines.present, refines.row, ?_,
    refines.selectedEvent?_eq_none, refines.drain_flatten⟩
  · rw [refines.arrived, acceptedEvents_reverse, List.length_reverse]
  · rw [refines.selectedEvent?, acceptedEvents_reverse, List.reverse_reverse]

end Browser

end CacheWatch
