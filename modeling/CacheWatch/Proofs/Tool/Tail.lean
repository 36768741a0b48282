import CacheWatch.Proofs.Clock.Timestamp
import CacheWatch.Proofs.Json.Visible
import CacheWatch.Proofs.Monitor.Run
import CacheWatch.Proofs.Text.Lines
import CacheWatch.Tool.Outcome

/-! What is printed for a run of messages.
The line of an event is written from the history, whose newest entry is that event however small the
history is: an entry is only ever removed to make room for it. Names are printed as they come, so a
line feed in one breaks the line.
-/
namespace CacheWatch.Tool.Tail

def eventLine? (clock : Instant) (message : Message) : Option String :=
  (message.accepted? clock).map fun event => stamped clock event.summary

def eventLines (messages : List (Instant × Message)) : List String :=
  messages.filterMap fun arrival => eventLine? arrival.1 arrival.2

def dropWords : String := "dropped cache event: "

def dropReport? (clock : Instant) (message : Message) : Option String :=
  (message.rejected? clock).map fun reason => stamped clock (dropWords ++ reason.message)

def dropReports (messages : List (Instant × Message)) : List String :=
  messages.filterMap fun arrival => dropReport? arrival.1 arrival.2

/-- Told from its text: a time in brackets, a blank, and the words for a dropped event. -/
def isDropReport (line : String) : Bool :=
  line.toList.head? = some '[' &&
    dropWords.toList.isPrefixOf ((line.toList.dropWhile (· ≠ ']')).drop 2)

theorem of_mem_clockText {i : Instant} {c : Char} (member : c ∈ i.clockText.toList) :
    c.isDigit ∨ c = ':' := by
  have digit (n : Nat) (within : c ∈ (Text.zeroPadded 2 n).toList) : c.isDigit :=
    Text.isDigit_zeroPadded 2 n c within
  simp only [Instant.clockText, String.toList_append, List.mem_append] at member
  rcases member with (((hour | colon) | minute) | colon) | second
  · exact .inl (digit _ hour)
  · exact .inr (List.mem_singleton.mp colon)
  · exact .inl (digit _ minute)
  · exact .inr (List.mem_singleton.mp colon)
  · exact .inl (digit _ second)

theorem not_mem_clockText (i : Instant) {c : Char} (digit : ¬ c.isDigit) (colon : c ≠ ':') :
    c ∉ i.clockText.toList := fun member =>
  (of_mem_clockText member).elim digit colon

theorem mem_stamped_iff {clock : Instant} {text : String} :
    '\n' ∈ (stamped clock text).toList ↔ '\n' ∈ text.toList := by
  have unstamped := not_mem_clockText clock (c := '\n') (by decide) (by decide)
  simp [stamped, unstamped]

theorem isDropReport_stamped (clock : Instant) (text : String) :
    isDropReport (stamped clock text) = dropWords.toList.isPrefixOf text.toList := by
  have is : (stamped clock text).toList =
      ('[' :: clock.clockText.toList) ++ ']' :: ' ' :: text.toList := by
    simp [stamped]
  have behind : (stamped clock text).toList.dropWhile (· ≠ ']') = ']' :: ' ' :: text.toList := by
    rw [is, List.dropWhile_append_of_pos]
    · rfl
    · intro c member
      rcases List.mem_cons.mp member with rfl | inside
      · rfl
      · refine decide_eq_true ?_
        rintro rfl
        exact not_mem_clockText clock (by decide) (by decide) inside
  rw [isDropReport, behind, is]
  rfl

variable {verbosity : Nat}

theorem reported_output (least verbosity : Nat) (text : String) :
    (reported least verbosity text).filterMap Line.output? = [] := by
  unfold reported
  split <;> rfl

theorem reported_report {least : Nat} (loud : least ≤ verbosity) (text : String) :
    (reported least verbosity text).filterMap Line.report? = [text] := by
  rw [reported, if_pos loud]
  rfl

theorem linesFor_output (verbosity : Nat) (clock : Instant) (message : Message) (m : Monitor) :
    (linesFor verbosity clock message (m.apply clock message).1
        (m.apply clock message).2).filterMap Line.output? = (eventLine? clock message).toList := by
  cases message with
  | connecting attempt => rfl
  | connected => exact reported_output _ _ _
  | disconnected reason => exact reported_output _ _ _
  | system info => exact reported_output _ _ _
  | rateLimit allocation => exact reported_output _ _ _
  | cache raw =>
    cases outcome : CacheEvent.ofJson raw clock with
    | ok event =>
      -- The newest entry is the one just added, even where the history holds no other.
      rw [Monitor.apply_accepted m outcome, eventLine?, Message.accepted?, outcome]
      rfl
    | error reason =>
      rw [Monitor.apply_rejected m outcome, eventLine?, Message.accepted?, outcome]
      exact reported_output _ _ _

theorem reported_other {least : Nat} {clock : Instant} {text : String}
    (other : dropWords.toList.isPrefixOf text.toList = false) :
    ((reported least verbosity (stamped clock text)).filterMap Line.report?).filter isDropReport =
      [] := by
  unfold reported
  split
  · simp [Line.report?, isDropReport_stamped, other]
  · rfl

theorem linesFor_dropReports (loud : 1 ≤ verbosity) (clock : Instant) (message : Message)
    (m : Monitor) :
    ((linesFor verbosity clock message (m.apply clock message).1
        (m.apply clock message).2).filterMap Line.report?).filter isDropReport =
      (dropReport? clock message).toList := by
  cases message with
  | connecting attempt => rfl
  | connected => exact reported_other (by decide)
  | disconnected reason =>
    apply reported_other
    simp [dropWords, List.isPrefixOf]
  | system info =>
    apply reported_other
    unfold versionText
    simp [dropWords, List.isPrefixOf]
  | rateLimit allocation =>
    apply reported_other
    unfold Monitor.rateLabel
    simp [dropWords, List.isPrefixOf]
  | cache raw =>
    cases outcome : CacheEvent.ofJson raw clock with
    | ok event =>
      rw [Monitor.apply_accepted m outcome, dropReport?, Message.rejected?, outcome]
      rfl
    | error reason =>
      have told : isDropReport (stamped clock (dropWords ++ reason.message)) = true := by
        rw [isDropReport_stamped, String.toList_append, List.isPrefixOf_iff_prefix]
        exact List.prefix_append ..
      rw [Monitor.apply_rejected m outcome, dropReport?, Message.rejected?, outcome, linesFor,
        reported_report loud]
      exact List.filter_cons_of_pos told

theorem filterMap_cons_eq {α β : Type} (f : α → Option β) (a : α) (rest : List α) :
    (a :: rest).filterMap f = (f a).toList ++ rest.filterMap f := by
  rw [List.filterMap_cons]
  cases f a <;> rfl

theorem run_state (verbosity : Nat) (m : Monitor) (messages : List (Instant × Message)) :
    (run verbosity m messages).1 = m.applyAll messages := by
  induction messages generalizing m with
  | nil => rfl
  | cons first rest ih => exact ih _

theorem run_output (verbosity : Nat) (m : Monitor) (messages : List (Instant × Message)) :
    (run verbosity m messages).2.filterMap Line.output? = eventLines messages := by
  induction messages generalizing m with
  | nil => rfl
  | cons first rest ih =>
    rw [run, List.filterMap_append, linesFor_output, ih, eventLines, eventLines,
      filterMap_cons_eq]

theorem run_dropReports (loud : 1 ≤ verbosity) (m : Monitor)
    (messages : List (Instant × Message)) :
    ((run verbosity m messages).2.filterMap Line.report?).filter isDropReport =
      dropReports messages := by
  induction messages generalizing m with
  | nil => rfl
  | cons first rest ih =>
    rw [run, List.filterMap_append, List.filter_append, linesFor_dropReports loud, ih,
      dropReports, dropReports, filterMap_cons_eq]

theorem eventLines_free_iff {messages : List (Instant × Message)} :
    (∀ line ∈ eventLines messages, '\n' ∉ line.toList) ↔
      ∀ event ∈ Monitor.acceptedEvents messages, '\n' ∉ event.summary.toList := by
  simp only [eventLines, Monitor.acceptedEvents, List.forall_mem_filterMap, eventLine?,
    Option.map_eq_some_iff]
  constructor
  · intro free arrival member event accepted
    exact fun broken => free arrival member _ ⟨event, accepted, rfl⟩ (mem_stamped_iff.mpr broken)
  · rintro free arrival member _ ⟨event, accepted, rfl⟩ broken
    exact free arrival member event accepted (mem_stamped_iff.mp broken)

theorem length_eventLines (messages : List (Instant × Message)) :
    (eventLines messages).length = (Monitor.acceptedEvents messages).length := by
  induction messages with
  | nil => rfl
  | cons first rest ih =>
    obtain ⟨clock, message⟩ := first
    rw [eventLines, Monitor.acceptedEvents, filterMap_cons_eq, filterMap_cons_eq,
      List.length_append, List.length_append]
    refine congrArg₂ (· + ·) ?_ ih
    rw [eventLine?, Option.length_toList, Option.length_toList, Option.isSome_map]

theorem lines_output (verbosity : Nat) (url : Option String) (m : Monitor)
    (messages : List (Instant × Message)) :
    (lines verbosity url m messages).filterMap Line.output? = eventLines messages := by
  rw [lines, List.filterMap_cons_none rfl, List.filterMap_append, run_output, reported_output,
    List.append_nil]

theorem isDropReport_of_head? {line : String} {c : Char} (opens : line.toList.head? = some c)
    (other : c ≠ '[') : isDropReport line = false := by
  simp [isDropReport, opens, other]

theorem isDropReport_openingText (url : Option String) :
    isDropReport (openingText url) = false := by
  apply isDropReport_of_head? (c := 'l') ?_ (by decide)
  unfold openingText
  cases url with
  | none => decide
  | some url =>
    rw [String.toList_append, String.toList_append, List.append_assoc, List.head?_append,
      (by decide : "listening for events on ".toList.head? = some 'l')]
    rfl

theorem isDropReport_closingText (m : Monitor) : isDropReport (closingText m) = false := by
  apply isDropReport_of_head? (c := '-') ?_ (by decide)
  simp only [closingText, String.toList_append, List.append_assoc]
  rw [List.head?_append, (by decide : "--- ".toList.head? = some '-')]
  rfl

theorem lines_report (loud : 1 ≤ verbosity) (url : Option String) (m : Monitor)
    (messages : List (Instant × Message)) :
    (lines verbosity url m messages).filterMap Line.report? =
      openingText url :: ((run verbosity m messages).2.filterMap Line.report? ++
        [closingText (m.applyAll messages)]) := by
  simp only [lines, run_state]
  rw [filterMap_cons_eq, List.filterMap_append, reported_report loud]
  rfl

section Unbroken

theorem message_free (reason : Rejection) : '\n' ∉ reason.message.toList := by
  cases reason with
  | notAnObject value => exact Text.free_append_iff.mpr ⟨by decide, value.text_free⟩
  | repeatedKind => decide
  | missingKind => decide
  | unknownKind tag => exact Text.free_append_iff.mpr ⟨by decide, tag.text_free⟩

theorem dropReports_free (messages : List (Instant × Message)) :
    ∀ line ∈ dropReports messages, '\n' ∉ line.toList := by
  simp only [dropReports, List.forall_mem_filterMap, dropReport?, Option.map_eq_some_iff]
  rintro arrival - _ ⟨reason, -, rfl⟩
  rw [mem_stamped_iff]
  exact Text.free_append_iff.mpr ⟨by decide, message_free reason⟩

/-- The texts of a message that are reported as they come do not break a line. -/
def Unbroken : Message → Prop
  | .disconnected reason => '\n' ∉ reason.toList
  | .system info => '\n' ∉ info.version.toList
  | _ => True

theorem toString_free (n : Nat) : '\n' ∉ (toString n).toList := fun broken => by
  have digit := Json.isDigit_toDigits n '\n' (by simpa using broken)
  exact absurd digit (by decide)

theorem rateLabel_free (m : Monitor) : '\n' ∉ m.rateLabel.toList := by
  have allocation : '\n' ∉ (toString m.allocation).toList := by
    cases m.allocation with
    | ofNat n => exact toString_free n
    | negSucc n => exact Text.free_append_iff.mpr ⟨by decide, toString_free (n + 1)⟩
  simp only [Monitor.rateLabel, Text.free_append_iff]
  exact ⟨⟨⟨by decide, allocation⟩, by decide⟩, toString_free _⟩

theorem closingText_free (m : Monitor) : '\n' ∉ (closingText m).toList := by
  simp only [closingText, Text.free_append_iff]
  exact ⟨⟨⟨⟨by decide, toString_free _⟩, by decide⟩, toString_free _⟩, by decide⟩

theorem versionText_free {m : Monitor} (free : '\n' ∉ m.version.toList) :
    '\n' ∉ (versionText m).toList := by
  unfold versionText
  rw [Text.free_append_iff, Text.free_append_iff]
  refine ⟨⟨by decide, free⟩, ?_⟩
  split <;> decide

theorem reported_free {least : Nat} {clock : Instant} {text : String}
    (free : '\n' ∉ text.toList) :
    ∀ line ∈ (reported least verbosity (stamped clock text)).filterMap Line.report?,
      '\n' ∉ line.toList := by
  unfold reported
  split
  · exact List.forall_mem_singleton.mpr (mem_stamped_iff.not.mpr free)
  · exact List.forall_mem_nil _

theorem linesFor_free (clock : Instant) {message : Message} (unbroken : Unbroken message)
    (m : Monitor) :
    ∀ line ∈ (linesFor verbosity clock message (m.apply clock message).1
      (m.apply clock message).2).filterMap Line.report?, '\n' ∉ line.toList := by
  cases message with
  | connecting attempt => exact List.forall_mem_nil _
  | connected => exact reported_free (by decide)
  | disconnected reason =>
    have unbroken : '\n' ∉ reason.toList := unbroken
    have text : '\n' ∉ ("disconnected: " ++ reason).toList :=
      Text.free_append_iff.mpr ⟨by decide, unbroken⟩
    exact reported_free text
  | system info =>
    have version : (m.apply clock (.system info)).1.version = info.version := by
      rw [Monitor.apply, Monitor.onSystem]
      split <;> rfl
    exact reported_free (versionText_free (version ▸ unbroken))
  | rateLimit allocation => exact reported_free (rateLabel_free _)
  | cache raw =>
    cases outcome : CacheEvent.ofJson raw clock with
    | ok event =>
      rw [Monitor.apply_accepted m outcome]
      exact List.forall_mem_nil _
    | error reason =>
      rw [Monitor.apply_rejected m outcome]
      exact reported_free (Text.free_append_iff.mpr ⟨by decide, message_free reason⟩)

theorem run_free {messages : List (Instant × Message)} (m : Monitor)
    (unbroken : ∀ arrival ∈ messages, Unbroken arrival.2) :
    ∀ line ∈ (run verbosity m messages).2.filterMap Line.report?, '\n' ∉ line.toList := by
  induction messages generalizing m with
  | nil => exact List.forall_mem_nil _
  | cons first rest ih =>
    obtain ⟨here, others⟩ := List.forall_mem_cons.mp unbroken
    rw [run, List.filterMap_append]
    exact List.forall_mem_append.mpr ⟨linesFor_free first.1 here m, ih _ others⟩

theorem openingText_free {url : Option String} (free : ∀ text ∈ url, '\n' ∉ text.toList) :
    '\n' ∉ (openingText url).toList := by
  cases url with
  | none => decide
  | some text =>
    have named : '\n' ∉ ("listening for events on " ++ text).toList :=
      Text.free_append_iff.mpr ⟨by decide, free text (Option.mem_some_self text)⟩
    exact Text.free_append_iff.mpr ⟨named, by decide⟩

theorem lines_free (loud : 1 ≤ verbosity) {url : Option String} {m : Monitor}
    {messages : List (Instant × Message)} (unbroken : ∀ arrival ∈ messages, Unbroken arrival.2)
    (address : ∀ text ∈ url, '\n' ∉ text.toList) :
    ∀ line ∈ (lines verbosity url m messages).filterMap Line.report?, '\n' ∉ line.toList := by
  rw [lines_report loud]
  exact List.forall_mem_cons.mpr ⟨openingText_free address, List.forall_mem_append.mpr
    ⟨run_free _ unbroken, List.forall_mem_singleton.mpr (closingText_free _)⟩⟩

end Unbroken

theorem lines_dropReports (loud : 1 ≤ verbosity) (url : Option String) (m : Monitor)
    (messages : List (Instant × Message)) :
    ((lines verbosity url m messages).filterMap Line.report?).filter isDropReport =
      dropReports messages := by
  rw [lines_report loud, List.filter_cons_of_neg (by simp [isDropReport_openingText]),
    List.filter_append, run_dropReports loud,
    List.filter_cons_of_neg (by simp [isDropReport_closingText]), List.filter_nil, List.append_nil]

theorem lines_last (loud : 1 ≤ verbosity) (url : Option String) (m : Monitor)
    (messages : List (Instant × Message)) :
    (((lines verbosity url m messages).filterMap Line.report?).flatMap Text.pieces).getLast? =
      some (closingText (m.applyAll messages)) := by
  rw [lines_report loud, ← List.cons_append, List.flatMap_append, List.flatMap_singleton,
    Text.pieces_of_free (closingText_free _), List.getLast?_concat]

theorem closingText_eq (settings : Settings) (messages : List (Instant × Message)) :
    closingText ((Outcome.monitorOf settings).applyAll messages) =
      "--- " ++ toString (Monitor.acceptedEvents messages).length ++ " events received, " ++
        toString (Monitor.rejections messages).length ++ " dropped ---" := by
  have follows : Monitor.Follows _ _ messages.reverse
      ((Outcome.monitorOf settings).applyAll messages) := Monitor.applyAll_follows ..
  have received := follows.received
  have dropped := follows.dropped
  rw [Monitor.acceptedEvents_reverse, List.length_reverse] at received
  rw [Monitor.rejections, List.filterMap_reverse, List.length_reverse] at dropped
  rw [closingText, received, dropped, Monitor.rejections]

/-- Each accepted event is printed with its own summary, in the order of arrival, and nothing else
is, however few events the history holds. It takes one line just as long as no summary breaks a
line. The reports count the events, and tell of each that was dropped on a line of its own. -/
theorem accepted_events_printed (settings : Settings) (verbosity : Nat) (arrivals : List Arrival) :
    let messages := arrivals.map fun a => (a.clock, a.message)
    let events := Monitor.acceptedEvents messages
    let outcome := Outcome.ofListen settings verbosity arrivals
    let output := Text.linesOf outcome.output
    let report := Text.linesOf outcome.report
    outcome.output = Outcome.linesText (eventLines messages) ∧
      (output = eventLines messages ↔ ∀ event ∈ events, '\n' ∉ event.summary.toList) ∧
      (output.length = events.length ↔ ∀ event ∈ events, '\n' ∉ event.summary.toList) ∧
      (1 ≤ verbosity →
        report.getLast? = some ("--- " ++ toString events.length ++ " events received, " ++
          toString (Monitor.rejections messages).length ++ " dropped ---") ∧
        (dropReports messages).Sublist report ∧
        ((∀ arrival ∈ messages, Unbroken arrival.2) →
          (∀ url ∈ Outcome.urlText? settings, '\n' ∉ url.toList) →
            report.filter isDropReport = dropReports messages)) := by
  intro messages events outcome output report
  have printed : outcome.output = Outcome.linesText (eventLines messages) :=
    congrArg Outcome.linesText (lines_output ..)
  have read : output = (eventLines messages).flatMap Text.pieces := by
    rw [← Text.linesOf_join]
    exact congrArg Text.linesOf printed
  refine ⟨printed, ?_, ?_, fun loud => ?_⟩
  · rw [← eventLines_free_iff, ← Text.linesOf_join_eq_iff, read, Text.linesOf_join]
  · rw [← eventLines_free_iff, ← Text.length_flatMap_pieces_iff, read, length_eventLines]
  let reports := (lines verbosity (Outcome.urlText? settings) (Outcome.monitorOf settings)
    messages).filterMap Line.report?
  have told : report = reports.flatMap Text.pieces := by
    rw [← Text.linesOf_join]
    rfl
  have drops : reports.filter isDropReport = dropReports messages := lines_dropReports loud ..
  rw [told]
  refine ⟨?_, ?_, fun unbroken address => ?_⟩
  · rw [lines_last loud, closingText_eq]
  · rw [← drops]
    refine Text.sublist_flatMap_pieces List.filter_sublist ?_
    rw [drops]
    exact dropReports_free messages
  · rw [Text.flatMap_pieces_of_free (lines_free loud unbroken address), drops]

/-- One event whose name breaks its line, between two lines of standard output. -/
theorem name_on_two_lines :
    let arrivals : List Arrival := [⟨0, ⟨0, 0⟩, .cache (.object [("Kind", .integer 2),
      ("Object", .object [("Name", .string "a\nb")])])⟩]
    let outcome := Outcome.ofListen .default 1 arrivals
    Text.linesOf outcome.output =
        ["[00:00:00] updated profile <unknown> (display name: \"a", "b\")"] ∧
      (Text.linesOf outcome.report).getLast? = some "--- 1 events received, 0 dropped ---" := by
  decide +kernel

end CacheWatch.Tool.Tail
