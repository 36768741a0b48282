import CacheWatch.Proofs.Channel.Attempt

/-! A transport sends exactly the messages of its log.
What a session does about a stimulus depends on the meaning of the stimulus and on whether the
session is established, and on nothing else. Timers and revisions only decide about replies.
-/
namespace CacheWatch

namespace Session

def Reaction.Answers (reaction : Reaction) (established : Bool) : Meaning → Prop
  | .nothing =>
    reaction.session.established = established ∧ reaction.messages = [] ∧ reaction.loss = none
  | .acknowledged =>
    reaction.session.established = true ∧
      reaction.messages = (if established then [] else [.connected]) ∧ reaction.loss = none
  | .content message =>
    reaction.session.established = true ∧
      reaction.messages = (if established then [message] else [.connected, message]) ∧
      reaction.loss = none
  | .ending loss =>
    reaction.session.established = established ∧ reaction.messages = [] ∧
      reaction.loss = some loss

theorem deliver_answers (s : Session) {message : Message} (data : message.isData) :
    (s.deliver message).Answers s.established (.content message) := by
  cases before : s.established with
  | false => simp [deliver, data, before, Reaction.Answers]
  | true => simp [deliver, before, Reaction.Answers]

theorem proceed_answers (s : Session) : (s.carryOut .proceed).Answers s.established .nothing :=
  ⟨rfl, rfl, rfl⟩

theorem finish_answers (s : Session) (loss : Loss) :
    (s.carryOut (.finish loss)).Answers s.established (.ending loss) := ⟨rfl, rfl, rfl⟩

theorem acknowledge_answers (s : Session) :
    ((s.onPacket (.connect Packet.rootNamespace)).1.carryOut
      (s.onPacket (.connect Packet.rootNamespace)).2).Answers s.established .acknowledged := by
  cases before : s.established with
  | false => simp [onPacket, before, carryOut, deliver, Message.isData, Reaction.Answers]
  | true => simp [onPacket, before, carryOut, quiet, Reaction.Answers]

theorem onPacket_answers (s : Session) (packet : Packet) :
    ((s.onPacket packet).1.carryOut (s.onPacket packet).2).Answers s.established
      (.ofPacket packet) := by
  cases packet with
  | connect ns =>
    by_cases root : ns = Packet.rootNamespace
    · rw [root, Meaning.ofPacket, if_pos rfl]
      exact s.acknowledge_answers
    · simp only [onPacket, Meaning.ofPacket, root, false_and, if_false]
      exact s.proceed_answers
  | disconnect ns =>
    by_cases root : ns = Packet.rootNamespace
    · simp only [onPacket, Meaning.ofPacket, root, if_true]
      exact s.finish_answers .namespaceClosed
    · simp only [onPacket, Meaning.ofPacket, root, if_false]
      exact s.proceed_answers
  | error ns payload =>
    by_cases root : ns = Packet.rootNamespace
    · simp only [onPacket, Meaning.ofPacket, root, if_true]
      exact s.finish_answers (.refused payload)
    · simp only [onPacket, Meaning.ofPacket, root, if_false]
      exact s.proceed_answers
  | event ns name payload =>
    by_cases root : ns = Packet.rootNamespace
    · cases found : Message.ofEvent? name payload with
      | none =>
        simp only [onPacket, Meaning.ofPacket, root, found, if_true]
        exact s.proceed_answers
      | some message =>
        simp only [onPacket, Meaning.ofPacket, root, found, if_true, carryOut]
        exact deliver_answers s (Message.ofEvent?_isData found)
    · simp only [onPacket, Meaning.ofPacket, root, if_false]
      exact s.proceed_answers
  | ack => exact s.proceed_answers
  | binary => exact s.proceed_answers

theorem onData_answers (s : Session) (data : String) :
    ((s.onData data).1.carryOut (s.onData data).2).Answers s.established (.ofData data) := by
  unfold onData Meaning.ofData
  cases Packet.decode data with
  | error e => exact ⟨rfl, rfl, rfl⟩
  | ok packet => exact onPacket_answers s packet

theorem onOpening_answers (s : Session) (now : Nat) (h : Handshake) :
    ((s.onOpening now h).1.carryOut (s.onOpening now h).2).Answers s.established .nothing := by
  unfold onOpening
  cases s.revision <;> exact ⟨rfl, rfl, rfl⟩

theorem onText_answers (s : Session) (now : Nat) (text : String) :
    ((s.onText now text).1.carryOut (s.onText now text).2).Answers s.established
      (.ofText text) := by
  unfold onText Meaning.ofText
  cases Frame.decode text with
  | error e => exact ⟨rfl, rfl, rfl⟩
  | ok frame =>
    cases frame with
    | opening h => exact onOpening_answers s now h
    | message data => exact onData_answers s data
    | close => exact ⟨rfl, rfl, rfl⟩
    | ping data => exact ⟨rfl, rfl, rfl⟩
    | pong data => exact ⟨rfl, rfl, rfl⟩
    | upgrade => exact ⟨rfl, rfl, rfl⟩
    | noop => exact ⟨rfl, rfl, rfl⟩

theorem receive_answers (s : Session) (now : Nat) (item : Item) :
    (s.receive now item).Answers s.established (.ofItem item) := by
  cases item with
  | text frame => exact onText_answers s now frame
  | binary => exact ⟨rfl, rfl, rfl⟩
  | control => exact ⟨rfl, rfl, rfl⟩
  | closed => exact ⟨rfl, rfl, rfl⟩
  | failed cause => exact ⟨rfl, rfl, rfl⟩

theorem beat_answers (s : Session) : s.beat.Answers s.established .nothing := by
  unfold beat
  cases s.heartbeat <;> exact ⟨rfl, rfl, rfl⟩

end Session

namespace Live

theorem react_session (l : Live) (now : Nat) (s : Stimulus) :
    (l.react now s).1.session = (l.react now s).2.session := by
  cases s <;> rfl

theorem react_answers (l : Live) (now : Nat) (s : Stimulus) :
    (l.react now s).2.Answers l.session.established (.ofStimulus s) := by
  cases s with
  | item item => exact l.session.receive_answers now item
  | beat => exact l.session.beat_answers
  | silence => exact ⟨rfl, rfl, rfl⟩
  | unsent cause => exact ⟨rfl, rfl, rfl⟩

end Live

namespace Reading

theorem read_answered {r : Reading} (unfinished : r.loss = none) {meaning : Meaning}
    {reaction : Session.Reaction} (answers : reaction.Answers r.content.isSome meaning) :
    (r.read meaning).content.isSome = reaction.session.established ∧
      (r.read meaning).loss = reaction.loss ∧
      (r.read meaning).messages =
        r.messages ++ (reaction.messages ++ lossMessages reaction.loss) := by
  obtain ⟨content, loss⟩ := r
  subst unfinished
  cases meaning with
  | nothing =>
    obtain ⟨same, messages, loss⟩ := answers
    simp [read, Reading.messages, lossMessages, same, messages, loss]
  | acknowledged =>
    obtain ⟨same, messages, loss⟩ := answers
    cases content <;>
      simp [read, Reading.messages, lossMessages, contentMessages, same, messages, loss]
  | content message =>
    obtain ⟨same, messages, loss⟩ := answers
    cases content <;>
      simp [read, Reading.messages, lossMessages, contentMessages, same, messages, loss]
  | ending loss =>
    obtain ⟨same, messages, loss⟩ := answers
    simp [read, Reading.messages, lossMessages, same, messages, loss]

end Reading

namespace Transport

open Attempt (nextNumber logMessages record)

/-- A transport stands where a log ends. -/
inductive Keeps : Transport → List Attempt → Prop
  | closed {t : Transport} (phase : t.phase = .over) : Keeps t []
  | dialling {t : Transport} {past : List Attempt} (phase : t.phase = .dialling)
      (number : t.attempt = nextNumber past) : Keeps t (.dialling :: past)
  | live {t : Transport} {l : Live} {stimuli : List Stimulus} {past : List Attempt}
      (phase : t.phase = .live l) (number : t.attempt = nextNumber past)
      (unfinished : (Reading.ofStimuli stimuli).loss = none)
      (established : (Reading.ofStimuli stimuli).content.isSome = l.session.established) :
      Keeps t (.socket stimuli :: past)
  | waiting {t : Transport} {due : Nat} {a : Attempt} {past : List Attempt}
      (phase : t.phase = .waiting due) (finished : a.reading.isOver)
      (number : min (t.attempt + 1) lastAttempt = nextNumber (a :: past)) : Keeps t (a :: past)

theorem lose_phase (t : Transport) (now : Nat) (established : Bool) (loss : Loss) :
    ∃ due, (t.lose now established loss).1.phase = .waiting due := ⟨_, rfl⟩

theorem lose_message (t : Transport) (now : Nat) (established : Bool) (loss : Loss) :
    (t.lose now established loss).2 = .disconnected loss.reason := rfl

theorem lose_keeps {t : Transport} {a : Attempt} {past : List Attempt} (now : Nat)
    {established : Bool} {loss : Loss} (number : t.attempt = nextNumber past)
    (finished : a.reading.loss = some loss) (same : a.reading.content.isSome = established) :
    Keeps (t.lose now established loss).1 (a :: past) := by
  obtain ⟨due, phase⟩ := t.lose_phase now established loss
  have closed : a.reading.isOver := by rw [Reading.isOver, finished]; rfl
  refine .waiting phase closed ?_
  cases established with
  | false => simp [lose, nextNumber, Attempt.next, same, number]
  | true => simp [lose, nextNumber, Attempt.next, same, lastAttempt, Word.bound]

theorem step_live {t : Transport} {l : Live} {stimuli : List Stimulus} {past : List Attempt}
    (phase : t.phase = .live l) (number : t.attempt = nextNumber past)
    (unfinished : (Reading.ofStimuli stimuli).loss = none)
    (established : (Reading.ofStimuli stimuli).content.isSome = l.session.established)
    (now : Nat) (s : Stimulus) :
    Keeps (t.step now (.stimulus s)).1 (.socket (stimuli ++ [s]) :: past) ∧
      logMessages (.socket (stimuli ++ [s]) :: past) =
        logMessages (.socket stimuli :: past) ++ (t.step now (.stimulus s)).2.messages := by
  have answers := l.react_answers now s
  rw [← established] at answers
  obtain ⟨content, loss, messages⟩ := Reading.read_answered unfinished answers
  rw [← Reading.ofStimuli_snoc] at content loss messages
  have session := l.react_session now s
  cases ending : (l.react now s).2.loss with
  | none =>
    simp only [step, phase, ending]
    rw [ending] at loss
    refine ⟨.live rfl number loss (by rw [content, session]), ?_⟩
    simp [logMessages, Attempt.messages, Attempt.reading, messages, ending, Reading.lossMessages]
  | some lost =>
    simp only [step, phase, ending]
    rw [ending] at loss
    refine ⟨lose_keeps now number loss (content.trans (by rw [session])), ?_⟩
    simp [logMessages, Attempt.messages, Attempt.reading, messages, ending, Reading.lossMessages,
      lose_message]

theorem step_keeps {t : Transport} {log : List Attempt} (keeps : Keeps t log) (now : Nat)
    (o : Occurrence) :
    Keeps (t.step now o).1 (record log o) ∧
      logMessages (record log o) = logMessages log ++ (t.step now o).2.messages := by
  cases keeps with
  | closed phase =>
    have still : t.step now o = (t, .none) := by simp only [step, phase]
    rw [still]
    exact ⟨.closed phase, by simp [record, logMessages, Output.none]⟩
  | dialling phase number =>
    cases o with
    | refused cause =>
      simp only [step, phase, record]
      refine ⟨lose_keeps now number rfl rfl, ?_⟩
      simp [logMessages, Attempt.messages, Attempt.reading, Reading.messages,
        Reading.contentMessages, Reading.lossMessages, Reading.start, lose_message]
    | opened =>
      simp only [step, phase, record]
      exact ⟨.live rfl number rfl rfl, by simp [logMessages, Attempt.messages, Attempt.reading,
        Reading.ofStimuli, Output.none]⟩
    | stimulus s =>
      simp only [step, phase, record]
      exact ⟨.dialling phase number, by simp [Output.none]⟩
    | retry =>
      simp only [step, phase, record]
      exact ⟨.dialling phase number, by simp [Attempt.reading, Reading.isOver, Reading.start,
        Output.none]⟩
  | @live l stimuli past phase number unfinished established =>
    have same := Keeps.live phase number unfinished established
    have open_ : (Attempt.socket stimuli).reading.isOver = false := by
      rw [Attempt.reading, Reading.isOver, unfinished]; rfl
    cases o with
    | stimulus s => exact step_live phase number unfinished established now s
    | refused cause =>
      simp only [step, phase, record]
      exact ⟨same, by simp [Output.none]⟩
    | opened =>
      simp only [step, phase, record]
      exact ⟨same, by simp [Output.none]⟩
    | retry =>
      simp only [step, phase, record, open_]
      exact ⟨same, by simp [Output.none]⟩
  | @waiting due a past phase finished number =>
    -- All but a retry comes too late: it is written down behind the end of the attempt.
    by_cases retry : o = .retry
    · subst retry
      have attempt : (t.step now .retry).1.attempt = nextNumber (a :: past) := by
        simp only [step, phase, dial]
        exact number
      have messages : (t.step now .retry).2.messages = [.connecting (nextNumber (a :: past))] := by
        simp only [step, phase, dial, number]
      have longer : record (a :: past) .retry = .dialling :: a :: past := by
        cases a <;> simp only [record, finished, if_true]
      rw [longer, messages]
      refine ⟨.dialling (by simp only [step, phase, dial]) attempt, ?_⟩
      rfl
    · obtain ⟨b, recorded, same⟩ := Attempt.record_over finished past retry
      have still : t.step now o = (t, .none) := by
        cases o <;> first | contradiction | simp only [step, phase]
      rw [recorded, still]
      refine ⟨.waiting phase (by rwa [same]) (by rw [number, Attempt.nextNumber_congr same]), ?_⟩
      rw [Attempt.logMessages_congr same]
      exact (List.append_nil _).symm

theorem Keeps.leave {t : Transport} {log : List Attempt} (keeps : Keeps t log)
    {due : Nat} (waiting : t.phase = .waiting due) (behind : List Item) :
    Keeps t (Attempt.leave behind log) ∧
      logMessages (Attempt.leave behind log) = logMessages log := by
  cases keeps with
  | closed phase => exact ⟨.closed phase, rfl⟩
  | dialling phase _ => rw [phase] at waiting; contradiction
  | live phase _ _ _ => rw [phase] at waiting; contradiction
  | waiting phase finished number =>
    have same := Attempt.reading_extend finished behind
    refine ⟨.waiting phase (by rwa [same]) ?_, Attempt.logMessages_congr same _⟩
    rw [number, Attempt.nextNumber_congr same]

def startLog (settings : ServerSettings) (o : TargetOverrides) : List Attempt :=
  match target settings o with
  | .ok _ => [.dialling]
  | .error _ => []

def targetReport (settings : ServerSettings) (o : TargetOverrides) : List Message :=
  match target settings o with
  | .ok _ => []
  | .error e => [.disconnected e.message]

def logOutput (settings : ServerSettings) (o : TargetOverrides) (log : List Attempt) :
    List Message := targetReport settings o ++ logMessages log

theorem start_keeps (settings : ServerSettings) (o : TargetOverrides) :
    Keeps (start settings o).1 (startLog settings o) ∧
      (start settings o).2.messages = logOutput settings o (startLog settings o) := by
  unfold start startLog logOutput targetReport
  cases target settings o with
  | error e => exact ⟨.closed rfl, rfl⟩
  | ok target =>
    refine ⟨.dialling rfl ?_, ?_⟩
    · simp [dial, nextNumber, lastAttempt, Word.bound]
    · simp [dial, logMessages, Attempt.messages, Attempt.reading, Reading.messages,
        Reading.contentMessages, Reading.lossMessages, Reading.start, nextNumber, lastAttempt,
        Word.bound]

def after (t : Transport) (occurrences : List (Nat × Occurrence)) : Transport :=
  occurrences.foldl (fun t (now, o) => (t.step now o).1) t

def logAfter (log : List Attempt) (occurrences : List (Nat × Occurrence)) : List Attempt :=
  occurrences.foldl (fun log (_, o) => record log o) log

theorem messagesFrom_keeps {t : Transport} {log : List Attempt} (keeps : Keeps t log)
    (occurrences : List (Nat × Occurrence)) :
    Keeps (t.after occurrences) (logAfter log occurrences) ∧
      logMessages (logAfter log occurrences) = logMessages log ++ t.messagesFrom occurrences := by
  induction occurrences generalizing t log with
  | nil => exact ⟨keeps, (List.append_nil _).symm⟩
  | cons occurrence rest ih =>
    obtain ⟨now, o⟩ := occurrence
    obtain ⟨next, gained⟩ := step_keeps keeps now o
    obtain ⟨final, all⟩ := ih next
    refine ⟨final, ?_⟩
    calc logMessages (logAfter (record log o) rest)
        = logMessages (record log o) ++ (t.step now o).1.messagesFrom rest := all
      _ = logMessages log ++ ((t.step now o).2.messages ++ (t.step now o).1.messagesFrom rest) := by
        rw [gained, List.append_assoc]

end Transport

end CacheWatch
