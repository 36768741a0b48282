import CacheWatch.Proofs.Channel.Log
import Mathlib.Data.List.Chain

/-! The shape of everything that a transport sends, whatever the server does.
Attempts are blocks of messages, one behind the other. Only the last block may still be open.
-/
namespace CacheWatch

/-- An attempt as the owner of the state sees it. -/
structure Block where
  number : Nat
  /-- The messages behind the report that the link is established; none without that report. -/
  content : Option (List Message)
  reason : Option String

namespace Block

def messages (b : Block) : List Message :=
  let established := match b.content with
    | none => []
    | some content => .connected :: content
  let lost := match b.reason with
    | none => []
    | some reason => [.disconnected reason]
  .connecting b.number :: (established ++ lost)

/-- The number of the block that comes next: an established link begins the count anew. -/
def next (b : Block) : Nat :=
  if b.content.isSome then 1 else min (b.number + 1) Transport.lastAttempt

/-- Blocks in the order of a stream: counted from one, each closed before the next begins, and
with nothing but data between its report of an established link and its end. -/
structure Stream (blocks : List Block) : Prop where
  first : ∀ b ∈ blocks.head?, b.number = 1
  counted : blocks.IsChain fun earlier later => later.number = earlier.next
  closed : ∀ b ∈ blocks.dropLast, b.reason.isSome
  data : ∀ b ∈ blocks, ∀ content ∈ b.content, ∀ message ∈ content, message.isData

end Block

namespace Attempt

def block (number : Nat) (a : Attempt) : Block :=
  ⟨number, a.reading.content, a.reading.loss.map Loss.reason⟩

def blocks : List Attempt → List Block
  | [] => []
  | a :: past => blocks past ++ [a.block (nextNumber past)]

theorem block_messages (number : Nat) (a : Attempt) :
    (a.block number).messages = a.messages number := by
  unfold Block.messages messages block Reading.messages
  cases a.reading.content <;> cases a.reading.loss <;> rfl

theorem blocks_messages (log : List Attempt) :
    (blocks log).flatMap Block.messages = logMessages log := by
  induction log with
  | nil => rfl
  | cons a past ih =>
    simp only [blocks, logMessages, List.flatMap_append, List.flatMap_singleton, ih, block_messages]

theorem blocks_getLast? (a : Attempt) (past : List Attempt) :
    (blocks (a :: past)).getLast? = some (a.block (nextNumber past)) := List.getLast?_concat

theorem blocks_next (log : List Attempt) (b : Block) (last : b ∈ (blocks log).getLast?) :
    nextNumber log = b.next := by
  cases log with
  | nil => contradiction
  | cons a past =>
    rw [blocks_getLast?] at last
    cases last
    rfl

theorem mem_blocks {log : List Attempt} {b : Block} (member : b ∈ blocks log) :
    ∃ a ∈ log, ∃ number, b = a.block number := by
  induction log with
  | nil => contradiction
  | cons a past ih =>
    rcases List.mem_append.mp member with earlier | last
    · obtain ⟨a, present, number, same⟩ := ih earlier
      exact ⟨a, List.mem_cons_of_mem _ present, number, same⟩
    · exact ⟨a, List.mem_cons_self, _, List.mem_singleton.mp last⟩

theorem blocks_first (log : List Attempt) : ∀ b ∈ (blocks log).head?, b.number = 1 := by
  induction log with
  | nil => intro b absent; contradiction
  | cons a past ih =>
    intro b first
    cases past with
    | nil => cases first; rfl
    | cons earlier past =>
      apply ih b
      rw [blocks, List.head?_append_of_ne_nil] at first
      · exact first
      · simp [blocks]

theorem blocks_counted (log : List Attempt) :
    (blocks log).IsChain fun earlier later => later.number = earlier.next := by
  induction log with
  | nil => exact .nil
  | cons a past ih =>
    refine List.isChain_append.mpr ⟨ih, .singleton _, ?_⟩
    intro earlier last later single
    cases single
    exact blocks_next past earlier last

theorem blocks_closed {log : List Attempt} (ended : ∀ a ∈ log.tail, a.reading.isOver) :
    ∀ b ∈ (blocks log).dropLast, b.reason.isSome := by
  cases log with
  | nil => intro b absent; contradiction
  | cons a past =>
    intro b member
    rw [blocks, List.dropLast_concat] at member
    obtain ⟨earlier, present, number, rfl⟩ := mem_blocks member
    rw [block, Option.isSome_map]
    exact ended earlier present

theorem blocks_data (log : List Attempt) :
    ∀ b ∈ blocks log, ∀ content ∈ b.content, ∀ message ∈ content, message.isData := by
  intro b member
  obtain ⟨a, _, number, rfl⟩ := mem_blocks member
  exact a.reading_holdsData

theorem blocks_stream {log : List Attempt} (ended : ∀ a ∈ log.tail, a.reading.isOver) :
    Block.Stream (blocks log) :=
  ⟨blocks_first log, blocks_counted log, blocks_closed ended, blocks_data log⟩

theorem record_ended {log : List Attempt} (ended : ∀ a ∈ log.tail, a.reading.isOver)
    (o : Occurrence) : ∀ a ∈ (record log o).tail, a.reading.isOver := by
  unfold record
  split
  · exact ended
  · exact ended
  · exact ended
  · next a past =>
    split
    · next closed =>
      intro earlier member
      rcases List.mem_cons.mp member with rfl | older
      · exact closed
      · exact ended earlier older
    · exact ended
  · exact ended

theorem logAfter_ended {log : List Attempt} (ended : ∀ a ∈ log.tail, a.reading.isOver)
    (occurrences : List (Nat × Occurrence)) :
    ∀ a ∈ (Transport.logAfter log occurrences).tail, a.reading.isOver := by
  induction occurrences generalizing log with
  | nil => exact ended
  | cons occurrence rest ih => exact ih (record_ended ended occurrence.2)

end Attempt

namespace Transport

open Attempt (logMessages)

theorem Keeps.isOver_iff {t : Transport} {a : Attempt} {past : List Attempt}
    (keeps : Keeps t (a :: past)) : a.reading.isOver ↔ ∃ due, t.phase = .waiting due := by
  cases keeps with
  | dialling phase _ => simp [phase, Attempt.reading, Reading.isOver, Reading.start]
  | live phase _ unfinished _ => simp [phase, Attempt.reading, Reading.isOver, unfinished]
  | waiting phase finished _ => simp [phase, finished]

theorem Keeps.phase_of_nil {t : Transport} (keeps : Keeps t []) : t.phase = .over := by
  cases keeps with
  | closed phase => exact phase

theorem logAfter_nil (occurrences : List (Nat × Occurrence)) : logAfter [] occurrences = [] := by
  induction occurrences with
  | nil => rfl
  | cons occurrence rest ih => exact ih

/-- Whatever happens to a transport, it sends blocks: one for each attempt that the occurrences come
to, with what the server said in it. The last block is closed exactly while the transport waits. A
target that cannot be dialled is reported, and then the stream is at its end. -/
theorem messages_blocks (settings : ServerSettings) (o : TargetOverrides)
    (occurrences : List (Nat × Occurrence)) :
    match target settings o with
    | .error e =>
      messages settings o occurrences = [.disconnected e.message] ∧
        ((start settings o).1.after occurrences).phase = .over
    | .ok _ =>
      let blocks := Attempt.blocks (logAfter [.dialling] occurrences)
      Block.Stream blocks ∧
        messages settings o occurrences = blocks.flatMap Block.messages ∧
        ∃ last ∈ blocks.getLast?, (last.reason.isSome ↔
          ∃ due, ((start settings o).1.after occurrences).phase = .waiting due) := by
  obtain ⟨keeps, opening⟩ := start_keeps settings o
  obtain ⟨final, all⟩ := messagesFrom_keeps keeps occurrences
  have sent : messages settings o occurrences =
      (start settings o).2.messages ++ (start settings o).1.messagesFrom occurrences := rfl
  rw [opening] at sent
  cases dialled : target settings o with
  | error e =>
    -- Without a target there is no attempt, and a log without attempts stays so.
    have empty : startLog settings o = [] := by simp only [startLog, dialled]
    rw [empty, logAfter_nil] at final all
    have silent : (start settings o).1.messagesFrom occurrences = [] := all.symm
    refine ⟨?_, final.phase_of_nil⟩
    rw [sent, silent, List.append_nil, empty]
    simp only [logOutput, targetReport, dialled, logMessages, List.append_nil]
  | ok _ =>
    have first : startLog settings o = [.dialling] := by simp only [startLog, dialled]
    rw [first] at final all
    have single : ∀ a ∈ ([.dialling] : List Attempt).tail, a.reading.isOver := by simp
    have ended := Attempt.logAfter_ended single occurrences
    refine ⟨Attempt.blocks_stream ended, ?_, ?_⟩
    · rw [Attempt.blocks_messages, all, sent, first]
      simp only [logOutput, targetReport, dialled, List.nil_append]
    · cases log : logAfter [.dialling] occurrences with
      | nil => simp [log, logMessages, Attempt.messages] at all
      | cons a past =>
        rw [log] at final
        refine ⟨_, Attempt.blocks_getLast? a past, ?_⟩
        rw [Attempt.block, Option.isSome_map]
        exact final.isOver_iff

end Transport

end CacheWatch
