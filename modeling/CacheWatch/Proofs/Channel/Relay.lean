import CacheWatch.Proofs.Channel.Log
import CacheWatch.Proofs.Channel.Pipeline
import CacheWatch.Proofs.Monitor.Run
import Mathlib.Algebra.BigOperators.Group.List.Basic
import Mathlib.Algebra.GroupWithZero.Nat
import Mathlib.Logic.Relation

/-! From the socket to the state, in any order of steps.
Items arrive, the transport reads them one at a time and waits while the queue is full, and the
owner takes messages alone or in drains, between whose messages anything else may happen. No
message is lost, repeated or moved before another one.
-/
namespace CacheWatch

structure Relay where
  pipeline : Pipeline
  /-- What arrived on the socket and was not read. -/
  unread : List Item
  draining : Option Nat
  log : List Attempt
  arrived : List Item
  delivered : List (Instant × Message)
  drained : List Nat
  taken : Nat

namespace Relay

open Attempt (logMessages record leave)
open Transport (Keeps logOutput)

def start (settings : ServerSettings) (o : TargetOverrides) (monitor : Monitor) : Relay where
  pipeline := .start settings o monitor
  unread := []
  draining := none
  log := Transport.startLog settings o
  arrived := []
  delivered := []
  drained := []
  taken := 0

/-- Items also arrive behind the end of a session, up to the next attempt, and none of them is
read out of turn. Beats, silence and the outcome of a dial come at any time. -/
inductive Step : Relay → Relay → Prop
  | arrive (r : Relay) (item : Item) (stimuli : List Stimulus) (past : List Attempt)
      (socket : r.log = .socket stimuli :: past) :
      Step r { r with unread := r.unread ++ [item], arrived := r.arrived ++ [item] }
  | read (r : Relay) (now : Nat) (item : Item) (rest : List Item)
      (idle : r.pipeline.pending = []) (first : r.unread = item :: rest) :
      Step r { r with
        pipeline := (r.pipeline.work now (.stimulus (.item item))).1
        unread := rest
        log := record r.log (.stimulus (.item item)) }
  | turn (r : Relay) (now : Nat) (o : Occurrence) (idle : r.pipeline.pending = [])
      (other : ∀ item, o ≠ .stimulus (.item item)) (same : o ≠ .retry) :
      Step r { r with pipeline := (r.pipeline.work now o).1, log := record r.log o }
  | retry (r : Relay) (now due : Nat) (idle : r.pipeline.pending = [])
      (waiting : r.pipeline.transport.phase = .waiting due) :
      Step r { r with
        pipeline := (r.pipeline.work now .retry).1
        unread := []
        log := record (leave r.unread r.log) .retry }
  | send (r : Relay) : Step r { r with pipeline := r.pipeline.send }
  | next (r : Relay) (clock : Instant) (after : Pipeline × Delivery) (free : r.draining = none)
      (took : r.pipeline.take? clock = some after) :
      Step r { r with
        pipeline := after.1
        delivered := r.delivered ++ [(clock, after.2.message)]
        taken := r.taken + 1 }
  | drain (r : Relay) (free : r.draining = none) : Step r { r with draining := some 0 }
  | drainNext (r : Relay) (clock : Instant) (after : Pipeline × Delivery) (n : Nat)
      (busy : r.draining = some n) (took : r.pipeline.take? clock = some after) :
      Step r { r with
        pipeline := after.1
        draining := some (n + 1)
        delivered := r.delivered ++ [(clock, after.2.message)] }
  | drainEnd (r : Relay) (n : Nat) (busy : r.draining = some n) (empty : r.pipeline.queue = []) :
      Step r { r with draining := none, drained := r.drained ++ [n] }

/-- What holds after every step. The first equation is the order of messages, the second that of
items. -/
structure Sound (settings : ServerSettings) (o : TargetOverrides) (monitor : Monitor)
    (r : Relay) : Prop where
  keeps : Keeps r.pipeline.transport r.log
  order : r.delivered.map Prod.snd ++ (r.pipeline.queue ++ r.pipeline.pending) =
    logOutput settings o r.log
  arrivals : r.log.reverse.flatMap Attempt.items ++ r.unread = r.arrived
  socket : r.unread ≠ [] → ∃ stimuli past, r.log = .socket stimuli :: past
  room : r.pipeline.queue.length ≤ Pipeline.queueBound
  held : r.pipeline.abandoned = false
  counts : r.drained.sum + r.draining.getD 0 + r.taken = r.delivered.length
  number : r.pipeline.applied = r.delivered.length
  state : r.pipeline.monitor = monitor.applyAll r.delivered

variable {settings : ServerSettings} {o : TargetOverrides} {monitor : Monitor} {r : Relay}

theorem start_sound (settings : ServerSettings) (o : TargetOverrides) (monitor : Monitor) :
    Sound settings o monitor (start settings o monitor) := by
  obtain ⟨keeps, opening⟩ := Transport.start_keeps settings o
  have noItems : (Transport.startLog settings o).reverse.flatMap Attempt.items = [] := by
    unfold Transport.startLog
    cases target settings o <;> rfl
  exact ⟨keeps, opening, by rw [start, noItems, List.append_nil], fun unread => (unread rfl).elim,
    Nat.zero_le _, rfl, rfl, rfl, rfl⟩

theorem Sound.work (sound : Sound settings o monitor r) (idle : r.pipeline.pending = [])
    {log : List Attempt} (keeps : Keeps r.pipeline.transport log)
    (same : logMessages log = logMessages r.log) (now : Nat) (occurrence : Occurrence)
    {unread : List Item}
    (arrivals : (record log occurrence).reverse.flatMap Attempt.items ++ unread = r.arrived)
    (socket : unread ≠ [] → ∃ stimuli past, record log occurrence = .socket stimuli :: past) :
    Sound settings o monitor { r with
      pipeline := (r.pipeline.work now occurrence).1
      unread
      log := record log occurrence } := by
  obtain ⟨next, gained⟩ := Transport.step_keeps keeps now occurrence
  have order := sound.order
  rw [idle, List.append_nil] at order
  rw [Pipeline.work_idle idle]
  refine { sound with keeps := next, order := ?_, arrivals, socket }
  calc r.delivered.map Prod.snd ++ (r.pipeline.queue ++
        (r.pipeline.transport.step now occurrence).2.messages)
      = logOutput settings o r.log ++ (r.pipeline.transport.step now occurrence).2.messages := by
        rw [← List.append_assoc, order]
    _ = logOutput settings o (record log occurrence) := by
        rw [logOutput, logOutput, gained, same, List.append_assoc]

theorem Sound.take (sound : Sound settings o monitor r) {clock : Instant}
    {after : Pipeline × Delivery} (took : r.pipeline.take? clock = some after)
    (draining : Option Nat) (taken : Nat)
    (count : draining.getD 0 + taken = r.draining.getD 0 + r.taken + 1) :
    Sound settings o monitor { r with
      pipeline := after.1
      draining
      delivered := r.delivered ++ [(clock, after.2.message)]
      taken } := by
  obtain ⟨first, next⟩ := Pipeline.take?_some took
  have order := sound.order
  have room := sound.room
  rw [first] at order room
  rw [next]
  refine ⟨sound.keeps, ?_, sound.arrivals, sound.socket, ?_, sound.held, ?_, ?_, ?_⟩
  · rw [← order]
    simp
  · exact Nat.le_of_succ_le room
  · have counts := sound.counts
    simp only [List.length_append, List.length_singleton]
    omega
  · simp [sound.number]
  · rw [Monitor.applyAll_snoc, ← sound.state]

theorem step_sound {next : Relay} (sound : Sound settings o monitor r) (step : Step r next) :
    Sound settings o monitor next := by
  cases step with
  | arrive item stimuli past socket =>
    refine { sound with arrivals := ?_, socket := fun _ => ⟨stimuli, past, socket⟩ }
    rw [← sound.arrivals, List.append_assoc]
  | read now item rest idle first =>
    obtain ⟨stimuli, past, log⟩ := sound.socket (by simp [first])
    refine sound.work idle sound.keeps rfl now _ ?_ ?_
    · rw [← sound.arrivals, log, Attempt.record_item, first, List.append_assoc]
      rfl
    · intro _
      rw [log]
      exact ⟨_, past, rfl⟩
  | turn now occurrence idle other same =>
    refine sound.work idle sound.keeps rfl now occurrence ?_ ?_
    · rw [Attempt.record_items r.log other]
      exact sound.arrivals
    · intro unread
      obtain ⟨stimuli, past, log⟩ := sound.socket unread
      obtain ⟨longer, recorded⟩ := Attempt.record_socket stimuli past same
      exact ⟨longer, past, log ▸ recorded⟩
  | retry now due idle waiting =>
    -- What is unread belongs to the socket that is given up, so it is written down first.
    obtain ⟨keeps, same⟩ := sound.keeps.leave waiting r.unread
    refine sound.work idle keeps same now .retry ?_ (fun unread => (unread rfl).elim)
    rw [Attempt.record_items _ (by simp), Attempt.leave_items sound.socket, List.append_nil]
    exact sound.arrivals
  | send =>
    rcases Pipeline.send_cases sound.held with waits | ⟨message, rest, waiting, free, sent⟩
    · rw [waits]
      exact sound
    · rw [sent]
      refine { sound with order := ?_, room := ?_ }
      · rw [← sound.order, waiting, List.append_assoc]
        rfl
      · rw [List.length_append, List.length_singleton]
        exact free
  | next clock after free took =>
    exact sound.take took r.draining (r.taken + 1) (by omega)
  | drain free =>
    have counts := sound.counts
    rw [free] at counts
    exact { sound with counts }
  | drainNext clock after n busy took =>
    refine sound.take took (some (n + 1)) r.taken ?_
    rw [busy, Option.getD_some, Option.getD_some]
    omega
  | drainEnd n busy empty =>
    have counts := sound.counts
    rw [busy] at counts
    refine { sound with counts := ?_ }
    rw [← counts, List.sum_append]
    simp

theorem run_sound (settings : ServerSettings) (o : TargetOverrides) (monitor : Monitor)
    (run : Relation.ReflTransGen Step (start settings o monitor) r) :
    Sound settings o monitor r := by
  induction run with
  | refl => exact start_sound settings o monitor
  | tail _ step ih => exact step_sound ih step

theorem drainNext_steps (r : Relay) (clock : Instant) (n : Nat) :
    Relation.ReflTransGen Step { r with draining := some n } { r with
      pipeline := (r.pipeline.drain clock).1
      draining := some (n + (r.pipeline.drain clock).2)
      delivered := r.delivered ++ r.pipeline.queue.map (clock, ·) } := by
  induction waiting : r.pipeline.queue generalizing r n with
  | nil =>
    rw [Pipeline.drain_nil waiting, List.map_nil, List.append_nil]
    exact .refl
  | cons message rest ih =>
    obtain ⟨after, took, same, remaining, drained⟩ := Pipeline.drain_cons waiting clock
    have step := Step.drainNext { r with draining := some n } clock after n rfl took
    have others := ih { r with
      pipeline := after.1
      delivered := r.delivered ++ [(clock, after.2.message)] } (n + 1) remaining
    rw [drained, ← same, List.map_cons, List.append_cons, ← Nat.add_assoc, Nat.add_right_comm]
    exact .head step others

theorem drain_steps (free : r.draining = none) (clock : Instant) :
    Relation.ReflTransGen Step r { r with
      pipeline := (r.pipeline.drain clock).1
      delivered := r.delivered ++ r.pipeline.queue.map (clock, ·)
      drained := r.drained ++ [(r.pipeline.drain clock).2] } := by
  have taken := drainNext_steps r clock 0
  have ended := Step.drainEnd { r with
    pipeline := (r.pipeline.drain clock).1
    draining := some (0 + (r.pipeline.drain clock).2)
    delivered := r.delivered ++ r.pipeline.queue.map (clock, ·) } _ rfl rfl
  rw [Nat.zero_add] at taken ended
  rw [← free] at ended
  exact .head (.drain r free) (.tail taken ended)

/-- Applied, queued and unsent messages are, in this order, those that the attempts so far come to.
The log holds all items that were read, in the order of their arrival, and what lies behind the
end of a session counts for nothing. A drain that nothing comes between is one of these runs. -/
theorem messages_in_order (settings : ServerSettings) (o : TargetOverrides) (monitor : Monitor)
    (r : Relay) (run : Relation.ReflTransGen Step (start settings o monitor) r) :
    r.delivered.map Prod.snd ++ r.pipeline.queue ++ r.pipeline.pending =
        logOutput settings o r.log ∧
      r.log.reverse.flatMap Attempt.items ++ r.unread = r.arrived ∧
      (∀ read behind number, .socket (read ++ behind) ∈ r.log → (Reading.ofStimuli read).isOver →
        (Attempt.socket (read ++ behind)).messages number =
          (Attempt.socket read).messages number) ∧
      r.pipeline.queue.length ≤ 256 ∧
      r.drained.sum + r.draining.getD 0 + r.taken = r.delivered.length ∧
      r.pipeline.applied = r.delivered.length ∧
      r.pipeline.monitor = monitor.applyAll r.delivered ∧
      (r.draining = none → ∀ clock, Relation.ReflTransGen Step r { r with
        pipeline := (r.pipeline.drain clock).1
        delivered := r.delivered ++ r.pipeline.queue.map (clock, ·)
        drained := r.drained ++ [(r.pipeline.drain clock).2] }) := by
  have sound := run_sound settings o monitor run
  refine ⟨?_, sound.arrivals, ?_, sound.room, sound.counts, sound.number, sound.state, drain_steps⟩
  · rw [List.append_assoc]
    exact sound.order
  · intro read behind number _ closed
    rw [Attempt.messages, Attempt.messages, Attempt.reading, Attempt.reading,
      Reading.ofStimuli_over closed behind]

/-- A server that sends content without an acknowledgement and then closes, with one frame behind
the end. A drain goes on while the transport sends, and the next attempt begins. -/
theorem messages_in_order_early_content :
    ∃ r, Relation.ReflTransGen Step
        (start .default ⟨none, none⟩ (.start ⟨"server", false⟩ 0)) r ∧
      r.log = [.dialling, .socket [.item (.text "42[\"rate-limit\",5]"), .item (.text "1"),
        .item (.text "2")]] ∧
      r.drained = [2] ∧ r.taken = 1 ∧ r.pipeline.queue.length = 1 ∧
      r.delivered.map Prod.snd ++ r.pipeline.queue ++ r.pipeline.pending =
        logOutput .default ⟨none, none⟩ r.log := by
  have run := Relation.ReflTransGen.head
    (Step.send (start .default ⟨none, none⟩ (.start ⟨"server", false⟩ 0))) <|
    .head (.turn _ 1 .opened (List.isEmpty_iff.mp (by decide +kernel)) (by simp) (by simp)) <|
    .head (.arrive _ (.text "42[\"rate-limit\",5]") [] [] (by decide +kernel)) <|
    .head (.arrive _ (.text "1") [] [] (by decide +kernel)) <|
    .head (.read _ 2 _ _ (List.isEmpty_iff.mp (by decide +kernel)) rfl) <|
    .head (.arrive _ (.text "2") [.item (.text "42[\"rate-limit\",5]")] []
      (by decide +kernel)) <|
    .head (.next _ ⟨0, 0⟩ _ rfl (Option.some_get (by decide +kernel)).symm) <|
    .head (.drain _ rfl) <|
    .head (.send _) <|
    .head (.drainNext _ ⟨0, 0⟩ _ _ rfl (Option.some_get (by decide +kernel)).symm) <|
    .head (.send _) <|
    .head (.drainNext _ ⟨0, 0⟩ _ _ rfl (Option.some_get (by decide +kernel)).symm) <|
    .head (.read _ 3 _ _ (List.isEmpty_iff.mp (by decide +kernel)) rfl) <|
    .head (.drainEnd _ _ rfl (List.isEmpty_iff.mp (by decide +kernel))) <|
    .head (.send _) <|
    .single (.retry _ 4 1000000003 (List.isEmpty_iff.mp (by decide +kernel)) (by decide +kernel))
  exact ⟨_, run, by decide +kernel, by decide +kernel, by decide +kernel, by decide +kernel,
    (messages_in_order _ _ _ _ run).1⟩

end Relay

end CacheWatch
