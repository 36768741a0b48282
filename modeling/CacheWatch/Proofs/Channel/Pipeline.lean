import CacheWatch.Channel.Pipeline

/-! What each operation of a pipeline moves, and what it leaves where it is. -/
namespace CacheWatch

namespace Pipeline

theorem work_idle {p : Pipeline} (idle : p.pending = []) (now : Nat) (o : Occurrence) :
    (p.work now o).1 =
      { p with
        transport := (p.transport.step now o).1
        pending := (p.transport.step now o).2.messages } := by
  simp only [work, idle, List.isEmpty_nil, if_true]

theorem send_cases {p : Pipeline} (held : p.abandoned = false) :
    p.send = p ∨ ∃ message rest, p.pending = message :: rest ∧ p.queue.length < queueBound ∧
      p.send = { p with queue := p.queue ++ [message], pending := rest } := by
  unfold send
  split
  · exact .inl rfl
  · next message rest waiting =>
    simp only [held, Bool.false_eq_true, if_false]
    split
    · next free => exact .inr ⟨message, rest, waiting, free, rfl⟩
    · exact .inl rfl

theorem take?_some {p : Pipeline} {clock : Instant} {after : Pipeline × Delivery}
    (took : p.take? clock = some after) :
    p.queue = after.2.message :: after.1.queue ∧
      after.1 = { p with
        queue := after.1.queue
        monitor := (p.monitor.apply clock after.2.message).1
        applied := p.applied + 1 } := by
  unfold take? at took
  split at took
  · contradiction
  · next message rest waiting =>
    cases took
    exact ⟨waiting, rfl⟩

theorem drain_nil {p : Pipeline} (empty : p.queue = []) (clock : Instant) :
    p.drain clock = (p, 0) := by
  obtain ⟨transport, pending, queue, monitor, applied, abandoned⟩ := p
  subst empty
  rfl

theorem drain_cons {p : Pipeline} {message : Message} {rest : List Message}
    (first : p.queue = message :: rest) (clock : Instant) :
    ∃ after, p.take? clock = some after ∧ after.2.message = message ∧ after.1.queue = rest ∧
      p.drain clock = ((after.1.drain clock).1, (after.1.drain clock).2 + 1) := by
  refine ⟨_, by rw [take?, first], rfl, rfl, ?_⟩
  simp only [drain, first, List.map_cons, List.length_cons, Monitor.applyAll, List.foldl_cons,
    Prod.mk.injEq, and_true, mk.injEq, true_and]
  omega

end Pipeline

end CacheWatch
