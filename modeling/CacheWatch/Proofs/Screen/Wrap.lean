import CacheWatch.Screen.Wrap
import Mathlib.Data.List.Induction

/-! Where running text is wrapped.
A beginning that fits into a line and has no place to wrap at is not divided: it waits until its
word is complete, or has filled the line, and then it has its place in the first one.
-/
namespace CacheWatch.Screen

namespace Wrapping

open Row (span)

variable {width : Nat} {cluster : List Char} {front : List (List Char)} {w : Wrapping}

/-- The first line that has its place begins with some clusters. -/
def Settled (front : List (List Char)) (w : Wrapping) : Prop :=
  ∃ first more, w.lines ++ [w.line] = first :: more ∧ front <+: first

/-- The clusters are on their way to the first line, in one word. -/
structure Waiting (front : List (List Char)) (w : Wrapping) : Prop where
  lines : w.lines = []
  line : w.line = []
  blanks : w.blanks = []
  solid : w.solid = true
  word : front <+: w.word

section Settled

/-- Its place is in a line that is done, or in the line at work, which can only grow. -/
theorem Settled.first_cases (settled : Settled front w) :
    (w.lines = [] ∧ front <+: w.line ++ w.blanks ++ w.word) ∨
      ∃ first between, w.lines = first :: between ∧ front <+: first := by
  obtain ⟨first, more, lines, begins⟩ := settled
  cases done : w.lines with
  | nil =>
    rw [done, List.nil_append, List.cons.injEq] at lines
    rw [lines.1, List.append_assoc]
    exact .inl ⟨rfl, begins.trans (List.prefix_append _ _)⟩
  | cons line between =>
    rw [done, List.cons_append, List.cons.injEq] at lines
    exact .inr ⟨line, between, rfl, lines.1 ▸ begins⟩

theorem Settled.place (settled : Settled front w) : Settled front w.place := by
  rcases settled.first_cases with ⟨none, begins⟩ | ⟨first, between, done, begins⟩
  · exact ⟨w.line ++ w.blanks ++ w.word, [], by simp [Wrapping.place, none], begins⟩
  · exact ⟨first, between ++ [w.line ++ w.blanks ++ w.word], by simp [Wrapping.place, done],
      begins⟩

theorem Settled.feed (settled : Settled front w) (width : Nat) : Settled front (w.feed width) := by
  obtain ⟨first, more, lines, begins⟩ := settled
  exact ⟨first, more ++ [[]], by rw [Wrapping.feed, lines, List.cons_append], begins⟩

theorem Settled.push (settled : Settled front w) (cluster : List Char) :
    Settled front (w.push cluster) := by
  rw [Wrapping.push]
  split <;> exact settled

theorem Settled.advance (settled : Settled front w) (width : Nat) (cluster : List Char) :
    Settled front (w.advance width cluster) := by
  rw [Wrapping.advance]
  split
  · split
    · exact settled.feed width
    · exact (settled.feed width).push cluster
  · exact settled.push cluster

theorem Settled.step (settled : Settled front w) (width : Nat) (cluster : List Char) :
    Settled front (w.step width cluster) := by
  rw [Wrapping.step]
  split
  · exact settled
  · split
    · exact settled.place.advance width cluster
    · exact settled.advance width cluster

theorem Settled.finish (settled : Settled front w) :
    ∃ first more, w.finish = first :: more ∧ front <+: first := by
  rcases settled.first_cases with ⟨none, begins⟩ | ⟨first, between, done, begins⟩
  · exact ⟨w.line ++ w.blanks ++ w.word, [], by simp [Wrapping.finish, none], begins⟩
  · rw [Wrapping.finish, done]
    split
    · exact ⟨first, between, rfl, begins⟩
    · exact ⟨first, _, List.cons_append, begins⟩

end Settled

section Waiting

theorem step_of_room (line : w.line = []) (blanks : w.blanks = []) (holds : isBreak cluster = false)
    (room : span w.word + Text.columns cluster ≤ width) (positive : 0 < width) :
    w.step width cluster = { w with word := w.word ++ [cluster], solid := true } := by
  have empty : span [] = 0 := rfl
  have waits : w.settles width cluster = false := by
    simp only [settles, holds, line, blanks, empty, Bool.and_false, Bool.false_or, List.isEmpty_nil,
      Bool.true_and, decide_eq_false_iff_not]
    omega
  have unfilled : w.isFull width cluster = false := by
    simp only [isFull, line, blanks, empty, Bool.or_eq_false_iff, decide_eq_false_iff_not,
      Bool.and_eq_false_iff]
    omega
  rw [Wrapping.step, if_neg (by omega), waits, if_neg Bool.false_ne_true, advance, unfilled,
    if_neg Bool.false_ne_true, push, holds, if_neg Bool.false_ne_true]

theorem Waiting.place (waiting : Waiting front w) : Settled front w.place := by
  refine ⟨w.word, [], ?_, waiting.word⟩
  simp [Wrapping.place, waiting.lines, waiting.line, waiting.blanks]

theorem Waiting.step (waiting : Waiting front w) (positive : 0 < width) (cluster : List Char) :
    Waiting front (w.step width cluster) ∨ Settled front (w.step width cluster) := by
  by_cases wide : width < Text.columns cluster
  · left
    rwa [Wrapping.step, if_pos wide]
  by_cases settles : w.settles width cluster
  · right
    rw [Wrapping.step, if_neg wide, if_pos settles]
    exact waiting.place.advance width cluster
  · have empty : span [] = 0 := rfl
    obtain ⟨holds, room⟩ :
        isBreak cluster = false ∧ span w.word + Text.columns cluster ≤ width := by
      simpa [Wrapping.settles, waiting.solid, waiting.line, waiting.blanks, empty] using settles
    left
    rw [step_of_room waiting.line waiting.blanks holds room positive]
    exact ⟨waiting.lines, waiting.line, waiting.blanks, rfl,
      waiting.word.trans (List.prefix_append _ _)⟩

theorem Waiting.finish (waiting : Waiting front w) :
    ∃ first more, w.finish = first :: more ∧ front <+: first := by
  refine ⟨w.word, [], ?_, waiting.word⟩
  simp [Wrapping.finish, waiting.lines, waiting.line, waiting.blanks]

theorem Waiting.run (waiting : Waiting front w) (positive : 0 < width)
    (clusters : List (List Char)) :
    Waiting front (clusters.foldl (Wrapping.step width) w) ∨
      Settled front (clusters.foldl (Wrapping.step width) w) := by
  induction clusters using List.reverseRecOn with
  | nil => exact .inl waiting
  | append_singleton clusters cluster ih =>
    rw [List.foldl_append, List.foldl_cons, List.foldl_nil]
    rcases ih with waiting | settled
    · exact waiting.step positive cluster
    · exact .inr (settled.step width cluster)

end Waiting

end Wrapping

namespace Row

variable {width : Nat} {front : List (List Char)} {row : Row}

end Row

end CacheWatch.Screen
