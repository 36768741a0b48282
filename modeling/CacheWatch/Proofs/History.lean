import CacheWatch.History

/-! A history holds the newest of all entries that were ever added to it. -/
namespace CacheWatch.History

/-- All entries are given, newest first. The bound counts those behind the newest one. -/
def Holds {α : Type} (h : History α) (all : List α) : Prop :=
  h.entries = all.take (h.capacity + 1)

variable {α : Type}

theorem empty_holds (capacity : Nat) : (empty capacity : History α).Holds [] := rfl

theorem insert_capacity (entry : α) (h : History α) : (h.insert entry).capacity = h.capacity := rfl

theorem insert_holds {h : History α} {all : List α} (holds : h.Holds all) (entry : α) :
    (h.insert entry).Holds (entry :: all) := by
  unfold Holds at holds
  have size : h.entries.length = min (h.capacity + 1) all.length := by
    rw [holds, List.length_take]
  rw [Holds, insert_capacity, List.take_succ_cons]
  unfold insert
  split
  -- Capacity is tested before the entry is added, so a full history already holds one more.
  · next full =>
    have last : h.entries.length - 1 = h.capacity := by omega
    rw [List.dropLast_eq_take, last, holds, List.take_take, Nat.min_eq_left (Nat.le_succ _)]
  · next free =>
    rw [holds, List.take_of_length_le (by omega), List.take_of_length_le (by omega)]

theorem Holds.length {h : History α} {all : List α} (holds : h.Holds all) :
    h.length = min all.length (h.capacity + 1) := by
  rw [History.length, holds, List.length_take, Nat.min_comm]

theorem Holds.newest {h : History α} {all : List α} (holds : h.Holds all) :
    h.get? 0 = all.head? := by
  rw [get?, holds, List.getElem?_take_of_lt (Nat.succ_pos _), List.head?_eq_getElem?]

end CacheWatch.History
