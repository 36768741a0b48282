/-! A bounded history, newest first.
The bound is checked before an entry is added, so a full history holds one entry more.
-/
namespace CacheWatch

structure History (α : Type) where
  capacity : Nat
  entries : List α

namespace History

def defaultCapacity : Nat := 50

/-- Room is set aside for all entries at once. With a capacity for which there is not so much memory
the program ends here, before there is a history. -/
def empty (capacity : Nat) : History α := ⟨capacity, []⟩

def insert (entry : α) (h : History α) : History α :=
  { h with entries :=
      entry :: (if h.capacity < h.entries.length then h.entries.dropLast else h.entries) }

def length (h : History α) : Nat := h.entries.length

/-- The entry at a row, the newest in row 0. -/
def get? (h : History α) (row : Nat) : Option α := h.entries[row]?

def newest? (h : History α) : Option α := h.entries.head?

def oldest? (h : History α) : Option α := h.entries.getLast?

end History

end CacheWatch
