/-! Sets of characters, as ranges of their numbers with both ends. -/
namespace CacheWatch.Text

def inRanges (ranges : List (Nat × Nat)) (c : Char) : Bool :=
  ranges.any (fun range => range.1 ≤ c.toNat && c.toNat ≤ range.2)

end CacheWatch.Text
