/-! Numbers that fit words of a fixed width. -/
namespace CacheWatch.Word

/-- The first number that is too large for an unsigned word of so many bits. -/
def bound (bits : Nat) : Nat := Nat.pow 2 bits

def fits (bits n : Nat) : Bool := n < bound bits

def fitsSigned (n : Int) : Bool := -(bound 63 : Int) ≤ n && n < (bound 63 : Int)

end CacheWatch.Word
