/-! Instants: seconds since the beginning of 1970 UTC, and nanoseconds behind them.
In a leap second the nanoseconds run on to two thousand million.
-/
namespace CacheWatch

structure Instant where
  seconds : Int
  nanos : Nat
deriving DecidableEq, Repr

end CacheWatch
