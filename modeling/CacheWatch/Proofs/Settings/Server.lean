import CacheWatch.Settings.Server
import Mathlib.Logic.Basic
import Mathlib.Tactic.SplitIfs

/-! Which server settings are accepted, as what the channel relies on.
The checks stand in an order that only decides which fault is named.
-/
namespace CacheWatch.ServerSettings

structure Usable (s : ServerSettings) : Prop where
  address : Text.trim s.address.toList ≠ []
  path : s.path.toList.head? = some '/'
  revision : s.revision = 3 ∨ s.revision = 4
  delay : 0 < s.initialDelay
  bound : s.initialDelay ≤ s.maxDelay

variable {s : ServerSettings}

theorem fault?_eq_none_iff : s.fault? = none ↔ s.Usable := by
  constructor
  · intro clean
    unfold fault? at clean
    split_ifs at clean with blank relative unknown zero reversed
    exact {
      address := mt List.isEmpty_iff.mpr blank
      path := not_not.mp relative
      revision := by omega
      delay := Nat.pos_of_ne_zero zero
      bound := Nat.not_lt.mp reversed }
  · intro usable
    have spoken : ¬ (s.revision ≠ 3 ∧ s.revision ≠ 4) := by
      have := usable.revision
      omega
    rw [fault?, if_neg (mt List.isEmpty_iff.mp usable.address), if_neg (not_not.mpr usable.path),
      if_neg spoken, if_neg (Nat.ne_of_gt usable.delay), if_neg (Nat.not_lt.mpr usable.bound)]

theorem validate_eq_ok_iff : s.validate = .ok () ↔ s.fault? = none := by
  unfold validate
  cases s.fault? <;> simp

theorem validates_iff : s.validate = .ok () ↔ s.Usable :=
  validate_eq_ok_iff.trans fault?_eq_none_iff

theorem default_validates : default.validate = .ok () :=
  validate_eq_ok_iff.mpr (by decide +kernel)

end CacheWatch.ServerSettings
