import CacheWatch.Number.Binary64
import Mathlib.Algebra.Order.Field.Rat
import Mathlib.Data.Nat.Cast.Order.Field
import Mathlib.Tactic.NormNum
import Mathlib.Tactic.Ring

/-! The places of binary64 numbers.
A place is a shift and a whole number of steps of that width. The number at the next place is one
step further on, so numbers grow with their places, and the nearest place is found from below.
-/
namespace CacheWatch.Binary64

theorem binade_pos : 0 < binade := by decide

/-- The exponent stands apart, so that the power is not computed. -/
theorem scale_eq : ∃ k, k = 1074 ∧ scale = 2 ^ k := by
  unfold scale
  generalize 1074 = k
  exact ⟨k, rfl, Nat.pow_eq⟩

theorem scale_pos : 0 < scale := by
  obtain ⟨k, -, power⟩ := scale_eq
  rw [power]
  exact Nat.two_pow_pos k

def step (place : Nat) : Nat := 2 ^ (place / binade - 1)

theorem step_pos (place : Nat) : 0 < step place := Nat.two_pow_pos _

/-- A number is a count of steps, given that the count fills the binade or the step is one. -/
theorem units_count {shift count : Nat} (bounded : count ≤ 2 * binade)
    (filled : shift = 0 ∨ binade ≤ count) :
    units (shift * binade + count) = count * 2 ^ shift := by
  have positive := binade_pos
  have later {k r : Nat} (small : r < binade) : units ((k + 1) * binade + r) =
      (binade + r) * 2 ^ k := by
    have quotient : ((k + 1) * binade + r) / binade = k + 1 := by
      rw [Nat.add_comm, Nat.add_mul_div_right _ _ positive, Nat.div_eq_of_lt small, Nat.zero_add]
    have remainder : ((k + 1) * binade + r) % binade = r := by
      rw [Nat.add_comm, Nat.add_mul_mod_self_right, Nat.mod_eq_of_lt small]
    have large : ¬ (k + 1) * binade + r < binade := by
      rw [Nat.add_mul, Nat.one_mul]
      omega
    rw [units, if_neg large, quotient, remainder]
    rfl
  rcases Nat.lt_or_ge count binade with low | high
  · obtain rfl : shift = 0 := filled.resolve_right (Nat.not_le.mpr low)
    rw [Nat.zero_mul, Nat.zero_add, units, if_pos low, Nat.pow_zero, Nat.mul_one]
  · rcases Nat.lt_or_ge count (2 * binade) with within | full
    · have same : shift * binade + count = (shift + 1) * binade + (count - binade) := by
        rw [Nat.add_mul, Nat.one_mul]
        omega
      rw [same, later (by omega), Nat.add_sub_cancel' high]
    · -- The last count of a binade is the first one of the next.
      obtain rfl : count = 2 * binade := by omega
      have same : shift * binade + 2 * binade = (shift + 1 + 1) * binade + 0 := by ring
      rw [same, later positive, Nat.pow_succ]
      ring

theorem exists_count (place : Nat) : ∃ shift count, place = shift * binade + count ∧
    count < 2 * binade ∧ (shift = 0 ∨ binade ≤ count) ∧ step place = 2 ^ shift := by
  have positive := binade_pos
  have whole := Nat.div_add_mod place binade
  have small := Nat.mod_lt place positive
  cases quotient : place / binade with
  | zero =>
    rw [quotient, Nat.mul_zero, Nat.zero_add] at whole
    exact ⟨0, place, by omega, by omega, .inl rfl, by rw [step, quotient]⟩
  | succ shift =>
    rw [quotient, Nat.mul_comm, Nat.add_mul, Nat.one_mul] at whole
    refine ⟨shift, binade + place % binade, by omega, by omega, .inr (Nat.le_add_right _ _), ?_⟩
    rw [step, quotient, Nat.add_sub_cancel]

theorem units_succ (place : Nat) : units (place + 1) = units place + step place := by
  obtain ⟨shift, count, rfl, bounded, filled, step⟩ := exists_count place
  rw [step, Nat.add_assoc, units_count (by omega) (by omega), units_count (by omega) filled,
    Nat.add_mul, Nat.one_mul]

theorem units_strictMono : StrictMono units :=
  strictMono_nat_of_lt_succ fun place => by
    rw [units_succ]
    exact Nat.lt_add_of_pos_right (step_pos place)

theorem units_lt_step (place : Nat) : units place < 2 * binade * step place := by
  obtain ⟨shift, count, rfl, bounded, filled, step⟩ := exists_count place
  rw [step, units_count (by omega) filled]
  exact Nat.mul_lt_mul_of_pos_right bounded (Nat.two_pow_pos shift)

theorem units_floorPlace_eq (u : Nat) :
    units (floorPlace u) = u / 2 ^ (u.log2 - 52) * 2 ^ (u.log2 - 52) ∧
      units (floorPlace u + 1) = (u / 2 ^ (u.log2 - 52) + 1) * 2 ^ (u.log2 - 52) := by
  have positive : 0 < 2 ^ (u.log2 - 52) := Nat.two_pow_pos _
  have above : u / 2 ^ (u.log2 - 52) < 2 * binade := by
    rw [Nat.div_lt_iff_lt_mul positive]
    have wide : 2 ^ (u.log2 + 1) ≤ 2 * binade * 2 ^ (u.log2 - 52) := by
      rw [binade, Nat.pow_eq, ← Nat.pow_succ', ← Nat.pow_add]
      exact Nat.pow_le_pow_right (by decide) (by omega)
    exact Nat.lt_of_lt_of_le Nat.lt_log2_self wide
  have filled : u.log2 - 52 = 0 ∨ binade ≤ u / 2 ^ (u.log2 - 52) := by
    rcases Nat.le_total u.log2 52 with short | long
    · exact .inl (Nat.sub_eq_zero_of_le short)
    · right
      rw [Nat.le_div_iff_mul_le positive, binade, Nat.pow_eq, ← Nat.pow_add,
        Nat.add_sub_cancel' long]
      exact Nat.log2_self_le fun zero => by simp [zero] at long
  constructor
  · exact units_count (Nat.le_of_lt above) filled
  · rw [floorPlace, Nat.add_assoc]
    exact units_count above (filled.imp_right Nat.le_succ_of_le)

theorem units_floorPlace (u : Nat) :
    units (floorPlace u) ≤ u ∧ u < units (floorPlace u + 1) := by
  obtain ⟨floor, next⟩ := units_floorPlace_eq u
  rw [floor, next]
  exact ⟨Nat.div_mul_le_self u _, Nat.lt_div_mul_add (Nat.two_pow_pos _) |>.trans_eq (by ring)⟩

/-- Fewer than `2 ^ 53` steps are a number, however wide the steps are. -/
theorem units_floorPlace_exact {m k : Nat} (short : m < 2 ^ 53) :
    units (floorPlace (m * 2 ^ k)) = m * 2 ^ k := by
  have whole : 2 ^ ((m * 2 ^ k).log2 - 52) ∣ m * 2 ^ k := by
    refine Nat.dvd_mul_left_of_dvd (Nat.pow_dvd_pow 2 ?_) m
    rcases Nat.eq_zero_or_pos (m * 2 ^ k) with zero | positive
    · rw [zero, Nat.log2_zero]
      exact Nat.zero_le k
    · have bounded : m * 2 ^ k < 2 ^ (53 + k) := by
        rw [Nat.pow_add]
        exact Nat.mul_lt_mul_of_pos_right short (Nat.two_pow_pos k)
      have log := (Nat.log2_lt positive.ne').mpr bounded
      omega
  rw [(units_floorPlace_eq _).1, Nat.div_mul_cancel whole]

def middle (p q : Nat) : ℚ := (units p + units q : Nat) / (2 * scale : Nat)

/-- A number is nearest to the one at a place: it lies between the midpoints to the two
neighbours, and on a midpoint only when the place is even. -/
def Nearest (place : Nat) (x : ℚ) : Prop :=
  (middle (place - 1) place < x ∨ place % 2 = 0 ∧ middle (place - 1) place = x) ∧
    (x < middle place (place + 1) ∨ place % 2 = 0 ∧ x = middle place (place + 1))

theorem Nearest.above {place : Nat} {x : ℚ} (nearest : Nearest place x) :
    middle (place - 1) place ≤ x := nearest.1.elim le_of_lt fun tie => tie.2.le

theorem Nearest.below {place : Nat} {x : ℚ} (nearest : Nearest place x) :
    x ≤ middle place (place + 1) := nearest.2.elim le_of_lt fun tie => tie.2.le

section Quotient

variable {num den : Nat} (positive : 0 < den) (p q : Nat)
include positive

theorem middle_lt_quotient_iff :
    middle p q < num / den ↔ (units p + units q) * den < 2 * num * scale := by
  have unit : (0 : ℚ) < (2 * scale : Nat) :=
    Nat.cast_pos.mpr (Nat.mul_pos (by decide) scale_pos)
  rw [middle, div_lt_div_iff₀ unit (Nat.cast_pos.mpr positive), ← Nat.cast_mul, ← Nat.cast_mul,
    Nat.cast_lt, Nat.mul_left_comm, Nat.mul_assoc 2 num]

theorem quotient_lt_middle_iff :
    (num : ℚ) / den < middle p q ↔ 2 * num * scale < (units p + units q) * den := by
  have unit : (0 : ℚ) < (2 * scale : Nat) :=
    Nat.cast_pos.mpr (Nat.mul_pos (by decide) scale_pos)
  rw [middle, div_lt_div_iff₀ (Nat.cast_pos.mpr positive) unit, ← Nat.cast_mul, ← Nat.cast_mul,
    Nat.cast_lt, Nat.mul_left_comm, Nat.mul_assoc 2 num]

theorem middle_eq_quotient_iff :
    middle p q = num / den ↔ (units p + units q) * den = 2 * num * scale := by
  have below : middle p q < num / den ↔ _ := middle_lt_quotient_iff positive p q
  have above : (num : ℚ) / den < middle p q ↔ _ := quotient_lt_middle_iff positive p q
  rw [← not_iff_not, ← Ne, ← Ne, Nat.ne_iff_lt_or_gt, ne_iff_lt_or_gt, below]
  exact or_congr_right above

theorem nearest_quotient_iff {place : Nat} : Nearest place (num / den) ↔
    ((units (place - 1) + units place) * den < 2 * num * scale ∨
        place % 2 = 0 ∧ (units (place - 1) + units place) * den = 2 * num * scale) ∧
      (2 * num * scale < (units place + units (place + 1)) * den ∨
        place % 2 = 0 ∧ (units place + units (place + 1)) * den = 2 * num * scale) := by
  rw [Nearest, middle_lt_quotient_iff positive, middle_eq_quotient_iff positive,
    quotient_lt_middle_iff positive, eq_comm (b := middle place (place + 1)),
    middle_eq_quotient_iff positive]

theorem nearestPlace_eq {place : Nat} (nearest : Nearest place (num / den)) :
    nearestPlace num den = place := by
  obtain ⟨fromBelow, fromAbove⟩ := (nearest_quotient_iff positive).mp nearest
  obtain ⟨floor, next⟩ := units_floorPlace (num * scale / den)
  rw [Nat.le_div_iff_mul_le positive] at floor
  rw [Nat.div_lt_iff_lt_mul positive] at next
  generalize low_eq : floorPlace (num * scale / den) = low at floor next
  have double : 2 * num * scale = 2 * (num * scale) := Nat.mul_assoc 2 num scale
  have order {p q : Nat} (lt : p < q) : units p * den < units q * den :=
    Nat.mul_lt_mul_of_pos_right (units_strictMono lt) positive
  have monotone {p q : Nat} (le : p ≤ q) : units p * den ≤ units q * den :=
    Nat.mul_le_mul_right den (units_strictMono.monotone le)
  rw [Nat.add_mul] at fromBelow fromAbove
  have notAbove : low ≤ place := by
    rcases Nat.lt_or_ge place low with above | le
    · have beyond : units (place + 1) * den ≤ units low * den := monotone above
      have wider := order (Nat.lt_add_one place)
      omega
    · exact le
  have notBelow : place ≤ low + 1 := by
    rcases Nat.lt_or_ge (low + 1) place with below | le
    · have within := monotone (Nat.le_sub_one_of_lt below)
      have wider := order (Nat.sub_one_lt_of_lt below)
      omega
    · exact le
  rw [nearestPlace, low_eq, Nat.add_mul]
  rcases Nat.eq_or_lt_of_le notAbove with rfl | below
  · -- Found at its own place: the quotient lies below the midpoint to the next one.
    split
    · rfl
    · split
      · omega
      · split <;> omega
  · obtain rfl : place = low + 1 := by omega
    rw [Nat.add_sub_cancel] at fromBelow
    split
    · omega
    · split
      · rfl
      · split <;> omega

end Quotient

end CacheWatch.Binary64
