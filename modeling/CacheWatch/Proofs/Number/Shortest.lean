import CacheWatch.Number.Shortest
import CacheWatch.Proofs.Number.Place
import Mathlib.Algebra.Order.Field.Power
import Mathlib.Algebra.Order.Floor.Semifield
import Mathlib.Data.Rat.Floor
import Mathlib.Tactic.FieldSimp
import Mathlib.Tactic.Linarith

/-! The shortest decimal of a number rounds to it and has few digits.
The search ends on a grid that is finer than half a step, so what it finds rounds to the number. It
starts above the leading digit and gives up after twenty grids, so the digits fit a word.
-/
namespace CacheWatch.Binary64

-- Its power of two is never computed.
attribute [local irreducible] scale

namespace Decimal

def value (d : Decimal) : ℚ := d.digits * 10 ^ d.exponent

theorem scaled_pos (d : Decimal) : 0 < d.scaled.2 := by
  unfold scaled
  split
  · exact Nat.one_pos
  · exact Nat.pow_pos (by decide)

theorem value_eq_scaled (d : Decimal) : d.value = d.scaled.1 / d.scaled.2 := by
  obtain ⟨digits, exponent⟩ := d
  unfold value scaled
  split
  case isTrue whole =>
    obtain ⟨k, rfl⟩ := Int.eq_ofNat_of_zero_le whole
    simp [Nat.pow_eq]
  case isFalse negative =>
    obtain ⟨k, rfl⟩ := Int.exists_eq_neg_ofNat (Int.le_of_lt (Int.not_le.mp negative))
    simp [Nat.pow_eq, div_eq_mul_inv]

theorem roundsTo_iff {d : Decimal} {place : Nat} : d.roundsTo place ↔ Nearest place d.value := by
  rw [value_eq_scaled, nearest_quotient_iff d.scaled_pos]
  unfold roundsTo
  simp only
  split <;> rw [Bool.and_eq_true, decide_eq_true_eq, decide_eq_true_eq] <;> omega

theorem stripped_value (n : Nat) (d : Decimal) : (stripped n d).value = d.value := by
  induction n generalizing d with
  | zero => rfl
  | succ n ih =>
    unfold stripped
    split
    case isTrue trailing =>
      have whole : d.digits / 10 * 10 = d.digits := by
        simp only [Bool.and_eq_true, decide_eq_true_eq] at trailing
        omega
      rw [ih, value, value, zpow_add_one₀ (by norm_num), mul_comm ((10 : ℚ) ^ _), ← mul_assoc]
      congr 1
      exact_mod_cast whole
    case isFalse => rfl

theorem stripped_digits_le (n : Nat) (d : Decimal) : (stripped n d).digits ≤ d.digits := by
  induction n generalizing d with
  | zero => exact Nat.le_refl _
  | succ n ih =>
    unfold stripped
    split
    · exact (ih _).trans (Nat.div_le_self _ _)
    · exact Nat.le_refl _

end Decimal

def real (place : Nat) : ℚ := units place / scale

theorem scale_cast_pos : (0 : ℚ) < scale := Nat.cast_pos.mpr scale_pos

theorem real_nonneg (place : Nat) : 0 ≤ real place :=
  div_nonneg (Nat.cast_nonneg _) scale_cast_pos.le

theorem middle_succ (place : Nat) :
    middle place (place + 1) = real place + step place / (2 * scale) := by
  have positive := scale_cast_pos
  rw [middle, real, units_succ, Nat.cast_add, Nat.cast_add, Nat.cast_mul, Nat.cast_ofNat]
  field_simp
  ring

theorem middle_pred_le (place : Nat) : middle (place - 1) place ≤ real place := by
  have positive := scale_cast_pos
  have below : (units (place - 1) : ℚ) ≤ units place :=
    Nat.cast_le.mpr (units_strictMono.monotone (Nat.sub_le place 1))
  rw [middle, real, Nat.cast_mul, Nat.cast_add, Nat.cast_ofNat,
    div_le_div_iff₀ (by positivity) positive]
  nlinarith

section Grid

variable {place : Nat} {exponent : Int} {d : Decimal}

theorem floorAt_eq (place : Nat) (exponent : Int) :
    floorAt place exponent = ⌊real place / 10 ^ exponent⌋₊ := by
  unfold floorAt real
  split
  case isTrue whole =>
    obtain ⟨k, rfl⟩ := Int.eq_ofNat_of_zero_le whole
    rw [← @Nat.floor_div_eq_div ℚ]
    congr 1
    rw [Nat.cast_mul, Nat.pow_eq, Nat.cast_pow, div_div]
    simp
  case isFalse negative =>
    obtain ⟨k, rfl⟩ := Int.exists_eq_neg_ofNat (Int.le_of_lt (Int.not_le.mp negative))
    rw [← @Nat.floor_div_eq_div ℚ]
    congr 1
    rw [Nat.cast_mul, Nat.pow_eq, Nat.cast_pow, zpow_neg, div_inv_eq_mul, mul_div_right_comm]
    simp

theorem floorAt_bounds (place : Nat) (exponent : Int) :
    real place < Decimal.value ⟨floorAt place exponent + 1, exponent⟩ ∧
      Decimal.value ⟨floorAt place exponent + 1, exponent⟩ ≤ real place + 10 ^ exponent := by
  have grid : (0 : ℚ) < 10 ^ exponent := by positivity
  have below := Nat.floor_le (div_nonneg (real_nonneg place) grid.le)
  have above := Nat.lt_floor_add_one (real place / 10 ^ exponent)
  rw [← floorAt_eq, le_div_iff₀ grid] at below
  rw [← floorAt_eq, div_lt_iff₀ grid] at above
  rw [Decimal.value, Nat.cast_add, Nat.cast_one]
  exact ⟨above, by linarith⟩

theorem onGrid_cases (found : onGrid place exponent = some d) :
    d.digits ≠ 0 ∧ d.roundsTo place ∧ d.digits ≤ floorAt place exponent + 1 := by
  unfold onGrid at found
  simp only at found
  split at found
  case h_1 low high =>
    rw [Bool.and_eq_true, decide_eq_true_eq] at low
    rw [← Option.some.inj found]
    split
    · exact ⟨low.1, low.2, Nat.le_succ _⟩
    · exact ⟨Nat.succ_ne_zero _, high, Nat.le_refl _⟩
  case h_2 low _ =>
    rw [Bool.and_eq_true, decide_eq_true_eq] at low
    rw [← Option.some.inj found]
    exact ⟨low.1, low.2, Nat.le_succ _⟩
  case h_3 _ high =>
    rw [← Option.some.inj found]
    exact ⟨Nat.succ_ne_zero _, high, Nat.le_refl _⟩
  case h_4 => cases found

/-- A grid whose steps are shorter than half a step of the numbers has a decimal that rounds to
the number: the one above it. -/
theorem onGrid_isSome (fine : (10 : ℚ) ^ exponent < step place / (2 * scale)) :
    (onGrid place exponent).isSome := by
  obtain ⟨above, close⟩ := floorAt_bounds place exponent
  have high : Decimal.roundsTo ⟨floorAt place exponent + 1, exponent⟩ place := by
    refine Decimal.roundsTo_iff.mpr ⟨.inl ((middle_pred_le place).trans_lt above), .inl ?_⟩
    rw [middle_succ]
    calc
      _ ≤ real place + 10 ^ exponent := close
      _ < real place + step place / (2 * scale) := add_lt_add_right fine (real place)
  unfold onGrid
  simp only [high]
  split <;> first | rfl | contradiction

theorem search_nearest (n : Nat) (fine : (10 : ℚ) ^ (exponent - n) < step place / (2 * scale)) :
    Nearest place (search place (n + 1) exponent).value := by
  induction n generalizing exponent with
  | zero =>
    obtain ⟨d, found⟩ := Option.isSome_iff_exists.mp (onGrid_isSome (by simpa using fine))
    rw [search, found]
    exact Decimal.roundsTo_iff.mp (onGrid_cases found).2.1
  | succ n ih =>
    rw [search]
    cases found : onGrid place exponent with
    | some d => exact Decimal.roundsTo_iff.mp (onGrid_cases found).2.1
    | none => exact ih (by rwa [Nat.cast_succ, add_comm, ← sub_sub] at fine)

theorem search_digits_le {limit : Nat} (n : Nat)
    (bounded : ∀ k : Nat, k ≤ n → floorAt place (exponent - k) ≤ limit) :
    (search place n exponent).digits ≤ limit + 1 := by
  have here : floorAt place exponent ≤ limit := by simpa using bounded 0 (Nat.zero_le n)
  induction n generalizing exponent with
  | zero => exact Nat.le_succ_of_le here
  | succ n ih =>
    have finer (k : Nat) (le : k ≤ n) : floorAt place (exponent - 1 - k) ≤ limit := by
      have bound := bounded (k + 1) (Nat.succ_le_succ le)
      rwa [Nat.cast_succ, add_comm, ← sub_sub] at bound
    rw [search]
    cases found : onGrid place exponent with
    | some d => exact (onGrid_cases found).2.2.trans (Nat.succ_le_succ here)
    | none => exact ih finer (by simpa using finer 0 (Nat.zero_le n))

end Grid

theorem lt_pow_length_toDigits (n : Nat) : n < 10 ^ (Nat.toDigits 10 n).length :=
  (Nat.length_toDigits_le_iff (by decide) Nat.length_toDigits_pos).mp (Nat.le_refl _)

theorem pow_length_toDigits_le {n : Nat} (nonzero : n ≠ 0) :
    10 ^ ((Nat.toDigits 10 n).length - 1) ≤ n := by
  rcases Nat.eq_zero_or_pos ((Nat.toDigits 10 n).length - 1) with single | several
  · rw [single]
    exact Nat.pos_of_ne_zero nonzero
  · have longer : ¬ (Nat.toDigits 10 n).length ≤ (Nat.toDigits 10 n).length - 1 := by omega
    rw [Nat.length_toDigits_le_iff (by decide) several] at longer
    exact Nat.not_lt.mp longer

theorem units_pos {place : Nat} (nonzero : place ≠ 0) : 0 < units place := by
  have zero : units 0 = 0 := rfl
  rw [← zero]
  exact units_strictMono (Nat.pos_of_ne_zero nonzero)

theorem leadingExponent_le {place : Nat} (nonzero : place ≠ 0) :
    (10 : ℚ) ^ (leadingExponent place - 1) ≤ 2 * real place := by
  have positive := scale_cast_pos
  have counted := units_pos nonzero
  unfold leadingExponent real
  simp only
  split
  case isTrue small =>
    -- The number of digits of the reciprocal, which is rounded down.
    have short := lt_pow_length_toDigits (scale / (units place + 1))
    generalize (Nat.toDigits 10 (scale / (units place + 1))).length = k at short ⊢
    rw [Nat.div_lt_iff_lt_mul (Nat.succ_pos _)] at short
    have doubled : scale ≤ 10 ^ k * (2 * units place) := by
      exact short.le.trans (Nat.mul_le_mul_left _ (by omega))
    have doubled : (scale : ℚ) ≤ 10 ^ k * (2 * units place) := by exact_mod_cast doubled
    rw [small, show ((Nat.toDigits 10 0).length : Int) - k - 1 = -k by
      rw [show (Nat.toDigits 10 0).length = 1 from rfl]; omega, zpow_neg, zpow_natCast,
      ← mul_div_assoc, le_div_iff₀ positive, inv_mul_le_iff₀ (by positivity)]
    exact doubled
  case isFalse large =>
    have long := pow_length_toDigits_le large
    have occupied : 0 < (Nat.toDigits 10 (units place / scale)).length := Nat.length_toDigits_pos
    generalize (Nat.toDigits 10 (units place / scale)).length = k at long occupied ⊢
    rw [Nat.le_div_iff_mul_le scale_pos] at long
    have long : (10 : ℚ) ^ (k - 1) * scale ≤ units place := by exact_mod_cast long
    rw [show (k : Int) - 0 - 1 = (k - 1 : Nat) by omega, zpow_natCast, ← mul_div_assoc,
      le_div_iff₀ positive]
    have nonneg : (0 : ℚ) ≤ units place := Nat.cast_nonneg _
    linarith

theorem real_le_pow (place : Nat) : real place ≤ 10 ^ leadingExponent place := by
  have positive := scale_cast_pos
  unfold leadingExponent real
  simp only
  split
  case isTrue small =>
    have below : units place < scale := (Nat.div_eq_zero_iff_lt scale_pos).mp small
    have some : scale / (units place + 1) ≠ 0 :=
      (Nat.div_pos below (Nat.succ_pos _)).ne'
    have long := pow_length_toDigits_le some
    have occupied : 0 < (Nat.toDigits 10 (scale / (units place + 1))).length :=
      Nat.length_toDigits_pos
    generalize (Nat.toDigits 10 (scale / (units place + 1))).length = k at long occupied ⊢
    rw [Nat.le_div_iff_mul_le (Nat.succ_pos _)] at long
    have long : (10 : ℚ) ^ (k - 1) * (units place + 1) ≤ scale := by exact_mod_cast long
    rw [small, show ((Nat.toDigits 10 0).length : Int) - k = -(k - 1 : Nat) by
      rw [show (Nat.toDigits 10 0).length = 1 from rfl]; omega, zpow_neg, zpow_natCast,
      div_le_iff₀ positive, le_inv_mul_iff₀ (by positivity)]
    exact (mul_le_mul_of_nonneg_left (by linarith) (by positivity)).trans long
  case isFalse large =>
    have short := lt_pow_length_toDigits (units place / scale)
    generalize (Nat.toDigits 10 (units place / scale)).length = k at short ⊢
    rw [Nat.div_lt_iff_lt_mul scale_pos] at short
    rw [sub_zero, zpow_natCast, div_le_iff₀ positive]
    exact_mod_cast short.le

theorem nearest_zero : Nearest 0 0 := by
  have zero : units 0 = 0 := rfl
  have one : units 1 = 1 := rfl
  have positive := scale_cast_pos
  refine ⟨.inr ⟨rfl, ?_⟩, .inl ?_⟩
  · rw [middle, zero, Nat.cast_zero, zero_div]
  · rw [middle, zero, one, Nat.cast_mul]
    positivity

theorem shortest_nearest (x : Binary64) : Nearest x.place x.shortest.value := by
  rcases Nat.eq_zero_or_pos x.place with zero | some
  · rw [shortest, if_pos zero, zero, Decimal.value, Nat.cast_zero, zero_mul]
    exact nearest_zero
  have positive := scale_cast_pos
  have lead := leadingExponent_le some.ne'
  have counted : (units x.place : ℚ) < 2 * 2 ^ 52 * step x.place := by
    have counted := units_lt_step x.place
    rw [binade, Nat.pow_eq] at counted
    exact_mod_cast counted
  have fine : (10 : ℚ) ^ (leadingExponent x.place + 1 - (19 : Nat)) <
      step x.place / (2 * scale) := by
    have apart : leadingExponent x.place + 1 - (19 : Nat) = leadingExponent x.place - 1 + -17 := by
      omega
    rw [apart, zpow_add₀ (by norm_num)]
    calc
      _ ≤ 2 * real x.place * 10 ^ (-17 : Int) := by gcongr
      _ < step x.place / (2 * scale) := by
        rw [real, lt_div_iff₀ (by positivity)]
        field_simp
        norm_num
        linarith
  rw [shortest, if_neg some.ne', Decimal.stripped_value]
  exact search_nearest 19 fine

theorem shortest_digits_lt (x : Binary64) : x.shortest.digits < 2 ^ 64 := by
  have grids (k : Nat) (le : k ≤ 20) :
      floorAt x.place (leadingExponent x.place + 1 - k) ≤ 10 ^ 19 := by
    rw [floorAt_eq]
    refine Nat.floor_le_of_le ((div_le_iff₀ (by positivity)).mpr ?_)
    calc
      _ ≤ (10 : ℚ) ^ leadingExponent x.place := real_le_pow x.place
      _ ≤ (10 : ℚ) ^ ((19 : Int) + (leadingExponent x.place + 1 - k)) :=
        zpow_le_zpow_right₀ (by norm_num) (by omega)
      _ = _ := by
        rw [zpow_add₀ (by norm_num)]
        norm_cast
  rw [shortest]
  split
  · exact Nat.two_pow_pos 64
  · calc
      _ ≤ _ := Decimal.stripped_digits_le 20 _
      _ ≤ 10 ^ 19 + 1 := search_digits_le 20 grids
      _ < 2 ^ 64 := by norm_num

end CacheWatch.Binary64
