import CacheWatch.Proofs.Number.Shortest

/-! Decimals that are read with one rounding.
Whole numbers of less than 54 bits and powers of ten up to the 22nd are numbers themselves. So only
the product or the quotient is rounded where both stay below, and the result is the nearest number.
-/
namespace CacheWatch.Binary64

-- Its power of two is never computed.
attribute [local irreducible] scale

def IsExact (n : Nat) : Prop :=
  ∃ x : Binary64, ofQuotient false n 1 = some x ∧ x.negative = false ∧ x.magnitude = n * scale

theorem nearestPlace_of_exact {n : Nat} (exact : units (floorPlace (n * scale)) = n * scale) :
    units (nearestPlace n 1) = n * scale := by
  have above : units (floorPlace (n * scale)) < units (floorPlace (n * scale) + 1) :=
    units_strictMono (Nat.lt_succ_self _)
  have below : 2 * n * scale <
      units (floorPlace (n * scale)) + units (floorPlace (n * scale) + 1) := by
    rw [Nat.mul_assoc, exact]
    omega
  have place : nearestPlace n 1 = floorPlace (n * scale) := by
    rw [nearestPlace, Nat.div_one, Nat.mul_one]
    exact if_pos below
  rw [place, exact]

theorem lt_bound_of_units_lt {place : Nat} (small : units place < 2 ^ 75 * scale) :
    place < bound := by
  obtain ⟨k, size, power⟩ := scale_eq
  have last : 2 ^ 75 * scale ≤ units bound := by
    have place : bound = (k + 972) * binade + binade := by
      rw [size]
      rfl
    rw [place, units_count (by omega) (.inr (Nat.le_refl _)), power, binade, Nat.pow_eq,
      ← Nat.pow_add, ← Nat.pow_add]
    exact Nat.pow_le_pow_right (by decide) (by omega)
  exact units_strictMono.lt_iff_lt.mp (Nat.lt_of_lt_of_le small last)

theorem isExact_mul_pow {m k : Nat} (short : m < 2 ^ 53) (near : k ≤ 22) :
    IsExact (m * 2 ^ k) := by
  have exact : units (nearestPlace (m * 2 ^ k) 1) = m * 2 ^ k * scale := by
    obtain ⟨e, -, power⟩ := scale_eq
    refine nearestPlace_of_exact ?_
    rw [power, Nat.mul_assoc, ← Nat.pow_add]
    exact units_floorPlace_exact short
  have bounded : m * 2 ^ k < 2 ^ 75 := by
    calc
      m * 2 ^ k < 2 ^ 53 * 2 ^ k := Nat.mul_lt_mul_of_pos_right short (Nat.two_pow_pos k)
      _ = 2 ^ (53 + k) := (Nat.pow_add ..).symm
      _ ≤ 2 ^ 75 := Nat.pow_le_pow_right (by decide) (by omega)
  have finite : nearestPlace (m * 2 ^ k) 1 < bound := by
    refine lt_bound_of_units_lt ?_
    rw [exact]
    exact Nat.mul_lt_mul_of_pos_right bounded scale_pos
  exact ⟨⟨false, _, finite⟩, dif_pos finite, rfl, exact⟩

theorem isExact_of_lt {n : Nat} (short : n < 2 ^ 53) : IsExact n := by
  have exact : IsExact (n * 2 ^ 0) := isExact_mul_pow short (Nat.zero_le 22)
  rwa [Nat.pow_zero, Nat.mul_one] at exact

theorem isExact_pow {n : Nat} (near : n ≤ 22) : IsExact (10 ^ n) := by
  have odd : 5 ^ n < 2 ^ 53 :=
    (Nat.pow_le_pow_right (by decide) near).trans_lt (by decide)
  rw [show 10 = 5 * 2 from rfl, Nat.mul_pow]
  exact isExact_mul_pow odd near

theorem ofQuotient_eq {x : Binary64} {num den : Nat} (positive : 0 < den)
    (nearest : Nearest x.place (num / den)) : ofQuotient x.negative num den = some x := by
  have place := nearestPlace_eq positive nearest
  unfold ofQuotient
  simp only [place]
  exact dif_pos x.finite

section Short

variable {x d : Binary64} {digits n : Nat} {exponent : Int} (near : n ≤ 22)
  (sign : x.negative = false) (unsigned : d.negative = false)
  (digit : d.magnitude = digits * scale)

include near sign unsigned digit

theorem scaledUp?_exact (nearest : Nearest x.place (digits * 10 ^ n)) :
    d.scaledUp? n = some x := by
  obtain ⟨p, power, positive, count⟩ := isExact_pow near
  have product : Nearest x.place
      ((digits * scale * (10 ^ n * scale) : Nat) / (scale * scale : Nat)) := by
    have whole := scale_cast_pos
    rw [Nat.mul_mul_mul_comm, Nat.cast_mul, mul_div_cancel_right₀]
    · exact_mod_cast nearest
    · rw [Nat.cast_mul]
      positivity
  have inside : n ≤ lastPower := Nat.le_trans near (by decide)
  rw [scaledUp?, if_pos inside, powerOfTen?, Nat.pow_eq, power, Option.bind_some, mul?, unsigned,
    positive, digit, count, bne_self_eq_false, ← sign]
  exact ofQuotient_eq (Nat.mul_pos scale_pos scale_pos) product

theorem scaledDown?_exact (nearest : Nearest x.place (digits / 10 ^ n)) :
    d.scaledDown? n = some x := by
  obtain ⟨p, power, positive, count⟩ := isExact_pow near
  have quotient : Nearest x.place ((digits * scale : Nat) / (10 ^ n * scale : Nat)) := by
    have whole := scale_cast_pos
    rw [Nat.cast_mul, Nat.cast_mul, mul_div_mul_right _ _ whole.ne', Nat.cast_pow]
    exact_mod_cast nearest
  have direct : (n - 1) / lastPower = 0 := Nat.div_eq_of_lt (by rw [lastPower]; omega)
  rw [scaledDown?, direct, worn?, Option.bind_some, Nat.zero_mul, Nat.sub_zero, powerOfTen?,
    Nat.pow_eq, power, Option.bind_some, div?, unsigned, positive, digit, count,
    bne_self_eq_false, ← sign]
  exact ofQuotient_eq (Nat.mul_pos (by positivity) scale_pos) quotient

end Short

theorem ofParts_of_nearest {x : Binary64} {digits : Nat} {exponent : Int} (short : digits < 2 ^ 53)
    (near : exponent.natAbs ≤ 22) (nearest : Nearest x.place (Decimal.value ⟨digits, exponent⟩)) :
    ofParts x.negative digits exponent = some x := by
  obtain ⟨d, read, unsigned, digit⟩ := isExact_of_lt short
  -- The sign is put on at the end.
  let unsignedX : Binary64 := { x with negative := false }
  have scaled : (if 0 ≤ exponent then d.scaledUp? exponent.toNat
      else d.scaledDown? (-exponent).toNat) = some unsignedX := by
    split
    case isTrue whole =>
      obtain ⟨n, rfl⟩ := Int.eq_ofNat_of_zero_le whole
      exact scaledUp?_exact near rfl unsigned digit (by simpa [Decimal.value] using nearest)
    case isFalse negative =>
      obtain ⟨n, rfl⟩ := Int.exists_eq_neg_ofNat (Int.le_of_lt (Int.not_le.mp negative))
      rw [Int.natAbs_neg, Int.natAbs_natCast] at near
      rw [Int.neg_neg, Int.toNat_natCast]
      exact scaledDown?_exact near rfl unsigned digit
        (by simpa [Decimal.value, div_eq_mul_inv] using nearest)
  rw [ofParts, read, Option.bind_some, scaled, Option.map_some]

end CacheWatch.Binary64
