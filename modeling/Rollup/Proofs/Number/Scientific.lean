import Rollup.Proofs.Number.Range

/-!
# Doubles of decimal numerals

The double of a numeral is the one nearest to its exact value: what the reader leaves out when an exponent
is far outside the range of doubles does not show (`Double.ofScientific_eq`). So only the value of a numeral
matters, and zeros can be moved between its digits and its exponent (`Double.ofScientific_mul_pow`).
-/

namespace Rollup.Double

/-! ## Fractions -/

/-- A common factor of the two sides of a quotient does not show in its rounding. -/
theorem roundQuotient_mul_right (num den : Nat) {factor : Nat} (h : 0 < factor) :
    roundQuotient (num * factor) (den * factor) = roundQuotient num den := by
  have hmod : 2 * (num * factor % (den * factor)) = 2 * (num % den) * factor := by
    rw [Nat.mul_mod_mul_right, Nat.mul_assoc]
  unfold roundQuotient
  dsimp only
  rw [hmod, Nat.mul_div_mul_right num den h]
  simp only [Nat.mul_lt_mul_right h]

theorem roundUnits_mul_right (num den : Nat) {factor : Nat} (h : 0 < factor) :
    roundUnits (num * factor) (den * factor) = roundUnits num den := by
  unfold roundUnits
  dsimp only
  rw [Nat.mul_div_mul_right num den h, Nat.mul_right_comm den, roundQuotient_mul_right _ _ h]

theorem ofFraction_mul_right (negative : Bool) (num den : Nat) {factor : Nat} (h : 0 < factor) :
    ofFraction negative (num * factor) (den * factor) = ofFraction negative num den := by
  rw [ofFraction, ofFraction, round, round, Nat.mul_right_comm, roundUnits_mul_right _ _ h]

/-- Only the value of a fraction matters. -/
theorem ofFraction_congr (negative : Bool) {num den num' den' : Nat} (hden : 0 < den) (hden' : 0 < den')
    (h : num * den' = num' * den) : ofFraction negative num den = ofFraction negative num' den' := by
  rw [← ofFraction_mul_right negative num den hden', ← ofFraction_mul_right negative num' den' hden, h,
    Nat.mul_comm den]

/-! ## Beyond the range of doubles -/

theorem ofFraction_of_large (negative : Bool) {num den k : Nat} (hk : 311 ≤ k) (hden : 0 < den)
    (h : 10 ^ k * den ≤ num) : ofFraction negative num den = infinite negative := by
  have hlimit : ∃ j ≤ 311, limit ≤ Nat.pow 10 j := ⟨311, le_rfl, by decide +kernel⟩
  obtain ⟨j, hj, hlimit⟩ := hlimit
  have hle : limit ≤ 10 ^ k := hlimit.trans (Nat.pow_le_pow_right (by decide) (hj.trans hk))
  exact ofFraction_eq_infinite negative hden ((Nat.mul_le_mul_right den hle).trans h)

theorem ofFraction_of_small (negative : Bool) {num den : Nat} (h : 2 * (num * unitsPerOne) < den) :
    ofFraction negative num den = ofUnits negative 0 := by
  have hquotient : num * unitsPerOne / den = 0 := Nat.div_eq_of_lt (by omega)
  have hremainder : num * unitsPerOne % den = num * unitsPerOne := Nat.mod_eq_of_lt (by omega)
  have hround : roundUnits (num * unitsPerOne) den = 0 := by
    simp [roundUnits, roundQuotient, hquotient, hremainder, h]
  rw [ofFraction, round, hround]

/-! ## Numerals -/

/-- A numeral far below the least double: powers of ten are above those of eight. -/
theorem mul_unitsPerOne_lt_ten_pow {digits n : Nat} (h : digits.log2 + 1 + 1080 < n) :
    2 * (digits * unitsPerOne) < 10 ^ n := by
  have hunits : ∃ e, unitsPerOne = 2 ^ e ∧ e ≤ 1080 := by
    have he : 1074 ≤ 1080 := by decide
    unfold unitsPerOne
    generalize 1074 = e at he ⊢
    exact ⟨e, Nat.pow_eq, he⟩
  obtain ⟨e, hunits, he⟩ := hunits
  have hdigits : digits * unitsPerOne < 2 ^ (digits.log2 + 1) * 2 ^ e := by
    rw [hunits]
    exact Nat.mul_lt_mul_of_pos_right Nat.lt_log2_self (Nat.two_pow_pos e)
  calc 2 * (digits * unitsPerOne) < 2 * (2 ^ (digits.log2 + 1) * 2 ^ e) := by omega
    _ = 2 ^ (digits.log2 + 1 + e + 1) := by rw [← Nat.pow_add, Nat.mul_comm 2, Nat.pow_succ]
    _ ≤ 2 ^ (3 * n) := Nat.pow_le_pow_right (by decide) (by omega)
    _ = 8 ^ n := Nat.pow_mul 2 3 n
    _ ≤ 10 ^ n := Nat.pow_le_pow_left (by decide) n

/-- The double of a numeral is the one nearest to its exact value. -/
theorem ofScientific_eq (negative : Bool) (digits : Nat) (exponent : Int) :
    ofScientific negative digits exponent =
      ofFraction negative (digits * 10 ^ exponent.toNat) (10 ^ (-exponent).toNat) := by
  have hden : 0 < 10 ^ (-exponent).toNat := Nat.pow_pos (by decide)
  unfold ofScientific
  split_ifs with hzero hlarge hsmall hwhole
  · subst hzero
    have hbelow : 2 * (0 * 10 ^ exponent.toNat * unitsPerOne) < 10 ^ (-exponent).toNat := by simp
    exact (ofFraction_of_small negative hbelow).symm
  · have hone : (-exponent).toNat = 0 := by omega
    have habove : 10 ^ exponent.toNat * 10 ^ (-exponent).toNat ≤ digits * 10 ^ exponent.toNat := by
      rw [hone, Nat.pow_zero, Nat.mul_one]
      exact Nat.le_mul_of_pos_left _ (Nat.pos_of_ne_zero hzero)
    exact (ofFraction_of_large negative (by omega) hden habove).symm
  · have hone : exponent.toNat = 0 := by omega
    have hbelow : 2 * (digits * unitsPerOne) < 10 ^ (-exponent).toNat :=
      mul_unitsPerOne_lt_ten_pow (by omega)
    rw [hone, Nat.pow_zero, Nat.mul_one]
    exact (ofFraction_of_small negative hbelow).symm
  · have hone : (-exponent).toNat = 0 := by omega
    rw [hone, Nat.pow_zero, Nat.pow_eq]
  · have hone : exponent.toNat = 0 := by omega
    rw [hone, Nat.pow_zero, Nat.mul_one, Nat.pow_eq]

theorem ofScientific_mul_pow (negative : Bool) (digits zeros : Nat) (exponent : Int) :
    ofScientific negative (digits * 10 ^ zeros) exponent =
      ofScientific negative digits (exponent + zeros) := by
  have hpow : digits * 10 ^ zeros * 10 ^ exponent.toNat * 10 ^ (-(exponent + zeros)).toNat =
      digits * 10 ^ (exponent + zeros).toNat * 10 ^ (-exponent).toNat := by
    simp only [Nat.mul_assoc, ← Nat.pow_add]
    congr 2
    omega
  rw [ofScientific_eq, ofScientific_eq]
  exact ofFraction_congr negative (Nat.pow_pos (by decide)) (Nat.pow_pos (by decide)) hpow

end Rollup.Double
