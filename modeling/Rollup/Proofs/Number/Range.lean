import Rollup.Proofs.Number.Rounding

/-!
# The range of doubles

A fraction rounds to a finite double exactly as long as it is below `2 ^ 1024 - 2 ^ 970`
(`Double.isFinite_ofFraction_iff`).
-/

namespace Rollup

namespace Double
variable {num den q e : Nat}

/-- The least magnitude that rounds to no finite double: halfway from the greatest one to `2 ^ 1024`. -/
def limit : Nat := 2 ^ 1024 - 2 ^ 970

/-- From half a unit above an odd number on, a quotient is rounded up: a half goes to the even side. -/
theorem roundQuotient_le_iff_of_odd (hden : 0 < den) (hq : q % 2 = 1) :
    roundQuotient num den ≤ q ↔ 2 * num < (2 * q + 1) * den := by
  have hsplit := Nat.div_add_mod num den
  have hmod := Nat.mod_lt num hden
  have hmul : (2 * q + 1) * den = 2 * (den * q) + den := by
    rw [Nat.add_mul, Nat.one_mul, Nat.mul_assoc, Nat.mul_comm q]
  rw [hmul]
  unfold roundQuotient
  dsimp only
  rcases Nat.lt_trichotomy (num / den) q with hlt | heq | hgt
  · have hle : den * (num / den + 1) ≤ den * q := Nat.mul_le_mul_left den hlt
    rw [Nat.mul_add, Nat.mul_one] at hle
    refine iff_of_true ?_ (by omega)
    split_ifs <;> omega
  · rw [heq] at hsplit ⊢
    split_ifs <;> omega
  · have hle : den * (q + 1) ≤ den * (num / den) := Nat.mul_le_mul_left den hgt
    rw [Nat.mul_add, Nat.mul_one] at hle
    refine iff_of_false ?_ (by omega)
    split_ifs <;> omega

/-- What rounds to less than a power of two, below which doubles lie `2 ^ e` apart. -/
theorem roundUnits_lt_two_pow_iff (hden : 0 < den) :
    roundUnits num den < 2 ^ (53 + e) ↔ 2 * num < (2 ^ 54 - 1) * (den * 2 ^ e) := by
  have hpos : 0 < den * 2 ^ e := Nat.mul_pos hden (Nat.two_pow_pos e)
  have hscale (j : Nat) : den * 2 ^ (j + e) = 2 ^ j * (den * 2 ^ e) := by
    rw [Nat.pow_add, Nat.mul_left_comm]
  have hbelow {j : Nat} : num / den < 2 ^ (j + e) ↔ num < 2 ^ j * (den * 2 ^ e) := by
    rw [Nat.div_lt_iff_lt_mul hden, Nat.mul_comm, hscale]
  have h52 := @hbelow 52
  have h53 := @hbelow 53
  rcases Nat.lt_or_ge (num / den) (2 ^ (52 + e)) with hsmall | hlarge
  · have hround := roundUnits_le_two_pow hsmall
    have hlt : 2 ^ (52 + e) < 2 ^ (53 + e) := Nat.pow_lt_pow_right (by decide) (by omega)
    have hnum := h52.1 hsmall
    generalize den * 2 ^ e = unit at *
    exact iff_of_true (Nat.lt_of_le_of_lt hround hlt) (by omega)
  · rcases Nat.lt_or_ge (num / den) (2 ^ (53 + e)) with hlt | hge
    · -- The quotient has 53 + e binary digits, and of these 53 are kept.
      have hlog : (num / den).log2 = 52 + e := by
        have hne : num / den ≠ 0 := by
          have := Nat.two_pow_pos (52 + e)
          omega
        refine (Nat.log2_eq_iff hne).2 ⟨hlarge, ?_⟩
        rwa [show 52 + e + 1 = 53 + e by omega]
      have hround : roundUnits num den = roundQuotient num (den * 2 ^ e) * 2 ^ e := by
        unfold roundUnits
        rw [hlog, Nat.add_sub_cancel_left]
        rfl
      rw [hround, Nat.pow_add, Nat.mul_lt_mul_right (Nat.two_pow_pos e), ← Nat.le_sub_one_iff_lt (by decide),
        roundQuotient_le_iff_of_odd hpos (by decide)]
      rfl
    · have hround := two_pow_le_roundUnits hge
      have hnum := mt h53.2 (Nat.not_lt.2 hge)
      generalize den * 2 ^ e = unit at *
      exact iff_of_false (Nat.not_lt.2 hround) (by omega)

/-- A fraction has a finite nearest double as long as it is below the limit. -/
theorem isFinite_ofFraction_iff (negative : Bool) (hden : 0 < den) :
    (ofFraction negative num den).isFinite ↔ num < limit * den := by
  have hlimit : (2 ^ 54 - 1) * 2 ^ 2045 = 2 * (limit * unitsPerOne) := by decide +kernel
  have hbound : (2 ^ 54 - 1) * (den * 2 ^ 2045) = 2 * (limit * den * unitsPerOne) := by
    rw [Nat.mul_left_comm, hlimit, Nat.mul_right_comm limit, Nat.mul_left_comm den, Nat.mul_comm den]
  have hpow : Nat.pow 2 2098 = 2 ^ (53 + 2045) := by decide +kernel
  have hround : roundUnits (num * unitsPerOne) den < Nat.pow 2 2098 ↔ num < limit * den := by
    rw [hpow, roundUnits_lt_two_pow_iff hden, hbound, Nat.mul_lt_mul_left (by decide),
      Nat.mul_lt_mul_right unitsPerOne_pos]
  have hdvd := dvd_roundUnits (num * unitsPerOne) den
  unfold ofFraction round ofUnits
  split_ifs with h
  · exact iff_of_true rfl (hround.1 h.1)
  · refine iff_of_false (fun hfinite => ?_) fun hlt => h ⟨hround.2 hlt, hdvd⟩
    cases hfinite

theorem ofFraction_eq_infinite (negative : Bool) (hden : 0 < den) (h : limit * den ≤ num) :
    ofFraction negative num den = infinite negative := by
  have hinfinite := mt (isFinite_ofFraction_iff negative hden).1 (Nat.not_lt.2 h)
  unfold ofFraction round ofUnits at hinfinite ⊢
  split_ifs at hinfinite ⊢
  · exact absurd rfl hinfinite
  · rfl

/-- An integer has a finite nearest double as long as its magnitude is below the limit. -/
theorem isFinite_ofInt_iff (n : Int) : (ofInt n).isFinite ↔ n.natAbs < limit := by
  rw [ofInt, isFinite_ofFraction_iff _ Nat.one_pos, Nat.mul_one]

end Double

end Rollup
