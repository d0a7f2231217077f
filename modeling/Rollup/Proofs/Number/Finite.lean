import Rollup.Proofs.Number.Order
import Rollup.Proofs.Number.Scientific

/-!
# Finite numbers

Infinities are sorted out where a double or a text is read as a number, and integers are finite anyway. Only
the double of a decimal number with a fraction is taken as it is, so that a cell stands for a finite number
unless it holds such a decimal number beyond the range of doubles (`Value.number?_isFinite_iff`).
-/

namespace Rollup

/-- A decimal number with a fraction that is too large for a double. -/
inductive Decimal.Outgrows : Decimal → Prop
  | fraction {negative : Bool} {coefficient : Nat} {exponent : Int}
      (hfraction : ¬ 10 ^ (-exponent).toNat ∣ coefficient)
      (hlarge : Double.limit * 10 ^ (-exponent).toNat ≤ coefficient) :
      Outgrows (finite negative coefficient exponent)

/-- A cell with a decimal number that is too large for a double, though its fraction calls for one. -/
inductive Value.Outgrows : Value → Prop
  | decimal {d : Decimal} (h : d.Outgrows) : Outgrows (.decimal d)

namespace Decimal
variable {negative : Bool} {coefficient : Nat} {exponent : Int}

theorem toInt?_eq_none_iff :
    (finite negative coefficient exponent).toInt? = none ↔ ¬ 10 ^ (-exponent).toNat ∣ coefficient := by
  unfold toInt?
  dsimp only
  split_ifs with hzero hwhole hshort hdvd
  · exact iff_of_false nofun (not_not_intro (hzero ▸ Nat.dvd_zero _))
  · have hnone : (-exponent).toNat = 0 := by omega
    rw [hnone, Nat.pow_zero]
    exact iff_of_false nofun (not_not_intro (Nat.one_dvd _))
  · -- A number with fewer digits than places is below one.
    have hlt : coefficient < 10 ^ (-exponent).toNat :=
      (Nat.length_toDigits_le_iff (by decide) (by omega)).1 (Nat.le_of_lt hshort)
    exact iff_of_true rfl fun hdvd => absurd (Nat.le_of_dvd (Nat.pos_of_ne_zero hzero) hdvd) (Nat.not_le.2 hlt)
  · exact iff_of_false nofun (not_not_intro (Nat.dvd_of_mod_eq_zero hdvd))
  · exact iff_of_true rfl fun h => hdvd (Nat.mod_eq_zero_of_dvd h)

theorem isFinite_toDouble_iff (h : ¬ 10 ^ (-exponent).toNat ∣ coefficient) :
    (finite negative coefficient exponent).toDouble.isFinite ↔
      ¬ (finite negative coefficient exponent).Outgrows := by
  have hnone : exponent.toNat = 0 := by
    by_contra hpos
    refine h ?_
    rw [show (-exponent).toNat = 0 by omega, Nat.pow_zero]
    exact Nat.one_dvd _
  rw [toDouble, Double.ofScientific_eq, Double.isFinite_ofFraction_iff _ (Nat.pow_pos (by decide)), hnone,
    Nat.pow_zero, Nat.mul_one, ← Nat.not_le, not_iff_not]
  refine ⟨.fraction h, fun houtgrows => ?_⟩
  cases houtgrows with
  | fraction _ hlarge => exact hlarge

theorem isFinite_ofDecimal?_iff (d : Decimal) :
    (∀ a, Number.ofDecimal? d = some a → a.isFinite) ↔ ¬ d.Outgrows := by
  cases d with
  | finite negative coefficient exponent =>
    have hfinite : (finite negative coefficient exponent).isFinite = true := rfl
    rw [Number.ofDecimal?, if_pos hfinite]
    by_cases hdvd : 10 ^ (-exponent).toNat ∣ coefficient
    · obtain ⟨n, hn⟩ := Option.ne_none_iff_exists'.1 (mt toInt?_eq_none_iff.1 (not_not_intro hdvd))
      rw [hn]
      refine iff_of_true (by simp [Number.isFinite]) fun houtgrows => ?_
      cases houtgrows with
      | fraction hfraction _ => exact hfraction hdvd
    · rw [toInt?_eq_none_iff.2 hdvd, ← isFinite_toDouble_iff hdvd]
      simp only [Option.some.injEq, forall_eq', Number.isFinite]
  | _ =>
    refine iff_of_true (fun a ha => ?_) fun houtgrows => ?_
    · cases ha
    · cases houtgrows

end Decimal

/-- A cell never stands for a NaN, and it stands for an infinity exactly if it is a decimal number with a
fraction that is too large for a double. -/
theorem Value.number?_isFinite_iff (v : Value) :
    (∀ a, v.number? = some a → a ≠ .double .nan) ∧
      ((∀ a, v.number? = some a → a.isFinite) ↔ ¬ v.Outgrows) := by
  constructor
  · rintro a ha rfl
    rcases isFinite_or_infinite ha with h | ⟨negative, h⟩ <;> cases h
  by_cases hdecimal : ∃ d, v = .decimal d
  · obtain ⟨d, rfl⟩ := hdecimal
    refine (Decimal.isFinite_ofDecimal?_iff d).trans (not_congr ⟨.decimal, fun houtgrows => ?_⟩)
    cases houtgrows with
    | decimal h => exact h
  · have hv : ∀ d, v ≠ .decimal d := fun d hd => hdecimal ⟨d, hd⟩
    refine iff_of_true (fun a ha => isFinite_of_number? ha hv) fun houtgrows => ?_
    cases houtgrows with
    | decimal h => exact hv _ rfl

/-- Ten to the power of 309, and a half. -/
def vastAmount : Value := .decimal (.finite false (10 ^ 310 + 5) (-1))

theorem vastAmount_infinite : vastAmount.Outgrows ∧
    vastAmount.number? = some (.double (.infinite false)) ∧
    Number.isFinite (.double (.infinite false)) = false := by
  refine ⟨.decimal (.fraction (by decide +kernel) (by decide +kernel)), by decide +kernel, rfl⟩

end Rollup
