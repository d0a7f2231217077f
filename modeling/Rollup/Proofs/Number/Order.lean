import Rollup.Proofs.Number.Reading
import Mathlib.Algebra.Order.Field.Basic
import Mathlib.Data.Rat.Cast.Order

/-!
# The order of numbers

A number has an exact rational value, unless it is an infinite double or none, and numbers compare like
their values whichever of the two kinds they are of (`Number.compare_eq`). A cell that stands for a number
stands for one with a value, or for an infinite double where a decimal number is beyond the range of
doubles (`Value.isFinite_or_infinite`).
-/

namespace Rollup

namespace Double

/-- The exact value of a finite double. -/
def value? : Double → Option ℚ
  | finite negative units _ => some ((signed negative units : ℚ) / unitsPerOne)
  | _ => none

theorem ofUnits_ne_nan (negative : Bool) (units : Nat) : ofUnits negative units ≠ nan := by
  by_cases h : Representable units
  · rw [ofUnits, dif_pos h]
    nofun
  · rw [ofUnits, dif_neg h]
    nofun

theorem ofScientific_ne_nan (negative : Bool) (digits : Nat) (exponent : Int) :
    ofScientific negative digits exponent ≠ nan := by
  have hfraction (num den : Nat) : ofFraction negative num den ≠ nan := by
    rw [ofFraction, round]
    exact ofUnits_ne_nan negative _
  unfold ofScientific
  split_ifs
  · exact ofUnits_ne_nan negative 0
  · nofun
  · exact ofUnits_ne_nan negative 0
  · exact hfraction _ 1
  · exact hfraction digits _

theorem finite_or_infinite {x : Double} (h : x ≠ nan) : x.isFinite ∨ ∃ negative, x = infinite negative := by
  cases x with
  | nan => exact absurd rfl h
  | infinite negative => exact .inr ⟨negative, rfl⟩
  | finite => exact .inl rfl

end Double

namespace Number
variable {a b : Number} {x y : ℚ}

/-- The exact value of a number, which an infinite double has not. -/
def value? : Number → Option ℚ
  | int n => some n
  | double x => x.value?

theorem isFinite_of_value? (h : a.value? = some x) : a.isFinite := by
  cases a with
  | int n => rfl
  | double d => cases d <;> first | rfl | cases h

theorem value?_eq_units (h : a.isFinite) : a.value? = some ((a.units : ℚ) / Double.unitsPerOne) := by
  have hone : (Double.unitsPerOne : ℚ) ≠ 0 := Nat.cast_ne_zero.2 Double.unitsPerOne_pos.ne'
  cases a with
  | int n =>
    refine congrArg some ?_
    rw [units, Int.cast_mul, Int.cast_natCast, mul_div_cancel_right₀ _ hone]
  | double d =>
    cases d with
    | finite negative units representable => rfl
    | _ => cases h

/-- Numbers of either kind compare like their values. -/
theorem compare_eq (ha : a.value? = some x) (hb : b.value? = some y) : a.compare b = Ord.compare x y := by
  have hone : (0 : ℚ) < Double.unitsPerOne := Nat.cast_pos.2 Double.unitsPerOne_pos
  have hunits : a.compare b = Ord.compare a.units b.units := by
    simp [compare, comparePlaces, place_eq_units (isFinite_of_value? ha),
      place_eq_units (isFinite_of_value? hb)]
  rw [value?_eq_units (isFinite_of_value? ha), Option.some.injEq] at ha
  rw [value?_eq_units (isFinite_of_value? hb), Option.some.injEq] at hb
  subst ha hb
  rw [hunits]
  rcases lt_trichotomy a.units b.units with h | h | h
  · rw [compare_lt_iff_lt.2 h, compare_lt_iff_lt.2 ((div_lt_div_iff_of_pos_right hone).2 (Int.cast_lt.2 h))]
  · rw [h, compare_eq_iff_eq.2 rfl, compare_eq_iff_eq.2 rfl]
  · rw [compare_gt_iff_gt.2 h, compare_gt_iff_gt.2 ((div_lt_div_iff_of_pos_right hone).2 (Int.cast_lt.2 h))]

theorem compare_infinite (negative : Bool) (hb : b.isFinite) :
    (double (.infinite negative)).compare b = if negative then .lt else .gt := by
  unfold compare
  rw [place_eq_units hb]
  cases negative <;> rfl

theorem compare_eq_eq : a.compare b = .eq ↔ a.place = b.place := comparePlaces_eq_eq

theorem compare_swap (a b : Number) : (a.compare b).swap = b.compare a := by
  unfold compare comparePlaces
  rw [Ordering.swap_then, Std.OrientedOrd.eq_swap (a := b.place.1), Std.OrientedOrd.eq_swap (a := b.place.2)]

theorem isFinite_or_infinite_of_ofDecimal? {d : Decimal} (h : ofDecimal? d = some a) :
    a.isFinite ∨ ∃ negative, a = double (.infinite negative) := by
  cases d with
  | finite negative coefficient exponent =>
    have hfinite : (Decimal.finite negative coefficient exponent).isFinite = true := rfl
    rw [ofDecimal?, if_pos hfinite] at h
    split at h
    · obtain rfl := Option.some.inj h
      exact .inl rfl
    · obtain rfl := Option.some.inj h
      refine (Double.finite_or_infinite (Double.ofScientific_ne_nan negative coefficient exponent)).imp_right ?_
      rintro ⟨sign, hx⟩
      exact ⟨sign, congrArg double hx⟩
  | _ => cases h

end Number

namespace Value
variable {v : Value} {a : Number}

theorem isFinite_of_number? (h : v.number? = some a) (hv : ∀ d, v ≠ .decimal d) : a.isFinite := by
  cases v with
  | int n =>
    obtain rfl := Option.some.inj h
    rfl
  | double x =>
    rw [number?] at h
    split_ifs at h with hx
    obtain rfl := Option.some.inj h
    exact hx
  | decimal d => exact absurd rfl (hv d)
  | text s => exact Number.isFinite_of_ofText? h
  | _ => cases h

/-- The numbers that cells stand for. -/
theorem isFinite_or_infinite (h : v.number? = some a) :
    a.isFinite ∨ ∃ negative, a = .double (.infinite negative) := by
  cases v with
  | decimal d => exact Number.isFinite_or_infinite_of_ofDecimal? h
  | _ => exact .inl (isFinite_of_number? h nofun)

end Value

end Rollup
