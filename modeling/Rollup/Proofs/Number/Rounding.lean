import Rollup.Number
import Mathlib.Algebra.Order.Ring.Nat
import Mathlib.Order.Basic
import Mathlib.Tactic.Common

/-!
# Rounding keeps order

Rounding a magnitude to 53 significant binary digits keeps order, fixes what has no more digits, and
yields a finite double unless the result is out of range. So two numbers compare like their nearest
doubles unless these are the same (`Number.compare_nearest`): the one thing that comparing in doubles
loses is the difference of numbers that round to one double.
-/

namespace Rollup

namespace Double

theorem unitsPerOne_pos : 0 < unitsPerOne := by
  unfold unitsPerOne
  -- The exponent is hidden, so that the power is not computed.
  generalize 1074 = e
  exact Nat.two_pow_pos e

theorem div_le_roundQuotient (num den : Nat) : num / den ≤ roundQuotient num den := by
  unfold roundQuotient
  dsimp only
  split_ifs <;> omega

theorem roundQuotient_le_succ (num den : Nat) : roundQuotient num den ≤ num / den + 1 := by
  unfold roundQuotient
  dsimp only
  split_ifs <;> omega

theorem roundQuotient_mono {a b : Nat} (den : Nat) (h : a ≤ b) :
    roundQuotient a den ≤ roundQuotient b den := by
  rcases (Nat.div_le_div_right (c := den) h).lt_or_eq with hlt | heq
  · calc roundQuotient a den ≤ a / den + 1 := roundQuotient_le_succ a den
      _ ≤ b / den := hlt
      _ ≤ roundQuotient b den := div_le_roundQuotient b den
  · have hmod : a % den ≤ b % den := by
      have ha := Nat.div_add_mod a den
      have hb := Nat.div_add_mod b den
      rw [heq] at ha
      omega
    unfold roundQuotient
    dsimp only
    rw [heq]
    split_ifs <;> omega

theorem roundQuotient_mul_of_dvd {num den : Nat} (hden : 0 < den) (h : den ∣ num) :
    roundQuotient num den * den = num := by
  obtain ⟨k, rfl⟩ := h
  have hdiv : den * k / den = k := Nat.mul_div_cancel_left k hden
  have hmod : den * k % den = 0 := Nat.mul_mod_right den k
  simp [roundQuotient, hdiv, hmod, hden, Nat.mul_comm k]

/-- The distance between two doubles near a magnitude in units. -/
def step (units : Nat) : Nat := 2 ^ (units.log2 - 52)

theorem step_pos (units : Nat) : 0 < step units := Nat.two_pow_pos _

theorem step_dvd_pow {units k : Nat} (h : units.log2 - 52 ≤ k) : step units ∣ 2 ^ k :=
  Nat.pow_dvd_pow 2 h

theorem roundUnits_one (units : Nat) :
    roundUnits units 1 = roundQuotient units (step units) * step units := by
  simp [roundUnits, step]

theorem roundUnits_of_representable {units : Nat} (h : Representable units) :
    roundUnits units 1 = units := by
  rw [roundUnits_one]
  exact roundQuotient_mul_of_dvd (step_pos units) h.2

theorem two_pow_le_roundUnits {num den k : Nat} (h : 2 ^ k ≤ num / den) : 2 ^ k ≤ roundUnits num den := by
  have hne : num / den ≠ 0 := by
    have := Nat.two_pow_pos k
    omega
  have hlog : k ≤ (num / den).log2 := (Nat.le_log2 hne).2 h
  obtain ⟨factor, hfactor⟩ : step (num / den) ∣ 2 ^ (num / den).log2 := step_dvd_pow (by omega)
  have hle : factor ≤ num / den / step (num / den) := by
    rw [Nat.le_div_iff_mul_le (step_pos _), Nat.mul_comm, ← hfactor]
    exact Nat.log2_self_le hne
  calc 2 ^ k ≤ 2 ^ (num / den).log2 := Nat.pow_le_pow_right (by decide) hlog
    _ = factor * step (num / den) := by rw [hfactor, Nat.mul_comm]
    _ ≤ num / den / step (num / den) * step (num / den) := Nat.mul_le_mul_right _ hle
    _ = num / (den * step (num / den)) * step (num / den) := by rw [Nat.div_div_eq_div_mul]
    _ ≤ roundUnits num den := Nat.mul_le_mul_right _ (div_le_roundQuotient _ _)

theorem roundUnits_le_two_pow {num den k : Nat} (h : num / den < 2 ^ k) : roundUnits num den ≤ 2 ^ k := by
  have hlog : (num / den).log2 - 52 ≤ k := by
    by_cases hzero : num / den = 0
    · simp [hzero]
    · have := (Nat.log2_lt hzero).2 h
      omega
  obtain ⟨factor, hfactor⟩ : step (num / den) ∣ 2 ^ k := step_dvd_pow hlog
  have hlt : num / den / step (num / den) < factor := by
    rw [Nat.div_lt_iff_lt_mul (step_pos _), Nat.mul_comm, ← hfactor]
    exact h
  calc roundUnits num den
      ≤ (num / (den * step (num / den)) + 1) * step (num / den) :=
        Nat.mul_le_mul_right _ (roundQuotient_le_succ _ _)
    _ = (num / den / step (num / den) + 1) * step (num / den) := by rw [Nat.div_div_eq_div_mul]
    _ ≤ factor * step (num / den) := Nat.mul_le_mul_right _ hlt
    _ = 2 ^ k := by rw [hfactor, Nat.mul_comm]

theorem roundUnits_mono {a b den : Nat} (h : a ≤ b) : roundUnits a den ≤ roundUnits b den := by
  have hdiv : a / den ≤ b / den := Nat.div_le_div_right h
  have hlog : (a / den).log2 ≤ (b / den).log2 := by
    by_cases hzero : a / den = 0
    · simp [hzero]
    · have hne : b / den ≠ 0 := fun h => hzero (Nat.le_zero.1 (h ▸ hdiv))
      exact (Nat.le_log2 hne).2 ((Nat.log2_self_le hzero).trans hdiv)
  rcases hlog.lt_or_eq with hlt | heq
  · calc roundUnits a den ≤ 2 ^ ((a / den).log2 + 1) := roundUnits_le_two_pow Nat.lt_log2_self
      _ ≤ 2 ^ (b / den).log2 := Nat.pow_le_pow_right (by omega) hlt
      _ ≤ roundUnits b den := two_pow_le_roundUnits (Nat.log2_self_le fun hzero => by simp [hzero] at hlt)
  · unfold roundUnits
    rw [heq]
    exact Nat.mul_le_mul_right _ (roundQuotient_mono _ h)

/-- The significant digits of a rounded magnitude fit, also where rounding up gave one more digit. -/
theorem dvd_roundUnits (num den : Nat) :
    2 ^ ((roundUnits num den).log2 - 52) ∣ roundUnits num den := by
  by_cases hzero : num / den = 0
  · have hle : roundUnits num den ≤ 2 ^ 0 := roundUnits_le_two_pow (by omega)
    have hlog : (roundUnits num den).log2 - 52 = 0 := by
      have := Nat.log2_le_self (roundUnits num den)
      omega
    rw [hlog]
    exact Nat.one_dvd _
  have hlow : 2 ^ (num / den).log2 ≤ roundUnits num den := two_pow_le_roundUnits (Nat.log2_self_le hzero)
  have hhigh : roundUnits num den ≤ 2 ^ ((num / den).log2 + 1) := roundUnits_le_two_pow Nat.lt_log2_self
  have hne : roundUnits num den ≠ 0 := by
    have := Nat.two_pow_pos (num / den).log2
    omega
  rcases hhigh.lt_or_eq with hlt | heq
  · rw [(Nat.log2_eq_iff hne).2 ⟨hlow, hlt⟩]
    exact Nat.dvd_mul_left _ _
  · rw [heq, Nat.log2_two_pow]
    exact Nat.pow_dvd_pow 2 (by omega)

theorem representable_roundUnits_of_le {a b den : Nat} (hle : roundUnits a den ≤ roundUnits b den)
    (h : Representable (roundUnits b den)) : Representable (roundUnits a den) :=
  ⟨hle.trans_lt h.1, dvd_roundUnits a den⟩

/-- Where the double nearest to a signed number of units stands. -/
theorem place_ofSignedUnits (n : Int) : (ofSignedUnits n).place =
    if Representable (roundUnits n.natAbs 1) then (0, signed (n < 0) (roundUnits n.natAbs 1))
    else (if n < 0 then -1 else 1, 0) := by
  unfold ofSignedUnits round ofUnits
  by_cases h : Representable (roundUnits n.natAbs 1)
  · rw [dif_pos h, if_pos h]
    rfl
  · rw [dif_neg h, if_neg h]
    simp [place, place?]

end Double

namespace Number

theorem comparePlaces_eq_lt {a b : Int × Int} :
    comparePlaces a b = .lt ↔ a.1 < b.1 ∨ a.1 = b.1 ∧ a.2 < b.2 := by
  simp [comparePlaces, Ordering.then_eq_lt, compare_lt_iff_lt]

theorem comparePlaces_eq_eq {a b : Int × Int} : comparePlaces a b = .eq ↔ a = b := by
  simp [comparePlaces, Ordering.then_eq_eq, Prod.ext_iff]

theorem comparePlaces_eq_gt {a b : Int × Int} :
    comparePlaces a b = .gt ↔ b.1 < a.1 ∨ a.1 = b.1 ∧ b.2 < a.2 := by
  simp [comparePlaces, Ordering.then_eq_gt, compare_gt_iff_gt]

/-- Rounding keeps the order of numbers of units, but may make different ones equal. -/
theorem comparePlaces_ofSignedUnits_ne_gt {m n : Int} (h : m ≤ n) :
    comparePlaces (Double.ofSignedUnits m).place (Double.ofSignedUnits n).place ≠ .gt := by
  have hpos : 0 ≤ m → Double.roundUnits m.natAbs 1 ≤ Double.roundUnits n.natAbs 1 := fun hm =>
    Double.roundUnits_mono (by omega)
  have hneg : n < 0 → Double.roundUnits n.natAbs 1 ≤ Double.roundUnits m.natAbs 1 := fun hn =>
    Double.roundUnits_mono (by omega)
  have hfinitePos := fun hm => Double.representable_roundUnits_of_le (hpos hm)
  have hfiniteNeg := fun hn => Double.representable_roundUnits_of_le (hneg hn)
  rw [Ne, comparePlaces_eq_gt, Double.place_ofSignedUnits, Double.place_ofSignedUnits]
  generalize Double.roundUnits m.natAbs 1 = a at *
  generalize Double.roundUnits n.natAbs 1 = b at *
  unfold Double.signed
  split_ifs <;> simp_all <;> omega

/-- The double nearest to a number, infinite beyond the range of doubles. -/
def nearest : Number → Double
  | int n => Double.ofInt n
  | double x => x

/-- The value of a finite number in units. -/
def units : Number → Int
  | int n => n * Double.unitsPerOne
  | double x => x.place.2

theorem place_eq_units {a : Number} (h : a.isFinite) : a.place = (0, a.units) := by
  cases a with
  | int n => rfl
  | double x =>
    cases x with
    | finite negative units representable => rfl
    | _ => cases h

theorem ofInt_eq_ofSignedUnits (n : Int) :
    Double.ofInt n = Double.ofSignedUnits (n * Double.unitsPerOne) := by
  have hone : (0 : Int) < Double.unitsPerOne :=
    Int.natCast_pos.2 Double.unitsPerOne_pos
  have hneg : (n * (Double.unitsPerOne : Int) < 0) ↔ n < 0 := by
    constructor
    · intro h
      by_contra hn
      have := Int.mul_nonneg (Int.not_lt.1 hn) hone.le
      omega
    · exact fun hn => Int.mul_neg_of_neg_of_pos hn hone
  unfold Double.ofInt Double.ofFraction Double.ofSignedUnits
  simp only [hneg, Int.natAbs_mul, Int.natAbs_natCast]

/-- Among finite numbers only the value matters for where the nearest double stands. -/
theorem place_nearest {a : Number} (h : a.isFinite) :
    a.nearest.place = (Double.ofSignedUnits a.units).place := by
  cases a with
  | int n => exact congrArg Double.place (ofInt_eq_ofSignedUnits n)
  | double x =>
    cases x with
    | finite negative units representable =>
      have hunits : (units : Int) = 0 ∨ 0 < (units : Int) := by omega
      have hround : Double.roundUnits (Double.signed negative units).natAbs 1 = units := by
        have habs : (Double.signed negative units).natAbs = units := by
          unfold Double.signed
          split <;> omega
        rw [habs, Double.roundUnits_of_representable representable]
      show (0, Double.signed negative units) = (Double.ofSignedUnits (Double.signed negative units)).place
      rw [Double.place_ofSignedUnits, hround, if_pos representable]
      unfold Double.signed
      cases negative <;> rcases hunits with h0 | hpos <;> simp_all
    | _ => cases h

/-- Two finite numbers compare like their nearest doubles, unless these are the same number. -/
theorem compare_nearest {a b : Number} (ha : a.isFinite) (hb : b.isFinite) :
    comparePlaces a.nearest.place b.nearest.place =
      if a.nearest.place = b.nearest.place then .eq else a.compare b := by
  split_ifs with h
  · exact comparePlaces_eq_eq.2 h
  have hcompare : a.compare b = Ord.compare a.units b.units := by
    simp [compare, comparePlaces, place_eq_units ha, place_eq_units hb]
  rw [hcompare]
  rw [place_nearest ha, place_nearest hb] at h ⊢
  rcases lt_trichotomy a.units b.units with hlt | heq | hgt
  · have hne := mt comparePlaces_eq_gt.2 (comparePlaces_ofSignedUnits_ne_gt hlt.le)
    rw [compare_lt_iff_lt.2 hlt, comparePlaces_eq_lt]
    rw [Prod.ext_iff] at h
    omega
  · exact absurd (by rw [heq]) h
  · have hne := mt comparePlaces_eq_gt.2 (comparePlaces_ofSignedUnits_ne_gt hgt.le)
    rw [compare_gt_iff_gt.2 hgt, comparePlaces_eq_gt]
    rw [Prod.ext_iff] at h
    omega

end Number

end Rollup
