import Rollup.Proofs.Number.Range
import Mathlib.Algebra.BigOperators.Group.List.Basic
import Mathlib.Algebra.Ring.Int.Defs

/-!
# When sums overflow

Integers add exactly at any magnitude, and doubles add to doubles. A sum fails in one way only: an
integer that is too large for a double meets one, be it the sum of the integers before the first double
or an integer behind it (`Number.sum_eq_error_iff`). A mean fails with its sum, or when the quotient of
integers is too large (`Number.MeanOverflows`).
-/

namespace Rollup

namespace Number

/-- Integers that no double is near to. -/
def TooLarge : Number → Prop
  | int n => Double.limit ≤ n.natAbs
  | double _ => False

/-- A sum in which an integer that is too large meets a double: the sum of the integers before the
first double, or an integer behind it. -/
def SumOverflows (ns : List Number) : Prop :=
  ∃ (ints : List Int) (x : Double) (rest : List Number), ns = ints.map int ++ double x :: rest ∧
    ((int ints.sum).TooLarge ∨ ∃ n ∈ rest, n.TooLarge)

/-- A mean that has no sum, or one of integers whose quotient rounds to no finite double. -/
def MeanOverflows (ns : List Number) : Prop :=
  SumOverflows ns ∨ ∃ ints : List Int, ints ≠ [] ∧ ns = ints.map int ∧
    (Double.ofFraction (ints.sum < 0) ints.sum.natAbs ints.length).isFinite = false

variable {ns : List Number} {e : ArithmeticError}

theorem toDouble?_cases (n : Number) :
    (∃ x, n.toDouble? = .ok x ∧ ¬ n.TooLarge) ∨ n.toDouble? = .error .overflow ∧ n.TooLarge := by
  cases n with
  | double x => exact .inl ⟨x, rfl, id⟩
  | int n =>
    have hlarge : (int n).TooLarge ↔ ¬ (Double.ofInt n).isFinite := by
      rw [Double.isFinite_ofInt_iff, Nat.not_lt, TooLarge]
    rw [hlarge, toDouble?]
    by_cases h : (Double.ofInt n).isFinite
    · exact .inl ⟨Double.ofInt n, if_pos h, not_not_intro h⟩
    · exact .inr ⟨if_neg h, h⟩

theorem toDouble?_double (x : Double) : (double x).toDouble? = .ok x := rfl

theorem add_double_left (x : Double) (n : Number) :
    add (double x) n = n.toDouble?.map fun y => double (x.add y) := by
  have hadd : add (double x) n =
      (do return double ((← (double x).toDouble?).add (← n.toDouble?))) := by cases n <;> rfl
  rw [hadd, toDouble?_double]
  cases n.toDouble? <;> rfl

theorem add_double_right (n : Number) (x : Double) :
    add n (double x) = n.toDouble?.map fun y => double (y.add x) := by
  have hadd : add n (double x) =
      (do return double ((← n.toDouble?).add (← (double x).toDouble?))) := by cases n <;> rfl
  rw [hadd, toDouble?_double]
  cases n.toDouble? <;> rfl

/-- Once a sum is a double it stays one, until an integer is too large for it. -/
theorem foldlM_add_double (x : Double) (ns : List Number) :
    (∃ y, ns.foldlM add (double x) = .ok (double y) ∧ ∀ n ∈ ns, ¬ n.TooLarge) ∨
      ns.foldlM add (double x) = .error .overflow ∧ ∃ n ∈ ns, n.TooLarge := by
  induction ns generalizing x with
  | nil => exact .inl ⟨x, rfl, by simp⟩
  | cons n ns ih =>
    rw [List.foldlM_cons]
    rw [add_double_left]
    rcases toDouble?_cases n with ⟨y, hy, hn⟩ | ⟨hn, hlarge⟩
    · rw [hy]
      rcases ih (x.add y) with ⟨z, hz, hns⟩ | ⟨hns, m, hm, hlarge⟩
      · exact .inl ⟨z, hz, List.forall_mem_cons.2 ⟨hn, hns⟩⟩
      · exact .inr ⟨hns, m, List.mem_cons_of_mem n hm, hlarge⟩
    · rw [hn]
      exact .inr ⟨rfl, n, List.mem_cons_self, hlarge⟩

theorem foldlM_add_ints (ints : List Int) (total : Int) (ns : List Number) :
    (ints.map int ++ ns).foldlM add (int total) = ns.foldlM add (int (total + ints.sum)) := by
  induction ints generalizing total with
  | nil => simp
  | cons n ints ih =>
    rw [List.map_cons, List.cons_append, List.foldlM_cons, List.sum_cons, ← Int.add_assoc]
    exact ih (total + n)

theorem sum_ints (ints : List Int) : sum (ints.map int) = .ok (int ints.sum) := by
  have h := foldlM_add_ints ints 0 []
  rw [List.append_nil, Int.zero_add] at h
  exact h

/-- The integers before the first double. -/
theorem ints_or_double (ns : List Number) :
    (∃ ints : List Int, ns = ints.map int) ∨
      ∃ (ints : List Int) (x : Double) (rest : List Number), ns = ints.map int ++ double x :: rest := by
  induction ns with
  | nil => exact .inl ⟨[], rfl⟩
  | cons n ns ih =>
    cases n with
    | double x => exact .inr ⟨[], x, ns, rfl⟩
    | int n =>
      rcases ih with ⟨ints, rfl⟩ | ⟨ints, x, rest, rfl⟩
      · exact .inl ⟨n :: ints, rfl⟩
      · exact .inr ⟨n :: ints, x, rest, rfl⟩

/-- A sum with a double in it is one, unless it overflows. -/
theorem sum_double (ints : List Int) (x : Double) (rest : List Number) :
    (∃ y, sum (ints.map int ++ double x :: rest) = .ok (double y) ∧
        ¬ ((int ints.sum).TooLarge ∨ ∃ n ∈ rest, n.TooLarge)) ∨
      sum (ints.map int ++ double x :: rest) = .error .overflow ∧
        ((int ints.sum).TooLarge ∨ ∃ n ∈ rest, n.TooLarge) := by
  unfold sum
  rw [foldlM_add_ints, Int.zero_add, List.foldlM_cons]
  rw [add_double_right]
  rcases toDouble?_cases (int ints.sum) with ⟨y, hy, hints⟩ | ⟨hints, hlarge⟩
  · rw [hy]
    rcases foldlM_add_double (y.add x) rest with ⟨z, hz, hrest⟩ | ⟨hrest, hlarge⟩
    · refine .inl ⟨z, hz, ?_⟩
      rintro (h | ⟨n, hn, h⟩)
      · exact hints h
      · exact hrest n hn h
    · exact .inr ⟨hrest, .inr hlarge⟩
  · rw [hints]
    exact .inr ⟨rfl, .inl hlarge⟩

theorem sum_eq_error_iff : sum ns = .error e ↔ SumOverflows ns := by
  constructor
  · intro h
    rcases ints_or_double ns with ⟨ints, rfl⟩ | ⟨ints, x, rest, rfl⟩
    · rw [sum_ints] at h
      cases h
    · rcases sum_double ints x rest with ⟨y, hy, -⟩ | ⟨-, hlarge⟩
      · rw [hy] at h
        cases h
      · exact ⟨ints, x, rest, rfl, hlarge⟩
  · rintro ⟨ints, x, rest, rfl, hlarge⟩
    cases e
    rcases sum_double ints x rest with ⟨-, -, hsmall⟩ | ⟨h, -⟩
    · exact absurd hlarge hsmall
    · exact h

/-- The quotient of a sum that is a double never overflows. -/
theorem divNat_eq_error_iff {total : Number} (count : Nat) : total.divNat count = .error e ↔
    ∃ n, total = int n ∧ (Double.ofFraction (n < 0) n.natAbs count).isFinite = false := by
  cases e
  cases total with
  | double x => exact iff_of_false nofun (by rintro ⟨n, hn, -⟩; cases hn)
  | int n =>
    rw [divNat]
    by_cases h : (Double.ofFraction (n < 0) n.natAbs count).isFinite
    · simp [h]
    · simp [h]

end Number

end Rollup
