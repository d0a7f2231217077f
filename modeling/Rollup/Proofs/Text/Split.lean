import Mathlib.Algebra.BigOperators.Group.List.Basic
import Mathlib.Algebra.GroupWithZero.Nat
import Mathlib.Data.List.Basic
import Mathlib.Data.List.TakeWhile
import Mathlib.Tactic.Common

/-!
# Splitting and joining texts

What is in the parts of a text between characters of one kind, and in the text that parts make up with such
characters between them.
-/

namespace Rollup.Text

variable {a c : Char} {cs part : List Char} {parts : List (List Char)}

theorem not_mem_of_mem_splitOn (h : part ∈ cs.splitOn a) : a ∉ part := by
  induction cs generalizing part with
  | nil =>
    rw [List.splitOn_nil] at h
    rw [List.mem_singleton.1 h]
    exact List.not_mem_nil
  | cons c cs ih =>
    obtain ⟨first, more, hsplit⟩ := List.exists_cons_of_ne_nil (List.splitOn_ne_nil a cs)
    rw [List.splitOn_cons_eq_if_modifyHead] at h
    rw [hsplit] at h ih
    split_ifs at h with hc
    · rcases List.mem_cons.1 h with rfl | h
      · exact List.not_mem_nil
      · exact ih h
    · rcases List.mem_cons.1 h with rfl | h
      · exact List.not_mem_cons_of_ne_of_not_mem (fun ha => hc (beq_iff_eq.2 ha.symm)) (ih List.mem_cons_self)
      · exact ih (List.mem_cons_of_mem _ h)

theorem takeWhile_append_cons {p : Char → Bool} (h : ∀ c ∈ cs, p c) (ha : p a = false) (rest : List Char) :
    (cs ++ a :: rest).takeWhile p = cs := by
  rw [List.takeWhile_append_of_pos h, List.takeWhile_cons_of_neg (by simp [ha]), List.append_nil]

theorem getElem?_length_takeWhile (p : Char → Bool) (cs : List Char) :
    cs[(cs.takeWhile p).length]? = (cs.dropWhile p).head? := by
  have hright : (cs.takeWhile p ++ cs.dropWhile p)[(cs.takeWhile p).length]? = (cs.dropWhile p)[0]? := by
    rw [List.getElem?_append_right (Nat.le_refl _), Nat.sub_self]
  rwa [List.takeWhile_append_dropWhile, ← List.head?_eq_getElem?] at hright

theorem mem_intercalate (hpart : part ∈ parts) (hc : c ∈ part) : c ∈ [a].intercalate parts := by
  induction parts with
  | nil => cases hpart
  | cons first parts ih =>
    by_cases hne : parts = []
    · subst hne
      rw [List.intercalate_singleton]
      exact List.mem_singleton.1 hpart ▸ hc
    · rw [List.intercalate_cons_of_ne_nil hne]
      rcases List.mem_cons.1 hpart with rfl | hpart
      · exact List.mem_append_left _ (List.mem_append_left _ hc)
      · exact List.mem_append_right _ (ih hpart)

theorem mem_intercalate_iff (hc : c ≠ a) : c ∈ [a].intercalate parts ↔ ∃ part ∈ parts, c ∈ part := by
  refine ⟨fun h => ?_, fun ⟨_, hpart, hmem⟩ => mem_intercalate hpart hmem⟩
  induction parts with
  | nil => cases h
  | cons part parts ih =>
    by_cases hne : parts = []
    · subst hne
      rw [List.intercalate_singleton] at h
      exact ⟨part, List.mem_cons_self, h⟩
    · rw [List.intercalate_cons_of_ne_nil hne, List.append_assoc, List.mem_append, List.singleton_append,
        List.mem_cons] at h
      rcases h with h | rfl | h
      · exact ⟨part, List.mem_cons_self, h⟩
      · exact absurd rfl hc
      · obtain ⟨other, hother, hmem⟩ := ih h
        exact ⟨other, List.mem_cons_of_mem _ hother, hmem⟩

theorem count_intercalate (hc : c ≠ a) (parts : List (List Char)) :
    ([a].intercalate parts).count c = (parts.map (List.count c)).sum := by
  induction parts with
  | nil => rfl
  | cons part parts ih =>
    by_cases hne : parts = []
    · simp [hne]
    · rw [List.intercalate_cons_of_ne_nil hne, List.count_append, List.count_append, ih,
        List.count_singleton, List.map_cons, List.sum_cons]
      simp [Ne.symm hc]

end Rollup.Text
