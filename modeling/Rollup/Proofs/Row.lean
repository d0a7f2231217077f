import Rollup.Value
import Mathlib.Data.List.Nodup

/-!
# Rows by their cells

What is found under a key of a list of pairs, and that a row without repeated keys is known by its keys
and by the cells under them (`Row.eq_of_get_eq`).
-/

namespace Rollup
variable {key : String}

theorem lookup?_append {α : Type} {front : List (String × α)} (h : key ∉ front.map (·.1))
    (fields : List (String × α)) : lookup? key (front ++ fields) = lookup? key fields := by
  induction front with
  | nil => rfl
  | cons entry front ih =>
    simp only [List.map_cons, List.mem_cons, not_or] at h
    rw [List.cons_append, lookup?, if_neg (Ne.symm h.1), ih h.2]

theorem mem_of_lookup? {α : Type} {a : α} {fields : List (String × α)}
    (h : lookup? key fields = some a) : (key, a) ∈ fields := by
  induction fields with
  | nil => cases h
  | cons entry fields ih =>
    obtain ⟨k, b⟩ := entry
    rw [lookup?] at h
    split_ifs at h with hk
    · obtain rfl := Option.some.inj h
      exact hk ▸ List.mem_cons_self
    · exact List.mem_cons_of_mem _ (ih h)

namespace Row
variable {row more : Row} {v : Value}

theorem get_cons_of_ne {k : String} (h : k ≠ key) : Row.get ((k, v) :: row) key = row.get key := by
  simp only [Row.get, lookup?, if_neg h]

theorem get_cons_self : Row.get ((key, v) :: row) key = v := by
  simp only [Row.get, lookup?, if_true, Option.getD_some]

theorem get_map_pair {columns : List String} (cell : String → Value) (h : key ∈ columns) :
    Row.get (columns.map fun key => (key, cell key)) key = cell key := by
  induction columns with
  | nil => cases h
  | cons c cs ih =>
    rw [List.map_cons]
    by_cases hc : c = key
    · rw [hc, get_cons_self]
    · rw [get_cons_of_ne hc, ih ((List.mem_cons.1 h).resolve_left (Ne.symm hc))]

theorem get_append_of_mem (h : key ∈ row.keys) : Row.get (row ++ more) key = row.get key := by
  induction row with
  | nil => cases h
  | cons cell row ih =>
    obtain ⟨k, v⟩ := cell
    rw [List.cons_append]
    by_cases hk : k = key
    · rw [hk, get_cons_self, get_cons_self]
    · rw [get_cons_of_ne hk, get_cons_of_ne hk, ih ((List.mem_cons.1 h).resolve_left (Ne.symm hk))]

theorem get_append_of_not_mem (h : key ∉ row.keys) : Row.get (row ++ more) key = more.get key := by
  unfold Row.get
  rw [lookup?_append h]

theorem map_get_keys (h : row.keys.Nodup) : row.keys.map (fun key => (key, row.get key)) = row := by
  induction row with
  | nil => rfl
  | cons cell row ih =>
    obtain ⟨k, v⟩ := cell
    obtain ⟨hk, hrow⟩ := List.nodup_cons.1 h
    show (k, Row.get ((k, v) :: row) k) :: (Row.keys row).map _ = _
    rw [get_cons_self]
    refine congrArg ((k, v) :: ·) (Eq.trans ?_ (ih hrow))
    refine List.map_congr_left fun key hkey => ?_
    have hne : k ≠ key := fun heq => hk (heq ▸ hkey)
    rw [get_cons_of_ne hne]

theorem eq_of_get_eq {other : Row} (h : row.keys.Nodup) (hkeys : other.keys = row.keys)
    (hget : ∀ key ∈ row.keys, other.get key = row.get key) : other = row := by
  have hother : other.keys.Nodup := hkeys ▸ h
  rw [← map_get_keys h, ← map_get_keys hother, hkeys]
  exact List.map_congr_left fun key hkey => by rw [hget key hkey]

end Row

end Rollup
