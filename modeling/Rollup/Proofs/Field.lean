import Rollup.Field
import Mathlib.Data.List.Basic

/-!
# Keys of custom fields

The keys of custom fields are those that begin with the prefix (`isCustomKey_iff`), and what follows the
prefix is a name (`customName?_eq_some_iff`). A name without the prefix is found again behind it
(`stripCustomPrefix_customFieldKey`). A name that has it is its own key, so two different names have one
key exactly when one of them is the other behind the prefix (`customFieldKey_eq_iff`).
-/

namespace Rollup
variable {key name other : String}

/-- A key lies in the space of custom fields. -/
def HasCustomPrefix (key : String) : Prop := customPrefix.toList <+: key.toList

instance (key : String) : Decidable (HasCustomPrefix key) :=
  inferInstanceAs (Decidable (customPrefix.toList <+: key.toList))

theorem hasCustomPrefix_append (name : String) : HasCustomPrefix (customPrefix ++ name) := by
  unfold HasCustomPrefix
  rw [String.toList_append]
  exact List.prefix_append _ _

theorem customName?_eq_some_iff : customName? key = some name ↔ key = customPrefix ++ name := by
  unfold customName?
  constructor
  · intro h
    split_ifs at h with hprefix
    obtain rfl := Option.some.inj h
    obtain ⟨more, hmore⟩ := List.isPrefixOf_iff_prefix.1 hprefix
    rw [← String.toList_inj, String.toList_append, String.toList_ofList, ← hmore, List.drop_left]
  · rintro rfl
    rw [if_pos (List.isPrefixOf_iff_prefix.2 (hasCustomPrefix_append name)), String.toList_append,
      List.drop_left, String.ofList_toList]

theorem hasCustomPrefix_iff : HasCustomPrefix key ↔ ∃ name, key = customPrefix ++ name := by
  constructor
  · rintro ⟨more, hmore⟩
    refine ⟨String.ofList more, ?_⟩
    rw [← String.toList_inj, String.toList_append, String.toList_ofList, hmore]
  · rintro ⟨name, rfl⟩
    exact hasCustomPrefix_append name

theorem customName?_eq_none_iff : customName? key = none ↔ ¬ HasCustomPrefix key := by
  rw [hasCustomPrefix_iff, Option.eq_none_iff_forall_ne_some, not_exists]
  exact forall_congr' fun name => not_congr customName?_eq_some_iff

theorem isCustomKey_iff : isCustomKey key = true ↔ HasCustomPrefix key := by
  rw [← not_iff_not, ← customName?_eq_none_iff]
  simp [isCustomKey]

/-! ## The key of a name -/

theorem customFieldKey_of_hasCustomPrefix (h : HasCustomPrefix name) : customFieldKey name = name :=
  if_pos (isCustomKey_iff.2 h)

theorem customFieldKey_eq_append (h : ¬ HasCustomPrefix name) :
    customFieldKey name = customPrefix ++ name :=
  if_neg (mt isCustomKey_iff.1 h)

theorem hasCustomPrefix_customFieldKey (name : String) : HasCustomPrefix (customFieldKey name) := by
  by_cases h : HasCustomPrefix name
  · rwa [customFieldKey_of_hasCustomPrefix h]
  · rw [customFieldKey_eq_append h]
    exact hasCustomPrefix_append name

theorem stripCustomPrefix_append (name : String) : stripCustomPrefix (customPrefix ++ name) = name := by
  rw [stripCustomPrefix, customName?_eq_some_iff.2 rfl, Option.getD_some]

theorem stripCustomPrefix_customFieldKey (h : ¬ HasCustomPrefix name) :
    stripCustomPrefix (customFieldKey name) = name := by
  rw [customFieldKey_eq_append h, stripCustomPrefix_append]

/-- A name that has the prefix is not found again: its key leads to what follows the prefix. -/
theorem stripCustomPrefix_customFieldKey_eq_iff :
    stripCustomPrefix (customFieldKey name) = name ↔ ¬ HasCustomPrefix name := by
  refine ⟨fun heq hname => ?_, stripCustomPrefix_customFieldKey⟩
  obtain ⟨rest, rfl⟩ := hasCustomPrefix_iff.1 hname
  rw [customFieldKey_of_hasCustomPrefix hname, stripCustomPrefix_append] at heq
  have hlength := congrArg String.length heq
  rw [String.length_append] at hlength
  have hprefix : customPrefix.length = 7 := by decide
  omega

theorem customFieldKey_eq_iff : customFieldKey name = customFieldKey other ↔ name = other ∨
    (¬ HasCustomPrefix name ∧ other = customPrefix ++ name) ∨
    (¬ HasCustomPrefix other ∧ name = customPrefix ++ other) := by
  constructor
  · intro heq
    by_cases hname : HasCustomPrefix name <;> by_cases hother : HasCustomPrefix other
    · rw [customFieldKey_of_hasCustomPrefix hname, customFieldKey_of_hasCustomPrefix hother] at heq
      exact .inl heq
    · rw [customFieldKey_of_hasCustomPrefix hname, customFieldKey_eq_append hother] at heq
      exact .inr (.inr ⟨hother, heq⟩)
    · rw [customFieldKey_eq_append hname, customFieldKey_of_hasCustomPrefix hother] at heq
      exact .inr (.inl ⟨hname, heq.symm⟩)
    · have hstrip := congrArg stripCustomPrefix heq
      rw [stripCustomPrefix_customFieldKey hname, stripCustomPrefix_customFieldKey hother] at hstrip
      exact .inl hstrip
  · rintro (rfl | ⟨hname, rfl⟩ | ⟨hother, rfl⟩)
    · rfl
    · rw [customFieldKey_eq_append hname,
        customFieldKey_of_hasCustomPrefix (hasCustomPrefix_append name)]
    · rw [customFieldKey_eq_append hother,
        customFieldKey_of_hasCustomPrefix (hasCustomPrefix_append other)]

end Rollup
