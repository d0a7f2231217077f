import Rollup.Json.Path
import Mathlib.Tactic.Common

/-!
# Paths lead to their keys

Whatever stands in a key, the path to it is read back as that key and nothing else
(`Json.Path.key?_ofKey`). So different keys have different paths.
-/

namespace Rollup.Json.Path

theorem readQuoted_cons {c : Char} (hquote : c ≠ '"') (hslash : c ≠ '\\') (cs : List Char) :
    readQuoted (c :: cs) = (readQuoted cs).map (c :: ·) := by
  rw [readQuoted]
  · exact fun h _ => hquote h
  · exact hquote
  · exact fun _ _ h => absurd h hslash
  · exact fun h => absurd h hslash

/-- After both replacements, every quote and backslash has one backslash before it. -/
theorem escape_cons (c : Char) (key : List Char) : escape (c :: key) =
    if c = '"' ∨ c = '\\' then '\\' :: c :: escape key else c :: escape key := by
  by_cases hslash : c = '\\'
  · subst hslash
    simp [escape, escapeEach]
  · by_cases hquote : c = '"' <;> simp [escape, escapeEach, hslash, hquote]

theorem readQuoted_escape (key : List Char) : readQuoted (escape key ++ ['"']) = some key := by
  induction key with
  | nil => rfl
  | cons c key ih =>
    rw [escape_cons]
    split_ifs with hspecial
    · rcases hspecial with rfl | rfl <;> simp [readQuoted, ih]
    · obtain ⟨hquote, hslash⟩ := not_or.1 hspecial
      rw [List.cons_append, readQuoted_cons hquote hslash, ih]
      rfl

theorem keyChars?_ofKeyChars (key : List Char) : keyChars? (ofKeyChars key) = some key := by
  unfold ofKeyChars
  split_ifs with hbare
  · cases key with
    | nil => simp [isBare] at hbare
    | cons c key =>
      have hquote : c ≠ '"' := by
        rintro rfl
        simp [isBare, isBareChar] at hbare
      simp [keyChars?, hquote, hbare]
  · exact readQuoted_escape key

theorem key?_ofKey (key : String) : key? (ofKey key) = some key := by
  unfold key? ofKey
  rw [String.toList_ofList, keyChars?_ofKeyChars, Option.map_some, String.ofList_toList]

end Rollup.Json.Path
