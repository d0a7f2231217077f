import Rollup.Proofs.Filter
import Rollup.Proofs.Text.Lowercase

/-!
# Containment without regard to case

A filter `contains` lowercases its value and the text of the cell by themselves. It finds every verbatim
occurrence of a value that is not exposed, and of an exposed one those in steady places
(`contains_finds_iff`): only a capital sigma at an end of the value can take a form that it has not in the
text, as where `ΟΔΥΣ` is looked for in `ΟΔΥΣΣΕΥΣ`.
-/

namespace Rollup
variable {cell : Value} {text value : String}

theorem matchesCell_contains_iff (hcell : cell.isNull = false) (htext : cell.text? = some text) :
    matchesCell cell .contains value = .ok true ↔
      Text.lowerChars value.toList <:+: Text.lowerChars text.toList := by
  rw [Filter.matchesCell_contains value hcell htext, Except.ok.injEq, Text.occursIn_iff, Text.lower,
    Text.lower, String.toList_ofList, String.toList_ofList]

/-- Of a value that stands verbatim in the text of a cell, containment holds in every steady place, and
in every place exactly if the value is not exposed. -/
theorem contains_finds_iff (value : String) :
    (∀ (cell : Value) (text : String) (before after : List Char), cell.isNull = false →
      cell.text? = some text → text.toList = before ++ value.toList ++ after →
      Text.Steady before value.toList after → matchesCell cell .contains value = .ok true) ∧
    ((∀ (cell : Value) (text : String), cell.isNull = false → cell.text? = some text →
      value.toList <:+: text.toList → matchesCell cell .contains value = .ok true) ↔
        ¬ Text.Exposed value.toList) := by
  have hsteady (cell : Value) (text : String) (before after : List Char) (hcell : cell.isNull = false)
      (htext : cell.text? = some text) (hplace : text.toList = before ++ value.toList ++ after)
      (h : Text.Steady before value.toList after) : matchesCell cell .contains value = .ok true := by
    rw [matchesCell_contains_iff hcell htext, hplace]
    exact Text.lowerChars_infix h
  refine ⟨hsteady, fun hall hexposed => ?_, fun hexposed cell text hcell htext hinfix => ?_⟩
  · obtain ⟨before, after, hmiss⟩ := Text.exists_lowerChars_not_infix hexposed
    have hfound := hall (.text (String.ofList (before ++ value.toList ++ after))) _ rfl rfl
      ⟨before, after, String.toList_ofList.symm⟩
    rw [matchesCell_contains_iff rfl rfl, String.toList_ofList] at hfound
    exact hmiss hfound
  · obtain ⟨before, after, hplace⟩ := hinfix
    exact hsteady cell text before after hcell htext hplace.symm
      (Text.steady_of_not_exposed hexposed before after)

/-! ### A name in capitals -/

def voyager : Value := .text "ΟΔΥΣΣΕΥΣ"

theorem voyager_found : voyager.isNull = false ∧ voyager.text? = some "ΟΔΥΣΣΕΥΣ" ∧
    Text.Steady "ΟΔΥΣ".toList "ΣΕΥΣ".toList [] ∧ matchesCell voyager .contains "ΣΕΥΣ" = .ok true ∧
    ¬ Text.Exposed "ΣΕ".toList ∧ "ΣΕ".toList <:+: "ΟΔΥΣΣΕΥΣ".toList ∧
    matchesCell voyager .contains "ΣΕ" = .ok true := by
  have hsteady : Text.Steady "ΟΔΥΣ".toList "ΣΕΥΣ".toList [] := by decide +kernel
  have hexposed : ¬ Text.Exposed "ΣΕ".toList := by decide +kernel
  have hplace : "ΟΔΥΣΣΕΥΣ".toList = "ΟΔΥΣ".toList ++ "ΣΕΥΣ".toList ++ [] := by decide +kernel
  have hinfix : "ΣΕ".toList <:+: "ΟΔΥΣΣΕΥΣ".toList := by decide +kernel
  have hend := (contains_finds_iff "ΣΕΥΣ").1 voyager _ _ [] rfl rfl hplace hsteady
  have hmiddle := (contains_finds_iff "ΣΕ").2.2 hexposed voyager _ rfl rfl hinfix
  exact ⟨rfl, rfl, hsteady, hend, hexposed, hinfix, hmiddle⟩

/-- The beginning of the name, which ends in a final sigma by itself. -/
theorem voyager_missed : voyager.isNull = false ∧ voyager.text? = some "ΟΔΥΣΣΕΥΣ" ∧
    "ΟΔΥΣ".toList <:+: "ΟΔΥΣΣΕΥΣ".toList ∧ matchesCell voyager .contains "ΟΔΥΣ" = .ok false := by
  decide +kernel

end Rollup
