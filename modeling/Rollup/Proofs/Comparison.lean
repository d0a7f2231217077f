import Rollup.Proofs.Filter
import Rollup.Proofs.Number.Order

/-!
# Comparing cells with texts

A cell and the value of a filter are ordered by the exact values of numbers where both stand for one, and
by the code points of their texts otherwise (`Value.Orders`). The choice is made pair by pair, and still
one of equality and the two strict orders holds, never two of them; and between texts equality is an
equivalence, and one strict order is the converse of the other (`matchesCell_coheres`).
-/

namespace Rollup

/-! ## Texts -/

namespace Text

/-- The code points of a text. -/
def codes (s : String) : List Nat := s.toList.map Char.toNat

theorem map_toNat_lt_iff {cs ds : List Char} : cs.map Char.toNat < ds.map Char.toNat ↔ cs < ds := by
  induction cs generalizing ds with
  | nil => cases ds <;> simp
  | cons c cs ih =>
    cases ds with
    | nil => simp
    | cons d ds =>
      rw [List.map_cons, List.map_cons, List.cons_lt_cons_iff, List.cons_lt_cons_iff, ih, Char.toNat_inj]
      rfl

theorem compareOfLessAndEq_codes (s t : String) : compareOfLessAndEq (codes s) (codes t) = compare s t := by
  have hlt : codes s < codes t ↔ s < t := map_toNat_lt_iff
  have heq : codes s = codes t ↔ s = t :=
    (List.map_inj_right fun c d => Char.toNat_inj.1).trans String.toList_inj
  show compareOfLessAndEq (codes s) (codes t) = compareOfLessAndEq s t
  unfold compareOfLessAndEq
  simp only [hlt, heq]

end Text

/-! ## Cells and texts -/

/-- How a cell is ordered with regard to the value of a filter. -/
inductive Value.Orders (cell : Value) (value : String) : Ordering → Prop
  /-- Both stand for numbers, which have exact values. -/
  | numbers {a b : Number} {x y : ℚ} (ha : cell.number? = some a) (hb : Number.ofText? value = some b)
      (hx : a.value? = some x) (hy : b.value? = some y) : Orders cell value (compare x y)
  /-- A decimal number beyond the range of doubles is beyond every number of a text. -/
  | beyond {negative : Bool} {b : Number} (ha : cell.number? = some (.double (.infinite negative)))
      (hb : Number.ofText? value = some b) : Orders cell value (if negative then .lt else .gt)
  /-- One of them is no number. -/
  | texts {text : String} (h : cell.number? = none ∨ Number.ofText? value = none)
      (htext : cell.text? = some text) :
      Orders cell value (compareOfLessAndEq (Text.codes text) (Text.codes value))

variable {cell : Value} {text value : String} {op : Operator}

theorem compareWithText_numbers {a b : Number} (ha : cell.number? = some a)
    (hb : Number.ofText? value = some b) : compareWithText cell text value = a.compare b := by
  simp only [compareWithText, ha, hb]

theorem compareWithText_texts (h : cell.number? = none ∨ Number.ofText? value = none) :
    compareWithText cell text value = compare text value := by
  unfold compareWithText
  rcases h with h | h
  · rw [h]
  · rw [h]
    cases cell.number? <;> rfl

theorem orders_compareWithText (htext : cell.text? = some text) :
    cell.Orders value (compareWithText cell text value) := by
  cases ha : cell.number? with
  | none =>
    rw [compareWithText_texts (.inl ha), ← Text.compareOfLessAndEq_codes]
    exact .texts (.inl ha) htext
  | some a =>
    cases hb : Number.ofText? value with
    | none =>
      rw [compareWithText_texts (.inr hb), ← Text.compareOfLessAndEq_codes]
      exact .texts (.inr hb) htext
    | some b =>
      have hfinite := Number.isFinite_of_ofText? hb
      rw [compareWithText_numbers ha hb]
      rcases Value.isFinite_or_infinite ha with hx | ⟨negative, rfl⟩
      · have hx := Number.value?_eq_units hx
        have hy := Number.value?_eq_units hfinite
        rw [Number.compare_eq hx hy]
        exact .numbers ha hb hx hy
      · rw [Number.compare_infinite negative hfinite]
        exact .beyond ha hb

theorem existsUnique_accepts (o : Ordering) : ∃! op : Operator, op ≠ .contains ∧ op.accepts o := by
  cases o with
  | lt => exact ⟨.lessThan, by decide, fun op h => by cases op <;> simp_all [Operator.accepts]⟩
  | eq => exact ⟨.equals, by decide, fun op h => by cases op <;> simp_all [Operator.accepts]⟩
  | gt => exact ⟨.greaterThan, by decide, fun op h => by cases op <;> simp_all [Operator.accepts]⟩

/-! ## Two texts -/

section Texts
variable {a b : String}

theorem compareWithText_text_numbers {m n : Number} (ha : Number.ofText? a = some m)
    (hb : Number.ofText? b = some n) : compareWithText (.text a) a b = m.compare n :=
  have ha : (Value.text a).number? = some m := ha
  compareWithText_numbers ha hb

theorem compareWithText_text_texts (h : Number.ofText? a = none ∨ Number.ofText? b = none) :
    compareWithText (.text a) a b = compare a b :=
  have h : (Value.text a).number? = none ∨ Number.ofText? b = none := h
  compareWithText_texts h

/-- Texts are equal as they stand or as numbers. -/
theorem compareWithText_text_eq_iff : compareWithText (.text a) a b = .eq ↔
    a = b ∨ ∃ m n, Number.ofText? a = some m ∧ Number.ofText? b = some n ∧ m.place = n.place := by
  cases ha : Number.ofText? a with
  | none =>
    rw [compareWithText_text_texts (.inl ha), Std.compare_eq_iff_eq]
    simp
  | some m =>
    cases hb : Number.ofText? b with
    | none =>
      rw [compareWithText_text_texts (.inr hb), Std.compare_eq_iff_eq]
      simp
    | some n =>
      rw [compareWithText_text_numbers ha hb, Number.compare_eq_eq]
      refine ⟨fun h => .inr ⟨m, n, rfl, rfl, h⟩, ?_⟩
      rintro (rfl | ⟨m', n', hm, hn, h⟩)
      · rw [Option.some.inj (ha.symm.trans hb)]
      · rwa [Option.some.inj hm, Option.some.inj hn]

theorem equivalence_texts : Equivalence fun a b : String => compareWithText (.text a) a b = .eq := by
  simp only [compareWithText_text_eq_iff]
  refine ⟨fun a => .inl rfl, ?_, ?_⟩
  · rintro a b (rfl | ⟨m, n, hm, hn, h⟩)
    · exact .inl rfl
    · exact .inr ⟨n, m, hn, hm, h.symm⟩
  · rintro a b c (rfl | ⟨m, n, hm, hn, h⟩) hbc
    · exact hbc
    · rcases hbc with rfl | ⟨n', k, hn', hk, h'⟩
      · exact .inr ⟨m, n, hm, hn, h⟩
      -- the text in the middle is one number
      · obtain rfl := Option.some.inj (hn.symm.trans hn')
        exact .inr ⟨m, k, hm, hk, h.trans h'⟩

theorem compareWithText_text_swap (a b : String) :
    (compareWithText (.text a) a b).swap = compareWithText (.text b) b a := by
  cases ha : Number.ofText? a with
  | none =>
    rw [compareWithText_text_texts (.inl ha), compareWithText_text_texts (.inr ha),
      Std.OrientedOrd.eq_swap (a := b)]
  | some m =>
    cases hb : Number.ofText? b with
    | none =>
      rw [compareWithText_text_texts (.inr hb), compareWithText_text_texts (.inl hb),
        Std.OrientedOrd.eq_swap (a := b)]
    | some n =>
      rw [compareWithText_text_numbers ha hb, compareWithText_text_numbers hb ha, Number.compare_swap]

end Texts

/-! ## What filters say -/

theorem Operator.accepts_swap (o : Ordering) :
    Operator.greaterThan.accepts o = Operator.lessThan.accepts o.swap := by
  cases o <;> rfl

/-- A cell that is there and has a text form is in exactly one of three relations to the value of a filter,
by exact values of numbers or by code points of texts; between texts the first of them is an equivalence
and the others are converses. -/
theorem matchesCell_coheres (hcell : cell.isNull = false) (htext : cell.HasText) (value : String) :
    (∃ o, cell.Orders value o ∧
      ∀ op : Operator, op ≠ .contains → matchesCell cell op value = .ok (op.accepts o)) ∧
    (∃! op : Operator, op ≠ .contains ∧ matchesCell cell op value = .ok true) ∧
    (Equivalence fun a b : String => matchesCell (.text a) .equals b = .ok true) ∧
    ∀ a b : String, matchesCell (.text a) .greaterThan b = matchesCell (.text b) .lessThan a := by
  obtain ⟨text, htext⟩ := Option.isSome_iff_exists.1 htext
  have hmatches (op : Operator) (hop : op ≠ .contains) :
      matchesCell cell op value = .ok (op.accepts (compareWithText cell text value)) :=
    Filter.matchesCell_of_text? hcell htext hop
  have htexts (a b : String) (op : Operator) (hop : op ≠ .contains) :
      matchesCell (.text a) op b = .ok (op.accepts (compareWithText (.text a) a b)) :=
    Filter.matchesCell_of_text? rfl rfl hop
  refine ⟨⟨_, orders_compareWithText htext, hmatches⟩, ?_, ?_, fun a b => ?_⟩
  · obtain ⟨op, ⟨hop, haccepts⟩, hunique⟩ := existsUnique_accepts (compareWithText cell text value)
    refine ⟨op, ⟨hop, by rw [hmatches op hop, haccepts]⟩, fun other ⟨hother, hmatch⟩ => hunique other ?_⟩
    rw [hmatches other hother, Except.ok.injEq] at hmatch
    exact ⟨hother, hmatch⟩
  · have hequals : (fun a b : String => matchesCell (.text a) .equals b = .ok true) =
        fun a b => compareWithText (.text a) a b = .eq := by
      funext a b
      rw [htexts a b .equals nofun, Except.ok.injEq, Operator.accepts, beq_iff_eq]
    rw [hequals]
    exact equivalence_texts
  · rw [htexts a b .greaterThan nofun, htexts b a .lessThan nofun, Operator.accepts_swap,
      compareWithText_text_swap]

/-! ### An integer next to a double

No double lies between the value and the cell, which is not one itself. -/

def oddSize : Value := .int 9007199254740993

theorem oddSize_coheres : oddSize.isNull = false ∧ oddSize.HasText ∧
    (∃ o, oddSize.Orders "9007199254740992.0" o ∧ ∀ op : Operator, op ≠ .contains →
      matchesCell oddSize op "9007199254740992.0" = .ok (op.accepts o)) ∧
    ∀ op : Operator, op ≠ .contains ∧ matchesCell oddSize op "9007199254740992.0" = .ok true ↔
      op = .greaterThan := by
  have htext : oddSize.HasText := by decide +kernel
  have hgreater : matchesCell oddSize .greaterThan "9007199254740992.0" = .ok true := by decide +kernel
  obtain ⟨horders, hunique, -⟩ := matchesCell_coheres rfl htext "9007199254740992.0"
  refine ⟨rfl, htext, horders, fun op => ⟨fun h => hunique.unique h ⟨nofun, hgreater⟩, ?_⟩⟩
  rintro rfl
  exact ⟨nofun, hgreater⟩

end Rollup
