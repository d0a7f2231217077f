import Rollup.Proofs.Comparison
import Rollup.Proofs.Definition
import Rollup.Proofs.Number.ReadBack

/-!
# Cells and their own texts

A cell is equal to its own text, whichever routes its number and the number of its text have taken
(`matchesCell_own_text_iff`). One kind of cells strays: a whole decimal number stands for an integer of any
size, but a text with a point or an exponent for the nearest double, so that a whole decimal number without a
double of its own, such as `9007199254740993.00`, is not equal to its text.
-/

namespace Rollup

/-! ## Decimal numbers without doubles of their own -/

/-- A whole number that is written with a point or an exponent and lies between two doubles. -/
inductive Decimal.Strays : Decimal → Prop
  | between {negative : Bool} {coefficient : Nat} {exponent n : Int} {x : ℚ} (hexponent : exponent ≠ 0)
      (hwhole : (finite negative coefficient exponent).toInt? = some n)
      (hnearest : (finite negative coefficient exponent).toDouble.value? = some x) (hne : x ≠ n) :
      Strays (finite negative coefficient exponent)

/-- A cell with a decimal number that strays from its text. -/
inductive Value.Strays : Value → Prop
  | decimal {d : Decimal} (h : d.Strays) : Strays (.decimal d)

/-- Whole numbers of at most 53 binary digits are doubles. -/
theorem Double.representable_mul_unitsPerOne {n : Nat} (h : n ≤ 2 ^ 53) :
    Representable (n * unitsPerOne) := by
  have hbound : Representable (2 ^ 53 * unitsPerOne) := representable_two_pow_mul_unitsPerOne (by decide)
  rcases h.lt_or_eq with hlt | rfl
  · refine ⟨(Nat.mul_le_mul_right _ h).trans_lt hbound.1, ?_⟩
    obtain ⟨e, hunits⟩ : ∃ e, unitsPerOne = 2 ^ e := by
      unfold unitsPerOne
      generalize 1074 = e
      exact ⟨e, Nat.pow_eq⟩
    rw [hunits, Nat.pow_eq]
    rcases Nat.eq_zero_or_pos n with rfl | hpos
    · simp
    have hlog : (n * 2 ^ e).log2 < 53 + e := by
      rw [Nat.log2_lt (Nat.mul_pos hpos (Nat.two_pow_pos e)).ne', Nat.pow_add]
      exact Nat.mul_lt_mul_of_pos_right hlt (Nat.two_pow_pos e)
    exact (Nat.pow_dvd_pow 2 (by omega)).trans (Nat.dvd_mul_left _ n)
  · exact hbound

theorem Decimal.eq_of_toInt? {negative : Bool} {coefficient : Nat} {exponent n : Int}
    (h : (finite negative coefficient exponent).toInt? = some n) :
    coefficient * 10 ^ exponent.toNat = n.natAbs * 10 ^ (-exponent).toNat ∧
      Double.signed negative n.natAbs = n := by
  have hsigned (m : Nat) : (Double.signed negative m).natAbs = m := by
    cases negative <;> simp [Double.signed]
  change (if coefficient = 0 then some 0
    else if 0 ≤ exponent then some (Double.signed negative (coefficient * Nat.pow 10 exponent.toNat))
    else if (Text.digitChars coefficient).length < (-exponent).toNat then none
    else if coefficient % Nat.pow 10 (-exponent).toNat = 0 then
      some (Double.signed negative (coefficient / Nat.pow 10 (-exponent).toNat))
    else none) = some n at h
  split_ifs at h with hzero hwhole hshort hdvd
  · obtain rfl := Option.some.inj h
    subst hzero
    cases negative <;> simp [Double.signed]
  · obtain rfl := Option.some.inj h
    have hnone : (-exponent).toNat = 0 := by omega
    rw [hsigned, hnone, Nat.pow_eq, Nat.pow_zero, Nat.mul_one]
    exact ⟨rfl, rfl⟩
  · obtain rfl := Option.some.inj h
    have hnone : exponent.toNat = 0 := by omega
    rw [hsigned, hnone, Nat.pow_zero, Nat.mul_one]
    exact ⟨(Nat.div_mul_cancel (Nat.dvd_of_mod_eq_zero hdvd)).symm, rfl⟩

/-- The double nearest to a whole decimal number is the one nearest to the integer. -/
theorem Decimal.toDouble_of_toInt? {negative : Bool} {coefficient : Nat} {exponent n : Int}
    (h : (finite negative coefficient exponent).toInt? = some n) :
    (finite negative coefficient exponent).toDouble = Double.ofFraction negative n.natAbs 1 := by
  have hpow (k : Nat) : 0 < 10 ^ k := Nat.pow_pos (by decide)
  rw [toDouble, Double.ofScientific_eq]
  exact Double.ofFraction_congr negative (hpow _) Nat.one_pos ((Nat.mul_one _).trans (eq_of_toInt? h).1)

/-- Whole numbers of at most 53 binary digits do not stray. -/
theorem Decimal.not_strays {negative : Bool} {coefficient : Nat} {exponent n : Int}
    (h : (finite negative coefficient exponent).toInt? = some n) (hn : n.natAbs ≤ 2 ^ 53) :
    ¬ (finite negative coefficient exponent).Strays := by
  have hfits := Double.representable_mul_unitsPerOne hn
  have hone : (Double.unitsPerOne : ℚ) ≠ 0 := Nat.cast_ne_zero.2 Double.unitsPerOne_pos.ne'
  have hunits : Double.signed negative (n.natAbs * Double.unitsPerOne) = n * Double.unitsPerOne := by
    conv_rhs => rw [← (eq_of_toInt? h).2]
    cases negative with
    | false =>
      rw [Double.signed, Double.signed, if_neg Bool.false_ne_true, if_neg Bool.false_ne_true, Int.natCast_mul]
    | true => rw [Double.signed, Double.signed, if_pos rfl, if_pos rfl, Int.natCast_mul, Int.neg_mul]
  have hvalue : (finite negative coefficient exponent).toDouble.value? = some (n : ℚ) := by
    rw [toDouble_of_toInt? h, Double.ofFraction, Double.round, Double.roundUnits_of_representable hfits,
      Double.ofUnits_of_representable hfits, Double.value?, hunits, Int.cast_mul, Int.cast_natCast,
      mul_div_cancel_right₀ _ hone]
  intro hstrays
  cases hstrays with
  | between hexponent hwhole hnearest hne =>
    obtain rfl := Option.some.inj (h.symm.trans hwhole)
    exact hne (Option.some.inj (hvalue.symm.trans hnearest)).symm

theorem Decimal.toInt?_whole (negative : Bool) (coefficient : Nat) :
    (finite negative coefficient 0).toInt? =
      some (if negative then -(coefficient : Int) else coefficient) := by
  by_cases hzero : coefficient = 0
  · subst hzero
    cases negative <;> rfl
  · simp [toInt?, hzero]

/-! ## Comparing a cell with its text -/

section Own
variable {cell : Value} {text : String} {d : Decimal}

/-- A cell equals its text unless both stand for numbers and these differ. -/
theorem compareWithText_own (h : ∀ a b, cell.number? = some a → Number.ofText? text = some b →
    a.place = b.place) : compareWithText cell text text = .eq := by
  cases ha : cell.number? with
  | none => rw [compareWithText_texts (.inl ha), Std.compare_eq_iff_eq]
  | some a =>
    cases hb : Number.ofText? text with
    | none => rw [compareWithText_texts (.inr hb), Std.compare_eq_iff_eq]
    | some b =>
      rw [compareWithText_numbers ha hb, Number.compare_eq_eq]
      exact h a b ha hb

theorem place_eq_of_not_strays (hd : ¬ d.Strays) {a b : Number} (ha : Number.ofDecimal? d = some a)
    (hb : Number.ofText? d.text = some b) : a.place = b.place := by
  cases d with
  | infinite => cases ha
  | nan => cases ha
  | finite negative coefficient exponent =>
    have hfinite : (Decimal.finite negative coefficient exponent).isFinite = true := rfl
    rw [Number.ofDecimal?, if_pos hfinite] at ha
    by_cases hexponent : exponent = 0
    · subst hexponent
      -- an integer on both sides
      rw [Decimal.toInt?_whole] at ha
      rw [Number.ofText?_text_whole] at hb
      by_cases hshort : (Text.digitChars coefficient).length ≤ Numeral.maxIntegerDigits
      · rw [if_pos hshort] at hb
        rw [← Option.some.inj ha, ← Option.some.inj hb]
      · rw [if_neg hshort] at hb
        cases hb
    · rw [Number.ofText?_text_scaled negative coefficient hexponent] at hb
      split_ifs at hb with hdouble
      obtain rfl := Option.some.inj hb
      cases hwhole : (Decimal.finite negative coefficient exponent).toInt? with
      | none =>
        -- the nearest double on both sides
        rw [hwhole] at ha
        cases ha
        rfl
      | some n =>
        -- an integer as a cell, the nearest double as a text
        rw [hwhole] at ha
        cases ha
        have hnearest := @Number.value?_eq_units
          (.double (Decimal.finite negative coefficient exponent).toDouble) hdouble
        refine Number.compare_eq_eq.1 ((Number.compare_eq rfl hnearest).trans (compare_eq_iff_eq.2 ?_))
        by_contra hne
        exact hd (.between hexponent hwhole hnearest (Ne.symm hne))

theorem compareWithText_of_strays (hd : d.Strays) :
    compareWithText (.decimal d) d.text d.text ≠ .eq := by
  cases hd with
  | @between negative coefficient exponent n x hexponent hwhole hnearest hne =>
    have hfinite : (Decimal.finite negative coefficient exponent).isFinite = true := rfl
    have hvalue : (Number.double (Decimal.finite negative coefficient exponent).toDouble).value? = some x :=
      hnearest
    have hdouble : (Decimal.finite negative coefficient exponent).toDouble.isFinite :=
      Number.isFinite_of_value? hvalue
    have hcell : (Value.decimal (.finite negative coefficient exponent)).number? = some (.int n) := by
      rw [Value.number?, Number.ofDecimal?, if_pos hfinite, hwhole]
    have htext := Number.ofText?_text_scaled negative coefficient hexponent
    rw [if_pos hdouble] at htext
    have hint : (Number.int n).value? = some (n : ℚ) := rfl
    rw [compareWithText_numbers hcell htext, Number.compare_eq hint hvalue]
    exact fun heq => hne (compare_eq_iff_eq.1 heq).symm

theorem number?_eq_of_not_decimal (htext : cell.text? = some text) (hcell : ∀ d, cell ≠ .decimal d)
    {a b : Number} (ha : cell.number? = some a) (hb : Number.ofText? text = some b) : a = b := by
  cases cell with
  | decimal d => exact absurd rfl (hcell d)
  | int n =>
    have hread := Number.ofText?_intText? htext
    rw [← Option.some.inj ha, ← Option.some.inj (hread.symm.trans hb)]
  | double x =>
    obtain rfl := Option.some.inj htext
    rw [Value.number?] at ha
    split_ifs at ha with hx
    rw [← Option.some.inj ha, ← Option.some.inj ((Number.ofText?_text hx).symm.trans hb)]
  | text s =>
    obtain rfl := Option.some.inj htext
    exact Option.some.inj (ha.symm.trans hb)
  | _ => cases ha

theorem compareWithText_own_iff (htext : cell.text? = some text) :
    compareWithText cell text text = .eq ↔ ¬ cell.Strays := by
  by_cases hdecimal : ∃ d, cell = .decimal d
  · obtain ⟨d, rfl⟩ := hdecimal
    obtain rfl := Option.some.inj htext
    refine ⟨fun heq hstrays => ?_, fun hd => ?_⟩
    · cases hstrays with
      | decimal hd => exact compareWithText_of_strays hd heq
    · exact compareWithText_own fun a b => place_eq_of_not_strays fun hstrays => hd (.decimal hstrays)
  · have hcell : ∀ d, cell ≠ .decimal d := fun d heq => hdecimal ⟨d, heq⟩
    refine iff_of_true (compareWithText_own fun a b ha hb => ?_) fun hstrays => ?_
    · rw [number?_eq_of_not_decimal htext hcell ha hb]
    · cases hstrays with
      | decimal hd => exact hcell _ rfl

end Own

/-! ## Filters written with values -/

/-- Truth values, integers and doubles. -/
inductive Value.IsScalar : Value → Prop
  | bool (b : Bool) : IsScalar (.bool b)
  | int (n : Int) : IsScalar (.int n)
  | double (x : Double) : IsScalar (.double x)

variable {v cell : Value} {text : String}

theorem Value.IsScalar.isNull (h : v.IsScalar) : v.isNull = false := by
  cases h <;> rfl

theorem Value.IsScalar.not_strays (h : v.IsScalar) : ¬ v.Strays := by
  intro hstrays
  cases hstrays with
  | decimal => cases h

/-- The value of a filter that is written as a scalar is the text of the scalar. -/
theorem Filter.checkValue_scalar (h : v.IsScalar) :
    Filter.checkValue v = v.text?.elim (Checked.fail .tooManyDigits) .ok := by
  cases h with
  | bool b => rfl
  | int n =>
    have htext : (Value.int n).text? = Number.intText? n := rfl
    rw [htext, Filter.checkValue]
    cases Number.intText? n <;> rfl
  | double x => rfl

/-- What a filter is read as that is written with a field, a value and perhaps the operator `equals`. -/
theorem Filter.check_equals {fields : List (String × Value)} {field : String} (hv : v.IsScalar)
    (htext : v.text? = some text) (hfield : lookup? "field" fields = some (.text field))
    (hoperator : ∀ w, lookup? "operator" fields = some w → w = .text "equals")
    (hvalue : lookup? "value" fields = some v) :
    Filter.check (.record fields) = .ok ⟨field, .equals, text⟩ := by
  have hread : Filter.checkValue v = .ok text := by rw [checkValue_scalar hv, htext, Option.elim_some]
  have hequals : Checked.optional fields "operator" .equals (Checked.named Operator.ofName?) =
      .ok .equals := by
    cases hop : lookup? "operator" fields with
    | none => rw [Checked.optional, hop]
    | some w =>
      obtain rfl := hoperator w hop
      exact Checked.optional_eq_ok hop (Checked.named_name rfl)
  have hrequired : Checked.required fields "field" Checked.text = .ok field := by
    rw [Checked.required, hfield]
    rfl
  rw [Filter.check, Checked.model, hrequired, hequals, Checked.optional_eq_ok hvalue hread]
  rfl

/-- A cell with a text form equals its own text unless it strays from it; a filter that is written with a
scalar has the text of the scalar for its value, and is satisfied by the rows that hold the scalar. -/
theorem matchesCell_own_text_iff (hcell : cell.isNull = false) (htext : cell.text? = some text) :
    (matchesCell cell .equals text = .ok true ↔ ¬ cell.Strays) ∧
    ∀ v : Value, v.IsScalar →
      Filter.checkValue v = v.text?.elim (Checked.fail .tooManyDigits) .ok ∧
      ∀ (fields : List (String × Value)) (field value : String), v.text? = some value →
        lookup? "field" fields = some (.text field) →
        (∀ w, lookup? "operator" fields = some w → w = .text "equals") →
        lookup? "value" fields = some v →
        ∃ f, Filter.check (.record fields) = .ok f ∧ f.value = value ∧
          ∀ row : Row, row.get field = v → f.matchesRow row = .ok true := by
  have hown {cell : Value} {text : String} (hcell : cell.isNull = false) (htext : cell.text? = some text) :
      matchesCell cell .equals text = .ok true ↔ ¬ cell.Strays := by
    have hequals : Operator.equals ≠ .contains := nofun
    rw [Filter.matchesCell_of_text? hcell htext hequals, Except.ok.injEq, Operator.accepts, beq_iff_eq,
      compareWithText_own_iff htext]
  refine ⟨hown hcell htext, fun v hv => ⟨Filter.checkValue_scalar hv, ?_⟩⟩
  intro fields field value hvalue hfield hoperator hentry
  refine ⟨_, Filter.check_equals hv hvalue hfield hoperator hentry, rfl, fun row hrow => ?_⟩
  rw [Filter.matchesRow, hrow]
  exact (hown hv.isNull hvalue).2 hv.not_strays

/-! ### Amounts with cents

A whole amount of a column of decimal numbers with two places, and a filter that is written with a number. -/

def wholeAmount : Value := .decimal (.finite false 15000 (-2))

theorem wholeAmount_own_text : wholeAmount.text? = some "150.00" ∧
    matchesCell wholeAmount .equals "150.00" = .ok true ∧
    ∃ f, Filter.check (.record [("value", .int 150), ("field", .text "amount")]) = .ok f ∧ f.value = "150" ∧
      f.matchesRow [("id", .text "a"), ("amount", .int 150)] = .ok true := by
  have htext : wholeAmount.text? = some "150.00" := by decide +kernel
  have hint : (Value.int 150).text? = some "150" := by decide +kernel
  have hstrays : ¬ wholeAmount.Strays := by
    intro hstrays
    cases hstrays with
    | decimal hd =>
      have hwhole : (Decimal.finite false 15000 (-2)).toInt? = some 150 := by decide +kernel
      exact Decimal.not_strays hwhole (by decide) hd
  obtain ⟨hown, hfilter⟩ := matchesCell_own_text_iff rfl htext
  obtain ⟨f, hcheck, hvalue, hrows⟩ := (hfilter (.int 150) (.int 150)).2
    [("value", .int 150), ("field", .text "amount")] "amount" "150" hint rfl nofun rfl
  exact ⟨htext, hown.2 hstrays, f, hcheck, hvalue, hrows _ rfl⟩

/-- An amount beyond 53 binary digits, which such a column holds exactly. -/
def largeAmount : Value := .decimal (.finite false 900719925474099300 (-2))

theorem largeAmount_differs : largeAmount.isNull = false ∧
    largeAmount.text? = some "9007199254740993.00" ∧
    matchesCell largeAmount .equals "9007199254740993.00" = .ok false := by
  decide +kernel

end Rollup
