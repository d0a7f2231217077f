import Rollup.Proofs.Number.Scientific
import Rollup.Proofs.Number.Whole

/-!
# Numbers read back from their texts

The text of a number is a numeral with its exact value, or one that rounds to the same double. An integer is
read back as itself and so is a finite double (`Number.ofText?_intText?`, `Number.ofText?_text`); the numeral
of a decimal number has the coefficient and the exponent of the number, but unless the exponent is zero it is
read as the nearest double (`Number.ofText?_text_whole`, `Number.ofText?_text_scaled`).
-/

namespace Rollup

namespace Numeral
variable {whole fraction tail cs : List Char} {e : Int}

/-! ## Digits -/

theorem digitsValue_replicate_append (n : Nat) (cs : List Char) :
    digitsValue (List.replicate n '0' ++ cs) = digitsValue cs := by
  simp [digitsValue, Nat.ofDigitChars_append, Nat.ofDigitChars_replicate_zero]

theorem digitsValue_append_replicate (cs : List Char) (n : Nat) :
    digitsValue (cs ++ List.replicate n '0') = digitsValue cs * 10 ^ n := by
  simp [digitsValue, Nat.ofDigitChars_append, Nat.ofDigitChars_replicate_zero, Nat.mul_comm]

theorem digitsValue_zero_cons (cs : List Char) : digitsValue ('0' :: cs) = digitsValue cs :=
  digitsValue_replicate_append 1 cs

theorem span_digits (h : ∀ c ∈ whole, c.isDigit) (htail : ∀ c ∈ tail.head?, c.isDigit = false) :
    (whole ++ tail).takeWhile Char.isDigit = whole ∧ (whole ++ tail).dropWhile Char.isDigit = tail := by
  rw [List.takeWhile_append_of_pos h, List.dropWhile_append_of_pos h]
  cases tail with
  | nil => simp
  | cons c tail =>
    have hc : c.isDigit = false := htail c rfl
    simp [hc]

/-! ## Exponents and fractions -/

/-- Neither a digit nor a point begins what is read as an exponent. -/
theorem head_of_readExponent? (h : readExponent? tail = some e) :
    ∀ c ∈ tail.head?, c.isDigit = false ∧ c ≠ '.' := by
  cases tail with
  | nil => nofun
  | cons mark tail =>
    rintro c ⟨⟩
    rw [readExponent?] at h
    split_ifs at h with hmark
    rw [Bool.or_eq_true, beq_iff_eq, beq_iff_eq] at hmark
    rcases hmark with rfl | rfl <;> decide

theorem readExponent?_written {mark : Char} (hmark : mark = 'e' ∨ mark = 'E') {power : Int}
    (hne : cs ≠ []) (h : ∀ c ∈ cs, c.isDigit) (hvalue : digitsValue cs = power.natAbs) :
    readExponent? (mark :: (if power < 0 then '-' else '+') :: cs) = some power := by
  have hdigits : (cs.isEmpty || !cs.all Char.isDigit) = false := by simpa [hne] using h
  have hmark : (mark == 'e' || mark == 'E') = true := by simpa using hmark
  rw [readExponent?, if_pos hmark]
  by_cases hneg : power < 0
  · simp only [hneg, if_true, splitSign, hdigits, hvalue]
    rw [if_neg Bool.false_ne_true]
    exact congrArg some (by omega)
  · simp only [hneg, if_false, splitSign, hdigits, hvalue]
    rw [if_neg Bool.false_ne_true, if_neg Bool.false_ne_true]
    exact congrArg some (by omega)

theorem readUnsigned?_whole (hne : whole ≠ []) (h : ∀ c ∈ whole, c.isDigit)
    (htail : readExponent? tail = some e) : readUnsigned? (whole ++ tail) = some (digitsValue whole, e) := by
  have hhead := head_of_readExponent? htail
  obtain ⟨htake, hdrop⟩ := span_digits h fun c hc => (hhead c hc).1
  have hsplit : splitFraction tail = ([], tail) := by
    unfold splitFraction
    split
    · exact absurd rfl (hhead '.' rfl).2
    · rfl
  rw [readUnsigned?_eq, htake, hdrop, hsplit]
  simp [hne, htail]

theorem readUnsigned?_point (hne : whole ≠ []) (h : ∀ c ∈ whole, c.isDigit) (hf : ∀ c ∈ fraction, c.isDigit)
    (htail : readExponent? tail = some e) : readUnsigned? (whole ++ '.' :: (fraction ++ tail)) =
      some (digitsValue (whole ++ fraction), e - fraction.length) := by
  obtain ⟨htake, hdrop⟩ := @span_digits whole ('.' :: (fraction ++ tail)) h (by rintro c ⟨⟩; rfl)
  obtain ⟨hfraction, hrest⟩ := span_digits hf fun c hc => (head_of_readExponent? htail c hc).1
  rw [readUnsigned?_eq, htake, hdrop, splitFraction, hfraction, hrest]
  simp [hne, htail]

/-- A zero, a point, zeros and digits. -/
theorem readUnsigned?_zero_point (h : ∀ c ∈ cs, c.isDigit) (n : Nat) :
    readUnsigned? ('0' :: '.' :: (List.replicate n '0' ++ cs)) =
      some (digitsValue cs, -((n + cs.length : Nat) : Int)) := by
  have hzero : ∀ c ∈ ['0'], c.isDigit := by simp
  have hnone : readExponent? [] = some 0 := rfl
  have hf : ∀ c ∈ List.replicate n '0' ++ cs, c.isDigit := by
    intro c hc
    rcases List.mem_append.1 hc with hc | hc
    · exact List.eq_of_mem_replicate hc ▸ by decide
    · exact h c hc
  have hread := readUnsigned?_point (List.cons_ne_nil '0' []) hzero hf hnone
  rw [List.append_nil, List.singleton_append, List.singleton_append, digitsValue_zero_cons,
    digitsValue_replicate_append, List.length_append, List.length_replicate, Int.zero_sub] at hread
  exact hread

/-- Digits with a point behind some of them. -/
theorem readUnsigned?_insert_point (hne : cs ≠ []) (h : ∀ c ∈ cs, c.isDigit) {n : Nat} (hn : 0 < n) :
    readUnsigned? (cs.take n ++ '.' :: cs.drop n) =
      some (digitsValue cs, -((cs.length - n : Nat) : Int)) := by
  have hnone : readExponent? [] = some 0 := rfl
  have htake : cs.take n ≠ [] := by
    simp only [ne_eq, List.take_eq_nil_iff, not_or]
    exact ⟨by omega, hne⟩
  have hw : ∀ c ∈ cs.take n, c.isDigit := fun c hc => h c (List.mem_of_mem_take hc)
  have hf : ∀ c ∈ cs.drop n, c.isDigit := fun c hc => h c (List.mem_of_mem_drop hc)
  have hread := readUnsigned?_point htake hw hf hnone
  rw [List.append_nil, List.take_append_drop, List.length_drop, Int.zero_sub] at hread
  exact hread

/-- The first digit, a point and the others, where there are any, before an exponent. -/
theorem readUnsigned?_mantissa {power : Int} (htail : readExponent? tail = some power)
    (digits : List Char) : digits ≠ [] → (∀ c ∈ digits, c.isDigit) →
      readUnsigned? ((match digits with
        | d :: e :: more => d :: '.' :: e :: more
        | other => other) ++ tail) = some (digitsValue digits, power - (digits.length - 1 : Nat)) := by
  intro hne h
  split
  next d e more =>
    have hw : ∀ c ∈ [d], c.isDigit := by simpa using h d List.mem_cons_self
    exact readUnsigned?_point (List.cons_ne_nil d []) hw (fun c hc => h c (List.mem_cons_of_mem d hc)) htail
  next _ hshort =>
    have hone : digits.length - 1 = 0 := by
      match digits, hshort with
      | [], _ => rfl
      | [d], _ => rfl
      | d :: e :: more, hshort => exact (hshort d e more rfl).elim
    rw [readUnsigned?_whole hne h htail, hone]
    simp

/-! ## Signs -/

theorem Unsigned.isPlain_signed (h : Unsigned cs) (negative : Bool) :
    ∀ c ∈ Decimal.signChars negative ++ cs, Rollup.isPlain c := by
  intro c hc
  rcases List.mem_append.1 hc with hc | hc
  · cases negative with
    | false => cases hc
    | true =>
      obtain rfl := List.mem_singleton.1 hc
      decide
  · exact h.isPlain c hc

theorem Unsigned.not_mem_separator_signed (h : Unsigned cs) (negative : Bool) :
    '_' ∉ Decimal.signChars negative ++ cs := fun hmem => by
  rcases List.mem_append.1 hmem with hmem | hmem
  · cases negative <;> simp [Decimal.signChars] at hmem
  · exact h.not_mem_separator hmem

theorem Unsigned.splitSign_signed (h : Unsigned cs) (negative : Bool) :
    Numeral.splitSign (Decimal.signChars negative ++ cs) = (negative, cs) := by
  cases negative with
  | false => exact h.splitSign
  | true => rfl

theorem Unsigned.dropSeparators_signed (h : Unsigned cs) (negative : Bool) :
    dropSeparators false (asciiDigits (Decimal.signChars negative ++ cs)) =
      some (Decimal.signChars negative ++ cs) := by
  rw [asciiDigits_of_isPlain (h.isPlain_signed negative),
    dropSeparators_eq_self (h.not_mem_separator_signed negative)]

theorem Unsigned.readInt?_signed (h : Unsigned cs) (negative : Bool) :
    readInt? (Decimal.signChars negative ++ cs) =
      if cs.all Char.isDigit ∧ cs.length ≤ maxIntegerDigits then
        some (if negative then -(digitsValue cs : Int) else digitsValue cs)
      else none := by
  obtain ⟨d, more, hcons, -⟩ := h.head_isDigit
  have hne : cs ≠ [] := hcons ▸ List.cons_ne_nil d more
  have hread (n : Int) : readInt? (Decimal.signChars negative ++ cs) = some n ↔ _ :=
    readInt?_of_plain (h.dropSeparators_signed negative) (h.splitSign_signed negative)
  by_cases hint : cs.all Char.isDigit ∧ cs.length ≤ maxIntegerDigits
  · rw [if_pos hint, hread]
    exact ⟨hne, List.all_eq_true.1 hint.1, hint.2, rfl⟩
  · rw [if_neg hint, Option.eq_none_iff_forall_ne_some]
    intro n hn
    obtain ⟨-, hall, hfew, -⟩ := (hread n).1 hn
    exact hint ⟨List.all_eq_true.2 hall, hfew⟩

end Numeral

open Numeral

/-- A numeral with a sign is read as an integer where it has digits only, and not too many of them, and as
the nearest double otherwise. -/
theorem Number.ofText?_signed {cs : List Char} {digits : Nat} {exponent : Int} (h : Unsigned cs)
    (hread : readUnsigned? cs = some (digits, exponent)) (negative : Bool) :
    ofText? (String.ofList (Decimal.signChars negative ++ cs)) =
      if cs.all Char.isDigit ∧ cs.length ≤ maxIntegerDigits then
        some (int (if negative then -(digitsValue cs : Int) else digitsValue cs))
      else if (Double.ofScientific negative digits exponent).isFinite then
        some (double (Double.ofScientific negative digits exponent))
      else none := by
  have htrim : Text.trimChars (Decimal.signChars negative ++ cs) = Decimal.signChars negative ++ cs := by
    have hinside := @Text.trimChars_append [] (Decimal.signChars negative ++ cs) [] nofun
      (fun c hc => Cast.not_isBlankChar_of_isPlain (h.isPlain_signed negative c hc)) nofun
    rwa [List.nil_append, List.append_nil] at hinside
  have hnumeral : Numeral.read? (Decimal.signChars negative ++ cs) = some ⟨negative, digits, exponent⟩ := by
    rw [Numeral.read?, h.dropSeparators_signed, Option.bind_some, readPlain?, h.splitSign_signed]
    simp [hread]
  rw [ofText?, String.toList_ofList, htrim]
  rw [h.readInt?_signed, Double.ofChars?, hnumeral]
  by_cases hint : cs.all Char.isDigit ∧ cs.length ≤ maxIntegerDigits
  · rw [if_pos hint, if_pos hint]
  · rw [if_neg hint, if_neg hint]
    rfl

/-! ## Integers -/

theorem Number.ofText?_intText? {n : Int} {s : String} (h : intText? n = some s) :
    ofText? s = some (int n) := by
  have hdigits : ∀ c ∈ Text.digitChars n.natAbs, c.isDigit := fun c hc => Text.isDigit_of_mem_digitChars hc
  have hunsigned : Unsigned (Text.digitChars n.natAbs) := .positional (positional_digitChars n.natAbs)
  have hread := readUnsigned?_digits (Text.digitChars_ne_nil n.natAbs) hdigits
  unfold intText? at h
  dsimp only at h
  split_ifs at h with hlong hneg
  all_goals
    obtain rfl := Option.some.inj h
    have hint : (Text.digitChars n.natAbs).all Char.isDigit ∧
        (Text.digitChars n.natAbs).length ≤ maxIntegerDigits :=
      ⟨List.all_eq_true.2 hdigits, Nat.not_lt.1 hlong⟩
  · have hsigned := ofText?_signed hunsigned hread true
    rw [if_pos hint, Text.digitsValue_digitChars, if_pos rfl] at hsigned
    refine hsigned.trans (congrArg (fun i => some (int i)) ?_)
    omega
  · have hsigned := ofText?_signed hunsigned hread false
    rw [if_pos hint, Text.digitsValue_digitChars, if_neg Bool.false_ne_true] at hsigned
    refine hsigned.trans (congrArg (fun i => some (int i)) ?_)
    omega

/-! ## Doubles -/

namespace Double
variable {digits : List Char}

theorem digitsValue_digitCharsPadded (width n : Nat) :
    digitsValue (Text.digitCharsPadded width n) = n := by
  rw [Text.digitCharsPadded, digitsValue_replicate_append, Text.digitsValue_digitChars]

theorem isDigit_of_mem_digitCharsPadded {width n : Nat} {c : Char} (h : c ∈ Text.digitCharsPadded width n) :
    c.isDigit := by
  rcases List.mem_append.1 h with h | h
  · exact List.eq_of_mem_replicate h ▸ by decide
  · exact Text.isDigit_of_mem_digitChars h

theorem readExponent?_exponentChars {layout : Layout} (h : layout.exponentMark = 'e') (exponent : Int) :
    readExponent? (exponentChars layout exponent) = some exponent := by
  have hne : Text.digitCharsPadded layout.exponentWidth exponent.natAbs ≠ [] :=
    List.append_ne_nil_of_right_ne_nil _ (Text.digitChars_ne_nil _)
  exact readExponent?_written (.inl h) hne (fun c hc => isDigit_of_mem_digitCharsPadded hc)
    (digitsValue_digitCharsPadded _ _)

/-- However a number is laid out, a numeral is read that rounds to the same double. -/
theorem readUnsigned?_layOut {layout : Layout} (hlayout : layout.exponentMark = 'e') (hne : digits ≠ [])
    (h : ∀ c ∈ digits, c.isDigit) (exponent : Int) :
    ∃ d e, readUnsigned? (layOut layout digits exponent) = some (d, e) ∧
      ∀ negative, ofScientific negative d e = ofScientific negative (digitsValue digits) exponent := by
  have hzero : ∀ c ∈ ['0'], c.isDigit := by simp
  have hnone : readExponent? [] = some 0 := rfl
  unfold layOut
  dsimp only
  split_ifs with hpositional hsmall hwhole
  · refine ⟨_, _, readUnsigned?_zero_point h _, fun negative => ?_⟩
    congr 1
    omega
  -- zeros before the point and one behind it: more digits than were laid out, but the same value
  · have hw : ∀ c ∈ digits ++ List.replicate exponent.toNat '0', c.isDigit := by
      intro c hc
      rcases List.mem_append.1 hc with hc | hc
      · exact h c hc
      · exact List.eq_of_mem_replicate hc ▸ by decide
    have hread := readUnsigned?_point (List.append_ne_nil_of_left_ne_nil hne _) hw hzero hnone
    refine ⟨_, _, hread, fun negative => ?_⟩
    rw [List.append_assoc, ← List.replicate_succ', digitsValue_append_replicate, ofScientific_mul_pow]
    congr 1
    simp
    omega
  · refine ⟨_, _, readUnsigned?_insert_point hne h (by omega), fun negative => ?_⟩
    congr 1
    omega
  · have hexponent := readExponent?_exponentChars hlayout (exponent + digits.length - 1)
    have hread := readUnsigned?_mantissa hexponent digits hne h
    match digits, hne, hread with
    | [d], _, hread =>
      refine ⟨_, _, hread, fun negative => ?_⟩
      congr 1
      simp
    | d :: e :: more, _, hread =>
      refine ⟨_, _, hread, fun negative => ?_⟩
      congr 1
      simp
      omega

/-- The text of a double is not that of an integer. -/
theorem all_isDigit_layOut {layout : Layout} (hlayout : layout.exponentMark = 'e') (hne : digits ≠ [])
    (exponent : Int) : (layOut layout digits exponent).all Char.isDigit = false := by
  have hmark : Char.isDigit 'e' = false := by decide
  have hpoint : Char.isDigit '.' = false := by decide
  unfold layOut
  dsimp only
  split_ifs
  · simp [hpoint]
  · simp [hpoint]
  · simp [hpoint]
  · match digits, hne with
    | [d], _ => simp [exponentChars, hlayout, hmark]
    | d :: e :: more, _ => simp [hpoint]

theorem ofUnits_of_representable {units : Nat} (h : Representable units) (negative : Bool) :
    ofUnits negative units = finite negative units h := dif_pos h

theorem ofScientific_eq_finite {units d : Nat} {e : Int} (h : Representable units)
    (hread : ofScientific false d e = ofUnits false units) (negative : Bool) :
    ofScientific negative d e = finite negative units h := by
  rw [ofUnits_of_representable h, ofScientific_eq, ofFraction, round] at hread
  rw [ofScientific_eq, ofFraction, round]
  -- Rounding looks at the magnitude only, and the sign comes back as it was given.
  generalize roundUnits (d * 10 ^ e.toNat * unitsPerOne) (10 ^ (-e).toNat) = rounded at hread ⊢
  by_cases hrounded : Representable rounded
  · rw [ofUnits_of_representable hrounded] at hread ⊢
    cases hread
    rfl
  · rw [ofUnits, dif_neg hrounded] at hread
    cases hread

theorem reads_of_nearestOnGrid? {units d : Nat} {scale : Int} (h : nearestOnGrid? units scale = some d) :
    ofScientific false d scale = ofUnits false units := by
  unfold nearestOnGrid? at h
  dsimp only at h
  split at h
  case h_1 hbelow habove =>
    obtain rfl := Option.some.inj h
    split_ifs
    · exact beq_iff_eq.1 hbelow
    · exact beq_iff_eq.1 habove
  case h_2 hbelow _ => exact Option.some.inj h ▸ beq_iff_eq.1 hbelow
  case h_3 _ habove => exact Option.some.inj h ▸ beq_iff_eq.1 habove
  case h_4 => cases h

theorem reads_of_searchGrids {units d : Nat} {leading e : Int} {grids : List Nat}
    (h : searchGrids units leading grids = some (d, e)) : ofScientific false d e = ofUnits false units := by
  induction grids with
  | nil => cases h
  | cons places more ih =>
    rw [searchGrids] at h
    cases hgrid : nearestOnGrid? units (leading + 1 - places) with
    | none =>
      rw [hgrid] at h
      exact ih h
    | some digits =>
      rw [hgrid] at h
      cases h
      exact reads_of_nearestOnGrid? hgrid

theorem ofScientific_exact {units places : Nat} {scale : Int} (h : Representable units)
    (hscale : scale = -places) (hplaces : unitsPerOne = Nat.pow 2 places) :
    ofScientific false (units * Nat.pow 5 places) scale = ofUnits false units := by
  have hwhole : scale.toNat = 0 := by omega
  have hfraction : (-scale).toNat = places := by omega
  have hvalue : units * Nat.pow 5 places * unitsPerOne = units * 10 ^ places := by
    rw [hplaces, Nat.pow_eq, Nat.pow_eq, Nat.mul_assoc, ← Nat.mul_pow]
  have hround : roundUnits (units * 10 ^ places) (1 * 10 ^ places) = units := by
    rw [roundUnits_mul_right units 1 (Nat.pow_pos (by decide)), roundUnits_of_representable h]
  rw [Nat.one_mul] at hround
  rw [ofScientific_eq, hwhole, hfraction, Nat.pow_zero, Nat.mul_one, ofFraction, round, hvalue, hround]

/-- The decimal digits of a double read back, whichever grid they are on. -/
theorem ofScientific_decimal {units : Nat} (h : Representable units) (negative : Bool) :
    ofScientific negative (decimal units).1 (decimal units).2 = finite negative units h := by
  refine ofScientific_eq_finite h ?_ negative
  unfold decimal
  split_ifs with hzero
  · rw [hzero, ofScientific, if_pos rfl]
  · cases hsearch : searchGrids units (leadingExponent units) (List.range' 1 17) with
    | none =>
      -- All decimal places. Their number is hidden, so that no power is computed.
      have hscale : (-1074 : Int) = -((1074 : Nat) : Int) := by decide
      obtain ⟨grid, hgrid⟩ : ∃ grid, unitsPerOne = grid := ⟨_, rfl⟩
      have hplaces := hgrid
      unfold unitsPerOne at hplaces
      rw [hscale, Option.getD_none]
      generalize 1074 = places at hplaces ⊢
      exact ofScientific_exact h rfl (hgrid.trans hplaces.symm)
    | some r => exact reads_of_searchGrids hsearch

theorem dropLastWhile_append_zeros (digits : List Char) :
    ∃ zeros, Text.dropLastWhile (· == '0') digits ++ List.replicate zeros '0' = digits := by
  have hzeros : digits.reverse.takeWhile (· == '0') =
      List.replicate (digits.reverse.takeWhile (· == '0')).length '0' := by
    refine List.eq_replicate_iff.2 ⟨rfl, fun c hc => ?_⟩
    have hzero := List.mem_takeWhile_imp hc
    exact beq_iff_eq.1 hzero
  refine ⟨(digits.reverse.takeWhile (· == '0')).length, ?_⟩
  rw [Text.dropLastWhile, ← List.reverse_replicate, ← hzeros, ← List.reverse_append,
    List.takeWhile_append_dropWhile, List.reverse_reverse]

/-- Zeros that are moved into the exponent leave the double as it is. -/
theorem ofScientific_stripZeros (digits : List Char) (negative : Bool) (exponent : Int) :
    ofScientific negative (digitsValue (stripZeros digits exponent).1) (stripZeros digits exponent).2 =
      ofScientific negative (digitsValue digits) exponent := by
  obtain ⟨zeros, hsplit⟩ := dropLastWhile_append_zeros digits
  unfold stripZeros
  dsimp only
  generalize Text.dropLastWhile (· == '0') digits = kept at hsplit ⊢
  subst hsplit
  rw [digitsValue_append_replicate, ofScientific_mul_pow]
  split_ifs with hempty
  · have hnil : kept = [] := List.isEmpty_iff.1 hempty
    have hkept : digitsValue kept = 0 := by rw [hnil]; rfl
    have hzero : digitsValue ['0'] = 0 := rfl
    rw [hkept, hzero, ofScientific, ofScientific, if_pos rfl, if_pos rfl]
  · simp

theorem stripZeros_digits (h : ∀ c ∈ digits, c.isDigit) (exponent : Int) :
    (stripZeros digits exponent).1 ≠ [] ∧ ∀ c ∈ (stripZeros digits exponent).1, c.isDigit := by
  unfold stripZeros
  dsimp only
  split_ifs with hempty
  · simp
  · refine ⟨by simpa using hempty, fun c hc => h c ?_⟩
    exact List.mem_reverse.1 ((List.dropWhile_sublist _).subset (List.mem_reverse.1 hc))

theorem exists_readUnsigned?_magnitudeChars {units : Nat} (h : Representable units) :
    ∃ d e, readUnsigned? (magnitudeChars units) = some (d, e) ∧
      ∀ negative, ofScientific negative d e = finite negative units h := by
  have hdigits : ∀ c ∈ Text.digitChars (decimal units).1, c.isDigit := fun c hc =>
    Text.isDigit_of_mem_digitChars hc
  obtain ⟨hne, hstripped⟩ := stripZeros_digits hdigits (decimal units).2
  have hmark : Layout.standard.exponentMark = 'e' := rfl
  obtain ⟨d, e, hread, hvalue⟩ := readUnsigned?_layOut hmark hne hstripped
    (stripZeros (Text.digitChars (decimal units).1) (decimal units).2).2
  refine ⟨d, e, hread, fun negative => ?_⟩
  rw [hvalue, ofScientific_stripZeros, Text.digitsValue_digitChars, ofScientific_decimal h]

theorem all_isDigit_magnitudeChars (units : Nat) : (magnitudeChars units).all Char.isDigit = false := by
  have hdigits : ∀ c ∈ Text.digitChars (decimal units).1, c.isDigit := fun c hc =>
    Text.isDigit_of_mem_digitChars hc
  have hmark : Layout.standard.exponentMark = 'e' := rfl
  exact all_isDigit_layOut hmark (stripZeros_digits hdigits _).1 _

theorem textChars_finite (negative : Bool) {units : Nat} (h : Representable units) :
    (finite negative units h).textChars = Decimal.signChars negative ++ magnitudeChars units := by
  cases negative <;> rfl

end Double

/-- A finite double is read back from its text. -/
theorem Number.ofText?_text {x : Double} (h : x.isFinite) : ofText? x.text = some (double x) := by
  cases x with
  | nan => cases h
  | infinite negative => cases h
  | finite negative units hunits =>
    obtain ⟨d, e, hread, hvalue⟩ := Double.exists_readUnsigned?_magnitudeChars hunits
    have hnot : ¬ ((Double.magnitudeChars units).all Char.isDigit ∧
        (Double.magnitudeChars units).length ≤ maxIntegerDigits) := by
      simp [Double.all_isDigit_magnitudeChars]
    rw [Double.text, Double.textChars_finite, ofText?_signed (Double.unsigned_magnitudeChars units) hread,
      if_neg hnot, hvalue, if_pos h]

/-! ## Decimal numbers -/

namespace Decimal

/-- The numeral of a decimal number has its coefficient and its exponent. -/
theorem readUnsigned?_finiteChars (coefficient : Nat) (exponent : Int) :
    readUnsigned? (finiteChars coefficient exponent) = some (coefficient, exponent) := by
  have hdigits : ∀ c ∈ Text.digitChars coefficient, c.isDigit := fun _ => Text.isDigit_of_mem_digitChars
  have hne : Text.digitChars coefficient ≠ [] := Text.digitChars_ne_nil coefficient
  have hlength : 0 < (Text.digitChars coefficient).length := List.length_pos_iff.2 hne
  have hvalue := Text.digitsValue_digitChars coefficient
  have hnone : readExponent? [] = some 0 := rfl
  have hpower := readExponent?_written (.inr rfl)
    (Text.digitChars_ne_nil (exponent + (Text.digitChars coefficient).length - 1).natAbs)
    (fun _ => Text.isDigit_of_mem_digitChars) (Text.digitsValue_digitChars _)
  unfold finiteChars
  dsimp only
  generalize Text.digitChars coefficient = digits at *
  generalize 'E' :: _ = tail at hpower ⊢
  split_ifs with hpositional hsmall hwhole hone
  · rw [readUnsigned?_zero_point hdigits, hvalue]
    congr 2
    omega
  · rw [readUnsigned?_digits hne hdigits, hvalue, hwhole]
  · simp only [Bool.and_eq_true, decide_eq_true_eq] at hpositional
    rw [readUnsigned?_insert_point hne hdigits (by omega), hvalue]
    congr 2
    omega
  · simp only [Bool.and_eq_true, decide_eq_true_eq] at hpositional
    omega
  · refine (readUnsigned?_mantissa hpower digits hne hdigits).trans ?_
    rw [hvalue]
    simp
    omega

theorem finiteChars_zero (coefficient : Nat) : finiteChars coefficient 0 = Text.digitChars coefficient := by
  have hlength : 0 < (Text.digitChars coefficient).length :=
    List.length_pos_iff.2 (Text.digitChars_ne_nil coefficient)
  unfold finiteChars
  dsimp only
  rw [if_pos (by simp; omega), if_neg (by omega), if_pos rfl]

/-- Only a coefficient alone is written like an integer. -/
theorem all_isDigit_finiteChars (coefficient : Nat) (exponent : Int) :
    (finiteChars coefficient exponent).all Char.isDigit ↔ exponent = 0 := by
  constructor
  · intro hall
    obtain ⟨d, more, hcons, -⟩ := (unsigned_finiteChars coefficient exponent).head_isDigit
    have hread := readUnsigned?_finiteChars coefficient exponent
    rw [readUnsigned?_digits (hcons ▸ List.cons_ne_nil d more) (List.all_eq_true.1 hall)] at hread
    exact (congrArg Prod.snd (Option.some.inj hread)).symm
  · rintro rfl
    rw [finiteChars_zero]
    exact List.all_eq_true.2 fun c hc => Text.isDigit_of_mem_digitChars hc

/-- A coefficient with too many digits for an integer is beyond the range of doubles. -/
theorem toDouble_of_long (negative : Bool) {coefficient : Nat}
    (h : maxIntegerDigits < (Text.digitChars coefficient).length) :
    (finite negative coefficient 0).toDouble = .infinite negative := by
  have hlarge : 311 ≤ maxIntegerDigits := by decide
  generalize maxIntegerDigits = most at h hlarge
  have hlong : ¬ coefficient < 10 ^ most := fun hlt =>
    Nat.not_lt.2 ((Nat.length_toDigits_le_iff (by decide) (by omega)).2 hlt) h
  rw [toDouble, Double.ofScientific_eq]
  refine Double.ofFraction_of_large negative hlarge (by decide) ?_
  simpa using Nat.not_lt.1 hlong

end Decimal

/-- A decimal number without an exponent is read from its text as an integer, unless it has too many
digits. -/
theorem Number.ofText?_text_whole (negative : Bool) (coefficient : Nat) :
    ofText? (Decimal.finite negative coefficient 0).text =
      if (Text.digitChars coefficient).length ≤ maxIntegerDigits then
        some (int (if negative then -(coefficient : Int) else coefficient))
      else none := by
  have hread := ofText?_signed (Decimal.unsigned_finiteChars coefficient 0)
    (Decimal.readUnsigned?_finiteChars coefficient 0) negative
  have hall := (Decimal.all_isDigit_finiteChars coefficient 0).2 rfl
  rw [Decimal.finiteChars_zero] at hread hall
  rw [Decimal.text, Decimal.textChars, Decimal.finiteChars_zero, hread, Text.digitsValue_digitChars]
  simp only [hall, true_and]
  by_cases hshort : (Text.digitChars coefficient).length ≤ maxIntegerDigits
  · rw [if_pos hshort, if_pos hshort]
  · have hinfinite := Decimal.toDouble_of_long negative (Nat.not_le.1 hshort)
    rw [Decimal.toDouble] at hinfinite
    rw [if_neg hshort, if_neg hshort, hinfinite]
    rfl

/-- A decimal number with an exponent is read from its text as the nearest double. -/
theorem Number.ofText?_text_scaled (negative : Bool) (coefficient : Nat) {exponent : Int} (h : exponent ≠ 0) :
    ofText? (Decimal.finite negative coefficient exponent).text =
      if (Decimal.finite negative coefficient exponent).toDouble.isFinite then
        some (double (Decimal.finite negative coefficient exponent).toDouble)
      else none := by
  have hread := ofText?_signed (Decimal.unsigned_finiteChars coefficient exponent)
    (Decimal.readUnsigned?_finiteChars coefficient exponent) negative
  rw [if_neg fun hint => h ((Decimal.all_isDigit_finiteChars coefficient exponent).1 hint.1)] at hread
  exact hread

end Rollup
