import Rollup.Table
import Rollup.Proofs.Number.Form
import Rollup.Proofs.Number.Range
import Mathlib.Data.List.TakeWhile

/-!
# Reading numbers twice

A text is read as a number by filters and as a double by tables. Filters know more blanks and more
digits, and keep integers exact; tables know infinities. Whatever a table reads as a finite double a
filter reads as a number whose nearest double it is (`Number.ofText?_of_doubleOfText?`), and what a
table reads as infinite or as no number is no number for a filter. An integer of 64 bits is read back
from its own text (`Cast.doubleOfText?_int`).
-/

namespace Rollup

/-! ## Trimming -/

namespace Text

/-- What is dropped from both ends of a list. -/
theorem exists_dropped (p : Char → Bool) (cs : List Char) : ∃ before after,
    cs = before ++ dropLastWhile p (cs.dropWhile p) ++ after ∧ (∀ c ∈ before, p c) ∧ ∀ c ∈ after, p c := by
  refine ⟨cs.takeWhile p, ((cs.dropWhile p).reverse.takeWhile p).reverse, ?_,
    fun c hc => List.mem_takeWhile_imp hc, fun c hc => List.mem_takeWhile_imp (List.mem_reverse.1 hc)⟩
  unfold dropLastWhile
  rw [List.append_assoc, ← List.reverse_append, List.takeWhile_append_dropWhile, List.reverse_reverse,
    List.takeWhile_append_dropWhile]

theorem trimChars_append {before inside after : List Char} (hbefore : ∀ c ∈ before, isBlankChar c)
    (hinside : ∀ c ∈ inside, isBlankChar c = false) (hafter : ∀ c ∈ after, isBlankChar c) :
    trimChars (before ++ inside ++ after) = inside := by
  have hend : ∀ cs : List Char, (∀ c ∈ cs, isBlankChar c = false) → ∀ blanks : List Char,
      (∀ c ∈ blanks, isBlankChar c) → (blanks ++ cs).dropWhile isBlankChar = cs := by
    intro cs hcs blanks hblanks
    rw [List.dropWhile_append_of_pos hblanks, List.dropWhile_eq_self_iff]
    exact fun hl => by simp [hcs _ (List.getElem_mem hl)]
  unfold trimChars dropLastWhile
  rw [List.append_assoc, List.dropWhile_append_of_pos hbefore]
  cases inside with
  | nil =>
    have hdrop : after.dropWhile isBlankChar = [] := List.dropWhile_eq_nil_iff.2 hafter
    simp [hdrop]
  | cons c cs =>
    have hkeep : (c :: cs ++ after).dropWhile isBlankChar = c :: cs ++ after := by
      simp [hinside c List.mem_cons_self]
    rw [hkeep, List.reverse_append, hend _ (fun d hd => hinside d (List.mem_reverse.1 hd)) _
      (fun d hd => hafter d (List.mem_reverse.1 hd)), List.reverse_reverse]

end Text

namespace Cast

theorem isBlankChar_of_isSpace {c : Char} (h : isSpace c) : Text.isBlankChar c := by
  simp only [isSpace, Text.isBlankChar, Text.inRanges, Text.blankRanges, List.any_cons, List.any_nil,
    Bool.or_eq_true, Bool.and_eq_true, decide_eq_true_eq, Bool.false_eq_true, or_false] at h ⊢
  omega

theorem trim_spec (s : String) : ∃ before after : List Char,
    s.toList = before ++ trim s ++ after ∧ (∀ c ∈ before, isSpace c) ∧ ∀ c ∈ after, isSpace c :=
  Text.exists_dropped isSpace s.toList

/-- Where nothing blank is left of a text between the blanks of tables, nothing more is trimmed. -/
theorem trimChars_eq_trim {s : String} (h : ∀ c ∈ trim s, Text.isBlankChar c = false) :
    Text.trimChars s.toList = trim s := by
  obtain ⟨before, after, hs, hbefore, hafter⟩ := trim_spec s
  rw [hs]
  exact Text.trimChars_append (fun c hc => isBlankChar_of_isSpace (hbefore c hc)) h
    fun c hc => isBlankChar_of_isSpace (hafter c hc)

end Cast

/-! ## Characters of numerals -/

/-- The characters of a plain numeral with separators, or of a word for no finite number: below all
digits that are not ASCII ones, and not blank. -/
def isPlain (c : Char) : Bool := c.toNat < 0x80 && !Text.isBlankChar c

namespace Text

theorem digitValue?_of_lt {c : Char} (h : c.toNat < 0x80) :
    digitValue? c = if c.isDigit then some (c.toNat - '0'.toNat) else none := by
  have hrest : ∀ z ∈ digitZeros.tail, 0x80 ≤ z := by decide
  have hnone : digitZeros.tail.find? (fun z => z ≤ c.toNat && c.toNat < z + 10) = none := by
    refine List.find?_eq_none.2 fun z hz => ?_
    have := hrest z hz
    simp only [Bool.and_eq_true, decide_eq_true_eq, not_and]
    omega
  have hsplit : digitZeros = '0'.toNat :: digitZeros.tail := rfl
  unfold digitValue?
  rw [hsplit, List.find?_cons, hnone]
  by_cases hdigit : c.isDigit
  · have hrange := Char.isDigit_iff_toNat.1 hdigit
    have hin : (decide ('0'.toNat ≤ c.toNat) && decide (c.toNat < '0'.toNat + 10)) = true := by
      simp only [Bool.and_eq_true, decide_eq_true_eq]
      exact ⟨hrange.1, Nat.lt_succ_of_le hrange.2⟩
    rw [hin, if_pos hdigit]
    rfl
  · have hout : (decide ('0'.toNat ≤ c.toNat) && decide (c.toNat < '0'.toNat + 10)) = false := by
      rw [Bool.eq_false_iff]
      intro h
      simp only [Bool.and_eq_true, decide_eq_true_eq] at h
      exact hdigit (Char.isDigit_iff_toNat.2 ⟨h.1, Nat.le_of_lt_succ h.2⟩)
    rw [hout, if_neg hdigit]
    rfl

end Text

namespace Numeral

theorem asciiDigits_of_isPlain {cs : List Char} (h : ∀ c ∈ cs, isPlain c) : asciiDigits cs = cs := by
  unfold asciiDigits
  refine (List.map_congr_left fun c hc => ?_).trans (List.map_id cs)
  have hlt : c.toNat < 0x80 := by
    have := h c hc
    simp only [isPlain, Bool.and_eq_true, decide_eq_true_eq] at this
    exact this.1
  rw [Text.digitValue?_of_lt hlt]
  by_cases hdigit : c.isDigit
  · have hrange := Char.isDigit_iff_toNat.1 hdigit
    have hsum : '0'.toNat + (c.toNat - '0'.toNat) = c.toNat := by omega
    simp only [hdigit, if_true, hsum, Char.ofNat_toNat, id]
  · simp [hdigit]

theorem mem_of_dropSeparators {afterDigit : Bool} {cs plain : List Char} {c : Char}
    (h : dropSeparators afterDigit cs = some plain) (hc : c ∈ cs) : c = '_' ∨ c ∈ plain := by
  fun_induction dropSeparators afterDigit cs generalizing plain with
  | case1 => simp at hc
  | case2 => simp at h
  | case3 afterDigit d cs hd ih =>
    rcases List.mem_cons.1 hc with rfl | hc
    · exact .inl rfl
    · exact ih h hc
  | case4 => simp at h
  | case5 afterDigit d cs hne hsep ih =>
    obtain ⟨more, hmore, rfl⟩ := Option.map_eq_some_iff.1 h
    rcases List.mem_cons.1 hc with rfl | hc
    · exact .inr List.mem_cons_self
    · exact (ih hmore hc).imp_right (List.mem_cons_of_mem _)

theorem dropSeparators_eq_self {afterDigit : Bool} {cs : List Char} (h : '_' ∉ cs) :
    dropSeparators afterDigit cs = some cs := by
  fun_induction dropSeparators afterDigit cs with
  | case1 => rfl
  | case2 => simp at h
  | case3 => simp at h
  | case4 => simp at h
  | case5 afterDigit c cs hne hsep ih =>
    rw [ih fun hmem => h (List.mem_cons_of_mem _ hmem)]
    rfl

theorem mem_splitSign {cs : List Char} {c : Char} (h : c ∈ cs) :
    c = '-' ∨ c = '+' ∨ c ∈ (splitSign cs).2 := by
  unfold splitSign
  split
  · exact (List.mem_cons.1 h).imp_right .inr
  · exact .inr (List.mem_cons.1 h)
  · exact .inr (.inr h)

theorem isPlain_of_isDigit {c : Char} (h : c.isDigit) : isPlain c := by
  have hrange : 48 ≤ c.toNat ∧ c.toNat ≤ 57 := Char.isDigit_iff_toNat.1 h
  simp only [isPlain, Text.isBlankChar, Text.inRanges, Text.blankRanges, List.any_cons, List.any_nil,
    Bool.and_eq_true, decide_eq_true_eq, Bool.not_eq_true', Bool.or_eq_false_iff,
    Bool.and_eq_false_iff, decide_eq_false_iff_not, and_true]
  omega

theorem isPlain_of_splitSign {cs : List Char} (h : ∀ c ∈ (splitSign cs).2, isPlain c) :
    ∀ c ∈ cs, isPlain c := by
  intro c hc
  rcases mem_splitSign hc with rfl | rfl | hc
  · decide
  · decide
  · exact h c hc

theorem isPlain_of_readExponent? {cs : List Char} {e : Int} (h : readExponent? cs = some e) :
    ∀ c ∈ cs, isPlain c := by
  cases cs with
  | nil => simp
  | cons mark cs =>
    simp only [readExponent?] at h
    split_ifs at h with hmark hdigits
    all_goals
      intro c hc
      rcases List.mem_cons.1 hc with rfl | hc
      · simp only [Bool.or_eq_true, beq_iff_eq] at hmark
        rcases hmark with rfl | rfl <;> decide
      · simp only [Bool.or_eq_true, Bool.not_eq_true', not_or, Bool.not_eq_false,
          List.all_eq_true] at hdigits
        exact isPlain_of_splitSign (fun d hd => isPlain_of_isDigit (hdigits.2 d hd)) c hc

/-- Splits off a fraction behind a point. -/
def splitFraction : List Char → List Char × List Char
  | '.' :: more => (more.takeWhile Char.isDigit, more.dropWhile Char.isDigit)
  | other => ([], other)

theorem readUnsigned?_eq (cs : List Char) : readUnsigned? cs =
    let whole := cs.takeWhile Char.isDigit
    let (fraction, rest) := splitFraction (cs.dropWhile Char.isDigit)
    if whole.isEmpty && fraction.isEmpty then none
    else (readExponent? rest).map fun exponent =>
      (digitsValue (whole ++ fraction), exponent - fraction.length) := rfl

theorem mem_splitFraction {cs : List Char} {c : Char} (h : c ∈ cs) :
    c = '.' ∨ c.isDigit ∨ c ∈ (splitFraction cs).2 := by
  unfold splitFraction
  split
  · rename_i more
    rcases List.mem_cons.1 h with rfl | h
    · exact .inl rfl
    · rw [← List.takeWhile_append_dropWhile (p := Char.isDigit) (l := more)] at h
      exact .inr ((List.mem_append.1 h).imp_left List.mem_takeWhile_imp)
  · exact .inr (.inr h)

theorem isPlain_of_readUnsigned? {cs : List Char} {r : Nat × Int} (h : readUnsigned? cs = some r) :
    ∀ c ∈ cs, isPlain c := by
  intro c hc
  rw [← List.takeWhile_append_dropWhile (p := Char.isDigit) (l := cs)] at hc
  rcases List.mem_append.1 hc with hc | hc
  · exact isPlain_of_isDigit (List.mem_takeWhile_imp hc)
  rw [readUnsigned?_eq] at h
  rcases mem_splitFraction hc with rfl | hc | hc
  · decide
  · exact isPlain_of_isDigit hc
  · dsimp only at h
    split_ifs at h
    obtain ⟨e, he, -⟩ := Option.map_eq_some_iff.1 h
    exact isPlain_of_readExponent? he c hc

theorem isPlain_of_readPlain? {cs plain : List Char} {n : Numeral}
    (hplain : dropSeparators false cs = some plain) (h : readPlain? plain = some n) :
    ∀ c ∈ cs, isPlain c := by
  intro c hc
  obtain ⟨r, hr, -⟩ := Option.map_eq_some_iff.1 h
  rcases mem_of_dropSeparators hplain hc with rfl | hc
  · decide
  · exact isPlain_of_splitSign (isPlain_of_readUnsigned? hr) c hc

/-! ## Values of numerals -/

theorem readUnsigned?_digits {cs : List Char} (hne : cs ≠ []) (h : ∀ c ∈ cs, c.isDigit) :
    readUnsigned? cs = some (digitsValue cs, 0) := by
  have htake : cs.takeWhile Char.isDigit = cs := List.takeWhile_eq_self_iff.2 h
  have hdrop : cs.dropWhile Char.isDigit = [] := List.dropWhile_eq_nil_iff.2 h
  rw [readUnsigned?_eq, htake, hdrop]
  simp [splitFraction, readExponent?, hne]

theorem readPlain?_digits {plain : List Char} (hne : (splitSign plain).2 ≠ [])
    (h : ∀ c ∈ (splitSign plain).2, c.isDigit) :
    readPlain? plain = some ⟨(splitSign plain).1, digitsValue (splitSign plain).2, 0⟩ := by
  show (readUnsigned? (splitSign plain).2).map _ = _
  rw [readUnsigned?_digits hne h]
  rfl

/-- An integer that is read is a numeral of digits without an exponent. -/
theorem readPlain?_of_readInt? {cs : List Char} {i : Int} (h : readInt? cs = some i) :
    ∃ plain negative digits, dropSeparators false (asciiDigits cs) = some plain ∧
      readPlain? plain = some ⟨negative, digits, 0⟩ ∧
      i = if negative then -(digits : Int) else digits := by
  obtain ⟨plain, hplain, h⟩ := Option.bind_eq_some_iff.1 h
  dsimp only at h
  split_ifs at h with hbad hneg
  all_goals
    simp only [Bool.or_eq_true, List.isEmpty_iff, Bool.not_eq_true', not_or, Bool.not_eq_false,
      List.all_eq_true] at hbad
    refine ⟨plain, _, _, hplain, readPlain?_digits hbad.1.1 hbad.1.2, ?_⟩
    simp [← Option.some.inj h, hneg]

theorem representable_zero : Representable 0 :=
  ⟨by simp only [Nat.pow_eq, Nat.two_pow_pos], Nat.dvd_zero _⟩

theorem toDouble_zero (negative : Bool) (exponent : Int) :
    (Numeral.mk negative 0 exponent).toDouble = .finite negative 0 representable_zero := by
  unfold toDouble Double.ofScientific Double.ofUnits
  rw [if_pos rfl, dif_pos representable_zero]

/-- The double of a numeral without an exponent is the one nearest to an integer. -/
theorem place_toDouble (negative : Bool) (digits : Nat) :
    (Numeral.mk negative digits 0).toDouble.place =
      (Number.int (if negative then -(digits : Int) else digits)).nearest.place := by
  rcases Nat.eq_zero_or_pos digits with rfl | hpos
  · have hint : (Double.ofSignedUnits 0).place = (0, 0) := by
      have hround := Double.roundUnits_of_representable representable_zero
      rw [Double.place_ofSignedUnits, Int.natAbs_zero, hround, if_pos representable_zero]
      rfl
    have hnone : (if negative then -((0 : Nat) : Int) else (0 : Nat)) = 0 := by simp
    rw [toDouble_zero, Number.nearest, hnone, Number.ofInt_eq_ofSignedUnits, Int.zero_mul, hint]
    cases negative <;> rfl
  · have hsign : decide ((if negative then -(digits : Int) else digits) < 0) = negative := by
      cases negative with
      | false => simp
      | true => simpa using hpos
    have habs : (if negative then -(digits : Int) else digits).natAbs = digits := by
      cases negative <;> simp
    have hlarge : ¬ (310 : Int) < 0 := by omega
    have hsmall : ¬ ((0 : Int) + (digits.log2 + 1) < -1080) := by omega
    have hdouble : (Numeral.mk negative digits 0).toDouble = Double.ofFraction negative digits 1 := by
      unfold toDouble Double.ofScientific
      rw [if_neg hpos.ne', if_neg hlarge, if_neg hsmall, if_pos (le_refl 0), Int.toNat_zero,
        Nat.pow_eq, Nat.pow_zero, Nat.mul_one]
    rw [hdouble, Number.nearest, Double.ofInt, hsign, habs]

end Numeral

/-! ## Words for no finite number -/

theorem isPlain_of_toLower {c : Char} (h : isPlain c.toLower) : isPlain c := by
  by_cases hupper : 'A'.val ≤ c.val ∧ c.val ≤ 'Z'.val
  · have hrange : 65 ≤ c.toNat ∧ c.toNat ≤ 90 := hupper
    simp only [isPlain, Text.isBlankChar, Text.inRanges, Text.blankRanges, List.any_cons,
      List.any_nil, Bool.and_eq_true, decide_eq_true_eq, Bool.not_eq_true', Bool.or_eq_false_iff,
      Bool.and_eq_false_iff, decide_eq_false_iff_not, and_true]
    omega
  · have hsame : c.toLower = c := by
      unfold Char.toLower
      rw [dif_neg hupper]
    rwa [hsame] at h

namespace Double

theorem ofSpecial?_eq_some {cs : List Char} {x : Double} (h : ofSpecial? cs = some x) :
    x.isFinite = false ∧ ∀ c ∈ cs, isPlain c := by
  have hword : ∀ word : String, String.ofList ((Numeral.splitSign cs).2.map Char.toLower) = word →
      (∀ c ∈ word.toList, isPlain c) → ∀ c ∈ cs, isPlain c := by
    rintro _ rfl hplain
    refine Numeral.isPlain_of_splitSign fun c hc => isPlain_of_toLower (hplain _ ?_)
    rw [String.toList_ofList]
    exact List.mem_map_of_mem hc
  unfold ofSpecial? at h
  dsimp only at h
  split_ifs at h with hinf hnan
  · rw [Bool.or_eq_true, beq_iff_eq, beq_iff_eq] at hinf
    refine ⟨by rw [← Option.some.inj h]; rfl, ?_⟩
    rcases hinf with hinf | hinf
    · exact hword "inf" hinf (List.all_eq_true.1 rfl)
    · exact hword "infinity" hinf (List.all_eq_true.1 rfl)
  · exact ⟨by rw [← Option.some.inj h]; rfl, hword "nan" (beq_iff_eq.1 hnan) (List.all_eq_true.1 rfl)⟩

end Double

/-! ## The two readings -/

theorem Cast.not_isBlankChar_of_isPlain {c : Char} (h : isPlain c) : Text.isBlankChar c = false := by
  simpa using (Bool.and_eq_true_iff.1 h).2

namespace Number
variable {s : String} {x : Double}

/-- On a text of plain characters between the blanks of tables, filters read what tables read. -/
theorem ofText?_of_isPlain (h : ∀ c ∈ Cast.trim s, isPlain c) : ofText? s =
    match Numeral.readInt? (Cast.trim s) with
    | some n => some (int n)
    | none => match (Numeral.dropSeparators false (Cast.trim s)).bind Numeral.readPlain? with
      | some n => if n.toDouble.isFinite then some (double n.toDouble) else none
      | none => none := by
  have htrim := Cast.trimChars_eq_trim fun c hc => Cast.not_isBlankChar_of_isPlain (h c hc)
  unfold ofText? Double.ofChars? Numeral.read?
  rw [htrim]
  dsimp only
  rw [Numeral.asciiDigits_of_isPlain h]
  cases Numeral.readInt? (Cast.trim s) with
  | some n => rfl
  | none =>
    cases (Numeral.dropSeparators false (Cast.trim s)).bind Numeral.readPlain? with
    | some n => rfl
    | none =>
      cases hspecial : Double.ofSpecial? (Cast.trim s) with
      | none => rfl
      | some x => simp [(Double.ofSpecial?_eq_some hspecial).1]

/-- What a table reads as a finite double, a filter reads as a number with that nearest double. -/
theorem ofText?_of_doubleOfText? (h : Cast.doubleOfText? s = some x) (hx : x.isFinite) :
    ∃ a, ofText? s = some a ∧ a.isFinite ∧ a.nearest.place = x.place := by
  unfold Cast.doubleOfText? at h
  dsimp only at h
  cases hread : (Numeral.dropSeparators false (Cast.trim s)).bind Numeral.readPlain? with
  | none =>
    rw [hread] at h
    rw [(Double.ofSpecial?_eq_some h).1] at hx
    cases hx
  | some n =>
    rw [hread] at h
    dsimp only at h
    obtain ⟨plain, hplain, hn⟩ := Option.bind_eq_some_iff.1 hread
    have hall := Numeral.isPlain_of_readPlain? hplain hn
    split_ifs at h with hfinite
    obtain rfl := Option.some.inj h
    rw [ofText?_of_isPlain hall, hread]
    cases hint : Numeral.readInt? (Cast.trim s) with
    | none => exact ⟨double n.toDouble, if_pos hfinite, hfinite, rfl⟩
    | some i =>
      obtain ⟨plain', negative, digits, hplain', hn', hi⟩ := Numeral.readPlain?_of_readInt? hint
      rw [Numeral.asciiDigits_of_isPlain hall, hplain] at hplain'
      obtain rfl := Option.some.inj hplain'
      obtain rfl := Option.some.inj (hn.symm.trans hn')
      exact ⟨int i, rfl, rfl, by rw [hi, Numeral.place_toDouble]⟩

/-- What a table reads as infinite or as no number, a filter does not read. -/
theorem ofText?_eq_none_of_doubleOfText? (h : Cast.doubleOfText? s = some x)
    (hx : x.isFinite = false) : ofText? s = none := by
  unfold Cast.doubleOfText? at h
  dsimp only at h
  cases hread : (Numeral.dropSeparators false (Cast.trim s)).bind Numeral.readPlain? with
  | some n =>
    rw [hread] at h
    dsimp only at h
    split_ifs at h with hfinite
    rw [← Option.some.inj h, hfinite] at hx
    cases hx
  | none =>
    rw [hread] at h
    have hall := (Double.ofSpecial?_eq_some h).2
    rw [ofText?_of_isPlain hall, hread]
    cases hint : Numeral.readInt? (Cast.trim s) with
    | none => rfl
    | some i =>
      obtain ⟨plain, negative, digits, hplain, hn, -⟩ := Numeral.readPlain?_of_readInt? hint
      rw [Numeral.asciiDigits_of_isPlain hall] at hplain
      rw [hplain, Option.bind_some, hn] at hread
      cases hread

theorem isFinite_of_ofText? {b : Number} (h : ofText? s = some b) : b.isFinite := by
  unfold ofText? at h
  dsimp only at h
  split at h
  · exact Option.some.inj h ▸ rfl
  · split at h
    · split_ifs at h with hx
      exact Option.some.inj h ▸ hx
    · cases h

end Number

/-! ## Unsigned numerals -/

namespace Numeral
variable {cs : List Char}

theorem Unsigned.isPlain (h : Unsigned cs) : ∀ c ∈ cs, isPlain c := by
  have hrest : ∀ c ∈ ['.', 'e', 'E', '-', '+'], Rollup.isPlain c := List.all_eq_true.1 rfl
  intro c hc
  rcases h.mem hc with hdigit | hc
  · exact isPlain_of_isDigit hdigit
  · exact hrest c hc

theorem Unsigned.not_mem_separator (h : Unsigned cs) : '_' ∉ cs := fun hmem => by
  rcases h.mem hmem with h | h <;> revert h <;> decide

theorem Unsigned.splitSign (h : Unsigned cs) : splitSign cs = (false, cs) := by
  obtain ⟨d, more, rfl, hd⟩ := h.head_isDigit
  unfold Numeral.splitSign
  split
  · rename_i heq
    rw [(List.cons.inj heq).1] at hd
    cases hd
  · rename_i heq
    rw [(List.cons.inj heq).1] at hd
    cases hd
  · rfl

theorem Unsigned.read? (h : Unsigned cs) : Numeral.read? cs =
    (readUnsigned? cs).map fun (digits, exponent) => ⟨false, digits, exponent⟩ := by
  unfold Numeral.read? readPlain?
  rw [asciiDigits_of_isPlain h.isPlain, dropSeparators_eq_self h.not_mem_separator, Option.bind_some,
    h.splitSign]

end Numeral

theorem toLower_of_isDigit {c : Char} (h : c.isDigit) : c.toLower = c := by
  have hrange : 48 ≤ c.toNat ∧ c.toNat ≤ 57 := Char.isDigit_iff_toNat.1 h
  have hupper : ¬ ('A'.val ≤ c.val ∧ c.val ≤ 'Z'.val) := by
    rintro ⟨hlow, -⟩
    have hlow : 65 ≤ c.toNat := hlow
    omega
  unfold Char.toLower
  rw [dif_neg hupper]

/-- What an unsigned numeral is read as, if anything, is a decimal number that is not negative, and so
is written as an unsigned numeral again. -/
theorem Decimal.unsigned_of_ofText? {cs : List Char} {d : Decimal} (h : Numeral.Unsigned cs)
    (hd : ofText? (String.ofList cs) = some d) : Numeral.Unsigned d.textChars := by
  have htrim : Text.trimChars (String.ofList cs).toList = cs := by
    have htrim := @Text.trimChars_append [] cs [] (by simp)
      (fun c hc => Cast.not_isBlankChar_of_isPlain (h.isPlain c hc)) (by simp)
    rw [String.toList_ofList]
    rwa [List.nil_append, List.append_nil] at htrim
  have hword : ofSpecial? cs = none := by
    obtain ⟨c, more, rfl, hc⟩ := h.head_isDigit
    have hlower : c.toLower = c := toLower_of_isDigit hc
    unfold ofSpecial?
    rw [h.splitSign]
    simp [hlower, hc]
  unfold ofText? at hd
  rw [htrim] at hd
  dsimp only at hd
  rw [h.read?] at hd
  cases hread : Numeral.readUnsigned? cs with
  | none => simp [hread, hword] at hd
  | some r =>
    obtain rfl : Decimal.finite false r.1 r.2 = d := by simpa [hread, ofNumeral] using hd
    exact unsigned_finiteChars r.1 r.2

/-! ## Integers of 64 bits -/

namespace Double

theorem representable_two_pow {k : Nat} (h : k < 2098) : Representable (2 ^ k) := by
  constructor
  · simp only [Nat.pow_eq, Nat.pow_lt_pow_iff_right Nat.one_lt_two, h]
  · rw [Nat.log2_two_pow]
    exact Nat.pow_dvd_pow 2 (by omega)

theorem representable_two_pow_mul_unitsPerOne {k : Nat} (h : k + 1074 < 2098) :
    Representable (2 ^ k * unitsPerOne) := by
  unfold unitsPerOne
  -- The exponent is hidden, so that the power is not computed.
  generalize 1074 = e at h ⊢
  rw [Nat.pow_eq, ← Nat.pow_add]
  exact representable_two_pow h

theorem isFinite_iff_place (x : Double) : x.isFinite ↔ x.place.1 = 0 := by
  cases x with
  | nan => decide
  | infinite negative => cases negative <;> decide
  | finite => exact ⟨fun _ => rfl, fun _ => rfl⟩

/-- Integers of 64 bits are far below the range of doubles. -/
theorem isFinite_ofInt_of_isLong {n : Int} (h : Cast.isLong n) : (ofInt n).isFinite := by
  simp only [Cast.isLong, Bool.and_eq_true, decide_eq_true_eq] at h
  have hlimit : 2 ^ 63 < limit := by decide +kernel
  rw [isFinite_ofInt_iff]
  omega

end Double

namespace Cast
variable {n : Int}

theorem text_int (n : Int) : text (.int n) =
    String.ofList (if n < 0 then '-' :: Text.digitChars n.natAbs else Text.digitChars n.natAbs) := by
  simp only [text, textChars]

/-- The text of an integer in a table is its text elsewhere. -/
theorem text?_int (h : isLong n) : (Value.int n).text? = some (text (.int n)) := by
  simp only [isLong, Bool.and_eq_true, decide_eq_true_eq] at h
  have hlength : (Text.digitChars n.natAbs).length ≤ 19 :=
    (Nat.length_toDigits_le_iff (by decide) (by decide)).2 (by omega)
  have hfew : ¬ Numeral.maxIntegerDigits < (Text.digitChars n.natAbs).length := by
    have hmax : Numeral.maxIntegerDigits = 4300 := rfl
    omega
  rw [text_int]
  unfold Value.text? Value.literal? Number.intText?
  exact if_neg hfew

theorem trim_eq_self {s : String} (h : ∀ c ∈ s.toList, isSpace c = false) : trim s = s.toList := by
  have hkeep : ∀ cs : List Char, (∀ c ∈ cs, isSpace c = false) → cs.dropWhile isSpace = cs :=
    fun cs hcs => List.dropWhile_eq_self_iff.2 fun hl => by simp [hcs _ (List.getElem_mem hl)]
  unfold trim Text.dropLastWhile
  rw [hkeep _ h, hkeep _ fun c hc => h c (List.mem_reverse.1 hc), List.reverse_reverse]

theorem splitSign_text_int (n : Int) :
    Numeral.splitSign (text (.int n)).toList = (decide (n < 0), Text.digitChars n.natAbs) := by
  rw [text_int, String.toList_ofList]
  split_ifs with hneg
  · rw [decide_eq_true hneg]
    rfl
  · rw [decide_eq_false hneg]
    have hdigits : ∀ c ∈ Text.digitChars n.natAbs, c.isDigit := fun c hc =>
      Text.isDigit_of_mem_digitChars hc
    unfold Numeral.splitSign
    split
    · rename_i cs heq
      exact absurd (hdigits '-' (heq ▸ List.mem_cons_self)) (by decide)
    · rename_i cs heq
      exact absurd (hdigits '+' (heq ▸ List.mem_cons_self)) (by decide)
    · rfl

theorem mem_text_int {c : Char} (h : c ∈ (text (.int n)).toList) : c = '-' ∨ c.isDigit := by
  rw [text_int, String.toList_ofList] at h
  split_ifs at h
  · exact (List.mem_cons.1 h).imp_right Text.isDigit_of_mem_digitChars
  · exact .inr (Text.isDigit_of_mem_digitChars h)

theorem isSpace_text_int {c : Char} (h : c ∈ (text (.int n)).toList) : isSpace c = false := by
  have hplain : isPlain c := by
    rcases mem_text_int h with rfl | hdigit
    · decide
    · exact Numeral.isPlain_of_isDigit hdigit
  rw [Bool.eq_false_iff]
  intro hspace
  have hblank := isBlankChar_of_isSpace hspace
  rw [not_isBlankChar_of_isPlain hplain] at hblank
  cases hblank

/-- The text of an integer is a numeral without separators or exponent. -/
theorem readPlain?_text_int (n : Int) : (Numeral.dropSeparators false (trim (text (.int n)))).bind
    Numeral.readPlain? = some ⟨n < 0, n.natAbs, 0⟩ := by
  have hplain : '_' ∉ (text (.int n)).toList := fun hmem => by
    rcases mem_text_int hmem with h | h <;> revert h <;> decide
  have hsign := splitSign_text_int n
  rw [trim_eq_self fun c hc => isSpace_text_int hc, Numeral.dropSeparators_eq_self hplain,
    Option.bind_some]
  have hread := @Numeral.readPlain?_digits (text (.int n)).toList
  rw [hsign] at hread
  rw [hread (Text.digitChars_ne_nil _) fun c hc => Text.isDigit_of_mem_digitChars hc,
    Text.digitsValue_digitChars]

/-- An integer is read back as the double nearest to it. -/
theorem doubleOfText?_int (h : isLong n) :
    ∃ x, doubleOfText? (text (.int n)) = some x ∧ x.isFinite ∧ x.place = (Double.ofInt n).place := by
  have hvalue : (if decide (n < 0) then -(n.natAbs : Int) else n.natAbs) = n := by
    by_cases hneg : n < 0
    · rw [decide_eq_true hneg, if_pos rfl]
      omega
    · rw [decide_eq_false hneg, if_neg Bool.false_ne_true]
      omega
  have hplace := Numeral.place_toDouble (n < 0) n.natAbs
  rw [hvalue] at hplace
  have hfinite : (Numeral.mk (n < 0) n.natAbs 0).toDouble.isFinite := by
    rw [Double.isFinite_iff_place, hplace, ← Double.isFinite_iff_place]
    exact Double.isFinite_ofInt_of_isLong h
  refine ⟨_, ?_, hfinite, hplace⟩
  unfold doubleOfText?
  dsimp only
  rw [readPlain?_text_int]
  exact if_pos hfinite

end Cast

end Rollup
