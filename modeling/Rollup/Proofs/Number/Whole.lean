import Rollup.Proofs.Number.Reading
import Mathlib.Data.List.Basic

/-!
# Spellings of integers

A text is read as an integer exactly if it spells one (`Number.ofText?_eq_int_iff`): perhaps a sign, and
then digits of any script with single separators between them, all of it perhaps between blanks. Zeros may
lead, and the number of digits is limited.
-/

namespace Rollup

namespace Numeral

/-- Digits of any script with their values, most significant first. A separator may stand between two. -/
inductive Grouped : List Char → List Nat → Prop
  | single {c : Char} {d : Nat} (h : Text.digitValue? c = some d) : Grouped [c] [d]
  | next {c : Char} {d : Nat} {cs : List Char} {ds : List Nat} (h : Text.digitValue? c = some d)
      (more : Grouped cs ds) : Grouped (c :: cs) (d :: ds)
  | separated {c : Char} {d : Nat} {cs : List Char} {ds : List Nat} (h : Text.digitValue? c = some d)
      (more : Grouped cs ds) : Grouped (c :: '_' :: cs) (d :: ds)

/-- Not too many digits, perhaps behind a sign, with the integer that they write. -/
inductive Signed : List Char → Int → Prop
  | bare {cs : List Char} {ds : List Nat} (h : Grouped cs ds) (hfew : ds.length ≤ maxIntegerDigits) :
      Signed cs (Text.ofDigits ds)
  | plus {cs : List Char} {ds : List Nat} (h : Grouped cs ds) (hfew : ds.length ≤ maxIntegerDigits) :
      Signed ('+' :: cs) (Text.ofDigits ds)
  | minus {cs : List Char} {ds : List Nat} (h : Grouped cs ds) (hfew : ds.length ≤ maxIntegerDigits) :
      Signed ('-' :: cs) (-Text.ofDigits ds)

/-- A text spells an integer, perhaps between blanks. -/
def Spells (s : String) (n : Int) : Prop :=
  ∃ before cs after, s.toList = before ++ cs ++ after ∧ (∀ c ∈ before, Text.isBlankChar c) ∧
    (∀ c ∈ after, Text.isBlankChar c) ∧ Signed cs n

end Numeral

/-! ## Digits of any script -/

namespace Text
variable {c : Char} {d : Nat}

theorem exists_zero_of_digitValue? (h : digitValue? c = some d) :
    d < 10 ∧ ∃ z ∈ digitZeros, c.toNat = z + d := by
  obtain ⟨z, hz, rfl⟩ := Option.map_eq_some_iff.1 h
  have hrange := List.find?_some hz
  simp only [Bool.and_eq_true, decide_eq_true_eq] at hrange
  exact ⟨by omega, z, List.mem_of_find?_eq_some hz, by omega⟩

theorem not_isBlankChar_of_digitValue? (h : digitValue? c = some d) : isBlankChar c = false := by
  have hnone : ∀ z ∈ digitZeros, ∀ d < 10, inRanges blankRanges (z + d) = false := by decide +kernel
  obtain ⟨hd, z, hz, hc⟩ := exists_zero_of_digitValue? h
  rw [isBlankChar, hc]
  exact hnone z hz d hd

/-- The ASCII digit of a value. -/
def digit (d : Nat) : Char := Char.ofNat ('0'.toNat + d)

theorem toNat_digit (h : d < 10) : (digit d).toNat = '0'.toNat + d := by
  have hall : ∀ d < 10, (digit d).toNat = '0'.toNat + d := by decide
  exact hall d h

theorem isDigit_digit (h : d < 10) : (digit d).isDigit := by
  have hall : ∀ d < 10, (digit d).isDigit := by decide
  exact hall d h

end Text

namespace Numeral
variable {c : Char} {d : Nat} {cs : List Char} {ds : List Nat} {n : Int}

/-- A digit of any script as ASCII digit. -/
def asciiDigit (c : Char) : Char := ((Text.digitValue? c).map Text.digit).getD c

theorem asciiDigits_eq_map (cs : List Char) : asciiDigits cs = cs.map asciiDigit := by
  refine List.map_congr_left fun c _ => ?_
  unfold asciiDigit
  cases Text.digitValue? c <;> rfl

theorem asciiDigit_of_digitValue? (h : Text.digitValue? c = some d) : asciiDigit c = Text.digit d := by
  rw [asciiDigit, h]
  rfl

theorem asciiDigit_of_none (h : Text.digitValue? c = none) : asciiDigit c = c := by
  rw [asciiDigit, h]
  rfl

theorem isDigit_asciiDigit : (asciiDigit c).isDigit ↔ ∃ d, Text.digitValue? c = some d := by
  cases h : Text.digitValue? c with
  | some d =>
    rw [asciiDigit_of_digitValue? h]
    exact iff_of_true (Text.isDigit_digit (Text.exists_zero_of_digitValue? h).1) ⟨d, rfl⟩
  | none =>
    rw [asciiDigit_of_none h]
    refine iff_of_false (fun hdigit => ?_) nofun
    have hlt : c.toNat < 0x80 := lt_of_le_of_lt (Char.isDigit_iff_toNat.1 hdigit).2 (by decide)
    rw [Text.digitValue?_of_lt hlt, if_pos hdigit] at h
    cases h

/-- No digit becomes anything else. -/
theorem asciiDigit_eq_iff {mark : Char} (hmark : mark.isDigit = false) (hnone : Text.digitValue? mark = none) :
    asciiDigit c = mark ↔ c = mark := by
  constructor
  · intro h
    cases hc : Text.digitValue? c with
    | some d =>
      have hdigit := isDigit_asciiDigit.2 ⟨d, hc⟩
      rw [h, hmark] at hdigit
      cases hdigit
    | none => rwa [asciiDigit_of_none hc] at h
  · rintro rfl
    exact asciiDigit_of_none hnone

theorem asciiDigit_eq_separator : asciiDigit c = '_' ↔ c = '_' :=
  asciiDigit_eq_iff (by decide) (by decide +kernel)

theorem Grouped.lt_ten (h : Grouped cs ds) : ∀ d ∈ ds, d < 10 := by
  induction h with
  | single h =>
    rintro d (_ | ⟨_, ⟨⟩⟩)
    exact (Text.exists_zero_of_digitValue? h).1
  | next h more ih => exact List.forall_mem_cons.2 ⟨(Text.exists_zero_of_digitValue? h).1, ih⟩
  | separated h more ih => exact List.forall_mem_cons.2 ⟨(Text.exists_zero_of_digitValue? h).1, ih⟩

theorem Grouped.head (h : Grouped cs ds) : ∃ c d more, cs = c :: more ∧ Text.digitValue? c = some d := by
  cases h with
  | single h => exact ⟨_, _, _, rfl, h⟩
  | next h more => exact ⟨_, _, _, rfl, h⟩
  | separated h more => exact ⟨_, _, _, rfl, h⟩

theorem Grouped.ne_nil (h : Grouped cs ds) : ds ≠ [] := by
  cases h <;> exact List.cons_ne_nil _ _

theorem digitsValue_map_digit (h : ∀ d ∈ ds, d < 10) :
    digitsValue (ds.map Text.digit) = Text.ofDigits ds := by
  unfold digitsValue Nat.ofDigitChars Text.ofDigits
  rw [List.foldl_map]
  refine List.foldl_ext _ _ _ fun n d hd => ?_
  rw [Text.toNat_digit (h d hd)]
  omega

theorem all_isDigit_map_digit (h : ∀ d ∈ ds, d < 10) : (ds.map Text.digit).all Char.isDigit := by
  rw [List.all_map]
  exact List.all_eq_true.2 fun d hd => Text.isDigit_digit (h d hd)

/-! ## Separators -/

theorem dropSeparators_cons (afterDigit : Bool) (h : c ≠ '_') (cs : List Char) :
    dropSeparators afterDigit (c :: cs) = (dropSeparators c.isDigit cs).map (c :: ·) := by
  cases cs with
  | nil => simp [dropSeparators, h]
  | cons d cs => simp [dropSeparators, h]

theorem ne_separator_of_isDigit (h : c.isDigit) : c ≠ '_' := by
  rintro rfl
  revert h
  decide

/-- What the digits of a numeral are read as. -/
theorem Grouped.dropSeparators_eq (h : Grouped cs ds) (afterDigit : Bool) :
    dropSeparators afterDigit (asciiDigits cs) = some (ds.map Text.digit) := by
  rw [asciiDigits_eq_map]
  induction h generalizing afterDigit with
  | single h =>
    have hdigit := isDigit_asciiDigit.2 ⟨_, h⟩
    rw [List.map_singleton, dropSeparators_cons _ (ne_separator_of_isDigit hdigit),
      asciiDigit_of_digitValue? h]
    rfl
  | next h more ih =>
    have hdigit := isDigit_asciiDigit.2 ⟨_, h⟩
    rw [List.map_cons, dropSeparators_cons _ (ne_separator_of_isDigit hdigit), ih,
      asciiDigit_of_digitValue? h]
    rfl
  | @separated c d cs ds h more ih =>
    have hdigit := isDigit_asciiDigit.2 ⟨_, h⟩
    obtain ⟨e, _, rest, rfl, he⟩ := more.head
    have hnext := isDigit_asciiDigit.2 ⟨_, he⟩
    have hseparator : asciiDigit '_' = '_' := asciiDigit_eq_separator.2 rfl
    rw [List.map_cons] at ih
    rw [List.map_cons, List.map_cons, List.map_cons, hseparator,
      dropSeparators_cons _ (ne_separator_of_isDigit hdigit), dropSeparators, hdigit, hnext, Bool.and_self,
      if_pos rfl, ih, asciiDigit_of_digitValue? h]
    rfl

theorem dropSeparators_cons_eq_some {afterDigit : Bool} {plain : List Char} (hc : c ≠ '_')
    (h : dropSeparators afterDigit (asciiDigits (c :: cs)) = some plain) :
    ∃ more, plain = asciiDigit c :: more ∧
      dropSeparators (asciiDigit c).isDigit (asciiDigits cs) = some more := by
  rw [asciiDigits_eq_map, List.map_cons, dropSeparators_cons _ (mt asciiDigit_eq_separator.1 hc),
    Option.map_eq_some_iff] at h
  obtain ⟨more, hmore, rfl⟩ := h
  exact ⟨more, rfl, by rwa [asciiDigits_eq_map]⟩

theorem eq_nil_of_dropSeparators {afterDigit : Bool} (h : dropSeparators afterDigit cs = some []) :
    cs = [] := by
  have hall : ∀ c ∈ cs, c = '_' := fun c hc => (mem_of_dropSeparators h hc).resolve_right List.not_mem_nil
  match cs with
  | [] => rfl
  | [c] =>
    obtain rfl := hall c List.mem_cons_self
    cases h
  | c :: d :: cs =>
    obtain ⟨rfl, hrest⟩ := List.forall_mem_cons.1 hall
    obtain ⟨rfl, -⟩ := List.forall_mem_cons.1 hrest
    cases afterDigit <;> cases h

/-- What is read as digits is written as digits with separators, where a text behind a digit may begin with a
separator. -/
theorem exists_grouped {plain : List Char} {afterDigit : Bool}
    (h : dropSeparators afterDigit (asciiDigits cs) = some plain) (hne : plain ≠ [])
    (hdigits : ∀ c ∈ plain, c.isDigit) :
    ∃ ds, Grouped cs ds ∨ afterDigit = true ∧ ∃ more, cs = '_' :: more ∧ Grouped more ds := by
  induction cs generalizing plain afterDigit with
  | nil =>
    cases h
    exact absurd rfl hne
  | cons c cs ih =>
    by_cases hc : c = '_'
    · subst hc
      cases cs with
      | nil => cases h
      | cons e cs =>
        have hnone : asciiDigits ('_' :: e :: cs) = '_' :: asciiDigits (e :: cs) := rfl
        rw [hnone, asciiDigits_eq_map, List.map_cons, dropSeparators, ← List.map_cons,
          ← asciiDigits_eq_map] at h
        split_ifs at h with hflag
        -- what follows the separator cannot begin with another
        obtain ⟨hafter, -⟩ := (Bool.and_eq_true _ _).mp hflag
        obtain ⟨ds, hgroup | ⟨hfalse, -⟩⟩ := ih h hne hdigits
        · exact ⟨ds, .inr ⟨hafter, _, rfl, hgroup⟩⟩
        · cases hfalse
    · obtain ⟨more, rfl, hmore⟩ := dropSeparators_cons_eq_some hc h
      obtain ⟨hdigit, hmoreDigits⟩ := List.forall_mem_cons.1 hdigits
      obtain ⟨d, hd⟩ := isDigit_asciiDigit.1 hdigit
      rw [hdigit] at hmore
      by_cases hend : more = []
      · subst hend
        have hnil := eq_nil_of_dropSeparators hmore
        rw [asciiDigits_eq_map, List.map_eq_nil_iff] at hnil
        subst hnil
        exact ⟨_, .inl (.single hd)⟩
      · obtain ⟨ds, hgroup | ⟨-, more', rfl, hgroup⟩⟩ := ih hmore hend hmoreDigits
        · exact ⟨_, .inl (.next hd hgroup)⟩
        -- the separator goes with the digit before it
        · exact ⟨_, .inl (.separated hd hgroup)⟩

/-- Digits with separators are what is read as digits. -/
theorem grouped_iff {plain : List Char} : (∃ ds, Grouped cs ds ∧ plain = ds.map Text.digit) ↔
    dropSeparators false (asciiDigits cs) = some plain ∧ plain ≠ [] ∧ ∀ c ∈ plain, c.isDigit := by
  constructor
  · rintro ⟨ds, h, rfl⟩
    have hne : ds.map Text.digit ≠ [] := by simpa using h.ne_nil
    exact ⟨h.dropSeparators_eq false, hne, List.all_eq_true.1 (all_isDigit_map_digit h.lt_ten)⟩
  · rintro ⟨hread, hne, hdigits⟩
    obtain ⟨ds, h | ⟨hfalse, -⟩⟩ := exists_grouped hread hne hdigits
    · rw [h.dropSeparators_eq] at hread
      exact ⟨ds, h, (Option.some.inj hread).symm⟩
    · cases hfalse

/-! ## Integers -/

section Sign
variable {sign : Char} {more plain : List Char}

theorem asciiDigit_sign (h : sign = '+' ∨ sign = '-') : asciiDigit c = sign ↔ c = sign := by
  rcases h with rfl | rfl
  · exact asciiDigit_eq_iff (by decide) (by decide +kernel)
  · exact asciiDigit_eq_iff (by decide) (by decide +kernel)

theorem dropSeparators_sign (h : sign = '+' ∨ sign = '-') (cs : List Char) :
    dropSeparators false (asciiDigits (sign :: cs)) =
      (dropSeparators false (asciiDigits cs)).map (sign :: ·) := by
  have hsign : asciiDigit sign = sign := (asciiDigit_sign h).2 rfl
  have hseparator : sign ≠ '_' := by rcases h with rfl | rfl <;> decide
  have hdigit : sign.isDigit = false := by rcases h with rfl | rfl <;> decide
  rw [asciiDigits_eq_map, List.map_cons, hsign, dropSeparators_cons false hseparator, hdigit,
    asciiDigits_eq_map]

theorem exists_sign (h : sign = '+' ∨ sign = '-')
    (hread : dropSeparators false (asciiDigits cs) = some (sign :: more)) :
    ∃ rest, cs = sign :: rest ∧ dropSeparators false (asciiDigits rest) = some more := by
  cases cs with
  | nil => cases hread
  | cons c rest =>
    have hc : c ≠ '_' := by
      rintro rfl
      cases rest <;> cases hread
    obtain ⟨more', hcons, -⟩ := dropSeparators_cons_eq_some hc hread
    obtain rfl := (asciiDigit_sign h).1 (List.cons.inj hcons).1.symm
    rw [dropSeparators_sign h, Option.map_eq_some_iff] at hread
    obtain ⟨read, hrest, heq⟩ := hread
    exact ⟨rest, rfl, (List.cons.inj heq).2 ▸ hrest⟩

theorem splitSign_cases (plain : List Char) :
    (∃ more, plain = '-' :: more ∧ splitSign plain = (true, more)) ∨
      (∃ more, plain = '+' :: more ∧ splitSign plain = (false, more)) ∨ splitSign plain = (false, plain) := by
  unfold splitSign
  split
  · exact .inl ⟨_, rfl, rfl⟩
  · exact .inr (.inl ⟨_, rfl, rfl⟩)
  · exact .inr (.inr rfl)

variable {negative : Bool} {digits : List Char}

theorem readInt?_of_plain (hplain : dropSeparators false (asciiDigits cs) = some plain)
    (hsign : splitSign plain = (negative, digits)) : readInt? cs = some n ↔
      digits ≠ [] ∧ (∀ c ∈ digits, c.isDigit) ∧ digits.length ≤ maxIntegerDigits ∧
        (if negative then -(digitsValue digits : Int) else digitsValue digits) = n := by
  rw [readInt?, hplain, Option.bind_some, hsign]
  dsimp only
  rw [Option.ite_none_left_eq_some, Option.some.injEq]
  simp only [Bool.or_eq_true, List.isEmpty_iff, Bool.not_eq_true', decide_eq_true_eq, not_or, Nat.not_lt,
    Bool.not_eq_false, List.all_eq_true, and_assoc]

/-- What is read as digits, behind a sign or without one, is written as an integer. -/
theorem signed_of_plain (hread : dropSeparators false (asciiDigits cs) = some plain)
    (hsign : splitSign plain = (negative, digits)) (hne : digits ≠ []) (hdigits : ∀ c ∈ digits, c.isDigit)
    (hfew : digits.length ≤ maxIntegerDigits) :
    Signed cs (if negative then -(digitsValue digits : Int) else digitsValue digits) := by
  rcases splitSign_cases plain with ⟨more, rfl, heq⟩ | ⟨more, rfl, heq⟩ | heq
  all_goals
    rw [heq] at hsign
    cases hsign
  · obtain ⟨rest, rfl, hrest⟩ := exists_sign (.inr rfl) hread
    obtain ⟨ds, h, rfl⟩ := grouped_iff.2 ⟨hrest, hne, hdigits⟩
    rw [List.length_map] at hfew
    rw [if_pos rfl, digitsValue_map_digit h.lt_ten]
    exact .minus h hfew
  · obtain ⟨rest, rfl, hrest⟩ := exists_sign (.inl rfl) hread
    obtain ⟨ds, h, rfl⟩ := grouped_iff.2 ⟨hrest, hne, hdigits⟩
    rw [List.length_map] at hfew
    rw [if_neg Bool.false_ne_true, digitsValue_map_digit h.lt_ten]
    exact .plus h hfew
  · obtain ⟨ds, h, rfl⟩ := grouped_iff.2 ⟨hread, hne, hdigits⟩
    rw [List.length_map] at hfew
    rw [if_neg Bool.false_ne_true, digitsValue_map_digit h.lt_ten]
    exact .bare h hfew

theorem Grouped.readInt?_eq {ds : List Nat} {written : List Char} (h : Grouped cs ds)
    (hfew : ds.length ≤ maxIntegerDigits) (hplain : dropSeparators false (asciiDigits written) = some plain)
    (hsign : splitSign plain = (negative, ds.map Text.digit)) :
    readInt? written = some (if negative then -(Text.ofDigits ds : Int) else Text.ofDigits ds) := by
  have hne : ds.map Text.digit ≠ [] := by simpa using h.ne_nil
  have hdigits := List.all_eq_true.1 (all_isDigit_map_digit h.lt_ten)
  have hlength : (ds.map Text.digit).length ≤ maxIntegerDigits := by rwa [List.length_map]
  refine (readInt?_of_plain hplain hsign).2 ⟨hne, hdigits, hlength, ?_⟩
  rw [digitsValue_map_digit h.lt_ten]

end Sign

theorem readInt?_eq_some_iff : readInt? cs = some n ↔ Signed cs n := by
  constructor
  · intro h
    cases hread : dropSeparators false (asciiDigits cs) with
    | none =>
      rw [readInt?, hread] at h
      cases h
    | some plain =>
      obtain ⟨hne, hdigits, hfew, rfl⟩ := (readInt?_of_plain hread rfl).1 h
      exact signed_of_plain hread rfl hne hdigits hfew
  · intro h
    cases h with
    | @bare cs ds h hfew =>
      have hdigits := List.all_eq_true.1 (all_isDigit_map_digit h.lt_ten)
      have hpositional := positional_of_digits (by simpa using h.ne_nil) hdigits
      exact h.readInt?_eq hfew (h.dropSeparators_eq false) (Unsigned.positional hpositional).splitSign
    | @plus cs ds h hfew =>
      have hread : dropSeparators false (asciiDigits ('+' :: cs)) = some ('+' :: ds.map Text.digit) := by
        rw [dropSeparators_sign (.inl rfl), h.dropSeparators_eq]
        rfl
      have hsign : splitSign ('+' :: ds.map Text.digit) = (false, ds.map Text.digit) := rfl
      exact h.readInt?_eq hfew hread hsign
    | @minus cs ds h hfew =>
      have hread : dropSeparators false (asciiDigits ('-' :: cs)) = some ('-' :: ds.map Text.digit) := by
        rw [dropSeparators_sign (.inr rfl), h.dropSeparators_eq]
        rfl
      have hsign : splitSign ('-' :: ds.map Text.digit) = (true, ds.map Text.digit) := rfl
      exact h.readInt?_eq hfew hread hsign

/-! ## Blanks -/

theorem Grouped.not_blank (h : Grouped cs ds) : ∀ c ∈ cs, Text.isBlankChar c = false := by
  have hseparator : Text.isBlankChar '_' = false := by decide
  induction h with
  | single h => simpa using Text.not_isBlankChar_of_digitValue? h
  | next h more ih => exact List.forall_mem_cons.2 ⟨Text.not_isBlankChar_of_digitValue? h, ih⟩
  | @separated c d cs ds h more ih =>
    have hrest : ∀ c ∈ '_' :: cs, Text.isBlankChar c = false := List.forall_mem_cons.2 ⟨hseparator, ih⟩
    exact List.forall_mem_cons.2 ⟨Text.not_isBlankChar_of_digitValue? h, hrest⟩

theorem Signed.not_blank (h : Signed cs n) : ∀ c ∈ cs, Text.isBlankChar c = false := by
  have hplus : Text.isBlankChar '+' = false := by decide
  have hminus : Text.isBlankChar '-' = false := by decide
  cases h with
  | bare h => exact h.not_blank
  | plus h => exact List.forall_mem_cons.2 ⟨hplus, h.not_blank⟩
  | minus h => exact List.forall_mem_cons.2 ⟨hminus, h.not_blank⟩

end Numeral

/-- A text is read as an integer exactly if it spells that integer. -/
theorem Number.ofText?_eq_int_iff {s : String} {n : Int} : ofText? s = some (int n) ↔ Numeral.Spells s n := by
  constructor
  · intro h
    obtain ⟨before, after, hs, hbefore, hafter⟩ := Text.exists_dropped Text.isBlankChar s.toList
    refine ⟨before, _, after, hs, hbefore, hafter, Numeral.readInt?_eq_some_iff.1 ?_⟩
    unfold ofText? at h
    dsimp only at h
    split at h
    · rename_i m hread
      cases h
      exact hread
    · split at h
      · split_ifs at h
        cases h
      · cases h
  · rintro ⟨before, cs, after, hs, hbefore, hafter, h⟩
    rw [ofText?, hs, Text.trimChars_append hbefore h.not_blank hafter]
    simp only [Numeral.readInt?_eq_some_iff.2 h]

end Rollup
