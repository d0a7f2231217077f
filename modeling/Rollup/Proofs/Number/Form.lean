import Rollup.Number
import Mathlib.Tactic.Common

/-!
# How numbers are written

A finite number is written as an unsigned numeral, perhaps behind a minus sign: a digit, then digits
and points, then perhaps an exponent mark with a sign and digits (`Numeral.Unsigned`). This holds of
integers, of the shortest text of a double and of decimal numbers, in positional and in scientific
notation. The texts of numbers that are not finite are words; so letters, digits, points and signs are all
that a number is written with (`Numeral.Written`).
-/

namespace Rollup

namespace Text

theorem isDigit_of_mem_digitChars {n : Nat} {c : Char} (h : c ∈ digitChars n) : c.isDigit :=
  Nat.isDigit_of_mem_toDigits (by decide) (by decide) h

theorem digitChars_ne_nil (n : Nat) : digitChars n ≠ [] := Nat.toDigits_ne_nil

theorem digitsValue_digitChars (n : Nat) : Numeral.digitsValue (digitChars n) = n :=
  Nat.ofDigitChars_ten_toDigits

end Text

namespace Numeral

/-- A digit and then digits and points. -/
def Positional : List Char → Prop
  | [] => False
  | d :: more => d.isDigit ∧ ∀ c ∈ more, c.isDigit ∨ c = '.'

/-- An exponent mark with a sign and digits. -/
def Exponent : List Char → Prop
  | mark :: sign :: digits =>
    (mark = 'e' ∨ mark = 'E') ∧ (sign = '-' ∨ sign = '+') ∧ ∀ c ∈ digits, c.isDigit
  | _ => False

/-- The texts of numbers that are not negative. -/
inductive Unsigned : List Char → Prop
  | positional {cs : List Char} (h : Positional cs) : Unsigned cs
  | scientific {mantissa exponent : List Char} (h : Positional mantissa) (he : Exponent exponent) :
    Unsigned (mantissa ++ exponent)

theorem positional_of_digits {cs : List Char} (hne : cs ≠ []) (h : ∀ c ∈ cs, c.isDigit) :
    Positional cs := by
  cases cs with
  | nil => exact absurd rfl hne
  | cons d more => exact ⟨h d List.mem_cons_self, fun c hc => .inl (h c (List.mem_cons_of_mem _ hc))⟩

theorem positional_digitChars (n : Nat) : Positional (Text.digitChars n) :=
  positional_of_digits (Text.digitChars_ne_nil n) fun _ => Text.isDigit_of_mem_digitChars

theorem Positional.append {a b : List Char} (ha : Positional a) (hb : ∀ c ∈ b, c.isDigit ∨ c = '.') :
    Positional (a ++ b) := by
  cases a with
  | nil => cases ha
  | cons d more =>
    refine ⟨ha.1, fun c hc => ?_⟩
    rcases List.mem_append.1 hc with hc | hc
    · exact ha.2 c hc
    · exact hb c hc

/-- Digits with a point behind the first of them. -/
theorem positional_insert_point {digits : List Char} (h : ∀ c ∈ digits, c.isDigit) {n : Nat}
    (hn : 0 < n) (hne : digits ≠ []) : Positional (digits.take n ++ '.' :: digits.drop n) := by
  have htake : digits.take n ≠ [] := by
    simp only [ne_eq, List.take_eq_nil_iff, not_or]
    exact ⟨by omega, hne⟩
  refine (positional_of_digits htake fun c hc => h c (List.mem_of_mem_take hc)).append ?_
  intro c hc
  rcases List.mem_cons.1 hc with rfl | hc
  · exact .inr rfl
  · exact .inl (h c (List.mem_of_mem_drop hc))

theorem positional_point {d : Char} {digits : List Char} (h : ∀ c ∈ d :: digits, c.isDigit) :
    Positional (d :: '.' :: digits) :=
  positional_insert_point h Nat.zero_lt_one (List.cons_ne_nil d digits)

/-- A zero, a point, zeros and digits. -/
theorem positional_zero_point {digits : List Char} (h : ∀ c ∈ digits, c.isDigit) (n : Nat) :
    Positional ('0' :: '.' :: (List.replicate n '0' ++ digits)) := by
  refine ⟨by decide, fun c hc => ?_⟩
  rcases List.mem_cons.1 hc with rfl | hc
  · exact .inr rfl
  rcases List.mem_append.1 hc with hc | hc
  · exact .inl (List.eq_of_mem_replicate hc ▸ by decide)
  · exact .inl (h c hc)

theorem Unsigned.head_isDigit {cs : List Char} (h : Unsigned cs) :
    ∃ d more, cs = d :: more ∧ d.isDigit := by
  cases h with
  | positional h =>
    cases cs with
    | nil => cases h
    | cons d more => exact ⟨d, more, rfl, h.1⟩
  | @scientific mantissa exponent h he =>
    cases mantissa with
    | nil => cases h
    | cons d more => exact ⟨d, more ++ exponent, rfl, h.1⟩

theorem mem_positional {cs : List Char} (h : Positional cs) {c : Char} (hc : c ∈ cs) :
    c.isDigit ∨ c = '.' := by
  cases cs with
  | nil => cases h
  | cons d more =>
    rcases List.mem_cons.1 hc with rfl | hc
    · exact .inl h.1
    · exact h.2 c hc

/-- All characters of an unsigned numeral are digits or one of five others. -/
theorem Unsigned.mem {cs : List Char} (h : Unsigned cs) {c : Char} (hc : c ∈ cs) :
    c.isDigit ∨ c ∈ ['.', 'e', 'E', '-', '+'] := by
  cases h with
  | positional h => exact (mem_positional h hc).imp_right (by rintro rfl; decide)
  | @scientific mantissa exponent h he =>
    rcases List.mem_append.1 hc with hc | hc
    · exact (mem_positional h hc).imp_right (by rintro rfl; decide)
    · match exponent, he with
      | mark :: sign :: digits, ⟨hmark, hsign, hdigits⟩ =>
        rcases List.mem_cons.1 hc with rfl | hc
        · exact .inr (by rcases hmark with rfl | rfl <;> decide)
        rcases List.mem_cons.1 hc with rfl | hc
        · exact .inr (by rcases hsign with rfl | rfl <;> decide)
        · exact .inl (hdigits c hc)

/-- Whether a character is a letter, a digit, a point or a sign. -/
def isWritten (c : Char) : Bool := c.isAlphanum || c = '.' || c = '-' || c = '+'

/-- Characters that numbers are written with, at least one of them. -/
def Written (cs : List Char) : Prop := cs ≠ [] ∧ ∀ c ∈ cs, isWritten c

theorem Written.append {a b : List Char} (ha : ∀ c ∈ a, isWritten c) (hb : Written b) :
    Written (a ++ b) := by
  refine ⟨List.append_ne_nil_of_right_ne_nil a hb.1, fun c hc => ?_⟩
  rcases List.mem_append.1 hc with hc | hc
  · exact ha c hc
  · exact hb.2 c hc

theorem Written.minus {cs : List Char} (h : Written cs) : Written ('-' :: cs) :=
  .append (List.all_eq_true.1 (show ['-'].all isWritten = true from rfl)) h

theorem written_word {cs : List Char} (hne : cs ≠ []) (h : cs.all isWritten = true) : Written cs :=
  ⟨hne, List.all_eq_true.1 h⟩

theorem isWritten_of_isDigit {c : Char} (h : c.isDigit) : isWritten c := by
  simp [isWritten, Char.isAlphanum, h]

theorem Unsigned.written {cs : List Char} (h : Unsigned cs) : Written cs := by
  have hmarks : ['.', 'e', 'E', '-', '+'].all isWritten = true := rfl
  obtain ⟨d, more, rfl, -⟩ := h.head_isDigit
  refine ⟨List.cons_ne_nil d more, fun c hc => ?_⟩
  rcases h.mem hc with hc | hc
  · exact isWritten_of_isDigit hc
  · exact List.all_eq_true.1 hmarks c hc

end Numeral

open Numeral

theorem Number.written_intText? {n : Int} {s : String} (h : intText? n = some s) : Written s.toList := by
  have hdigits : Written (Text.digitChars n.natAbs) :=
    (Unsigned.positional (positional_digitChars n.natAbs)).written
  unfold intText? at h
  dsimp only at h
  split_ifs at h with hlong hneg
  · obtain rfl := Option.some.inj h
    rw [String.toList_ofList]
    exact hdigits.minus
  · obtain rfl := Option.some.inj h
    rw [String.toList_ofList]
    exact hdigits

namespace Double
variable {digits : List Char}

theorem exponent_exponentChars {layout : Layout} (h : layout.exponentMark = 'e') (exponent : Int) :
    Exponent (exponentChars layout exponent) := by
  refine ⟨.inl h, ?_, fun c hc => ?_⟩
  · split
    · exact .inl rfl
    · exact .inr rfl
  · rcases List.mem_append.1 hc with hc | hc
    · exact List.eq_of_mem_replicate hc ▸ by decide
    · exact Text.isDigit_of_mem_digitChars hc

theorem unsigned_layOut {layout : Layout} (hlayout : layout.exponentMark = 'e') (hne : digits ≠ [])
    (h : ∀ c ∈ digits, c.isDigit) (exponent : Int) : Unsigned (layOut layout digits exponent) := by
  unfold layOut
  dsimp only
  split_ifs with hpositional hsmall hwhole
  · exact .positional (positional_zero_point h _)
  · refine .positional (((positional_of_digits hne h).append fun c hc => ?_).append (by simp))
    exact .inl (List.eq_of_mem_replicate hc ▸ by decide)
  · exact .positional (positional_insert_point h (by omega) hne)
  · have hexponent := exponent_exponentChars hlayout (exponent + digits.length - 1)
    cases digits with
    | nil => exact absurd rfl hne
    | cons d ds =>
      have hd := h d List.mem_cons_self
      cases ds with
      | nil =>
        have hmantissa : Positional [d] := ⟨hd, by simp⟩
        exact .scientific hmantissa hexponent
      | cons e ds => exact .scientific (positional_point h) hexponent

theorem unsigned_magnitudeChars (units : Nat) : Unsigned (magnitudeChars units) := by
  unfold magnitudeChars stripZeros
  dsimp only
  split_ifs with hempty
  · exact unsigned_layOut rfl (by simp) (by simp) _
  · refine unsigned_layOut rfl (by simpa using hempty) (fun c hc => ?_) _
    have hmem : c ∈ (Text.digitChars (decimal units).1).reverse :=
      (List.dropWhile_sublist _).subset (List.mem_reverse.1 hc)
    exact Text.isDigit_of_mem_digitChars (List.mem_reverse.1 hmem)

theorem written_textChars (x : Double) : Written x.textChars := by
  cases x with
  | nan => exact written_word (List.cons_ne_nil _ _) rfl
  | infinite negative => cases negative <;> exact written_word (List.cons_ne_nil _ _) rfl
  | finite negative units =>
    have hunits := (unsigned_magnitudeChars units).written
    unfold textChars
    dsimp only
    split_ifs with hnegative
    · exact hunits.minus
    · exact hunits

end Double

namespace Decimal

/-- The digits before an exponent, with a point where there is more than one. -/
theorem positional_mantissa (digits : List Char) : digits ≠ [] → (∀ c ∈ digits, c.isDigit) →
    Positional (match digits with
      | d :: e :: more => d :: '.' :: e :: more
      | other => other) := by
  intro hne h
  split
  · exact positional_point h
  · exact positional_of_digits hne h

theorem unsigned_finiteChars (coefficient : Nat) (exponent : Int) :
    Unsigned (finiteChars coefficient exponent) := by
  have hdigits : ∀ c ∈ Text.digitChars coefficient, c.isDigit := fun _ =>
    Text.isDigit_of_mem_digitChars
  have hne : Text.digitChars coefficient ≠ [] := Text.digitChars_ne_nil coefficient
  unfold finiteChars
  dsimp only
  generalize Text.digitChars coefficient = digits at *
  have hmantissa := positional_mantissa digits hne hdigits
  have hpower (sign : Char) (hsign : sign = '-' ∨ sign = '+') (n : Nat) :
      Exponent ('E' :: sign :: Text.digitChars n) :=
    ⟨.inr rfl, hsign, fun _ => Text.isDigit_of_mem_digitChars⟩
  split_ifs
  · exact .positional (positional_zero_point hdigits _)
  · exact .positional (positional_of_digits hne hdigits)
  · exact .positional (positional_insert_point hdigits (by omega) hne)
  · exact .positional hmantissa
  · exact .scientific hmantissa (hpower '-' (.inl rfl) _)
  · exact .scientific hmantissa (hpower '+' (.inr rfl) _)

theorem written_textChars (d : Decimal) : Written d.textChars := by
  have hsign (negative : Bool) : ∀ c ∈ signChars negative, isWritten c := by
    refine List.all_eq_true.1 ?_
    cases negative <;> rfl
  cases d with
  | finite negative coefficient exponent =>
    exact .append (hsign negative) (unsigned_finiteChars coefficient exponent).written
  | infinite negative => exact .append (hsign negative) (written_word (List.cons_ne_nil _ _) rfl)
  | nan negative signaling payload =>
    have hkind : ∀ c ∈ (if signaling then ['s'] else []), isWritten c := by
      refine List.all_eq_true.1 ?_
      cases signaling <;> rfl
    have hnan : Written "NaN".toList := written_word (List.cons_ne_nil _ _) rfl
    have hword : Written ("NaN".toList ++ (payload.map Text.digitChars).getD []) := by
      refine ⟨List.append_ne_nil_of_left_ne_nil hnan.1 _, fun c hc => ?_⟩
      rcases List.mem_append.1 hc with hc | hc
      · exact hnan.2 c hc
      · cases payload with
        | none => cases hc
        | some n => exact isWritten_of_isDigit (Text.isDigit_of_mem_digitChars hc)
    rw [textChars, List.append_assoc, List.append_assoc]
    exact .append (hsign negative) (.append hkind hword)

end Decimal

end Rollup
