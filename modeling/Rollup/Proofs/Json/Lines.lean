import Rollup.Proofs.Except
import Rollup.Proofs.Json.Reader

/-!
# Lines of JSON text

A scan of JSON text tells what stands between tokens from what stands in a string or in the word `null`
(`Place`). In a text that the reader accepts newlines stand between tokens (`sound_of_parse`), so a text
that has been broken elsewhere is no JSON.
-/

namespace Rollup.Json

/-- Where the next character of a text stands. -/
inductive Place
  | between
  | inString
  /-- In a string behind a backslash. -/
  | escaped
  /-- In the word `null`, of which so many letters are left. -/
  | inNull (left : Nat)
  deriving DecidableEq, Repr

namespace Place

/-- Where the next character stands, after one. -/
def after : Place → Char → Place
  | between, c => if c = '"' then inString else if c = 'n' then inNull 3 else between
  | inString, c => if c = '"' then between else if c = '\\' then escaped else inString
  | escaped, _ => inString
  | inNull left, _ => if left ≤ 1 then between else inNull (left - 1)

/-- The characters that a reader accepts at a place, as far as blanks are concerned. -/
def Admits : Place → Char → Prop
  | between, c => Text.isBlankChar c → isSpace c
  | inString, c => c ≠ '\n'
  | escaped, c => Text.isBlankChar c = false
  | inNull _, c => Text.isBlankChar c = false

end Place

/-- Whether newlines stand between tokens only, in a text from a place on. -/
def LinesEndBetween : Place → List Char → Prop
  | _, [] => True
  | p, c :: cs => (c = '\n' → p = .between) ∧ LinesEndBetween (p.after c) cs

instance LinesEndBetween.decidable : (p : Place) → (cs : List Char) → Decidable (LinesEndBetween p cs)
  | _, [] => inferInstanceAs (Decidable True)
  | p, c :: cs =>
    have := LinesEndBetween.decidable (p.after c) cs
    inferInstanceAs (Decidable ((c = '\n' → p = .between) ∧ LinesEndBetween (p.after c) cs))

/-- Whether a text from a place on has blanks only where a reader accepts them, and ends between tokens. -/
def Sound : Place → List Char → Prop
  | p, [] => p = .between
  | p, c :: cs => p.Admits c ∧ Sound (p.after c) cs

variable {p : Place} {c : Char} {cs used rest : List Char}

theorem Sound.linesEndBetween (h : Sound p cs) : LinesEndBetween p cs := by
  induction cs generalizing p with
  | nil => trivial
  | cons c cs ih =>
    obtain ⟨hadmits, h⟩ := h
    refine ⟨?_, ih h⟩
    rintro rfl
    cases p with
    | between => rfl
    | inString => exact absurd rfl hadmits
    | _ => cases hadmits

/-! ## Single characters -/

theorem sound_between_cons (hquote : c ≠ '"') (hnull : c ≠ 'n') (hblank : Text.isBlankChar c → isSpace c) :
    Sound .between (c :: cs) ↔ Sound .between cs := by
  simp only [Sound, Place.Admits, Place.after, if_neg hquote, if_neg hnull]
  exact and_iff_right hblank

theorem sound_inString_cons (hquote : c ≠ '"') (hbackslash : c ≠ '\\') (hnewline : c ≠ '\n') :
    Sound .inString (c :: cs) ↔ Sound .inString cs := by
  simp [Sound, Place.Admits, Place.after, hquote, hbackslash, hnewline]

theorem sound_quote : Sound .between ('"' :: cs) ↔ Sound .inString cs := by
  simp [Sound, Place.Admits, Place.after, show Text.isBlankChar '"' = false by decide]

theorem sound_closing : Sound .inString ('"' :: cs) ↔ Sound .between cs := by
  simp [Sound, Place.Admits, Place.after]

theorem sound_escape (h : Text.isBlankChar c = false) :
    Sound .inString ('\\' :: c :: cs) ↔ Sound .inString cs := by
  simp [Sound, Place.Admits, Place.after, h]

theorem ne_of_isSpace (h : isSpace c) : c ≠ '"' ∧ c ≠ 'n' := by
  constructor <;> (rintro rfl; cases h)

theorem sound_skipSpace : Sound .between (skipSpace cs) ↔ Sound .between cs := by
  induction cs with
  | nil => rfl
  | cons c cs ih =>
    by_cases hc : isSpace c
    · have hskip : skipSpace (c :: cs) = skipSpace cs := List.dropWhile_cons_of_pos hc
      rw [hskip, ih, sound_between_cons (ne_of_isSpace hc).1 (ne_of_isSpace hc).2 fun _ => hc]
    · rw [skipSpace_cons (by simpa using hc)]

/-! ## Strings -/

theorem ne_of_hexValue? {n : Nat} (h : hexValue? c = some n) : c ≠ '"' ∧ c ≠ '\\' ∧ c ≠ '\n' := by
  have hquote : hexValue? '"' = none := by decide
  have hbackslash : hexValue? '\\' = none := by decide
  have hnewline : hexValue? '\n' = none := by decide
  refine ⟨?_, ?_, ?_⟩ <;> (rintro rfl; simp_all)

theorem sound_of_readUnit? {n : Nat} (h : readUnit? cs = some (n, rest)) :
    Sound .inString cs ↔ Sound .inString rest := by
  match cs, h with
  | a :: b :: c :: d :: cs, h =>
    simp only [readUnit?, bind, pure, Option.bind_eq_some_iff, Option.some.injEq, Prod.mk.injEq] at h
    obtain ⟨_, ha, _, hb, _, hc, _, hd, -, rfl⟩ := h
    have hcons {e : Char} {n : Nat} (he : hexValue? e = some n) (es : List Char) :
        Sound .inString (e :: es) ↔ Sound .inString es :=
      sound_inString_cons (ne_of_hexValue? he).1 (ne_of_hexValue? he).2.1 (ne_of_hexValue? he).2.2
    rw [hcons ha, hcons hb, hcons hc, hcons hd]

theorem sound_of_readUnicode (h : readUnicode cs = .ok (c, rest)) :
    Sound .inString cs ↔ Sound .inString rest := by
  unfold readUnicode at h
  split at h
  · cases h
  · rename_i unit more hunit
    rw [sound_of_readUnit? hunit]
    -- A high surrogate is followed by an escape of a low one.
    split_ifs at h
    · split at h
      · rename_i low
        split at h
        · rename_i hlow
          split_ifs at h
          · obtain ⟨-, rfl⟩ := Prod.mk.inj (Except.ok.inj h)
            rw [sound_escape (by decide), sound_of_readUnit? hlow]
          · cases h
        · cases h
      · cases h
    · cases h
    · obtain ⟨-, rfl⟩ := Prod.mk.inj (Except.ok.inj h)
      rfl

theorem not_isBlankChar_of_simpleEscape? {d : Char} (h : simpleEscape? c = some d) :
    Text.isBlankChar c = false := by
  unfold simpleEscape? at h
  split at h <;> first | decide | cases h

theorem sound_of_readStringBody {opening fuel : Nat} {inside : List Char}
    (h : readStringBody opening fuel cs = .ok (inside, rest)) :
    Sound .inString cs ↔ Sound .between rest := by
  induction fuel generalizing cs inside with
  | zero => cases h
  | succ fuel ih =>
    cases cs with
    | nil => cases h
    | cons c cs =>
      unfold readStringBody at h
      split_ifs at h with hquote hbackslash hcontrol
      · obtain ⟨-, rfl⟩ := Prod.mk.inj (Except.ok.inj h)
        rw [hquote, sound_closing]
      · rw [hbackslash]
        split at h
        · cases h
        · obtain ⟨⟨d, more⟩, hunicode, h⟩ := exists_of_bind_eq_ok h
          obtain ⟨⟨inside, after⟩, hbody, h⟩ := exists_of_bind_eq_ok h
          obtain ⟨-, rfl⟩ := Prod.mk.inj (Except.ok.inj h)
          rw [sound_escape (by decide), sound_of_readUnicode hunicode, ih hbody]
        · split at h
          · rename_i hsimple
            obtain ⟨⟨inside, after⟩, hbody, h⟩ := exists_of_bind_eq_ok h
            obtain ⟨-, rfl⟩ := Prod.mk.inj (Except.ok.inj h)
            rw [sound_escape (not_isBlankChar_of_simpleEscape? hsimple), ih hbody]
          · cases h
      · cases h
      · obtain ⟨⟨inside, after⟩, hbody, h⟩ := exists_of_bind_eq_ok h
        obtain ⟨-, rfl⟩ := Prod.mk.inj (Except.ok.inj h)
        have hnewline : c ≠ '\n' := by
          rintro rfl
          exact hcontrol (by decide)
        rw [sound_inString_cons hquote hbackslash hnewline, ih hbody]

theorem sound_of_readString {s : String} (h : readString cs = .ok (s, rest)) :
    Sound .inString cs ↔ Sound .between rest := by
  obtain ⟨⟨inside, after⟩, hbody, h⟩ := exists_of_bind_eq_ok h
  obtain ⟨-, rfl⟩ := Prod.mk.inj (Except.ok.inj h)
  exact sound_of_readStringBody hbody

/-! ## Numbers and words -/

/-- What is left of a text behind characters that numbers are written with. -/
def NumberBefore (cs rest : List Char) : Prop :=
  ∃ used, cs = used ++ rest ∧ ∀ c ∈ used, c.isDigit ∨ c ∈ ['-', '+', '.', 'e', 'E']

namespace NumberBefore

theorem refl (cs : List Char) : NumberBefore cs cs := ⟨[], rfl, nofun⟩

theorem cons (hc : c ∈ ['-', '+', '.', 'e', 'E']) (h : NumberBefore cs rest) :
    NumberBefore (c :: cs) rest := by
  obtain ⟨used, rfl, hused⟩ := h
  exact ⟨c :: used, rfl, List.forall_mem_cons.2 ⟨.inr hc, hused⟩⟩

theorem trans {middle : List Char} (h : NumberBefore cs middle) (h' : NumberBefore middle rest) :
    NumberBefore cs rest := by
  obtain ⟨used, rfl, hused⟩ := h
  obtain ⟨used', rfl, hused'⟩ := h'
  refine ⟨used ++ used', (List.append_assoc ..).symm, fun c hc => ?_⟩
  rcases List.mem_append.1 hc with hc | hc
  · exact hused c hc
  · exact hused' c hc

theorem digits (cs : List Char) : NumberBefore cs (cs.dropWhile Char.isDigit) :=
  ⟨cs.takeWhile Char.isDigit, List.takeWhile_append_dropWhile.symm, fun _ hc =>
    .inl (List.all_eq_true.1 List.all_takeWhile _ hc)⟩

theorem sound_iff (h : NumberBefore cs rest) : Sound .between cs ↔ Sound .between rest := by
  obtain ⟨used, rfl, hused⟩ := h
  have hneutral {c : Char} (hc : c.isDigit ∨ c ∈ ['-', '+', '.', 'e', 'E']) :
      c ≠ '"' ∧ c ≠ 'n' ∧ Text.isBlankChar c = false := by
    rcases hc with hdigit | hmark
    · have hrange : 48 ≤ c.toNat ∧ c.toNat ≤ 57 := by
        simpa [Char.isDigit, UInt32.le_iff_toNat_le] using hdigit
      refine ⟨fun hc => absurd hdigit (by rw [hc]; decide), fun hc => absurd hdigit (by rw [hc]; decide), ?_⟩
      simp [Text.isBlankChar, Text.inRanges, Text.blankRanges]
      omega
    · simp only [List.mem_cons, List.not_mem_nil, or_false] at hmark
      rcases hmark with rfl | rfl | rfl | rfl | rfl <;> decide
  induction used with
  | nil => rfl
  | cons c used ih =>
    obtain ⟨hc, hrest⟩ := List.forall_mem_cons.1 hused
    obtain ⟨hquote, hnull, hblank⟩ := hneutral hc
    rw [List.cons_append, sound_between_cons hquote hnull (by simp [hblank])]
    exact ih hrest

end NumberBefore

theorem numberBefore_splitWhole (cs : List Char) : NumberBefore cs (splitWhole cs).2 := by
  unfold splitWhole
  split
  · exact ⟨['0'], rfl, by simp⟩
  · exact .digits _

theorem numberBefore_splitFraction (cs : List Char) : NumberBefore cs (splitFraction cs).2 := by
  unfold splitFraction
  split
  · rename_i cs
    dsimp only
    split_ifs
    · exact .refl _
    · exact (NumberBefore.digits cs).cons (by decide)
  · exact .refl _

theorem numberBefore_splitSign (cs : List Char) : NumberBefore cs (Numeral.splitSign cs).2 := by
  unfold Numeral.splitSign
  split
  · exact (NumberBefore.refl _).cons (by decide)
  · exact (NumberBefore.refl _).cons (by decide)
  · exact .refl _

theorem numberBefore_of_splitExponent? {exponent : Int} (h : splitExponent? cs = some (exponent, rest)) :
    NumberBefore cs rest := by
  cases cs with
  | nil => cases h
  | cons c cs =>
    unfold splitExponent? at h
    dsimp only at h
    split_ifs at h with hmark
    all_goals
      obtain ⟨-, rfl⟩ := Prod.mk.inj (Option.some.inj h)
      have hc : c ∈ ['-', '+', '.', 'e', 'E'] := by
        rcases (by simpa using hmark : c = 'e' ∨ c = 'E') with rfl | rfl <;> decide
      exact ((numberBefore_splitSign cs).trans (.digits _)).cons hc

theorem numberBefore_of_readNumber {v : Value} (h : readNumber cs = .ok (v, rest)) : NumberBefore cs rest := by
  unfold readNumber at h
  split at h
  rename_i negative unsigned hsign
  have hunsigned : NumberBefore cs unsigned := by
    split at hsign
    · obtain ⟨-, rfl⟩ := Prod.mk.inj hsign
      exact (NumberBefore.refl _).cons (by decide)
    · obtain ⟨-, rfl⟩ := Prod.mk.inj hsign
      exact .refl _
  dsimp only at h
  have hwhole := hunsigned.trans (numberBefore_splitWhole unsigned)
  have hfraction := hwhole.trans (numberBefore_splitFraction (splitWhole unsigned).2)
  by_cases hempty : (splitWhole unsigned).1.isEmpty
  · rw [if_pos hempty] at h
    cases h
  rw [if_neg hempty] at h
  split at h
  · by_cases hlong : Numeral.maxIntegerDigits < (splitWhole unsigned).1.length
    · rw [if_pos hlong] at h
      cases h
    rw [if_neg hlong] at h
    obtain ⟨-, rfl⟩ := Prod.mk.inj (Except.ok.inj h)
    exact hwhole
  · rename_i hexponent
    obtain ⟨-, rfl⟩ := Prod.mk.inj (Except.ok.inj h)
    exact hfraction.trans (numberBefore_of_splitExponent? hexponent)
  · obtain ⟨-, rfl⟩ := Prod.mk.inj (Except.ok.inj h)
    exact hfraction

theorem sound_of_readScalar {v : Value} (h : readScalar cs = .ok (v, rest)) :
    Sound .between cs ↔ Sound .between rest := by
  unfold readScalar at h
  split at h
  · rename_i w more hword
    obtain ⟨-, rfl⟩ := Prod.mk.inj (Except.ok.inj h)
    obtain ⟨⟨word, u⟩, hmem, hword⟩ := List.exists_of_findSome?_eq_some hword
    obtain ⟨after, hsplit, heq⟩ := Option.map_eq_some_iff.1 hword
    obtain ⟨rfl, rfl⟩ := Prod.mk.inj heq
    have hcs : cs = word.toList ++ after := by
      unfold splitWord? at hsplit
      split_ifs at hsplit with hprefix
      obtain ⟨tail, rfl⟩ := List.isPrefixOf_iff_prefix.1 hprefix
      rw [← Option.some.inj hsplit, List.drop_left]
    rw [hcs]
    simp only [words, List.mem_cons, List.not_mem_nil, or_false, Prod.mk.injEq] at hmem
    rcases hmem with ⟨rfl, -⟩ | ⟨rfl, -⟩ | ⟨rfl, -⟩ | ⟨rfl, -⟩ | ⟨rfl, -⟩ | ⟨rfl, -⟩ <;>
      simp [Sound, Place.Admits, Place.after, Text.isBlankChar, Text.inRanges, Text.blankRanges]
  · exact (numberBefore_of_readNumber h).sound_iff

/-- In what a reader has read, newlines stood between tokens. -/
theorem sound_of_read (fuel : Nat) :
    (∀ {cs rest v}, readValue fuel cs = .ok (v, rest) → (Sound .between cs ↔ Sound .between rest)) ∧
    (∀ {cs rest vs}, readItems fuel cs = .ok (vs, rest) → (Sound .between cs ↔ Sound .between rest)) ∧
    ∀ {cs rest members}, readMembers fuel cs = .ok (members, rest) →
      (Sound .between cs ↔ Sound .between rest) := by
  have hmark {c : Char} (hc : c ∈ ['[', ']', '\x7b', '\x7d', ',', ':']) (cs : List Char) :
      Sound .between (c :: cs) ↔ Sound .between cs := by
    simp only [List.mem_cons, List.not_mem_nil, or_false] at hc
    rcases hc with rfl | rfl | rfl | rfl | rfl | rfl <;>
      exact sound_between_cons (by decide) (by decide) (by decide)
  induction fuel with
  | zero => exact ⟨nofun, nofun, nofun⟩
  | succ fuel ih =>
    obtain ⟨ihvalue, ihitems, ihmembers⟩ := ih
    refine ⟨fun {cs rest v} h => ?_, fun {cs rest vs} h => ?_, fun {cs rest members} h => ?_⟩
    · unfold readValue at h
      split at h
      · obtain ⟨⟨s, after⟩, hstring, h⟩ := exists_of_bind_eq_ok h
        obtain ⟨-, rfl⟩ := Prod.mk.inj (Except.ok.inj h)
        rw [sound_quote, sound_of_readString hstring]
      · rw [hmark (by decide), ← sound_skipSpace]
        split at h
        · rename_i hskip
          obtain ⟨-, rfl⟩ := Prod.mk.inj (Except.ok.inj h)
          rw [hskip, hmark (by decide)]
        · obtain ⟨⟨items, after⟩, hitems, h⟩ := exists_of_bind_eq_ok h
          obtain ⟨-, rfl⟩ := Prod.mk.inj (Except.ok.inj h)
          exact ihitems hitems
      · rw [hmark (by decide), ← sound_skipSpace]
        split at h
        · rename_i hskip
          obtain ⟨-, rfl⟩ := Prod.mk.inj (Except.ok.inj h)
          rw [hskip, hmark (by decide)]
        · obtain ⟨⟨members, after⟩, hmembers, h⟩ := exists_of_bind_eq_ok h
          obtain ⟨-, rfl⟩ := Prod.mk.inj (Except.ok.inj h)
          exact ihmembers hmembers
      · exact sound_of_readScalar h
    · obtain ⟨⟨v, more⟩, hv, h⟩ := exists_of_bind_eq_ok h
      rw [ihvalue hv, ← sound_skipSpace]
      dsimp only at h
      split at h
      · rename_i hskip
        obtain ⟨-, rfl⟩ := Prod.mk.inj (Except.ok.inj h)
        rw [hskip, hmark (by decide)]
      · rename_i hskip
        obtain ⟨⟨vs, after⟩, hvs, h⟩ := exists_of_bind_eq_ok h
        obtain ⟨-, rfl⟩ := Prod.mk.inj (Except.ok.inj h)
        rw [hskip, hmark (by decide), ← sound_skipSpace, ihitems hvs]
      · cases h
    · unfold readMembers at h
      split at h
      · obtain ⟨⟨key, more⟩, hkey, h⟩ := exists_of_bind_eq_ok h
        rw [sound_quote, sound_of_readString hkey, ← sound_skipSpace]
        dsimp only at h
        split at h
        · rename_i hskip
          obtain ⟨⟨v, after⟩, hv, h⟩ := exists_of_bind_eq_ok h
          rw [hskip, hmark (by decide), ← sound_skipSpace, ihvalue hv, ← sound_skipSpace]
          dsimp only at h
          split at h
          · rename_i hskip
            obtain ⟨-, rfl⟩ := Prod.mk.inj (Except.ok.inj h)
            rw [hskip, hmark (by decide)]
          · rename_i hskip
            obtain ⟨⟨members, last⟩, hmembers, h⟩ := exists_of_bind_eq_ok h
            obtain ⟨-, rfl⟩ := Prod.mk.inj (Except.ok.inj h)
            rw [hskip, hmark (by decide), ← sound_skipSpace, ihmembers hmembers]
          · cases h
        · cases h
      · cases h

/-- A text that is accepted is sound. -/
theorem sound_of_parse {s : String} {v : Value} (h : parse s = .ok v) : Sound .between s.toList := by
  unfold parse parseChars at h
  split at h
  · cases h
  · obtain ⟨⟨u, rest⟩, hread, h⟩ := exists_of_bind_eq_ok h
    rw [← sound_skipSpace, (sound_of_read _).1 hread, ← sound_skipSpace]
    dsimp only at h
    split at h
    · rename_i hskip
      rw [hskip]
      rfl
    · cases h

end Rollup.Json
