import Rollup.Text.Lowercase
import Mathlib.Data.List.Basic
import Mathlib.Data.List.Infix
import Mathlib.Tactic.Common

/-!
# Lowercasing a part of a text

The lowercase form of a part of a text is a part of the lowercase form of the text, as long as each of its
capital sigmas ends a word in the text just when it does in the part alone (`lowerChars_infix`). A part is
exposed where this can fail: some capital sigma has nothing with case before it, or nothing with case after
it, and a neighbour could make it the end of a word or the inside of one. A part that is not exposed is found
in lower case in every text that it stands in, and an exposed one is not found next to a letter
(`exists_lowerChars_not_infix`).
-/

namespace Rollup.Text
variable {part before before' after after' a b : List Char}

/-! ## The ends of words -/

/-- Whether a capital sigma ends a word that it does not begin, given what stands before it, nearest
character first, and after it. -/
def endsWord (before after : List Char) : Bool := startsCased before && !startsCased after

theorem startsCased_append (a b : List Char) :
    startsCased (a ++ b) = if a.all isCaseIgnorable then startsCased b else startsCased a := by
  induction a with
  | nil => rfl
  | cons c a ih =>
    cases hc : isCaseIgnorable c with
    | true => simpa [startsCased, hc] using ih
    | false => simp [startsCased, hc]

theorem startsCased_of_all (h : a.all isCaseIgnorable = true) : startsCased a = false := by
  have hnil := startsCased_append a []
  rw [List.append_nil, if_pos h] at hnil
  exact hnil

theorem lowerAt_eq_of_endsWord {c : Char} (h : c = 'Σ' → endsWord before after = endsWord before' after') :
    lowerAt before c after = lowerAt before' c after' := by
  unfold lowerAt
  by_cases hc : c = 'Σ'
  · have hends := h hc
    unfold endsWord at hends
    rw [hends]
  · rw [if_neg hc, if_neg hc]

/-! ## Between two sides -/

/-- Lowercases a text between `before`, nearest character first, and `after`. -/
def lowerBetween (before : List Char) : List Char → List Char → List Char
  | [], _ => []
  | c :: cs, after => lowerAt before c (cs ++ after) ++ lowerBetween (c :: before) cs after

theorem lowerBetween_append (before a b after : List Char) : lowerBetween before (a ++ b) after =
    lowerBetween before a (b ++ after) ++ lowerBetween (a.reverse ++ before) b after := by
  induction a generalizing before with
  | nil => rfl
  | cons c a ih =>
    rw [List.cons_append, lowerBetween, lowerBetween, ih, List.append_assoc, List.append_assoc,
      List.reverse_cons, List.append_assoc]
    rfl

theorem lowerBetween_singleton (before : List Char) (c : Char) (after : List Char) :
    lowerBetween before [c] after = lowerAt before c after := List.append_nil _

theorem lowerAfter_eq_lowerBetween (before cs : List Char) :
    lowerAfter before cs = lowerBetween before cs [] := by
  induction cs generalizing before with
  | nil => rfl
  | cons c cs ih => rw [lowerAfter, lowerBetween, ih, List.append_nil]

theorem lowerChars_eq_lowerBetween (cs : List Char) : lowerChars cs = lowerBetween [] cs [] :=
  lowerAfter_eq_lowerBetween [] cs

theorem lowerChars_append_append (before part after : List Char) :
    lowerChars (before ++ part ++ after) = lowerBetween [] before (part ++ after) ++
      lowerBetween before.reverse part after ++ lowerBetween (part.reverse ++ before.reverse) after [] := by
  rw [lowerChars_eq_lowerBetween, lowerBetween_append, lowerBetween_append, List.append_nil, List.append_nil,
    List.append_nil, List.reverse_append]

/-- Only the ends of words matter. -/
theorem lowerBetween_congr (h : ∀ a b, part = a ++ 'Σ' :: b →
      endsWord (a.reverse ++ before) (b ++ after) = endsWord (a.reverse ++ before') (b ++ after')) :
    lowerBetween before part after = lowerBetween before' part after' := by
  induction part generalizing before before' with
  | nil => rfl
  | cons c part ih =>
    have hhead : lowerAt before c (part ++ after) = lowerAt before' c (part ++ after') :=
      lowerAt_eq_of_endsWord fun hc => h [] part (by rw [hc]; rfl)
    have htail : lowerBetween (c :: before) part after = lowerBetween (c :: before') part after' := by
      refine ih fun a b hsplit => ?_
      have hends := h (c :: a) b (by rw [hsplit]; rfl)
      rwa [List.reverse_cons, List.append_assoc, List.append_assoc] at hends
    rw [lowerBetween, lowerBetween, hhead, htail]

/-! ## Steady places -/

/-- Every place of a character can be tried. -/
theorem forall_split_iff {c : Char} {P : List Char → List Char → Prop} :
    (∀ a b, part = a ++ c :: b → P a b) ↔
      ∀ n ∈ List.range part.length, part[n]? = some c → P (part.take n) (part.drop (n + 1)) := by
  constructor
  · intro h n _ hn
    obtain ⟨hlt, hc⟩ := List.getElem?_eq_some_iff.1 hn
    refine h _ _ ?_
    rw [← hc, List.cons_getElem_drop_succ, List.take_append_drop]
  · rintro h a b rfl
    have hplace := h a.length (by simp) (by simp)
    simpa using hplace

instance decidableForallSplit {c : Char} {P : List Char → List Char → Prop} [∀ a b, Decidable (P a b)] :
    Decidable (∀ a b, part = a ++ c :: b → P a b) := decidable_of_iff' _ forall_split_iff

/-- Each capital sigma of a part ends a word between `before` and `after` just when it does in the part
alone. -/
def Steady (before part after : List Char) : Prop :=
  ∀ a b, part = a ++ 'Σ' :: b →
    endsWord (a.reverse ++ before.reverse) (b ++ after) = endsWord a.reverse b

instance (before part after : List Char) : Decidable (Steady before part after) :=
  decidableForallSplit

theorem steady_of_not_mem (h : 'Σ' ∉ part) : Steady before part after := by
  rintro a b rfl
  exact absurd (List.mem_append_right a List.mem_cons_self) h

theorem lowerBetween_of_steady (h : Steady before part after) :
    lowerBetween before.reverse part after = lowerChars part := by
  rw [lowerChars_eq_lowerBetween]
  refine lowerBetween_congr fun a b hsplit => ?_
  rw [List.append_nil, List.append_nil]
  exact h a b hsplit

theorem lowerChars_infix (h : Steady before part after) :
    lowerChars part <:+: lowerChars (before ++ part ++ after) := by
  rw [lowerChars_append_append, lowerBetween_of_steady h]
  exact List.infix_append _ _ _

/-- A text without capital sigmas is found in lower case at the end of every text that ends in it. -/
theorem lowerChars_suffix (before : List Char) (h : 'Σ' ∉ part) :
    lowerChars part <:+ lowerChars (before ++ part) := by
  have hlower := lowerChars_append_append before part []
  rw [List.append_nil, lowerBetween_of_steady (steady_of_not_mem h), lowerBetween, List.append_nil] at hlower
  rw [hlower]
  exact List.suffix_append _ _

/-! ## Exposed parts -/

/-- Some capital sigma of a text has nothing with case on one side, and would change its form there. -/
def Exposed (cs : List Char) : Prop :=
  ∃ a b, cs = a ++ 'Σ' :: b ∧
    (a.all isCaseIgnorable = true ∧ startsCased b = false ∨
      b.all isCaseIgnorable = true ∧ startsCased a.reverse = true)

theorem not_exposed_iff {cs : List Char} : ¬ Exposed cs ↔ ∀ a b, cs = a ++ 'Σ' :: b →
    ¬ (a.all isCaseIgnorable = true ∧ startsCased b = false ∨
      b.all isCaseIgnorable = true ∧ startsCased a.reverse = true) := by
  simp only [Exposed, not_exists, not_and]

instance (cs : List Char) : Decidable (Exposed cs) :=
  have : Decidable (¬ Exposed cs) := decidable_of_iff' _ not_exposed_iff
  decidable_of_iff (¬ ¬ Exposed cs) not_not

theorem steady_of_not_exposed (h : ¬ Exposed part) (before after : List Char) : Steady before part after := by
  intro a b hsplit
  obtain ⟨hfirst, hlast⟩ := not_or.1 (not_exposed_iff.1 h a b hsplit)
  unfold endsWord
  rw [startsCased_append, startsCased_append, List.all_reverse]
  by_cases ha : a.all isCaseIgnorable
  -- The text may have something cased before the part, but the part itself has some behind the sigma.
  · have hcased : startsCased b = true := (Bool.not_eq_false _).mp fun hb => hfirst ⟨ha, hb⟩
    have hb : ¬ b.all isCaseIgnorable := fun hb => by
      rw [startsCased_of_all hb] at hcased
      cases hcased
    have ha' : startsCased a.reverse = false := startsCased_of_all (List.all_reverse.trans ha)
    rw [if_pos ha, if_neg hb, hcased, ha', Bool.not_true, Bool.and_false, Bool.false_and]
  · rw [if_neg ha]
    cases hcased : startsCased a.reverse with
    | false => rfl
    | true =>
      -- Something not ignorable stands behind the sigma, and nothing after the part comes before it.
      have hb : ¬ b.all isCaseIgnorable := fun hb => hlast ⟨hb, hcased⟩
      rw [if_neg hb]

/-! ### How often a sigma occurs -/

theorem count_lowerBetween_le {d : Char} (h : ∀ a b, part = a ++ 'Σ' :: b →
      (lowerAt (a.reverse ++ before) 'Σ' (b ++ after)).count d ≤
        (lowerAt (a.reverse ++ before') 'Σ' (b ++ after')).count d) :
    (lowerBetween before part after).count d ≤ (lowerBetween before' part after').count d := by
  induction part generalizing before before' with
  | nil => exact le_rfl
  | cons c part ih =>
    have htail : (lowerBetween (c :: before) part after).count d ≤
        (lowerBetween (c :: before') part after').count d := by
      refine ih fun a b hsplit => ?_
      have hcount := h (c :: a) b (by rw [hsplit]; rfl)
      rwa [List.reverse_cons, List.append_assoc, List.append_assoc] at hcount
    have hhead : (lowerAt before c (part ++ after)).count d ≤
        (lowerAt before' c (part ++ after')).count d := by
      by_cases hc : c = 'Σ'
      · subst hc
        exact h [] part rfl
      · rw [lowerAt_eq_of_endsWord fun h => absurd h hc]
    rw [lowerBetween, lowerBetween, List.count_append, List.count_append]
    exact Nat.add_le_add hhead htail

theorem count_lowerBetween_lt {d : Char} (h : ∀ a b, part = a ++ 'Σ' :: b →
      (lowerAt (a.reverse ++ before) 'Σ' (b ++ after)).count d ≤
        (lowerAt (a.reverse ++ before') 'Σ' (b ++ after')).count d)
    (hsplit : part = a ++ 'Σ' :: b)
    (hlt : (lowerAt (a.reverse ++ before) 'Σ' (b ++ after)).count d <
      (lowerAt (a.reverse ++ before') 'Σ' (b ++ after')).count d) :
    (lowerBetween before part after).count d < (lowerBetween before' part after').count d := by
  subst hsplit
  have hfirst : (lowerBetween before a ('Σ' :: b ++ after)).count d ≤
      (lowerBetween before' a ('Σ' :: b ++ after')).count d := by
    refine count_lowerBetween_le fun x y hxy => ?_
    have hcount := h x (y ++ 'Σ' :: b) (by rw [hxy]; simp)
    rwa [List.append_assoc, List.append_assoc] at hcount
  have hlast : (lowerBetween ('Σ' :: (a.reverse ++ before)) b after).count d ≤
      (lowerBetween ('Σ' :: (a.reverse ++ before')) b after').count d := by
    refine count_lowerBetween_le fun x y hxy => ?_
    have hcount := h (a ++ 'Σ' :: x) y (by rw [hxy]; simp)
    simpa using hcount
  rw [lowerBetween_append, lowerBetween_append, lowerBetween, lowerBetween, List.count_append, List.count_append,
    List.count_append, List.count_append]
  omega

theorem lowerAt_sigma (before after : List Char) :
    lowerAt before 'Σ' after = if endsWord before after then ['ς'] else ['σ'] := by
  rw [lowerAt, if_neg (by decide), if_pos rfl]
  rfl

theorem count_small_lowerAt (before after : List Char) :
    (lowerAt before 'Σ' after).count 'σ' = (!endsWord before after).toNat := by
  rw [lowerAt_sigma]
  cases endsWord before after <;> rfl

theorem count_final_lowerAt (before after : List Char) :
    (lowerAt before 'Σ' after).count 'ς' = (endsWord before after).toNat := by
  rw [lowerAt_sigma]
  cases endsWord before after <;> rfl

/-! ### Next to a letter -/

theorem lowerBetween_letter (before after : List Char) : lowerBetween before ['A'] after = ['a'] := by
  have hlower : lowerChar 'A' = 'a' := by decide +kernel
  rw [lowerBetween_singleton, lowerAt, if_neg (by decide), if_neg (by decide), hlower]

theorem startsCased_append_letter (a : List Char) :
    startsCased (a ++ ['A']) = (a.all isCaseIgnorable || startsCased a) := by
  have hletter : startsCased ['A'] = true := by decide +kernel
  rw [startsCased_append, hletter]
  cases a.all isCaseIgnorable <;> rfl

/-- A part that has lost a character cannot be found, unless the character stands beside it. -/
theorem not_infix_of_count_lt {d : Char} (hbefore : d ∉ lowerBetween [] before (part ++ after))
    (hafter : d ∉ lowerBetween (part.reverse ++ before.reverse) after [])
    (hfewer : (lowerBetween before.reverse part after).count d < (lowerBetween [] part []).count d) :
    ¬ lowerChars part <:+: lowerChars (before ++ part ++ after) := by
  intro hinfix
  have hcount := hinfix.sublist.count_le d
  rw [lowerChars_append_append, List.count_append, List.count_append, List.count_eq_zero.2 hbefore,
    List.count_eq_zero.2 hafter, Nat.zero_add, Nat.add_zero, lowerChars_eq_lowerBetween] at hcount
  exact Nat.not_lt.2 hcount hfewer

/-- Behind a letter a sigma with nothing cased before it begins to end a word. -/
theorem not_infix_behind_letter (hsplit : part = a ++ 'Σ' :: b) (ha : a.all isCaseIgnorable = true)
    (hb : startsCased b = false) : ¬ lowerChars part <:+: lowerChars (['A'] ++ part ++ []) := by
  have hmore : ∀ i c d : Bool, (!((i || c) && !d)).toNat ≤ (!(c && !d)).toNat := by decide
  have hstart : startsCased a.reverse = false := startsCased_of_all (List.all_reverse.trans ha)
  refine @not_infix_of_count_lt part ['A'] [] 'σ' ?_ List.not_mem_nil (count_lowerBetween_lt ?_ hsplit ?_)
  · rw [lowerBetween_letter]
    decide
  · intro x y _
    rw [count_small_lowerAt, count_small_lowerAt, endsWord, endsWord, List.reverse_singleton,
      startsCased_append_letter, List.append_nil, List.append_nil]
    exact hmore _ _ _
  · rw [count_small_lowerAt, count_small_lowerAt, endsWord, endsWord, List.reverse_singleton,
      startsCased_append_letter, List.append_nil, List.append_nil, List.all_reverse, ha, hstart, hb]
    decide

/-- Before a letter a sigma with nothing cased behind it does not end a word any longer. -/
theorem not_infix_before_letter (hsplit : part = a ++ 'Σ' :: b) (hb : b.all isCaseIgnorable = true)
    (ha : startsCased a.reverse = true) : ¬ lowerChars part <:+: lowerChars ([] ++ part ++ ['A']) := by
  have hmore : ∀ i c d : Bool, (c && !(i || d)).toNat ≤ (c && !d).toNat := by decide
  have hend : startsCased b = false := startsCased_of_all hb
  refine @not_infix_of_count_lt part [] ['A'] 'ς' List.not_mem_nil ?_ (count_lowerBetween_lt ?_ hsplit ?_)
  · rw [lowerBetween_letter]
    decide
  · intro x y _
    rw [count_final_lowerAt, count_final_lowerAt, endsWord, endsWord, List.reverse_nil,
      startsCased_append_letter, List.append_nil, List.append_nil]
    exact hmore _ _ _
  · rw [count_final_lowerAt, count_final_lowerAt, endsWord, endsWord, List.reverse_nil,
      startsCased_append_letter, List.append_nil, List.append_nil, hb, ha, hend]
    decide

theorem exists_lowerChars_not_infix (h : Exposed part) :
    ∃ before after, ¬ lowerChars part <:+: lowerChars (before ++ part ++ after) := by
  obtain ⟨a, b, hsplit, ⟨ha, hb⟩ | ⟨hb, ha⟩⟩ := h
  · exact ⟨['A'], [], not_infix_behind_letter hsplit ha hb⟩
  · exact ⟨[], ['A'], not_infix_before_letter hsplit hb ha⟩

end Rollup.Text
