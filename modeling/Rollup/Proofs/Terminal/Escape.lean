import Rollup.Proofs.Text.Split
import Rollup.Terminal.Markup

/-!
# Escaped text

Before every tag of an escaped text stands an odd number of backslashes, so none of them is read as a tag.
Between tags of a style it can therefore always be shown (`exists_ofMarkup_styled_escape`).
-/

namespace Rollup.Terminal

variable {c : Char} {cs more rest tag before : List Char} {slashes : Nat} {styles : List (List Char)}
variable {ps qs : List Piece}

/-! ## Tags -/

/-- Whether a text can stand between brackets as a tag. -/
structure IsTag (tag : List Char) : Prop where
  starts : ∃ c ∈ tag.head?, startsTag c
  brackets : ∀ c ∈ tag, c ≠ '[' ∧ c ≠ ']'

theorem ne_bracket_of_startsTag (h : startsTag c) : c ≠ '[' ∧ c ≠ ']' := by
  constructor <;> (rintro rfl; exact absurd h (by decide))

theorem tagAt?_eq_some_iff : tagAt? cs = some tag ↔ IsTag tag ∧ ∃ rest, cs = tag ++ ']' :: rest := by
  constructor
  · intro h
    cases cs with
    | nil => cases h
    | cons c cs =>
      rw [tagAt?] at h
      split_ifs at h with htag
      obtain rfl := Option.some.inj h
      obtain ⟨hstarts, hends⟩ := Bool.and_eq_true_iff.1 htag
      have hall : ∀ d ∈ cs.takeWhile (fun c => c ≠ '[' && c ≠ ']'), d ≠ '[' ∧ d ≠ ']' := fun d hd => by
        simpa using List.all_eq_true.1 List.all_takeWhile d hd
      rw [decide_eq_true_eq, Text.getElem?_length_takeWhile] at hends
      obtain ⟨rest, hrest⟩ := List.head?_eq_some_iff.1 hends
      refine ⟨⟨⟨c, rfl, hstarts⟩, List.forall_mem_cons.2 ⟨ne_bracket_of_startsTag hstarts, hall⟩⟩, rest, ?_⟩
      rw [List.cons_append, ← hrest, List.takeWhile_append_dropWhile]
  · rintro ⟨⟨⟨c, hc, hstarts⟩, hall⟩, rest, rfl⟩
    obtain ⟨more, rfl⟩ := List.head?_eq_some_iff.1 hc
    have hmore := (List.forall_mem_cons.1 hall).2
    rw [List.cons_append, tagAt?, Text.takeWhile_append_cons (by simpa using hmore) (by decide)]
    simp [hstarts]

/-! ## Escaping -/

theorem escapeFrom_slash (slashes : Nat) (cs : List Char) :
    escapeFrom slashes ('\\' :: cs) = '\\' :: escapeFrom (slashes + 1) cs := rfl

theorem escapeFrom_bracket (h : tagAt? cs = some tag) (slashes : Nat) :
    escapeFrom slashes ('[' :: cs) = List.replicate (slashes + 1) '\\' ++ '[' :: escapeFrom 0 cs := by
  simp [escapeFrom, h]

theorem escapeFrom_cons (hslash : c ≠ '\\') (h : c = '[' → tagAt? cs = none) (slashes : Nat) :
    escapeFrom slashes (c :: cs) = c :: escapeFrom 0 cs := by
  by_cases hc : c = '['
  · simp [escapeFrom, hc, h hc]
  · simp [escapeFrom, hc, hslash]

/-- A character of a text is a backslash, or begins a tag, or is taken as it is. -/
theorem char_cases (c : Char) (cs : List Char) :
    c = '\\' ∨ (c = '[' ∧ ∃ tag, tagAt? cs = some tag) ∨ c ≠ '\\' ∧ (c = '[' → tagAt? cs = none) := by
  by_cases hslash : c = '\\'
  · exact .inl hslash
  cases htag : tagAt? cs with
  | none => exact .inr (.inr ⟨hslash, fun _ => rfl⟩)
  | some tag =>
    by_cases hc : c = '['
    · exact .inr (.inl ⟨hc, tag, rfl⟩)
    · exact .inr (.inr ⟨hslash, fun h => absurd h hc⟩)

/-- Nothing is escaped before the first opening bracket. -/
theorem escapeFrom_append (h : '[' ∉ tag) (slashes : Nat) (rest : List Char) :
    escapeFrom slashes (tag ++ ']' :: rest) = tag ++ ']' :: escapeFrom 0 rest := by
  induction tag generalizing slashes with
  | nil => exact escapeFrom_cons (by decide) (fun h => absurd h (by decide)) slashes
  | cons c tag ih =>
    obtain ⟨hc, htag⟩ := not_or.1 (mt List.mem_cons.2 h)
    rw [List.cons_append]
    by_cases hslash : c = '\\'
    · subst hslash
      rw [escapeFrom_slash, ih htag]
      rfl
    · rw [escapeFrom_cons hslash (fun h => absurd h.symm hc), ih htag]
      rfl

theorem not_append_bracket (h : ']' ∉ cs) (htag : '[' ∉ tag) : cs ++ '[' :: more ≠ tag ++ ']' :: rest := by
  intro heq
  induction cs generalizing tag with
  | nil =>
    cases tag with
    | nil => cases heq
    | cons d tag => exact htag ((List.cons.inj heq).1 ▸ List.mem_cons_self)
  | cons c cs ih =>
    obtain ⟨hc, hcs⟩ := not_or.1 (mt List.mem_cons.2 h)
    cases tag with
    | nil => exact hc (List.cons.inj heq).1.symm
    | cons d tag => exact ih hcs (fun h => htag (List.mem_cons_of_mem _ h)) (List.cons.inj heq).2

theorem exists_of_escapeFrom_append (htag : '[' ∉ tag)
    (h : escapeFrom slashes cs ++ '[' :: more = tag ++ ']' :: rest) : ∃ rest', cs = tag ++ ']' :: rest' := by
  induction cs generalizing tag slashes with
  | nil =>
    refine absurd h (not_append_bracket ?_ htag)
    rw [escapeFrom]
    split_ifs <;> decide
  | cons c cs ih =>
    have hcons {d : Char} {slashes : Nat} {tag : List Char} (htag : '[' ∉ d :: tag)
        (hmore : c = d ∧ escapeFrom slashes cs ++ '[' :: more = tag ++ ']' :: rest) :
        ∃ rest', c :: cs = d :: tag ++ ']' :: rest' := by
      obtain ⟨rest', hrest⟩ := ih (fun h => htag (List.mem_cons_of_mem _ h)) hmore.2
      exact ⟨rest', by rw [hmore.1, hrest]; rfl⟩
    rcases char_cases c cs with rfl | ⟨rfl, other, hother⟩ | ⟨hslash, hbracket⟩
    · rw [escapeFrom_slash] at h
      cases tag with
      | nil => cases h
      | cons d tag => exact hcons htag (List.cons.inj h)
    · rw [escapeFrom_bracket hother, List.append_assoc] at h
      refine absurd h (not_append_bracket ?_ htag)
      exact fun hmem => absurd (List.eq_of_mem_replicate hmem) (by decide)
    · rw [escapeFrom_cons hslash hbracket] at h
      cases tag with
      | nil => exact ⟨cs, by rw [(List.cons.inj h).1]; rfl⟩
      | cons d tag => exact hcons htag (List.cons.inj h)

/-- Escaping neither makes a tag nor breaks one. -/
theorem tagAt?_escapeFrom (cs more : List Char) : tagAt? (escapeFrom 0 cs ++ '[' :: more) = tagAt? cs := by
  refine Option.ext fun tag => ?_
  rw [tagAt?_eq_some_iff, tagAt?_eq_some_iff]
  refine and_congr_right fun htag => ?_
  have hbracket : '[' ∉ tag := fun hmem => (htag.brackets _ hmem).1 rfl
  constructor
  · rintro ⟨rest, h⟩
    exact exists_of_escapeFrom_append hbracket h
  · rintro ⟨rest, rfl⟩
    exact ⟨escapeFrom 0 rest ++ '[' :: more, by rw [escapeFrom_append hbracket, List.append_assoc]; rfl⟩

/-! ## Pieces -/

theorem piecesFrom_skip (before cs rest : List Char) : piecesFrom before cs.length (cs ++ rest) =
    piecesFrom before 0 rest := by
  induction cs with
  | nil => rfl
  | cons c cs ih => exact ih

theorem piecesFrom_cons (h : c = '[' → tagAt? cs = none) (before : List Char) :
    piecesFrom before 0 (c :: cs) = piecesFrom (c :: before) 0 cs := by
  by_cases hc : c = '['
  · simp [piecesFrom, hc, h hc]
  · simp [piecesFrom, hc]

theorem piecesFrom_append (h : '[' ∉ cs) (before rest : List Char) :
    piecesFrom before 0 (cs ++ rest) = piecesFrom (cs.reverse ++ before) 0 rest := by
  induction cs generalizing before with
  | nil => rfl
  | cons c cs ih =>
    obtain ⟨hc, hcs⟩ := not_or.1 (mt List.mem_cons.2 h)
    rw [List.cons_append, piecesFrom_cons (fun h => absurd h.symm hc), ih hcs]
    simp

theorem piecesFrom_tag (h : IsTag tag) (before rest : List Char) :
    piecesFrom before 0 ('[' :: (tag ++ ']' :: rest)) = piecesAt before tag ++ piecesFrom [] 0 rest := by
  have hskip := piecesFrom_skip [] (tag ++ [']']) rest
  rw [List.length_append, List.append_assoc] at hskip
  rw [piecesFrom, if_pos rfl, tagAt?_eq_some_iff.2 ⟨h, rest, rfl⟩, ← hskip]
  rfl

def Piece.IsPlain (p : Piece) : Prop := ∃ cs, p = .plain cs

/-- How many backslashes stand before a place, given what stands there, nearest first. -/
def slashesAt (before : List Char) : Nat := (before.takeWhile (· = '\\')).length

theorem slashesAt_replicate (n : Nat) (before : List Char) :
    slashesAt (List.replicate n '\\' ++ before) = n + slashesAt before := by
  rw [slashesAt, List.takeWhile_append_of_pos fun c hc => by simp [List.eq_of_mem_replicate hc],
    List.length_append, List.length_replicate, slashesAt]

/-- A tag behind an odd number of backslashes stands for itself. -/
theorem isPlain_of_mem_piecesAt (h : slashesAt before % 2 = 1) {p : Piece} (hp : p ∈ piecesAt before tag) :
    p.IsPlain := by
  rw [piecesAt, show (before.takeWhile (· = '\\')).length = slashesAt before from rfl, h] at hp
  simp only [List.mem_cons, List.not_mem_nil, or_false] at hp
  rcases hp with rfl | rfl | rfl <;> exact ⟨_, rfl⟩

/-- No tag is read in an escaped text. -/
theorem piecesFrom_escapeFrom (before cs more : List Char) : ∃ ps before', (∀ p ∈ ps, p.IsPlain) ∧
    piecesFrom before 0 (escapeFrom (slashesAt before) cs ++ '[' :: more) =
      ps ++ piecesFrom before' 0 ('[' :: more) := by
  induction hlength : cs.length using Nat.strongRecOn generalizing cs before with
  | _ n ih =>
    subst hlength
    cases cs with
    | nil =>
      have hbracket : '[' ∉ escapeFrom (slashesAt before) [] := by
        rw [escapeFrom]
        split_ifs <;> decide
      exact ⟨[], _, List.forall_mem_nil _, piecesFrom_append hbracket before ('[' :: more)⟩
    | cons c cs =>
      have hcs := ih cs.length (Nat.lt_succ_self _)
      rcases char_cases c cs with rfl | ⟨rfl, tag, htag⟩ | ⟨hslash, hbracket⟩
      · have hcount : slashesAt ('\\' :: before) = slashesAt before + 1 := by simp [slashesAt]
        rw [escapeFrom_slash, List.cons_append, piecesFrom_cons fun h => absurd h (by decide), ← hcount]
        exact hcs _ cs rfl
      · obtain ⟨hisTag, rest, rfl⟩ := tagAt?_eq_some_iff.1 htag
        have hopen : '[' ∉ tag := fun hmem => (hisTag.brackets _ hmem).1 rfl
        have hreplicate : '[' ∉ List.replicate (slashesAt before + 1) '\\' := fun hmem =>
          absurd (List.eq_of_mem_replicate hmem) (by decide)
        obtain ⟨ps, before', hps, hrest⟩ := ih rest.length (by simp; omega) [] rest rfl
        have hodd : slashesAt (List.replicate (slashesAt before + 1) '\\' ++ before) % 2 = 1 := by
          rw [slashesAt_replicate]
          omega
        refine ⟨piecesAt (List.replicate (slashesAt before + 1) '\\' ++ before) tag ++ ps, before', ?_, ?_⟩
        · exact List.forall_mem_append.2 ⟨fun p => isPlain_of_mem_piecesAt hodd, hps⟩
        · rw [escapeFrom_bracket htag, List.append_assoc, piecesFrom_append hreplicate, List.reverse_replicate,
            escapeFrom_append hopen]
          simp only [List.cons_append, List.append_assoc]
          rw [piecesFrom_tag hisTag]
          exact congrArg _ hrest
      · have hcount : slashesAt (c :: before) = 0 := by simp [slashesAt, hslash]
        have hmore := hcs (c :: before) cs rfl
        rw [hcount] at hmore
        rwa [escapeFrom_cons hslash hbracket, List.cons_append,
          piecesFrom_cons fun hc => (tagAt?_escapeFrom cs more).trans (hbracket hc)]

/-! ## Showing -/

/-- Whether pieces can be shown under open styles. -/
def Shows (styles : List (List Char)) (ps : List Piece) : Prop := ∃ cs, shown styles ps = .ok cs

theorem shows_plain_iff (cs : List Char) : Shows styles (.plain cs :: qs) ↔ Shows styles qs := by
  unfold Shows
  rw [shown]
  cases shown styles qs <;> simp [bind, Except.bind, pure, Except.pure]

theorem shows_append_iff (h : ∀ p ∈ ps, p.IsPlain) : Shows styles (ps ++ qs) ↔ Shows styles qs := by
  induction ps with
  | nil => rfl
  | cons p ps ih =>
    obtain ⟨⟨cs, rfl⟩, hps⟩ := List.forall_mem_cons.1 h
    rw [List.cons_append, shows_plain_iff, ih hps]

theorem shows_tag_iff {next : List (List Char)} (h : stylesAfter tag styles = .ok next) :
    Shows styles (.tag tag :: qs) ↔ Shows next qs := by
  unfold Shows
  rw [shown, h]
  rfl

/-- Escaped text in a style can be shown, also behind other text without brackets. -/
theorem exists_ofMarkup_styled_escape {style front : String} {next last : List (List Char)} (s : String)
    (hstyle : IsTag style.toList) (hopen : stylesAfter style.toList [] = .ok next)
    (hclose : stylesAfter ('/' :: style.toList) next = .ok last)
    (hfront : '[' ∉ front.toList) (hslash : slashesAt front.toList.reverse = 0) :
    ∃ cs, ofMarkup (styled style (front ++ escape s)) = .ok cs := by
  have htext : (styled style (front ++ escape s)).toList = '[' :: (style.toList ++ ']' ::
      (front.toList ++ (escapeFrom 0 s.toList ++ '[' :: ('/' :: style.toList ++ ']' :: [])))) := by
    simp [styled, escape]
  have hclosing : IsTag ('/' :: style.toList) :=
    ⟨⟨'/', rfl, by decide⟩, List.forall_mem_cons.2 ⟨by decide, hstyle.brackets⟩⟩
  have hescaped := piecesFrom_escapeFrom front.toList.reverse s.toList ('/' :: style.toList ++ ']' :: [])
  rw [hslash] at hescaped
  obtain ⟨ps, before, hps, hpieces⟩ := hescaped
  change Shows [] _
  rw [htext, piecesFrom_tag hstyle, piecesFrom_append hfront, List.append_nil, hpieces, piecesFrom_tag hclosing]
  have hlast (styles : List (List Char)) : Shows styles (piecesFrom [] 0 []) := ⟨[], rfl⟩
  simp only [piecesAt, List.takeWhile_nil, List.length_nil, Nat.zero_mod, if_true, List.cons_append,
    List.nil_append, shows_plain_iff, shows_tag_iff hopen, shows_append_iff hps]
  split_ifs
  · exact (shows_tag_iff hclose).2 (hlast _)
  · exact (shows_plain_iff _).2 (hlast _)

end Rollup.Terminal
