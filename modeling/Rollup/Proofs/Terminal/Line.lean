import Rollup.Proofs.Text.Split
import Rollup.Terminal.Line
import Mathlib.Data.List.TakeWhile

/-!
# Folded text

A terminal breaks lines that are too wide, between words where it can and in them where it must. All that
happens to a text by this is that newlines come in, and that blanks at the ends of lines are cut
(`folded_layOut`).
-/

namespace Rollup.Terminal

/-- Blanks, and what may be left of them at the end of a line: no more of them, and plain ones besides. -/
structure Trims (blanks left : List Char) : Prop where
  blank : ∀ b ∈ blanks, Text.isBlankChar b
  length_le : left.length ≤ blanks.length
  mem : ∀ b ∈ left, b = ' ' ∨ b ∈ blanks

/-- A text, and what may be shown of it on lines that end in newlines. -/
inductive Folded : List Char → List Char → Prop
  /-- The end of the text. -/
  | stop {blanks left : List Char} (h : Trims blanks left) : Folded blanks (left ++ ['\n'])
  | keep {cs ds : List Char} (c : Char) (h : Folded cs ds) : Folded (c :: cs) (c :: ds)
  /-- A line is broken. -/
  | fold {blanks left cs ds : List Char} (hblanks : Trims blanks left) (h : Folded cs ds) :
    Folded (blanks ++ cs) (left ++ '\n' :: ds)
  /-- A line ends. -/
  | line {blanks left cs ds : List Char} (hblanks : Trims blanks left) (h : Folded cs ds) :
    Folded (blanks ++ '\n' :: cs) (left ++ '\n' :: ds)

abbrev core (line : List Char) : List Char := Text.dropLastWhile Text.isBlankChar line

/-- The blanks at the end of a line. -/
def endBlanks (line : List Char) : List Char := (line.reverse.takeWhile Text.isBlankChar).reverse

/-- Whether a line fits a width but for blanks at its end. -/
def Fits (limit : Nat) (line : List Char) : Prop := Text.width (core line) ≤ limit

variable {limit : Nat} {line word part cs ds a b : List Char} {words pieces : List (List Char)}

theorem Folded.append (front : List Char) (h : Folded cs ds) : Folded (front ++ cs) (front ++ ds) := by
  induction front with
  | nil => exact h
  | cons c front ih => exact ih.keep c

theorem Folded.mem {c : Char} (h : Folded cs ds) (hc : c ∈ ds) : c ∈ cs ∨ c = ' ' ∨ c = '\n' := by
  have hleft {blanks left : List Char} (hblanks : Trims blanks left) (hc : c ∈ left) :
      c ∈ blanks ∨ c = ' ' ∨ c = '\n' := (hblanks.mem c hc).symm.imp_right .inl
  induction h with
  | stop hblanks =>
    rcases List.mem_append.1 hc with hc | hc
    · exact hleft hblanks hc
    · exact .inr (.inr (List.mem_singleton.1 hc))
  | keep d _ ih =>
    rcases List.mem_cons.1 hc with rfl | hc
    · exact .inl List.mem_cons_self
    · exact (ih hc).imp_left (List.mem_cons_of_mem d)
  | fold hblanks _ ih =>
    simp only [List.mem_append, List.mem_cons] at hc ⊢
    rcases hc with hc | rfl | hc
    · exact (hleft hblanks hc).imp_left .inl
    · exact .inr (.inr rfl)
    · exact (ih hc).imp_left .inr
  | line hblanks _ ih =>
    simp only [List.mem_append, List.mem_cons] at hc ⊢
    rcases hc with hc | rfl | hc
    · exact (hleft hblanks hc).imp_left .inl
    · exact .inr (.inr rfl)
    · exact (ih hc).imp_left fun h => .inr (.inr h)

/-! ## Widths -/

theorem width_cons (c : Char) (cs : List Char) : Text.width (c :: cs) = Text.charWidth c + Text.width cs := rfl

theorem width_append (a b : List Char) : Text.width (a ++ b) = Text.width a + Text.width b := by
  show ((a ++ b).map Text.charWidth).sum = (a.map Text.charWidth).sum + (b.map Text.charWidth).sum
  rw [List.map_append, List.sum_append]

theorem width_reverse (cs : List Char) : Text.width cs.reverse = Text.width cs := by
  show (cs.reverse.map Text.charWidth).sum = (cs.map Text.charWidth).sum
  rw [List.map_reverse, List.sum_reverse]

theorem charWidth_le (c : Char) : Text.charWidth c ≤ 2 := by
  unfold Text.charWidth
  split_ifs <;> decide

theorem core_append_endBlanks (line : List Char) : core line ++ endBlanks line = line := by
  rw [core, Text.dropLastWhile, endBlanks, ← List.reverse_append, List.takeWhile_append_dropWhile,
    List.reverse_reverse]

theorem endBlanks_blank (line : List Char) : ∀ b ∈ endBlanks line, Text.isBlankChar b := fun _ hb =>
  List.all_eq_true.1 List.all_takeWhile _ (List.mem_reverse.1 hb)

theorem width_core_le (line : List Char) : Text.width (core line) ≤ Text.width line := by
  conv_rhs => rw [← core_append_endBlanks line, width_append]
  exact Nat.le_add_right _ _

theorem core_append (a b : List Char) : core (a ++ b) = core a ∨ core (a ++ b) = a ++ core b := by
  simp only [core, Text.dropLastWhile, List.reverse_append, List.dropWhile_append]
  split_ifs
  · exact .inl rfl
  · refine .inr ?_
    rw [List.reverse_append, List.reverse_reverse]

theorem fits_append (h : Text.width a + Text.width (core b) ≤ limit) : Fits limit (a ++ b) := by
  unfold Fits
  rcases core_append a b with heq | heq
  · rw [heq]
    exact Nat.le_trans (width_core_le a) (Nat.le_of_add_right_le h)
  · rwa [heq, width_append]

/-! ## Cutting blanks -/

theorem takeCells_append (h : Text.width a ≤ limit) (tail : List Char) :
    takeCells limit (a ++ tail) = a ++ takeCells (limit - Text.width a) tail := by
  induction a generalizing limit with
  | nil => rfl
  | cons c a ih =>
    rw [width_cons] at h ⊢
    rw [List.cons_append, takeCells, if_pos (Nat.le_of_add_right_le h), ih (Nat.le_sub_of_add_le' h),
      Nat.sub_add_eq]
    rfl

theorem trims_takeCells (h : ∀ b ∈ cs, Text.isBlankChar b) (limit : Nat) :
    Trims cs (takeCells limit cs) := by
  refine ⟨h, ?_, ?_⟩
  · induction cs generalizing limit with
    | nil => exact Nat.le_refl _
    | cons c cs ih =>
      rw [takeCells]
      split_ifs with hc
      · exact Nat.succ_le_succ (ih (List.forall_mem_cons.1 h).2 _)
      · have hwide := charWidth_le c
        simp only [List.length_replicate, List.length_cons]
        omega
  · induction cs generalizing limit with
    | nil => nofun
    | cons c cs ih =>
      intro b hb
      rw [takeCells] at hb
      split_ifs at hb with hc
      · rcases List.mem_cons.1 hb with rfl | hb
        · exact .inr List.mem_cons_self
        · exact (ih (List.forall_mem_cons.1 h).2 _ b hb).imp_right (List.mem_cons_of_mem c)
      · exact .inl (List.eq_of_mem_replicate hb)

theorem Trims.trans {blanks left less : List Char} (h : Trims blanks left) (h' : Trims left less) :
    Trims blanks less := by
  refine ⟨h.blank, Nat.le_trans h'.length_le h.length_le, fun b hb => ?_⟩
  rcases h'.mem b hb with rfl | hb
  · exact .inl rfl
  · exact h.mem b hb

theorem trims_take (h : ∀ b ∈ cs, Text.isBlankChar b) (n : Nat) : Trims cs (cs.take n) :=
  ⟨h, List.length_take_le' n cs, fun _ hb => .inr (List.mem_of_mem_take hb)⟩

/-- A line that fits loses nothing but blanks at its end. -/
theorem crop_cropBlanks (h : Fits limit line) :
    ∃ left, crop limit .fold (cropBlanks limit line) = core line ++ left ∧ Trims (endBlanks line) left := by
  obtain ⟨n, hn⟩ : ∃ n, cropBlanks limit line = core line ++ (endBlanks line).take n := by
    have hcount : (line.reverse.takeWhile Text.isBlankChar).length = (endBlanks line).length :=
      List.length_reverse.symm
    have hlength : line.length = (core line).length + (endBlanks line).length := by
      rw [← List.length_append, core_append_endBlanks]
    have hle := Nat.min_le_left (endBlanks line).length (line.length - limit)
    refine ⟨(endBlanks line).length - min (endBlanks line).length (line.length - limit), ?_⟩
    rw [cropBlanks, hcount]
    generalize min (endBlanks line).length (line.length - limit) = k at hle
    have htake : (core line ++ endBlanks line).take ((core line).length + ((endBlanks line).length - k)) =
        core line ++ (endBlanks line).take ((endBlanks line).length - k) := List.take_length_add_append _
    rwa [core_append_endBlanks, ← Nat.add_sub_assoc hle, ← hlength] at htake
  have htake := trims_take (endBlanks_blank line) n
  rw [hn, crop]
  split_ifs with hwidth
  · exact ⟨_, rfl, htake⟩
  · refine ⟨_, takeCells_append h _, htake.trans (trims_takeCells (fun b hb => ?_) _)⟩
    exact endBlanks_blank line b (List.mem_of_mem_take hb)

/-! ## Breaking lines -/

theorem chopFrom_ne_nil (limit : Nat) (part : List Char) (cells : Nat) (cs : List Char) :
    chopFrom limit part cells cs ≠ [] := by
  induction cs generalizing part cells with
  | nil => simp [chopFrom]
  | cons c cs ih =>
    rw [chopFrom]
    split_ifs
    · simp
    · exact ih _ _

theorem chopFrom_spec (hlimit : 2 ≤ limit) (hpart : Text.width part ≤ limit) (cs : List Char) :
    (chopFrom limit part (Text.width part) cs).flatten = part.reverse ++ cs ∧
      ∀ l ∈ chopFrom limit part (Text.width part) cs, Text.width l ≤ limit := by
  induction cs generalizing part with
  | nil => simpa [chopFrom, width_reverse] using hpart
  | cons c cs ih =>
    have hone : Text.width [c] = Text.charWidth c := by rw [width_cons]; rfl
    have hmore : Text.width (c :: part) = Text.width part + Text.charWidth c := by
      rw [width_cons, Nat.add_comm]
    rw [chopFrom]
    split_ifs with hwide
    · -- A part that begins with one character is narrow, however wide that is.
      have hc := charWidth_le c
      obtain ⟨hflatten, hfit⟩ := ih (show Text.width [c] ≤ limit by omega)
      rw [hone] at hflatten hfit
      refine ⟨by rw [List.flatten_cons, hflatten]; rfl, List.forall_mem_cons.2 ⟨?_, hfit⟩⟩
      rwa [width_reverse]
    · obtain ⟨hflatten, hfit⟩ := ih (show Text.width (c :: part) ≤ limit by omega)
      rw [hmore] at hflatten hfit
      exact ⟨by rw [hflatten, List.reverse_cons, List.append_assoc]; rfl, hfit⟩

theorem fits_of_width_le (h : Text.width line ≤ limit) : Fits limit line :=
  Nat.le_trans (width_core_le line) h

theorem fillLines_spec (hlimit : 2 ≤ limit) (hline : Fits limit line) (words : List (List Char)) :
    fillLines limit true line words ≠ [] ∧
      (fillLines limit true line words).flatten = line ++ words.flatten ∧
      ∀ l ∈ fillLines limit true line words, Fits limit l := by
  induction words generalizing line with
  | nil => simpa [fillLines] using hline
  | cons word words ih =>
    rw [fillLines]
    dsimp only
    by_cases hroom : Text.width line + Text.width (core word) ≤ limit
    · rw [if_pos hroom]
      obtain ⟨hne, hflatten, hfit⟩ := ih (fits_append hroom)
      exact ⟨hne, by rw [hflatten, List.flatten_cons, List.append_assoc], hfit⟩
    by_cases hsize : Text.width (core word) ≤ limit
    · rw [if_neg hroom, if_pos hsize]
      obtain ⟨-, hflatten, hfit⟩ := ih (show Fits limit word from hsize)
      refine ⟨List.cons_ne_nil _ _, ?_, List.forall_mem_cons.2 ⟨hline, hfit⟩⟩
      rw [List.flatten_cons, hflatten, List.flatten_cons]
    -- The word is chopped, and the next words stand behind its last part.
    rw [if_neg hroom, if_neg hsize, if_pos rfl]
    have hparts := chopFrom_ne_nil limit [] 0 word
    obtain ⟨hword, hnarrow⟩ := chopFrom_spec hlimit (show Text.width [] ≤ limit from Nat.zero_le _) word
    change (chopFrom limit [] 0 word).flatten = word at hword
    change ∀ l ∈ chopFrom limit [] 0 word, Text.width l ≤ limit at hnarrow
    generalize chopFrom limit [] 0 word = parts at hparts hword hnarrow
    have hlast : parts.getLastD [] = parts.getLast hparts := by
      rw [List.getLastD_eq_getLast?, List.getLast?_eq_getLast_of_ne_nil hparts]
      rfl
    have hsplit : parts.dropLast.flatten ++ parts.getLast hparts = word := by
      rw [← hword, ← List.flatten_concat, List.dropLast_append_getLast]
    rw [hlast]
    obtain ⟨hne, hflatten, hfit⟩ := ih (fits_of_width_le (hnarrow _ (List.getLast_mem hparts)))
    refine ⟨List.append_ne_nil_of_right_ne_nil _ hne, ?_, fun l hl => ?_⟩
    · have hfirst : (if line.isEmpty then [] else [line]).flatten = line := by
        cases line <;> simp
      rw [List.flatten_append, List.flatten_append, hfirst, hflatten, List.flatten_cons, ← hsplit]
      simp only [List.append_assoc]
    · rcases List.mem_append.1 hl with hl | hl
      · rcases List.mem_append.1 hl with hl | hl
        · split_ifs at hl
          · cases hl
          · exact List.mem_singleton.1 hl ▸ hline
        · exact fits_of_width_le (hnarrow l (List.dropLast_subset parts hl))
      · exact hfit l hl

/-- The words of a line are all of it, unless it is blank. -/
theorem flatten_wordsFrom (word : List Char) (ended : Bool) (cs : List Char) :
    wordsFrom word ended cs = [] ∧ (∀ c ∈ word.reverse ++ cs, Text.isBlankChar c) ∨
      (wordsFrom word ended cs).flatten = word.reverse ++ cs := by
  induction cs generalizing word ended with
  | nil =>
    rw [wordsFrom]
    split_ifs with hblank
    · exact .inl ⟨rfl, by simpa using hblank⟩
    · exact .inr (by simp)
  | cons c cs ih =>
    have hmore : (c :: word).reverse ++ cs = word.reverse ++ c :: cs := by simp
    rw [wordsFrom]
    split_ifs with hc hended
    · exact hmore ▸ ih _ _
    · refine .inr ?_
      rcases ih [c] false with ⟨-, hblank⟩ | hflatten
      · exact absurd (hblank c (by simp)) hc
      · rw [List.flatten_cons, hflatten]
        rfl
    · exact hmore ▸ ih _ _

theorem breakLine_spec (hlimit : 2 ≤ limit) (line : List Char) :
    breakLine limit true line ≠ [] ∧ (breakLine limit true line).flatten = line ∧
      ∀ l ∈ breakLine limit true line, Fits limit l := by
  rw [breakLine]
  rcases flatten_wordsFrom [] false line with ⟨hnil, hblank⟩ | hflatten
  · have hcore : core line = [] := by
      rw [core, Text.dropLastWhile, List.reverse_eq_nil_iff]
      exact List.dropWhile_eq_nil_iff.2 (by simpa using hblank)
    rw [hnil]
    refine ⟨List.cons_ne_nil _ _, List.append_nil line, List.forall_mem_singleton.2 ?_⟩
    rw [Fits, hcore]
    exact Nat.zero_le _
  · split
    · rename_i hnil
      rw [hnil] at hflatten
      obtain rfl : line = [] := hflatten.symm
      exact ⟨List.cons_ne_nil _ _, rfl, List.forall_mem_singleton.2 (Nat.zero_le _)⟩
    · obtain ⟨hne, hall, hfit⟩ := fillLines_spec hlimit
        (show Fits limit [] from Nat.zero_le _) (wordsFrom [] false line)
      exact ⟨hne, hall.trans hflatten, hfit⟩

/-! ## Laying out -/

/-- Lines with the newlines at their ends. -/
def endedLines (lines : List (List Char)) : List Char := lines.flatMap (· ++ ['\n'])

/-- A line without what stands beyond a width. -/
abbrev cut (limit : Nat) (line : List Char) : List Char := crop limit .fold (cropBlanks limit line)

theorem endedLines_append (lines more : List (List Char)) :
    endedLines (lines ++ more) = endedLines lines ++ endedLines more := List.flatMap_append

theorem intercalate_eq_endedLines {lines : List (List Char)} (h : lines ≠ []) :
    ['\n'].intercalate lines ++ ['\n'] = endedLines lines := by
  induction lines with
  | nil => exact absurd rfl h
  | cons line lines ih =>
    by_cases hne : lines = []
    · subst hne
      simp [endedLines]
    · rw [List.intercalate_cons_of_ne_nil hne, List.append_assoc, ih hne]
      rfl

theorem splitLines_eq_splitOnP (p : Char → Bool) (cs : List Char) : splitLines p cs = cs.splitOnP p := by
  induction cs with
  | nil => rfl
  | cons c cs ih =>
    rw [splitLines, List.splitOnP_cons_eq_if_modifyHead, ih]
    obtain ⟨line, more, hsplit⟩ := List.exists_cons_of_ne_nil (List.splitOnP_ne_nil p cs)
    simp [hsplit]

theorem splitLines_newline (cs : List Char) : splitLines (· = '\n') cs = cs.splitOn '\n' := by
  rw [splitLines_eq_splitOnP, List.splitOn_eq_splitOnP]
  rfl

theorem splitLines_ne_nil (p : Char → Bool) (cs : List Char) : splitLines p cs ≠ [] := by
  rw [splitLines_eq_splitOnP]
  exact List.splitOnP_ne_nil p cs

theorem intercalate_splitLines (cs : List Char) :
    ['\n'].intercalate (splitLines (· = '\n') cs) = cs := by
  rw [splitLines_newline, List.intercalate_splitOn]

theorem splitLines_intercalate {lines : List (List Char)} (hne : lines ≠ []) (h : ∀ l ∈ lines, '\n' ∉ l) :
    splitLines (· = '\n') (['\n'].intercalate lines) = lines := by
  rw [splitLines_newline, List.splitOn_intercalate '\n' h hne]

theorem expandTabs_eq_self (h : '\t' ∉ cs) (cell : Nat) : expandTabs cell cs = cs := by
  induction cs generalizing cell with
  | nil => rfl
  | cons c cs ih =>
    obtain ⟨hc, hcs⟩ := not_or.1 (mt List.mem_cons.2 h)
    rw [expandTabs, if_neg (Ne.symm hc), ih hcs]

/-- Nothing is shown of a line but its characters, up to blanks at its end. -/
theorem Folded.cut {tail : List Char} (h : Fits limit line)
    (hend : ∀ left, Trims (endBlanks line) left → Folded (endBlanks line ++ tail) (left ++ '\n' :: ds)) :
    Folded (line ++ tail) (cut limit line ++ '\n' :: ds) := by
  obtain ⟨left, hcrop, hleft⟩ := crop_cropBlanks h
  have hall := (hend left hleft).append (core line)
  rwa [← List.append_assoc, core_append_endBlanks, ← List.append_assoc, ← hcrop] at hall

/-- The parts of a line, shown one below the other before what is shown of the text behind it. -/
theorem folded_pieces (hne : pieces ≠ []) (hfit : ∀ l ∈ pieces, Fits limit l) (tail ds : List Char)
    (hend : ∀ blanks left, Trims blanks left → Folded (blanks ++ tail) (left ++ '\n' :: ds)) :
    Folded (pieces.flatten ++ tail) (endedLines (pieces.map (cut limit)) ++ ds) := by
  induction pieces with
  | nil => exact absurd rfl hne
  | cons l pieces ih =>
    obtain ⟨hl, hpieces⟩ := List.forall_mem_cons.1 hfit
    have hlines : endedLines ((l :: pieces).map (cut limit)) ++ ds =
        cut limit l ++ '\n' :: (endedLines (pieces.map (cut limit)) ++ ds) := by
      simp [endedLines]
    rw [hlines, List.flatten_cons, List.append_assoc]
    cases pieces with
    | nil => exact Folded.cut hl fun left => hend _ left
    | cons next pieces =>
      have hmore := ih (List.cons_ne_nil _ _) hpieces
      exact Folded.cut hl fun left hleft => .fold hleft hmore

theorem folded_lines (hlimit : 2 ≤ limit) {lines : List (List Char)} (hne : lines ≠ [])
    (htab : ∀ l ∈ lines, '\t' ∉ l) :
    Folded (['\n'].intercalate lines)
      (endedLines (lines.flatMap fun l => (breakLine limit true (expandTabs 0 l)).map (cut limit))) := by
  induction lines with
  | nil => exact absurd rfl hne
  | cons l lines ih =>
    obtain ⟨hl, hlines⟩ := List.forall_mem_cons.1 htab
    obtain ⟨hpieces, hflatten, hfit⟩ := breakLine_spec hlimit l
    rw [List.flatMap_cons, endedLines_append, expandTabs_eq_self hl]
    have hend (tail ds : List Char) := folded_pieces hpieces hfit tail ds
    rw [hflatten] at hend
    by_cases hmore : lines = []
    · subst hmore
      have hstop := hend [] [] fun blanks left hleft => by simpa using Folded.stop hleft
      simpa [endedLines] using hstop
    · rw [List.intercalate_cons_of_ne_nil hmore, List.append_assoc]
      exact hend _ _ fun blanks left hleft => .line hleft (ih hmore hlines)

theorem filter_calm (h : ∀ c ∈ cs, c = '\n' ∨ 0x20 ≤ c.toNat) :
    cs.filter (fun c => !movesCursor c) = cs := by
  refine List.filter_eq_self.2 fun c hc => ?_
  rcases h c hc with rfl | hc
  · rfl
  · simp [movesCursor]
    omega

theorem tab_not_mem_line (h : ∀ c ∈ cs, c = '\n' ∨ 0x20 ≤ c.toNat) (hline : line ∈ splitLines (· = '\n') cs) :
    '\t' ∉ line := by
  intro hmem
  have hcs := intercalate_splitLines cs ▸ Text.mem_intercalate hline hmem
  exact absurd (h _ hcs) (by decide)

/-- What a terminal shows of a text without tabs and other control characters. -/
theorem folded_layOut (hlimit : 2 ≤ limit) (h : ∀ c ∈ cs, c = '\n' ∨ 0x20 ≤ c.toNat) :
    Folded cs (layOut limit .fold cs ++ ['\n']) := by
  have hlines := folded_lines hlimit (splitLines_ne_nil _ cs) fun l hl => tab_not_mem_line h hl
  rw [intercalate_splitLines] at hlines
  have hne : wrap limit .fold cs ≠ [] := by
    obtain ⟨line, more, hsplit⟩ := List.exists_cons_of_ne_nil (splitLines_ne_nil (· = '\n') cs)
    rw [wrap, filter_calm h, hsplit, List.flatMap_cons]
    refine List.append_ne_nil_of_left_ne_nil ?_ _
    simpa using (breakLine_spec hlimit (expandTabs 0 line)).1
  rw [layOut, intercalate_eq_endedLines hne, wrap, filter_calm h]
  exact hlines

/-! ## Narrow lines -/

/-- Whether a line is at most so wide, and has at most so many characters. -/
def IsNarrow (limit : Nat) (line : List Char) : Prop := line.length ≤ limit ∧ Text.width line ≤ limit

instance : Decidable (IsNarrow limit line) := inferInstanceAs (Decidable (_ ∧ _))

theorem fillLines_narrow (h : Text.width line + Text.width words.flatten ≤ limit) :
    fillLines limit true line words = [line ++ words.flatten] := by
  induction words generalizing line with
  | nil => simp [fillLines]
  | cons word words ih =>
    rw [List.flatten_cons, width_append] at h
    have hcore := width_core_le word
    have hroom : Text.width line + Text.width (core word) ≤ limit := by omega
    have hmore : Text.width (line ++ word) + Text.width words.flatten ≤ limit := by
      rw [width_append]
      omega
    rw [fillLines]
    dsimp only
    rw [if_pos hroom, ih hmore, List.flatten_cons, List.append_assoc]

theorem breakLine_narrow (h : Text.width line ≤ limit) : breakLine limit true line = [line] := by
  rw [breakLine]
  split
  · rfl
  · rename_i hne
    rcases flatten_wordsFrom [] false line with ⟨hnil, -⟩ | hflatten
    · exact absurd hnil hne
    · change (wordsFrom [] false line).flatten = line at hflatten
      rw [fillLines_narrow (by rw [hflatten]; exact (Nat.zero_add _).trans_le h), hflatten]
      rfl

theorem cut_narrow (h : IsNarrow limit line) : cut limit line = line := by
  have hcrop : cropBlanks limit line = line := by
    rw [cropBlanks, Nat.sub_eq_zero_of_le h.1, Nat.min_zero, Nat.sub_zero, List.take_length]
  rw [cut, hcrop, crop, if_pos h.2]

/-- A text without control characters that is narrow is shown as it is. -/
theorem layOut_narrow (h : ∀ c ∈ cs, c = '\n' ∨ 0x20 ≤ c.toNat)
    (hnarrow : ∀ l ∈ splitLines (· = '\n') cs, IsNarrow limit l) : layOut limit .fold cs = cs := by
  have hline : ∀ l ∈ splitLines (· = '\n') cs,
      (breakLine limit true (expandTabs 0 l)).map (cut limit) = [l] := by
    intro l hl
    rw [expandTabs_eq_self (tab_not_mem_line h hl), breakLine_narrow (hnarrow l hl).2, List.map_singleton,
      cut_narrow (hnarrow l hl)]
  have hwrap : wrap limit .fold cs = splitLines (· = '\n') cs := by
    rw [wrap, filter_calm h]
    refine (List.flatMap_congr hline).trans ?_
    simp
  rw [layOut, hwrap, intercalate_splitLines]

end Rollup.Terminal
