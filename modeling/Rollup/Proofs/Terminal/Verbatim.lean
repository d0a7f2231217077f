import Rollup.Proofs.Terminal.Line
import Rollup.Proofs.Terminal.Picture
import Mathlib.Algebra.Order.BigOperators.Group.List
import Mathlib.Algebra.Order.Ring.Nat

/-!
# Text that is shown as it is

Even where lines are left as wide as they are, a terminal does not show every text as it is. It draws pictures,
fills tabs up, leaves out what moves the cursor, and cuts blanks at the ends of lines that are too wide.
Nothing else happens to a text, and none of this is made good by the rest of it
(`layOut_drawPictures_eq_self_iff`).
-/

namespace Rollup.Terminal

/-- Whether a terminal of some width leaves a text as it is. -/
structure Verbatim (limit : Nat) (cs : List Char) : Prop where
  pictures : ¬ Draws cs
  tabs : '\t' ∉ cs
  cursor : ∀ c ∈ cs, movesCursor c = false
  ends : ∀ line ∈ splitLines (· = '\n') cs,
    line.length ≤ limit ∨ ∀ c ∈ line.getLast?, Text.isBlankChar c = false

variable {limit cell : Nat} {c : Char} {cs line : List Char} {lines : List (List Char)}

/-! ## The end of a line -/

theorem cropBlanks_sublist (limit : Nat) (line : List Char) : (cropBlanks limit line).Sublist line :=
  List.take_sublist _ _

theorem length_takeWhile_reverse_eq_zero_iff {p : Char → Bool} :
    (line.reverse.takeWhile p).length = 0 ↔ ∀ c ∈ line.getLast?, p c = false := by
  rw [← List.head?_reverse]
  cases line.reverse with
  | nil => simp
  | cons c cs => cases hc : p c <;> simp [hc]

theorem cropBlanks_eq_self_iff : cropBlanks limit line = line ↔
    line.length ≤ limit ∨ ∀ c ∈ line.getLast?, Text.isBlankChar c = false := by
  have hblanks := (List.takeWhile_sublist Text.isBlankChar (l := line.reverse)).length_le
  rw [List.length_reverse] at hblanks
  rw [← length_takeWhile_reverse_eq_zero_iff, cropBlanks]
  generalize (line.reverse.takeWhile Text.isBlankChar).length = blanks at hblanks ⊢
  rw [List.take_eq_self_iff]
  omega

/-! ## Tabs -/

theorem mem_expandTabs (h : c ∈ expandTabs cell cs) : c = ' ' ∨ c ∈ cs ∧ c ≠ '\t' := by
  induction cs generalizing cell with
  | nil => cases h
  | cons d cs ih =>
    rw [expandTabs] at h
    split_ifs at h with hd
    · rcases List.mem_append.1 h with h | h
      · exact .inl (List.eq_of_mem_replicate h)
      · exact (ih h).imp_right fun hmore => ⟨List.mem_cons_of_mem _ hmore.1, hmore.2⟩
    · rcases List.mem_cons.1 h with rfl | h
      · exact .inr ⟨List.mem_cons_self, hd⟩
      · exact (ih h).imp_right fun hmore => ⟨List.mem_cons_of_mem _ hmore.1, hmore.2⟩

theorem count_expandTabs (hspace : c ≠ ' ') (htab : c ≠ '\t') (cell : Nat) (cs : List Char) :
    (expandTabs cell cs).count c = cs.count c := by
  induction cs generalizing cell with
  | nil => rfl
  | cons d cs ih =>
    rw [expandTabs]
    split_ifs with hd
    · rw [List.count_append, List.count_replicate, ih, hd, List.count_cons_of_ne (Ne.symm htab)]
      simp [Ne.symm hspace]
    · rw [List.count_cons, List.count_cons, ih]

/-! ## Laying out -/

theorem wrap_ignore (limit : Nat) (cs : List Char) : wrap limit .ignore cs =
    (splitLines (· = '\n') (cs.filter fun c => !movesCursor c)).map fun line =>
      cropBlanks limit (expandTabs 0 line) := by
  have hcrop (line : List Char) : crop limit .ignore line = line := by
    rw [crop]
    split_ifs <;> rfl
  simp [wrap, hcrop, ← List.map_eq_flatMap]

/-- What is shown are characters of the text, apart from blanks. -/
theorem mem_layOut_ignore (h : c ∈ layOut limit .ignore cs) :
    c = ' ' ∨ c = '\n' ∨ c ≠ '\t' ∧ movesCursor c = false := by
  by_cases hc : c = '\n'
  · exact .inr (.inl hc)
  rw [layOut, Text.mem_intercalate_iff hc, wrap_ignore] at h
  obtain ⟨_, hmem, h⟩ := h
  obtain ⟨line, hline, rfl⟩ := List.mem_map.1 hmem
  rcases mem_expandTabs ((cropBlanks_sublist limit _).subset h) with rfl | ⟨hmem, htab⟩
  · exact .inl rfl
  refine .inr (.inr ⟨htab, ?_⟩)
  have hfilter := intercalate_splitLines (cs.filter fun c => !movesCursor c) ▸ Text.mem_intercalate hline hmem
  simpa using (List.mem_filter.1 hfilter).2

/-- No colons come in. -/
theorem count_layOut_ignore_le (limit : Nat) (cs : List Char) :
    (layOut limit .ignore cs).count ':' ≤ cs.count ':' := by
  have hline (line : List Char) : (cropBlanks limit (expandTabs 0 line)).count ':' ≤ line.count ':' := by
    rw [← count_expandTabs (show ':' ≠ ' ' by decide) (by decide) 0 line]
    exact (cropBlanks_sublist limit _).count_le ':'
  calc (layOut limit .ignore cs).count ':'
      = ((splitLines (· = '\n') (cs.filter fun c => !movesCursor c)).map fun line =>
          (cropBlanks limit (expandTabs 0 line)).count ':').sum := by
        rw [layOut, Text.count_intercalate (by decide), wrap_ignore, List.map_map]
        rfl
    _ ≤ ((splitLines (· = '\n') (cs.filter fun c => !movesCursor c)).map (List.count ':')).sum :=
        List.sum_le_sum fun line _ => hline line
    _ = (cs.filter fun c => !movesCursor c).count ':' := by
        rw [← Text.count_intercalate (show ':' ≠ '\n' by decide), intercalate_splitLines]
    _ ≤ cs.count ':' := List.filter_sublist.count_le ':'

/-- A text that has no tabs and does not move the cursor is shown as it is, if no blanks are cut. -/
theorem layOut_ignore_eq_self_iff (htabs : '\t' ∉ cs) (hcursor : ∀ c ∈ cs, movesCursor c = false) :
    layOut limit .ignore cs = cs ↔ ∀ line ∈ splitLines (· = '\n') cs,
      line.length ≤ limit ∨ ∀ c ∈ line.getLast?, Text.isBlankChar c = false := by
  have hfilter : cs.filter (fun c => !movesCursor c) = cs :=
    List.filter_eq_self.2 fun c hc => by simp [hcursor c hc]
  have hmem {c : Char} {line : List Char} (hline : line ∈ splitLines (· = '\n') cs) (hc : c ∈ line) : c ∈ cs :=
    intercalate_splitLines cs ▸ Text.mem_intercalate hline hc
  have hwrap : wrap limit .ignore cs = (splitLines (· = '\n') cs).map (cropBlanks limit) := by
    rw [wrap_ignore, hfilter]
    refine List.map_congr_left fun line hline => ?_
    rw [expandTabs_eq_self fun htab => htabs (hmem hline htab)]
  have hne : (splitLines (· = '\n') cs).map (cropBlanks limit) ≠ [] :=
    mt List.map_eq_nil_iff.1 (splitLines_ne_nil _ cs)
  have hnewline : ∀ line ∈ (splitLines (· = '\n') cs).map (cropBlanks limit), '\n' ∉ line := by
    rw [List.forall_mem_map]
    intro line hline hmem
    rw [splitLines_newline] at hline
    exact Text.not_mem_of_mem_splitOn hline ((cropBlanks_sublist limit line).subset hmem)
  simp only [← cropBlanks_eq_self_iff]
  rw [layOut, hwrap]
  constructor
  · intro h
    have hlines := splitLines_intercalate hne hnewline
    rw [h] at hlines
    exact List.map_inj_left.1 (hlines.symm.trans (List.map_id _).symm)
  · intro h
    rw [List.map_congr_left h, List.map_id', intercalate_splitLines]

/-- A text is shown as it is exactly if a terminal leaves it as it is in each of the four ways. -/
theorem layOut_drawPictures_eq_self_iff :
    layOut limit .ignore (drawPictures 0 cs) = cs ↔ Verbatim limit cs := by
  constructor
  · intro h
    have hmem {c : Char} (hc : c ∈ cs) := mem_layOut_ignore (h ▸ hc)
    have hpictures : ¬ Draws cs := by
      intro hdraws
      have hle := count_layOut_ignore_le limit (drawPictures 0 cs)
      rw [h] at hle
      rcases drawPictures_cases cs with ⟨hnot, -⟩ | ⟨-, hlt⟩
      · exact hnot hdraws
      · omega
    have htabs : '\t' ∉ cs := fun hc => by simpa using hmem hc
    have hcursor : ∀ c ∈ cs, movesCursor c = false := by
      intro c hc
      rcases hmem hc with rfl | rfl | ⟨-, h⟩
      · decide
      · decide
      · exact h
    rw [(drawPictures_eq_self_iff cs).2 hpictures] at h
    exact ⟨hpictures, htabs, hcursor, (layOut_ignore_eq_self_iff htabs hcursor).1 h⟩
  · intro h
    rw [(drawPictures_eq_self_iff cs).2 h.pictures]
    exact (layOut_ignore_eq_self_iff h.tabs h.cursor).2 h.ends

instance : Decidable (Verbatim limit cs) := decidable_of_iff _ layOut_drawPictures_eq_self_iff

end Rollup.Terminal
