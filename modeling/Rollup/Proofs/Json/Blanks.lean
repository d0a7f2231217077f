import Rollup.Proofs.Json.Lines
import Rollup.Proofs.Terminal.Line

/-!
# Blanks of JSON text

Blanks between tokens do not matter: what counts of a text are its marks (`marks`). Every layout writes a
plain value with the same marks, and from a text with these marks the value is read (`parse_of_marks`). A
text that is folded keeps its marks exactly when its new lines stand between tokens, so then it is still
read as the same value, and otherwise it is no JSON any more (`parse_of_folded`).
-/

namespace Rollup.Json

/-- A text from a place on without the blanks between tokens. -/
def marks : Place → List Char → List Char
  | _, [] => []
  | p, c :: cs => if p = .between ∧ isSpace c then marks .between cs else c :: marks (p.after c) cs

variable {p : Place} {c : Char} {cs ds rest blanks left t : List Char} {layout : Layout} {v : Value}

theorem Place.after_of_isSpace (h : isSpace c) : Place.between.after c = .between := by
  rw [after, if_neg (ne_of_isSpace h).1, if_neg (ne_of_isSpace h).2]

theorem marks_cons (h : ¬ (p = .between ∧ isSpace c)) : marks p (c :: cs) = c :: marks (p.after c) cs := by
  rw [marks, if_neg h]

theorem marks_blanks (h : ∀ b ∈ blanks, isSpace b) (cs : List Char) :
    marks .between (blanks ++ cs) = marks .between cs := by
  induction blanks with
  | nil => rfl
  | cons b blanks ih =>
    obtain ⟨hb, hblanks⟩ := List.forall_mem_cons.1 h
    rw [List.cons_append, marks, if_pos ⟨rfl, hb⟩, ih hblanks]

theorem blanks_append_skipSpace (cs : List Char) :
    cs.takeWhile isSpace ++ skipSpace cs = cs ∧ ∀ b ∈ cs.takeWhile isSpace, isSpace b :=
  ⟨List.takeWhile_append_dropWhile, fun _ hb => List.all_eq_true.1 List.all_takeWhile _ hb⟩

theorem marks_skipSpace (cs : List Char) : marks .between (skipSpace cs) = marks .between cs := by
  obtain ⟨hsplit, hblanks⟩ := blanks_append_skipSpace cs
  rw [← marks_blanks hblanks, hsplit]

theorem length_marks_le (p : Place) (cs : List Char) : (marks p cs).length ≤ cs.length := by
  induction cs generalizing p with
  | nil => exact Nat.le_refl _
  | cons c cs ih =>
    rw [marks]
    split_ifs
    · exact Nat.le_succ_of_le (ih _)
    · exact Nat.succ_le_succ (ih _)

/-- The first mark of a text between tokens stands behind blanks. -/
theorem marks_between_eq_cons (h : marks .between ds = c :: t) :
    ∃ rest, skipSpace ds = c :: rest ∧ marks (Place.between.after c) rest = t := by
  induction ds with
  | nil => cases h
  | cons d ds ih =>
    by_cases hd : isSpace d
    · rw [marks, if_pos ⟨rfl, hd⟩] at h
      rw [skipSpace, List.dropWhile_cons_of_pos hd]
      exact ih h
    · rw [marks_cons fun hboth => hd hboth.2] at h
      obtain ⟨rfl, hmore⟩ := List.cons.inj h
      exact ⟨ds, skipSpace_cons (by simpa using hd) ds, hmore⟩

theorem skipSpace_eq_nil (h : marks .between ds = []) : skipSpace ds = [] := by
  rw [← marks_skipSpace] at h
  cases hskip : skipSpace ds with
  | nil => rfl
  | cons c rest =>
    have hc : isSpace c = false := by
      have hhead := List.head?_dropWhile_not isSpace ds
      rw [← skipSpace, hskip] at hhead
      simpa using hhead
    rw [hskip, marks_cons fun hboth => absurd hboth.2 (by simp [hc])] at h
    cases h

/-! ## Folded texts -/

theorem sound_blanks (h : Sound .between (blanks ++ cs)) (hblanks : ∀ b ∈ blanks, Text.isBlankChar b) :
    (∀ b ∈ blanks, isSpace b) ∧ Sound .between cs := by
  induction blanks with
  | nil => exact ⟨List.forall_mem_nil _, h⟩
  | cons b blanks ih =>
    obtain ⟨hb, hmore⟩ := List.forall_mem_cons.1 hblanks
    have hspace : isSpace b := h.1 hb
    obtain ⟨hblanks, hcs⟩ := ih (Place.after_of_isSpace hspace ▸ h.2) hmore
    exact ⟨List.forall_mem_cons.2 ⟨hspace, hblanks⟩, hcs⟩

/-- Blanks do not end a string, so a line that ends behind them does not end between tokens. -/
theorem not_linesEndBetween_inString (h : ∀ b ∈ left, Text.isBlankChar b) :
    ¬ LinesEndBetween .inString (left ++ '\n' :: ds) := by
  induction left with
  | nil => exact fun hends => nomatch hends.1 rfl
  | cons b left ih =>
    obtain ⟨hb, hleft⟩ := List.forall_mem_cons.1 h
    have hafter : Place.inString.after b = .inString := by
      have hquote : b ≠ '"' := by rintro rfl; exact absurd hb (by decide)
      have hbackslash : b ≠ '\\' := by rintro rfl; exact absurd hb (by decide)
      rw [Place.after, if_neg hquote, if_neg hbackslash]
    exact fun hends => ih hleft (hafter ▸ hends.2)

theorem linesEndBetween_blanks (h : ∀ b ∈ blanks, isSpace b) :
    LinesEndBetween .between (blanks ++ ds) ↔ LinesEndBetween .between ds := by
  induction blanks with
  | nil => rfl
  | cons b blanks ih =>
    obtain ⟨hb, hblanks⟩ := List.forall_mem_cons.1 h
    rw [List.cons_append, LinesEndBetween, Place.after_of_isSpace hb, ih hblanks]
    exact and_iff_right fun _ => rfl

/-- A line that ends between tokens loses blanks between tokens only. -/
theorem between_of_trims (htrims : Terminal.Trims blanks left) (hsound : Sound p (blanks ++ cs))
    (hends : LinesEndBetween p (left ++ '\n' :: ds)) :
    p = .between ∧ (∀ b ∈ blanks, isSpace b) ∧ (∀ b ∈ left, isSpace b) ∧ Sound .between cs ∧
      LinesEndBetween .between ds := by
  -- In front of a character that must not be blank nothing is lost.
  have htoken (hadmits : ∀ b, p.Admits b → Text.isBlankChar b = false) (hp : p ≠ .between) : False := by
    cases blanks with
    | cons b blanks => exact absurd (htrims.blank b List.mem_cons_self) (by simp [hadmits b hsound.1])
    | nil =>
      obtain rfl : left = [] := List.eq_nil_of_length_eq_zero (Nat.le_zero.1 htrims.length_le)
      exact hp (hends.1 rfl)
  cases p with
  | between =>
    obtain ⟨hblanks, hcs⟩ := sound_blanks hsound htrims.blank
    have hleft : ∀ b ∈ left, isSpace b := fun b hb => (htrims.mem b hb).elim (by rintro rfl; rfl) (hblanks b)
    rw [linesEndBetween_blanks hleft] at hends
    exact ⟨rfl, hblanks, hleft, hcs, hends.2⟩
  | inString =>
    refine absurd hends (not_linesEndBetween_inString fun b hb => ?_)
    exact (htrims.mem b hb).elim (by rintro rfl; decide) (htrims.blank b)
  | escaped => exact (htoken (fun _ h => h) nofun).elim
  | inNull left => exact (htoken (fun _ h => h) nofun).elim

/-- A folded text whose lines end between tokens keeps its marks. -/
theorem marks_of_folded (h : Terminal.Folded cs ds) (hsound : Sound p cs) (hends : LinesEndBetween p ds) :
    marks p ds = marks p cs := by
  have hnewline (cs : List Char) : marks .between ('\n' :: cs) = marks .between cs := rfl
  induction h generalizing p with
  | @stop blanks left htrims =>
    obtain ⟨rfl, hblanks, hleft, -⟩ := between_of_trims htrims ((List.append_nil blanks).symm ▸ hsound) hends
    rw [marks_blanks hleft, ← List.append_nil blanks, marks_blanks hblanks]
    rfl
  | keep c _ ih =>
    rw [marks, marks]
    have hmore := ih hsound.2 hends.2
    split_ifs with hskip
    · obtain ⟨rfl, hspace⟩ := hskip
      rwa [Place.after_of_isSpace hspace] at hmore
    · rw [hmore]
  | fold htrims _ ih =>
    obtain ⟨rfl, hblanks, hleft, hsound, hends⟩ := between_of_trims htrims hsound hends
    rw [marks_blanks hblanks, marks_blanks hleft, hnewline, ih hsound hends]
  | line htrims _ ih =>
    obtain ⟨rfl, hblanks, hleft, hsound, hends⟩ := between_of_trims htrims hsound hends
    rw [marks_blanks hblanks, marks_blanks hleft, hnewline, hnewline]
    exact ih hsound.2 hends

/-! ## Tokens -/

/-- Whether a text leads from a place to another, and is inside a token up to its last character. -/
def Spans : Place → List Char → Place → Prop
  | p, [], q => p = q
  | p, c :: cs, q => p ≠ .between ∧ Spans (p.after c) cs q

instance Spans.decidable : (p : Place) → (cs : List Char) → (q : Place) → Decidable (Spans p cs q)
  | p, [], q => inferInstanceAs (Decidable (p = q))
  | p, c :: cs, q =>
    have := Spans.decidable (p.after c) cs q
    inferInstanceAs (Decidable (p ≠ .between ∧ Spans (p.after c) cs q))

section
variable {q r : Place} {a b : List Char}

theorem Spans.append (ha : Spans p a q) (hb : Spans q b r) : Spans p (a ++ b) r := by
  induction a generalizing p with
  | nil =>
    obtain rfl : p = q := ha
    exact hb
  | cons c a ih => exact ⟨ha.1, ih ha.2⟩

theorem Spans.marks (h : Spans p a q) (cs : List Char) : marks p (a ++ cs) = a ++ marks q cs := by
  induction a generalizing p with
  | nil =>
    obtain rfl : p = q := h
    rfl
  | cons c a ih =>
    rw [List.cons_append, marks_cons fun hboth => h.1 hboth.1, ih h.2]
    rfl

theorem Spans.of_marks (h : Spans p a q) (hds : Json.marks p ds = a ++ t) :
    ∃ rest, ds = a ++ rest ∧ Json.marks q rest = t := by
  induction a generalizing p ds with
  | nil =>
    obtain rfl : p = q := h
    exact ⟨ds, rfl, hds⟩
  | cons c a ih =>
    cases ds with
    | nil => cases hds
    | cons d ds =>
      rw [marks_cons fun hboth => h.1 hboth.1] at hds
      obtain ⟨rfl, hmore⟩ := List.cons.inj hds
      obtain ⟨rest, rfl, hrest⟩ := ih h.2 hmore
      exact ⟨rest, rfl, hrest⟩

end

/-- A text that is one token. -/
structure Token (w : List Char) : Prop where
  spans : ∃ c body, w = c :: body ∧ isSpace c = false ∧ Spans (Place.between.after c) body .between

namespace Token
variable {w : List Char}

theorem marks (h : Token w) (cs : List Char) :
    marks .between (w ++ cs) = w ++ Json.marks .between cs := by
  obtain ⟨c, body, rfl, hc, hbody⟩ := h.spans
  rw [List.cons_append, marks_cons fun hboth => absurd hboth.2 (by simp [hc]), hbody.marks]
  rfl

/-- A token that the marks of a text begin with stands behind its first blanks. -/
theorem of_marks (h : Token w) (hds : Json.marks .between ds = w ++ t) :
    ∃ rest, skipSpace ds = w ++ rest ∧ Json.marks .between rest = t := by
  obtain ⟨c, body, rfl, -, hbody⟩ := h.spans
  obtain ⟨more, hskip, hmore⟩ := marks_between_eq_cons hds
  obtain ⟨rest, rfl, hrest⟩ := hbody.of_marks hmore
  exact ⟨rest, hskip, hrest⟩

theorem null : Token "null".toList := ⟨'n', ['u', 'l', 'l'], rfl, rfl, by decide⟩

theorem sign (hc : c ∈ ['[', ']', '\x7b', '\x7d', ',', ':']) : Token [c] := by
  refine ⟨c, [], rfl, ?_, ?_⟩ <;>
  · simp only [List.mem_cons, List.not_mem_nil, or_false] at hc
    rcases hc with rfl | rfl | rfl | rfl | rfl | rfl <;> decide

theorem string (cs : List Char) : Token (stringChars false cs) := by
  have hescape (c : Char) : Spans .inString (escape false c) .inString := by
    rcases escape_cases c with ⟨heq, hquote, hbackslash, -⟩ | ⟨e, heq, -⟩ | ⟨heq, hcontrol⟩
    · simp [heq, Spans, Place.after, hquote, hbackslash]
    · simp [heq, Spans, Place.after]
    · rw [heq]
      generalize c.toNat = n at hcontrol
      interval_cases n <;> decide
  refine ⟨'"', _, rfl, rfl, Spans.append (q := .inString) ?_ ⟨by decide, rfl⟩⟩
  induction cs with
  | nil => rfl
  | cons c cs ih => exact (hescape c).append ih

end Token

/-! ## What is written -/

/-- A value has the same marks in a layout as in the one without blanks, whatever the indentation. -/
def SameMarks (layout : Layout) (v : Value) : Prop := ∀ level other cs,
  marks .between (chars layout level v ++ cs) = chars .compact other v ++ marks .between cs

theorem marks_newline (layout : Layout) (level : Nat) (cs : List Char) :
    marks .between (newline layout level ++ cs) = marks .between cs :=
  marks_blanks (isSpace_newline layout level) cs

theorem marks_sign (hc : c ∈ ['[', ']', '\x7b', '\x7d', ',', ':']) (cs : List Char) :
    marks .between (c :: cs) = c :: marks .between cs := (Token.sign hc).marks cs

theorem Layout.IsPlain.marks_comma (hlayout : layout.IsPlain) (cs : List Char) :
    marks .between (layout.comma ++ cs) = ',' :: marks .between cs := by
  obtain ⟨n, hcomma⟩ := hlayout.comma
  rw [hcomma, List.cons_append, marks_sign (by decide), marks_blanks (isSpace_replicate n)]

theorem Layout.IsPlain.marks_colon (hlayout : layout.IsPlain) (cs : List Char) :
    marks .between (layout.colon ++ cs) = ':' :: marks .between cs := by
  obtain ⟨n, hcolon⟩ := hlayout.colon
  rw [hcolon, List.cons_append, marks_sign (by decide), marks_blanks (isSpace_replicate n)]

theorem newline_compact (level : Nat) : newline .compact level = [] := rfl

theorem marks_itemChars (hlayout : layout.IsPlain) {vs : List Value} (h : ∀ v ∈ vs, SameMarks layout v)
    (level other : Nat) (cs : List Char) : marks .between (itemChars layout level vs ++ cs) =
      itemChars .compact other vs ++ marks .between cs := by
  induction vs with
  | nil => simp only [itemChars, List.nil_append]
  | cons v vs ih =>
    obtain ⟨hv, hvs⟩ := List.forall_mem_cons.1 h
    simp only [itemChars, List.append_assoc, hlayout.marks_comma, marks_newline, hv level other, ih hvs,
      newline_compact, List.nil_append]
    rfl

theorem marks_memberChars (hlayout : layout.IsPlain) {members : List (String × Value)}
    (h : ∀ m ∈ members, SameMarks layout m.2) (level other : Nat) (cs : List Char) :
    marks .between (memberChars layout level members ++ cs) =
      memberChars .compact other members ++ marks .between cs := by
  induction members with
  | nil => simp only [memberChars, List.nil_append]
  | cons m members ih =>
    obtain ⟨key, v⟩ := m
    obtain ⟨hv, hmembers⟩ := List.forall_mem_cons.1 h
    simp only [memberChars, List.append_assoc, hlayout.asciiOnly, hlayout.marks_comma, marks_newline,
      (Token.string _).marks, hlayout.marks_colon, hv level other, ih hmembers, newline_compact,
      List.nil_append]
    rfl

/-- Layouts differ in blanks between tokens only. -/
theorem Plain.sameMarks (hlayout : layout.IsPlain) (h : Plain v) : SameMarks layout v := by
  induction h with
  | null => exact fun level other cs => Token.null.marks cs
  | text s =>
    intro level other cs
    rw [chars, chars, hlayout.asciiOnly]
    exact (Token.string _).marks cs
  | @list vs _ ih =>
    intro level other cs
    cases vs with
    | nil =>
      simp only [chars, List.cons_append, List.nil_append]
      rw [marks_sign (by decide), marks_sign (by decide)]
    | cons v vs =>
      have hv := ih v List.mem_cons_self
      have hvs := marks_itemChars hlayout fun w hw => ih w (List.mem_cons_of_mem v hw)
      simp only [chars, List.cons_append, List.append_assoc]
      rw [marks_sign (by decide), marks_newline, hv (level + 1) (other + 1), hvs (level + 1) (other + 1),
        marks_newline, marks_sign (by decide)]
      simp only [newline_compact, List.nil_append]
  | @record fields _ _ ih =>
    intro level other cs
    cases fields with
    | nil =>
      simp only [chars, List.cons_append, List.nil_append]
      rw [marks_sign (by decide), marks_sign (by decide)]
    | cons m members =>
      obtain ⟨key, v⟩ := m
      have hv : SameMarks layout v := ih _ List.mem_cons_self
      have hmembers := marks_memberChars hlayout fun w hw => ih w (List.mem_cons_of_mem _ hw)
      simp only [chars, List.cons_append, List.append_assoc, hlayout.asciiOnly]
      rw [marks_sign (by decide), marks_newline, (Token.string _).marks, hlayout.marks_colon,
        hv (level + 1) (other + 1), hmembers (level + 1) (other + 1), marks_newline,
        marks_sign (by decide)]
      simp only [newline_compact, List.nil_append]
      rfl

/-! ## What is read -/

/-- A value is read from a text whose marks begin with its own. -/
def ReadFromMarks (v : Value) : Prop := ∀ level fuel ds t, (chars .compact level v).length ≤ fuel →
  marks .between ds = chars .compact level v ++ t →
    ∃ rest, readValue fuel (skipSpace ds) = .ok (v, rest) ∧ marks .between rest = t

theorem skipSpace_of_sign (hc : c ∈ ['[', ']', '\x7b', '\x7d', ',', ':'])
    (h : marks .between ds = c :: t) : ∃ rest, skipSpace ds = c :: rest ∧ marks .between rest = t :=
  (Token.sign hc).of_marks h

theorem readItems_of_marks {vs : List Value} (h : ∀ w ∈ v :: vs, ReadFromMarks w) {level fuel : Nat}
    (hfuel : (chars .compact level v ++ itemChars .compact level vs).length < fuel)
    (hds : marks .between ds = chars .compact level v ++ (itemChars .compact level vs ++ ']' :: t)) :
    ∃ rest, readItems fuel (skipSpace ds) = .ok (v :: vs, rest) ∧ marks .between rest = t := by
  induction vs generalizing v fuel ds with
  | nil =>
    obtain ⟨fuel, rfl⟩ := Nat.exists_eq_succ_of_ne_zero (Nat.ne_zero_of_lt hfuel)
    rw [List.length_append] at hfuel
    obtain ⟨more, hv, hmore⟩ := h v List.mem_cons_self level fuel ds _ (by omega) hds
    obtain ⟨rest, hskip, hrest⟩ := skipSpace_of_sign (by decide) hmore
    refine ⟨rest, ?_, hrest⟩
    simp [readItems, hv, hskip, bind, Except.bind, pure, Except.pure]
  | cons w vs ih =>
    obtain ⟨fuel, rfl⟩ := Nat.exists_eq_succ_of_ne_zero (Nat.ne_zero_of_lt hfuel)
    have hitems : itemChars .compact level (w :: vs) =
        ',' :: (chars .compact level w ++ itemChars .compact level vs) := rfl
    rw [hitems] at hds hfuel
    simp only [List.length_append, List.length_cons] at hfuel
    simp only [List.cons_append, List.append_assoc] at hds
    obtain ⟨more, hv, hmore⟩ := h v List.mem_cons_self level fuel ds _ (by omega) hds
    obtain ⟨next, hskip, hnext⟩ := skipSpace_of_sign (by decide) hmore
    have hlength : (chars .compact level w ++ itemChars .compact level vs).length < fuel := by
      rw [List.length_append]
      omega
    obtain ⟨rest, hvs, hrest⟩ := ih (fun u hu => h u (List.mem_cons_of_mem v hu)) hlength hnext
    refine ⟨rest, ?_, hrest⟩
    simp [readItems, hv, hskip, hvs, bind, Except.bind, pure, Except.pure]

theorem readMembers_of_marks {key : String} {members : List (String × Value)}
    (h : ∀ m ∈ (key, v) :: members, ReadFromMarks m.2) (hkeys : (((key, v) :: members).map (·.1)).Nodup)
    {level fuel : Nat} (hfuel : (stringChars false key.toList ++ ':' :: (chars .compact level v ++
      memberChars .compact level members)).length < fuel)
    (hds : marks .between ds = stringChars false key.toList ++ ':' :: (chars .compact level v ++
      (memberChars .compact level members ++ '\x7d' :: t))) :
    ∃ rest, readMembers fuel (skipSpace ds) = .ok ((key, v) :: members, rest) ∧
      marks .between rest = t := by
  induction members generalizing key v fuel ds with
  | nil =>
    have hread : ReadFromMarks v := h (key, v) List.mem_cons_self
    obtain ⟨fuel, rfl⟩ := Nat.exists_eq_succ_of_ne_zero (Nat.ne_zero_of_lt hfuel)
    simp only [List.length_append, List.length_cons] at hfuel
    obtain ⟨colon, hname, hcolon⟩ := (Token.string _).of_marks hds
    obtain ⟨value, hskip, hvalue⟩ := skipSpace_of_sign (by decide) hcolon
    obtain ⟨more, hv, hmore⟩ := hread level fuel value _ (by omega) hvalue
    obtain ⟨rest, hend, hrest⟩ := skipSpace_of_sign (by decide) hmore
    refine ⟨rest, ?_, hrest⟩
    rw [hname, stringChars_append]
    simp [readMembers, readString_toList, hskip, hv, hend, bind, Except.bind, pure, Except.pure]
  | cons m members ih =>
    obtain ⟨other, w⟩ := m
    have hread : ReadFromMarks v := h (key, v) List.mem_cons_self
    obtain ⟨fuel, rfl⟩ := Nat.exists_eq_succ_of_ne_zero (Nat.ne_zero_of_lt hfuel)
    obtain ⟨hkey, hkeys⟩ := List.nodup_cons.1 hkeys
    have hmembers : memberChars .compact level ((other, w) :: members) =
        ',' :: (stringChars false other.toList ++ ':' :: (chars .compact level w ++
          memberChars .compact level members)) := by
      simp only [memberChars, Layout.compact, List.append_assoc]
      rfl
    rw [hmembers] at hds hfuel
    simp only [List.length_append, List.length_cons] at hfuel
    simp only [List.cons_append, List.append_assoc] at hds
    obtain ⟨colon, hname, hcolon⟩ := (Token.string _).of_marks hds
    obtain ⟨value, hskip, hvalue⟩ := skipSpace_of_sign (by decide) hcolon
    obtain ⟨more, hv, hmore⟩ := hread level fuel value _ (by omega) hvalue
    obtain ⟨next, hcomma, hnext⟩ := skipSpace_of_sign (by decide) hmore
    have hlength : (stringChars false other.toList ++ ':' :: (chars .compact level w ++
        memberChars .compact level members)).length < fuel := by
      simp only [List.length_append, List.length_cons]
      omega
    obtain ⟨rest, hvs, hrest⟩ := ih (fun u hu => h u (List.mem_cons_of_mem _ hu)) hkeys hlength hnext
    refine ⟨rest, ?_, hrest⟩
    rw [hname, stringChars_append, ← consMember_of_not_mem hkey]
    simp [readMembers, readString_toList, hskip, hv, hcomma, hvs, bind, Except.bind, pure, Except.pure]

theorem chars_compact_list (level : Nat) (v : Value) (vs : List Value) :
    chars .compact level (.list (v :: vs)) =
      '[' :: (chars .compact (level + 1) v ++ (itemChars .compact (level + 1) vs ++ [']'])) := by
  simp [chars, newline_compact]

theorem chars_compact_record (level : Nat) (key : String) (v : Value) (members : List (String × Value)) :
    chars .compact level (.record ((key, v) :: members)) =
      '\x7b' :: (stringChars false key.toList ++ ':' :: (chars .compact (level + 1) v ++
        (memberChars .compact (level + 1) members ++ ['\x7d']))) := by
  simp [chars, newline_compact, show Layout.compact.asciiOnly = false from rfl,
    show Layout.compact.colon = [':'] from rfl]

/-- Whatever blanks stand between its tokens, a text with the marks of a plain value is read as it. -/
theorem Plain.readFromMarks (h : Plain v) : ReadFromMarks v := by
  have hsucc {level fuel : Nat} {v : Value} (hv : Plain v)
      (hfuel : (chars .compact level v).length ≤ fuel) : ∃ less, fuel = less + 1 := by
    obtain ⟨c, cs, hchars, -⟩ := (hv.readsBack Layout.compact_isPlain).begins level
    rw [hchars, List.length_cons] at hfuel
    exact Nat.exists_eq_succ_of_ne_zero (Nat.ne_zero_of_lt hfuel)
  induction h with
  | null =>
    intro level fuel ds t hfuel hds
    obtain ⟨fuel, rfl⟩ := hsucc .null hfuel
    obtain ⟨rest, hskip, hrest⟩ := Token.null.of_marks hds
    exact ⟨rest, by rw [hskip, readValue_null], hrest⟩
  | text s =>
    intro level fuel ds t hfuel hds
    obtain ⟨fuel, rfl⟩ := hsucc (.text s) hfuel
    obtain ⟨rest, hskip, hrest⟩ := (Token.string _).of_marks hds
    exact ⟨rest, by rw [hskip, readValue_stringChars], hrest⟩
  | @list vs hvs ih =>
    intro level fuel ds t hfuel hds
    obtain ⟨fuel, rfl⟩ := hsucc (.list hvs) hfuel
    cases vs with
    | nil =>
      obtain ⟨more, hskip, hmore⟩ := skipSpace_of_sign (by decide) hds
      obtain ⟨rest, hend, hrest⟩ := skipSpace_of_sign (by decide) hmore
      refine ⟨rest, ?_, hrest⟩
      simp [readValue, hskip, hend]
    | cons v vs =>
      rw [chars_compact_list] at hfuel hds
      simp only [List.cons_append, List.append_assoc, List.length_cons, List.length_append] at hfuel hds
      obtain ⟨more, hskip, hmore⟩ := skipSpace_of_sign (by decide) hds
      have hlength : (chars .compact (level + 1) v ++ itemChars .compact (level + 1) vs).length < fuel := by
        rw [List.length_append]
        omega
      obtain ⟨rest, hitems, hrest⟩ := readItems_of_marks ih hlength hmore
      -- An item follows, and not the end of an empty list.
      have hbegins : Begins (skipSpace more) := by
        obtain ⟨c, cs, hchars, hc⟩ :=
          ((hvs v List.mem_cons_self).readsBack Layout.compact_isPlain).begins (level + 1)
        rw [hchars] at hmore
        obtain ⟨after, hafter, -⟩ := marks_between_eq_cons hmore
        exact ⟨c, after, hafter, hc⟩
      obtain ⟨hsplit, hblanks⟩ := blanks_append_skipSpace more
      refine ⟨rest, ?_, hrest⟩
      rw [hskip, ← hsplit]
      exact readValue_list hblanks hbegins hitems
  | @record fields hkeys hfields ih =>
    intro level fuel ds t hfuel hds
    obtain ⟨fuel, rfl⟩ := hsucc (.record hkeys hfields) hfuel
    cases fields with
    | nil =>
      obtain ⟨more, hskip, hmore⟩ := skipSpace_of_sign (by decide) hds
      obtain ⟨rest, hend, hrest⟩ := skipSpace_of_sign (by decide) hmore
      refine ⟨rest, ?_, hrest⟩
      simp [readValue, hskip, hend]
    | cons m members =>
      obtain ⟨key, v⟩ := m
      rw [chars_compact_record] at hfuel hds
      simp only [List.cons_append, List.append_assoc, List.length_cons, List.length_append] at hfuel hds
      obtain ⟨more, hskip, hmore⟩ := skipSpace_of_sign (by decide) hds
      have hlength : (stringChars false key.toList ++ ':' :: (chars .compact (level + 1) v ++
          memberChars .compact (level + 1) members)).length < fuel := by
        simp only [List.length_append, List.length_cons]
        omega
      obtain ⟨rest, hmembers, hrest⟩ := readMembers_of_marks ih hkeys hlength hmore
      obtain ⟨colon, hname, -⟩ := (Token.string _).of_marks hmore
      obtain ⟨hsplit, hblanks⟩ := blanks_append_skipSpace more
      refine ⟨rest, ?_, hrest⟩
      rw [hname] at hmembers
      rw [hskip, ← hsplit, hname]
      exact readValue_record hblanks hmembers

theorem parseChars_of_marks (h : Plain v) (hds : marks .between ds = chars .compact 0 v) :
    parseChars ds = .ok v := by
  have hlength := length_marks_le .between ds
  rw [hds] at hlength
  rw [← List.append_nil (chars .compact 0 v)] at hds
  obtain ⟨rest, hread, hrest⟩ := h.readFromMarks 0 (2 * ds.length + 2) ds [] (by omega) hds
  have hmark (more : List Char) : ds ≠ '\uFEFF' :: more := by
    rintro rfl
    obtain ⟨c, cs, hchars, hc⟩ := (h.readsBack Layout.compact_isPlain).begins 0
    rw [hchars, marks_cons (by decide)] at hds
    exact (ne_of_mem_beginnings hc).2.2 (List.cons.inj hds).1.symm
  unfold parseChars
  split
  case h_1 more => exact absurd rfl (hmark more)
  · simp [hread, skipSpace_eq_nil hrest, bind, Except.bind, pure, Except.pure]

theorem parse_of_marks {s : String} (h : Plain v) (hs : marks .between s.toList = chars .compact 0 v) :
    parse s = .ok v := parseChars_of_marks h hs

/-- The text of a plain value, folded, is JSON exactly when its lines end between tokens, and then it is
read as that value. -/
theorem parse_of_folded (hlayout : layout.IsPlain) (h : Plain v) {s : String}
    (hfolded : Terminal.Folded (render layout v).toList s.toList) :
    parse s = .ok v ↔ LinesEndBetween .between s.toList := by
  refine ⟨fun hparse => (sound_of_parse hparse).linesEndBetween, fun hends => parse_of_marks h ?_⟩
  rw [marks_of_folded hfolded (sound_of_parse (parse_render hlayout h)) hends, render, String.toList_ofList]
  have hsame := h.sameMarks hlayout 0 0 []
  rwa [List.append_nil, show marks .between [] = [] from rfl, List.append_nil] at hsame

end Rollup.Json
