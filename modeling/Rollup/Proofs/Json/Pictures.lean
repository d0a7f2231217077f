import Rollup.Proofs.Json.Reader
import Rollup.Proofs.Terminal.Picture
import Mathlib.Data.List.Forall2

/-!
# Pictures in JSON text

A name between colons is sought up to the next blank. In JSON text on lines a blank stands behind every
colon between tokens and before the next key, so a picture is drawn only where its name stands in one
string. What a picture is made of needs no escapes. So JSON text for a value in which pictures are drawn is
JSON text for a value with other strings (`DrawnAs`).
-/

namespace Rollup.Json
open Terminal

variable {c : Char} {cs rest name more : List Char}

/-! ## Strings -/

theorem colon_not_mem_escape (h : c ≠ ':') : ':' ∉ escape false c := by
  rcases escape_cases c with ⟨heq, -⟩ | ⟨e, heq, hsimple, -⟩ | ⟨heq, hcontrol⟩
  · simpa [heq] using Ne.symm h
  · have he : e ≠ ':' := by rintro rfl; cases hsimple
    simpa [heq] using Ne.symm he
  · rw [heq]
    generalize c.toNat = n at hcontrol
    interval_cases n <;> decide

theorem escape_colon : escape false ':' = [':'] := rfl

theorem colon_not_mem_flatMap (h : ':' ∉ cs) : ':' ∉ cs.flatMap (escape false) := by
  intro hmem
  obtain ⟨c, hc, hmem⟩ := List.mem_flatMap.1 hmem
  exact colon_not_mem_escape (fun hcolon => h (hcolon ▸ hc)) hmem

theorem escape_eq_self (hquote : c ≠ '"') (hbackslash : c ≠ '\\') (hcontrol : 0x20 ≤ c.toNat) :
    escape false c = [c] := by
  have hne {d : Char} (hd : d.toNat < 0x20) : c ≠ d := by
    rintro rfl
    omega
  simp [escape, hquote, hbackslash, hne (show '\n'.toNat < 0x20 by decide),
    hne (show '\r'.toNat < 0x20 by decide), hne (show '\t'.toNat < 0x20 by decide),
    hne (show '\u0008'.toNat < 0x20 by decide), hne (show '\u000c'.toNat < 0x20 by decide),
    Nat.not_lt.2 hcontrol]

theorem flatMap_escape_picture (h : ∀ c ∈ cs, isPictureChar c) : cs.flatMap (escape false) = cs := by
  induction cs with
  | nil => rfl
  | cons c cs ih =>
    obtain ⟨hc, hcs⟩ := List.forall_mem_cons.1 h
    simp only [isPictureChar, Bool.and_eq_true, decide_eq_true_eq] at hc
    obtain ⟨⟨⟨hcontrol, hquote⟩, hbackslash⟩, -⟩ := hc
    have hself := escape_eq_self (by simpa using hquote) (by simpa using hbackslash) hcontrol
    rw [List.flatMap_cons, ih hcs, hself]
    rfl

/-- A name that stands in the text of a string before a colon is the text of a part of the string. -/
theorem split_at_colon (hrest : Shuts rest) (hname : ∀ c ∈ name, isNameChar c)
    (h : cs.flatMap (escape false) ++ '"' :: rest = name ++ ':' :: more) :
    ∃ front back, cs = front ++ ':' :: back ∧ front.flatMap (escape false) = name := by
  induction cs generalizing name with
  | nil => exact absurd h ((hrest.cons (by decide)) name more hname)
  | cons c cs ih =>
    rw [List.flatMap_cons, List.append_assoc] at h
    by_cases hc : c = ':'
    · subst hc
      cases name with
      | nil => exact ⟨[], cs, rfl, rfl⟩
      | cons d name =>
        obtain ⟨rfl, -⟩ := List.cons.inj h
        cases hname ':' List.mem_cons_self
    · have hcolon := colon_not_mem_escape hc
      rcases List.append_eq_append_iff.1 h with ⟨middle, rfl, hmiddle⟩ | ⟨middle, hescape, hmiddle⟩
      · -- The name goes on behind what is written for this character.
        obtain ⟨front, back, rfl, hfront⟩ :=
          ih (fun d hd => hname d (List.mem_append_right _ hd)) hmiddle
        exact ⟨c :: front, back, rfl, by rw [List.flatMap_cons, hfront]⟩
      · cases middle with
        | nil =>
          rw [List.append_nil] at hescape
          obtain ⟨front, back, rfl, hfront⟩ := ih (show ∀ d ∈ [], isNameChar d from nofun) hmiddle.symm
          exact ⟨c :: front, back, rfl, by rw [List.flatMap_cons, hfront, hescape, List.append_nil]⟩
        | cons d middle =>
          obtain ⟨rfl, -⟩ := List.cons.inj hmiddle
          exact absurd (hescape ▸ List.mem_append_right _ List.mem_cons_self) hcolon

/-- In the text of a string pictures are drawn so that it is the text of another string, whatever follows
in which no name ends that begins in the string. -/
theorem exists_drawn (cs : List Char) : ∃ ts : List Char, ∀ rest, Shuts rest →
    drawPictures 0 (cs.flatMap (escape false) ++ '"' :: rest) =
      ts.flatMap (escape false) ++ '"' :: drawPictures 0 rest := by
  induction hlength : cs.length using Nat.strongRecOn generalizing cs with
  | _ n ih =>
    subst hlength
    cases cs with
    | nil => exact ⟨[], fun rest _ => drawPictures_cons (by decide) rest⟩
    | cons c cs =>
      by_cases hc : c = ':'
      case neg =>
        obtain ⟨ts, hts⟩ := ih cs.length (Nat.lt_succ_self _) cs rfl
        refine ⟨c :: ts, fun rest hrest => ?_⟩
        simp only [List.flatMap_cons, List.append_assoc]
        rw [drawPictures_append (colon_not_mem_escape hc), hts rest hrest]
      subst hc
      by_cases hname : ∃ front back, cs = front ++ ':' :: back ∧
          ∀ d ∈ front.flatMap (escape false), isNameChar d
      case pos =>
        obtain ⟨front, back, rfl, hname⟩ := hname
        obtain ⟨ts, hts⟩ := ih back.length (by simp; omega) back rfl
        -- The picture, or else the name as it stands between its colons.
        obtain ⟨us, hus⟩ : ∃ us : List Char, us.flatMap (escape false) =
            (picture? (front.flatMap (escape false))).getD
              (':' :: (front.flatMap (escape false) ++ [':'])) := by
          cases hpicture : picture? (front.flatMap (escape false)) with
          | none => exact ⟨':' :: (front ++ [':']), by simp [escape_colon]⟩
          | some picture =>
            exact ⟨picture, flatMap_escape_picture (isPictureChar_of_picture? hpicture)⟩
        refine ⟨us ++ ts, fun rest hrest => ?_⟩
        simp only [List.flatMap_cons, List.flatMap_append, escape_colon, List.append_assoc, List.cons_append,
          List.nil_append]
        rw [drawPictures_name hname, hts rest hrest, hus]
      case neg =>
        -- No name ends in the string, and behind it none can.
        obtain ⟨ts, hts⟩ := ih cs.length (Nat.lt_succ_self _) cs rfl
        refine ⟨':' :: ts, fun rest hrest => ?_⟩
        have hshuts : Shuts (cs.flatMap (escape false) ++ '"' :: rest) := by
          intro name more hnames heq
          obtain ⟨front, back, hsplit, hfront⟩ := split_at_colon hrest hnames heq
          exact hname ⟨front, back, hsplit, hfront ▸ hnames⟩
        simp only [List.flatMap_cons, escape_colon, List.cons_append, List.nil_append]
        rw [drawPictures_colon hshuts, hts rest hrest]

/-- A text as it is read from JSON in which its pictures are drawn. -/
def drawnText (s : String) : String :=
  match readString (drawPictures 0 (s.toList.flatMap (escape false) ++ ['"'])) with
  | .ok (t, _) => t
  | .error _ => s

theorem drawPictures_stringChars (s : String) (hrest : Shuts rest) :
    drawPictures 0 (stringChars false s.toList ++ rest) =
      stringChars false (drawnText s).toList ++ drawPictures 0 rest := by
  obtain ⟨ts, hts⟩ := exists_drawn s.toList
  have hdrawn : drawnText s = String.ofList ts := by
    rw [drawnText, hts [] shuts_nil]
    have hread := readString_flatMap ts []
    simp only [hread, show drawPictures 0 [] = [] from rfl]
  rw [stringChars_append, stringChars_append, drawPictures_cons (by decide), hts rest hrest, hdrawn,
    String.toList_ofList]

theorem drawnText_eq_self {s : String} (h : ':' ∉ s.toList) : drawnText s = s := by
  have hread := readString_toList s []
  rw [drawnText, drawPictures_append (colon_not_mem_flatMap h)]
  simp only [hread, show drawPictures 0 ['"'] = ['"'] from rfl]

/-! ## Values -/

/-- In the text of a value on lines pictures are drawn so that it is the text of another value. -/
def DrawnAs (v w : Value) : Prop := ∀ level rest, Shuts rest →
  drawPictures 0 (chars .pretty level v ++ rest) = chars .pretty level w ++ drawPictures 0 rest

theorem drawnAs_null : DrawnAs .null .null := by
  intro level rest _
  rw [chars]
  exact drawPictures_append (by decide) rest

theorem drawnAs_text (s : String) : DrawnAs (.text s) (.text (drawnText s)) := by
  intro level rest hrest
  rw [chars, chars]
  exact drawPictures_stringChars s hrest

theorem shuts_newline (level : Nat) (rest : List Char) : Shuts (newline .pretty level ++ rest) :=
  shuts_blank (by decide) _

theorem colon_not_mem_newline (level : Nat) : ':' ∉ newline .pretty level := by
  simp [newline, Layout.pretty, List.mem_replicate]

/-- Behind a value in a list or record a line ends, perhaps after a comma. -/
theorem shuts_itemChars (level less : Nat) (vs : List Value) (rest : List Char) :
    Shuts (itemChars .pretty level vs ++ (newline .pretty less ++ rest)) := by
  cases vs with
  | nil => exact shuts_newline less rest
  | cons v vs =>
    simp only [itemChars, List.append_assoc]
    exact (shuts_newline level _).cons (by decide)

theorem shuts_memberChars (level less : Nat) (members : List (String × Value)) (rest : List Char) :
    Shuts (memberChars .pretty level members ++ (newline .pretty less ++ rest)) := by
  cases members with
  | nil => exact shuts_newline less rest
  | cons m members =>
    obtain ⟨key, v⟩ := m
    simp only [memberChars, List.append_assoc]
    exact (shuts_newline level _).cons (by decide)

theorem drawPictures_newline (level : Nat) (rest : List Char) :
    drawPictures 0 (newline .pretty level ++ rest) = newline .pretty level ++ drawPictures 0 rest :=
  drawPictures_append (colon_not_mem_newline level) rest

theorem drawPictures_comma (cs : List Char) :
    drawPictures 0 (Layout.pretty.comma ++ cs) = Layout.pretty.comma ++ drawPictures 0 cs :=
  drawPictures_append (by decide) cs

theorem drawPictures_itemChars {vs ws : List Value} (h : List.Forall₂ DrawnAs vs ws) (level less : Nat)
    (rest : List Char) :
    drawPictures 0 (itemChars .pretty level vs ++ (newline .pretty less ++ rest)) =
      itemChars .pretty level ws ++ drawPictures 0 (newline .pretty less ++ rest) := by
  induction h with
  | nil => rfl
  | @cons v w vs ws hv _ ih =>
    simp only [itemChars, List.append_assoc]
    rw [drawPictures_comma, drawPictures_newline, hv _ _ (shuts_itemChars level less vs rest), ih]

theorem drawnAs_list {vs ws : List Value} (h : List.Forall₂ DrawnAs vs ws) :
    DrawnAs (.list vs) (.list ws) := by
  intro level rest _
  cases h with
  | nil =>
    rw [chars]
    exact drawPictures_append (by decide) rest
  | @cons v w vs ws hv hvs =>
    simp only [chars, List.append_assoc, List.cons_append, List.nil_append]
    rw [drawPictures_cons (by decide), drawPictures_newline, hv _ _ (shuts_itemChars _ _ _ _),
      drawPictures_itemChars hvs, drawPictures_newline, drawPictures_cons (by decide)]

/-- A member under a key without a colon, with another value in which pictures are drawn. -/
structure MemberDrawnAs (m n : String × Value) : Prop where
  key : n.1 = m.1
  plain : ':' ∉ m.1.toList
  value : DrawnAs m.2 n.2

theorem drawPictures_key {key : String} (h : ':' ∉ key.toList) (rest : List Char) :
    drawPictures 0 (stringChars false key.toList ++ (Layout.pretty.colon ++ rest)) =
      stringChars false key.toList ++ (Layout.pretty.colon ++ drawPictures 0 rest) := by
  have hkey : ':' ∉ stringChars false key.toList := by
    simpa [stringChars] using colon_not_mem_flatMap h
  have hcolon : drawPictures 0 (':' :: ' ' :: rest) = ':' :: ' ' :: drawPictures 0 rest := by
    rw [drawPictures_colon (shuts_blank (by decide) rest), drawPictures_cons (by decide)]
  rw [drawPictures_append hkey]
  exact congrArg _ hcolon

theorem drawPictures_memberChars {members others : List (String × Value)}
    (h : List.Forall₂ MemberDrawnAs members others) (level less : Nat) (rest : List Char) :
    drawPictures 0 (memberChars .pretty level members ++ (newline .pretty less ++ rest)) =
      memberChars .pretty level others ++ drawPictures 0 (newline .pretty less ++ rest) := by
  induction h with
  | nil => rfl
  | @cons m n members others hm _ ih =>
    obtain ⟨key, v⟩ := m
    obtain ⟨other, w⟩ := n
    obtain ⟨rfl, hkey, hv⟩ := hm
    simp only [memberChars, List.append_assoc, Layout.pretty_isPlain.asciiOnly]
    rw [drawPictures_comma, drawPictures_newline, drawPictures_key hkey, hv _ _ (shuts_memberChars _ _ _ _), ih]

theorem drawnAs_record {members others : List (String × Value)}
    (h : List.Forall₂ MemberDrawnAs members others) : DrawnAs (.record members) (.record others) := by
  intro level rest _
  cases h with
  | nil =>
    rw [chars]
    exact drawPictures_append (by decide) rest
  | @cons m n members others hm hmembers =>
    obtain ⟨key, v⟩ := m
    obtain ⟨other, w⟩ := n
    obtain ⟨rfl, hkey, hv⟩ := hm
    simp only [chars, List.append_assoc, List.cons_append, List.nil_append, Layout.pretty_isPlain.asciiOnly]
    rw [drawPictures_cons (by decide), drawPictures_newline, drawPictures_key hkey,
      hv _ _ (shuts_memberChars _ _ _ _), drawPictures_memberChars hmembers, drawPictures_newline,
      drawPictures_cons (by decide)]

theorem DrawnAs.render {v w : Value} (h : DrawnAs v w) :
    drawPictures 0 (render .pretty v).toList = (render .pretty w).toList := by
  have hall := h 0 [] shuts_nil
  rw [List.append_nil, show drawPictures 0 [] = [] from rfl, List.append_nil] at hall
  rw [Json.render, Json.render, String.toList_ofList, String.toList_ofList, hall]

end Rollup.Json
