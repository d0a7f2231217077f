import Rollup.Proofs.Text.Split
import Rollup.Terminal.Picture

/-!
# Drawing pictures

A colon begins a name, if another colon stands behind it before the next blank. Behind the name the search
goes on, whether it was that of a picture or not. A text is left as it is exactly if no name in it is that of
a picture (`drawPictures_eq_self_iff`), since what is drawn has no colons.
-/

namespace Rollup.Terminal

variable {c : Char} {cs rest name more : List Char}

/-- Whether no colon stands in a text before the first blank. -/
def Shuts (cs : List Char) : Prop := ∀ name more, (∀ c ∈ name, isNameChar c) → cs ≠ name ++ ':' :: more

theorem shuts_nil : Shuts [] := by
  intro name more _ h
  simp at h

theorem shuts_blank (hc : Text.isBlankChar c) (cs : List Char) : Shuts (c :: cs) := by
  rintro (_ | ⟨d, name⟩) more hname h
  · obtain ⟨rfl, -⟩ := List.cons.inj h
    cases hc
  · obtain ⟨rfl, -⟩ := List.cons.inj h
    have hname := hname c List.mem_cons_self
    simp [isNameChar, hc] at hname

theorem Shuts.cons (hc : c ≠ ':') (h : Shuts cs) : Shuts (c :: cs) := by
  rintro (_ | ⟨d, name⟩) more hname heq
  · exact hc (List.cons.inj heq).1
  · exact h name more (List.forall_mem_cons.1 hname).2 (List.cons.inj heq).2

theorem drawPictures_skip (cs rest : List Char) :
    drawPictures cs.length (cs ++ rest) = drawPictures 0 rest := by
  induction cs with
  | nil => rfl
  | cons c cs ih => exact ih

theorem drawPictures_cons (hc : c ≠ ':') (cs : List Char) :
    drawPictures 0 (c :: cs) = c :: drawPictures 0 cs := by
  simp [drawPictures, hc]

theorem drawPictures_append (h : ':' ∉ cs) (rest : List Char) :
    drawPictures 0 (cs ++ rest) = cs ++ drawPictures 0 rest := by
  induction cs with
  | nil => rfl
  | cons c cs ih =>
    obtain ⟨hc, hcs⟩ := not_or.1 (mt List.mem_cons.2 h)
    rw [List.cons_append, drawPictures_cons (Ne.symm hc), ih hcs]
    rfl

theorem takeWhile_name (h : ∀ c ∈ name, isNameChar c) (more : List Char) :
    (name ++ ':' :: more).takeWhile isNameChar = name := Text.takeWhile_append_cons h (by decide) more

/-- A name between colons is replaced if it is that of a picture. -/
theorem drawPictures_name (h : ∀ c ∈ name, isNameChar c) (more : List Char) :
    drawPictures 0 (':' :: (name ++ ':' :: more)) =
      (picture? name).getD (':' :: (name ++ [':'])) ++ drawPictures 0 more := by
  have hskip := drawPictures_skip (name ++ [':']) more
  rw [List.length_append, List.append_assoc] at hskip
  simp only [drawPictures, takeWhile_name h]
  rw [if_pos (by simp), ← hskip]
  rfl

theorem drawPictures_colon (h : Shuts cs) : drawPictures 0 (':' :: cs) = ':' :: drawPictures 0 cs := by
  have hnone : cs[(cs.takeWhile isNameChar).length]? ≠ some ':' := by
    rw [Text.getElem?_length_takeWhile]
    intro hcolon
    obtain ⟨more, hmore⟩ := List.head?_eq_some_iff.1 hcolon
    refine h (cs.takeWhile isNameChar) more (fun c hc => List.mem_takeWhile_imp hc) ?_
    rw [← hmore, List.takeWhile_append_dropWhile]
  simp [drawPictures, hnone]

theorem isPictureChar_of_picture? {picture : List Char} (h : picture? name = some picture) :
    ∀ c ∈ picture, isPictureChar c := by
  unfold picture? at h
  generalize blankSplit [] pictureTable.toList = table at h
  split at h
  rename_i stem style hstyle
  obtain ⟨drawn, -, rfl⟩ := Option.map_eq_some_iff.1 h
  intro c hc
  rcases List.mem_append.1 hc with hc | hc
  · exact List.all_eq_true.1 drawn.drawable c hc
  · split at hstyle <;> obtain ⟨-, rfl⟩ := Prod.mk.inj hstyle
    · exact List.mem_singleton.1 hc ▸ (by decide)
    · exact List.mem_singleton.1 hc ▸ (by decide)
    · cases hc

/-! ## Texts without pictures -/

/-- Whether some name in a text is that of a picture. A colon that ends a name does not begin another. -/
inductive Draws : List Char → Prop
  | here {name picture : List Char} (hname : ∀ c ∈ name, isNameChar c) (h : picture? name = some picture)
      (more : List Char) : Draws (':' :: (name ++ ':' :: more))
  | name {name more : List Char} (hname : ∀ c ∈ name, isNameChar c) (h : Draws more) :
    Draws (':' :: (name ++ ':' :: more))
  | colon {cs : List Char} (hshuts : Shuts cs) (h : Draws cs) : Draws (':' :: cs)
  | cons {c : Char} {cs : List Char} (hc : c ≠ ':') (h : Draws cs) : Draws (c :: cs)

theorem shuts_or_exists_name (cs : List Char) :
    Shuts cs ∨ ∃ name more, (∀ c ∈ name, isNameChar c) ∧ cs = name ++ ':' :: more := by
  by_cases h : ∃ name more, (∀ c ∈ name, isNameChar c) ∧ cs = name ++ ':' :: more
  · exact .inr h
  · exact .inl fun name more hname heq => h ⟨name, more, hname, heq⟩

theorem name_unique {name' more' : List Char} (hname : ∀ c ∈ name, isNameChar c)
    (hname' : ∀ c ∈ name', isNameChar c) (h : name ++ ':' :: more = name' ++ ':' :: more') :
    name = name' ∧ more = more' := by
  obtain rfl : name = name' := by rw [← takeWhile_name hname more, h, takeWhile_name hname']
  exact ⟨rfl, (List.cons.inj (List.append_cancel_left h)).2⟩

theorem draws_cons_iff (hc : c ≠ ':') : Draws (c :: cs) ↔ Draws cs := by
  refine ⟨fun h => ?_, .cons hc⟩
  cases h with
  | here | name | colon => exact absurd rfl hc
  | cons _ h => exact h

theorem draws_colon_iff (hshuts : Shuts cs) : Draws (':' :: cs) ↔ Draws cs := by
  refine ⟨fun h => ?_, .colon hshuts⟩
  generalize hds : ':' :: cs = ds at h
  cases h with
  | here hname | name hname => exact absurd (List.cons.inj hds).2 (hshuts _ _ hname)
  | colon _ h => exact (List.cons.inj hds).2 ▸ h
  | cons hc => exact absurd (List.cons.inj hds).1.symm hc

theorem draws_name_iff (hname : ∀ c ∈ name, isNameChar c) :
    Draws (':' :: (name ++ ':' :: more)) ↔ (∃ picture, picture? name = some picture) ∨ Draws more := by
  constructor
  · intro h
    generalize hds : ':' :: (name ++ ':' :: more) = ds at h
    cases h with
    | here hname' hpicture =>
      obtain ⟨rfl, -⟩ := name_unique hname hname' (List.cons.inj hds).2
      exact .inl ⟨_, hpicture⟩
    | name hname' h =>
      obtain ⟨-, rfl⟩ := name_unique hname hname' (List.cons.inj hds).2
      exact .inr h
    | colon hshuts => exact absurd (List.cons.inj hds).2.symm (hshuts _ _ hname)
    | cons hc => exact absurd (List.cons.inj hds).1.symm hc
  · rintro (⟨picture, h⟩ | h)
    · exact .here hname h more
    · exact .name hname h

theorem colon_not_mem_picture {picture : List Char} (h : picture? name = some picture) : ':' ∉ picture :=
  fun hmem => absurd (isPictureChar_of_picture? h _ hmem) (by decide)

/-- A text is left as it is, or it has fewer colons afterwards. -/
theorem drawPictures_cases (cs : List Char) : ¬ Draws cs ∧ drawPictures 0 cs = cs ∨
    Draws cs ∧ (drawPictures 0 cs).count ':' < cs.count ':' := by
  induction hlength : cs.length using Nat.strongRecOn generalizing cs with
  | _ n ih =>
    subst hlength
    cases cs with
    | nil => exact .inl ⟨nofun, rfl⟩
    | cons c cs =>
      by_cases hc : c = ':'
      case neg =>
        rw [draws_cons_iff hc, drawPictures_cons hc, List.count_cons_of_ne hc, List.count_cons_of_ne hc]
        simpa using ih cs.length (Nat.lt_succ_self _) cs rfl
      subst hc
      rcases shuts_or_exists_name cs with hshuts | ⟨name, more, hname, rfl⟩
      case inl =>
        rw [draws_colon_iff hshuts, drawPictures_colon hshuts, List.count_cons_self, List.count_cons_self]
        simpa using ih cs.length (Nat.lt_succ_self _) cs rfl
      rw [draws_name_iff hname, drawPictures_name hname]
      have hmore := ih more.length (by simp; omega) more rfl
      cases hpicture : picture? name with
      | none =>
        rcases hmore with ⟨hdraws, hself⟩ | ⟨hdraws, hcount⟩
        · simp [hdraws, hself]
        · simp [hdraws, hcount]
      | some picture =>
        have hle : (drawPictures 0 more).count ':' ≤ more.count ':' := by
          rcases hmore with ⟨-, hself⟩ | ⟨-, hcount⟩
          · rw [hself]
          · exact hcount.le
        have hnone := List.count_eq_zero_of_not_mem (colon_not_mem_picture hpicture)
        refine .inr ⟨.inl ⟨_, rfl⟩, ?_⟩
        simp [hnone]
        omega

theorem drawPictures_eq_self_iff (cs : List Char) : drawPictures 0 cs = cs ↔ ¬ Draws cs := by
  rcases drawPictures_cases cs with ⟨hdraws, hself⟩ | ⟨hdraws, hcount⟩
  · exact iff_of_true hself hdraws
  · exact iff_of_false (fun hself => hcount.ne (congrArg (List.count ':') hself)) (not_not.2 hdraws)

end Rollup.Terminal
