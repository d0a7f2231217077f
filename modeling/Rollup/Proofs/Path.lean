import Rollup.Path
import Rollup.Proofs.Text.Split

/-!
# Normal paths

Every text is read as a path of a normal form, without empty components and without single dots in it
(`Path.isNormal_ofText`). The text of such a path is read as the path itself (`Path.ofText_text`), so two of
them that are written alike are one. What stands beside a path has the same directory, and its text says so.
-/

namespace Rollup.Path

/-- What stands between slashes in a path and counts there. -/
structure IsComponent (part : String) : Prop where
  ne_empty : part ≠ ""
  ne_dot : part ≠ "."
  slash : '/' ∉ part.toList

/-- A component that leads to something in a directory, and not out of it. -/
structure IsFileName (part : String) : Prop extends IsComponent part where
  ne_dots : part ≠ ".."

structure IsNormal (p : Path) : Prop where
  root : p.root = "" ∨ p.root = "/" ∨ p.root = "//"
  parts : ∀ part ∈ p.parts, IsComponent part

variable {cs : List Char} {part : String} {parts : List String} {p : Path}

/-! ## Splitting a text -/

theorem splitSlash_eq_splitOn (cs : List Char) : splitSlash cs = cs.splitOn '/' := by
  induction cs with
  | nil => rfl
  | cons c cs ih =>
    obtain ⟨first, more, hsplit⟩ := List.exists_cons_of_ne_nil (List.splitOn_ne_nil '/' cs)
    rw [splitSlash, List.splitOn_cons_eq_if_modifyHead, ih]
    simp [hsplit]

/-- A slash at the start of a text adds no component. -/
theorem parts_ofText_slash (s : String) : (ofText ("/" ++ s)).parts = (ofText s).parts := by
  rw [ofText, ofText, String.toList_append, show "/".toList = ['/'] from rfl, List.singleton_append, splitSlash,
    if_pos rfl]
  rfl

theorem parts_ofText_intercalate (h : ∀ part ∈ parts, IsComponent part) :
    (ofText ("/".intercalate parts)).parts = parts := by
  by_cases hne : parts = []
  · subst hne
    rfl
  have hsplit : splitSlash ("/".intercalate parts).toList = parts.map String.toList := by
    rw [splitSlash_eq_splitOn, String.toList_intercalate]
    refine List.splitOn_intercalate '/' ?_ (by simpa using hne)
    rw [List.forall_mem_map]
    exact fun part hpart => (h part hpart).slash
  have hmap : (parts.map String.toList).map String.ofList = parts := by simp
  rw [ofText, hsplit, hmap]
  exact List.filter_eq_self.2 fun part hpart => by simp [(h part hpart).ne_empty, (h part hpart).ne_dot]

/-! ## Roots -/

theorem rootOf_cases (cs : List Char) : rootOf cs = "" ∨ rootOf cs = "/" ∨ rootOf cs = "//" := by
  unfold rootOf
  split
  · exact .inr (.inr rfl)
  · split_ifs
    · exact .inr (.inl rfl)
    · exact .inr (.inr rfl)
  · exact .inr (.inl rfl)
  · exact .inl rfl

/-- A root is found again in front of what does not begin with a slash. -/
theorem rootOf_append (hroot : p.root = "" ∨ p.root = "/" ∨ p.root = "//") (h : cs.head? ≠ some '/') :
    rootOf (p.root.toList ++ cs) = p.root := by
  have hhead {c : Char} {more : List Char} (hcs : cs = c :: more) : c ≠ '/' := by
    rintro rfl
    exact h (by rw [hcs]; rfl)
  rcases hroot with hroot | hroot | hroot <;> rw [hroot] <;> cases cs with
  | nil => rfl
  | cons c more => simp [rootOf, hhead rfl]

theorem head?_intercalate (h : ∀ part ∈ parts, IsComponent part) :
    ("/".intercalate parts).toList.head? ≠ some '/' := by
  cases parts with
  | nil => simp
  | cons part more =>
    obtain ⟨hpart, -⟩ := List.forall_mem_cons.1 h
    obtain ⟨c, cs, hcs⟩ := List.exists_cons_of_ne_nil (mt String.toList_eq_nil_iff.1 hpart.ne_empty)
    have hc : c ≠ '/' := by
      rintro rfl
      exact hpart.slash (hcs ▸ List.mem_cons_self)
    rw [String.toList_intercalate, List.map_cons, hcs, List.intercalate_cons_cons_left]
    simpa using hc

/-! ## Texts of paths -/

theorem isNormal_ofText (s : String) : (ofText s).IsNormal where
  root := rootOf_cases s.toList
  parts := by
    intro part hpart
    obtain ⟨hmem, hkept⟩ := List.mem_filter.1 hpart
    obtain ⟨piece, hpiece, rfl⟩ := List.mem_map.1 hmem
    simp only [Bool.and_eq_true, decide_eq_true_eq] at hkept
    refine ⟨hkept.1, hkept.2, ?_⟩
    rw [String.toList_ofList]
    exact Text.not_mem_of_mem_splitOn (splitSlash_eq_splitOn _ ▸ hpiece)

/-- The text of a path in normal form is read as this path. -/
theorem ofText_text (h : p.IsNormal) : ofText p.text = p := by
  obtain ⟨root, parts⟩ := p
  by_cases hempty : root = "" ∧ parts = []
  · obtain ⟨rfl, rfl⟩ := hempty
    rfl
  have htext : text ⟨root, parts⟩ = root ++ "/".intercalate parts := by
    rw [text, if_neg (by simpa using hempty)]
  have hroot : (ofText (root ++ "/".intercalate parts)).root = root := by
    rw [ofText, String.toList_append]
    exact rootOf_append h.root (head?_intercalate h.parts)
  have hparts : (ofText (root ++ "/".intercalate parts)).parts = parts := by
    rcases h.root with rfl | rfl | rfl
    · rw [String.empty_append, parts_ofText_intercalate h.parts]
    · rw [parts_ofText_slash, parts_ofText_intercalate h.parts]
    · rw [show ("//" : String) = "/" ++ "/" from rfl, String.append_assoc, parts_ofText_slash,
        parts_ofText_slash, parts_ofText_intercalate h.parts]
  rw [htext]
  exact congr (congrArg Path.mk hroot) hparts

theorem ofText_component (h : IsComponent part) : ofText part = ⟨"", [part]⟩ := by
  have hnormal : IsNormal ⟨"", [part]⟩ := ⟨.inl rfl, List.forall_mem_singleton.2 h⟩
  have htext : text ⟨"", [part]⟩ = part := by simp [text]
  rw [← ofText_text hnormal, htext]

/-! ## Names -/

theorem isComponent_name (h : p.IsNormal) (hname : p.name ≠ "") : IsComponent p.name := by
  cases hlast : p.parts.getLast? with
  | none => exact absurd (by rw [name, hlast]; rfl) hname
  | some part =>
    rw [name, hlast]
    exact h.parts part (List.mem_of_getLast? hlast)

theorem name_withName (p : Path) (part : String) : (p.withName part).name = part := by
  simp [name, withName]

theorem parent_withName (p : Path) (part : String) : (p.withName part).parent = p.parent := by
  simp [parent, withName]

theorem IsNormal.withName (h : p.IsNormal) (hpart : IsComponent part) : (p.withName part).IsNormal where
  root := h.root
  parts := by
    intro other hother
    rcases List.mem_append.1 hother with hother | hother
    · exact h.parts other (List.dropLast_subset _ hother)
    · rw [List.mem_singleton.1 hother]
      exact hpart

end Rollup.Path
