import Rollup.Files
import Rollup.Json.Reader
import Mathlib.Data.List.Nodup
import Mathlib.Tactic.IntervalCases

/-!
# JSON text reads back

What is written as JSON text is read as the value that it was written for (`parse_render`), for values
made of nothing, texts, lists and records whose keys are distinct. Strings may hold any characters. The
reader does not look at what follows a value, so a text can be read where it stands inside another
(`parse_member`).
-/

namespace Rollup.Json

/-- A value made of nothing, texts, lists and records without repeated keys. -/
inductive Plain : Value → Prop
  | null : Plain .null
  | text (s : String) : Plain (.text s)
  | list {vs : List Value} (h : ∀ v ∈ vs, Plain v) : Plain (.list vs)
  | record {fields : List (String × Value)} (hkeys : (fields.map (·.1)).Nodup)
      (h : ∀ m ∈ fields, Plain m.2) : Plain (.record fields)

/-- A layout that writes characters as they are, and nothing but blanks besides the marks. -/
structure Layout.IsPlain (layout : Layout) : Prop where
  colon : ∃ n, layout.colon = ':' :: List.replicate n ' '
  comma : ∃ n, layout.comma = ',' :: List.replicate n ' '
  asciiOnly : layout.asciiOnly = false

theorem Layout.compact_isPlain : Layout.compact.IsPlain := ⟨⟨0, rfl⟩, ⟨0, rfl⟩, rfl⟩

theorem Layout.pretty_isPlain : Layout.pretty.IsPlain := ⟨⟨1, rfl⟩, ⟨0, rfl⟩, rfl⟩

/-! ## Blanks -/

theorem skipSpace_cons {c : Char} (h : isSpace c = false) (cs : List Char) :
    skipSpace (c :: cs) = c :: cs := List.dropWhile_cons_of_neg (by simp [h])

theorem skipSpace_append {blanks : List Char} (h : ∀ c ∈ blanks, isSpace c) (cs : List Char) :
    skipSpace (blanks ++ cs) = skipSpace cs := List.dropWhile_append_of_pos h

theorem isSpace_replicate (n : Nat) : ∀ c ∈ List.replicate n ' ', isSpace c := by
  intro c hc
  obtain rfl := List.eq_of_mem_replicate hc
  rfl

theorem isSpace_newline (layout : Layout) (level : Nat) : ∀ c ∈ newline layout level, isSpace c := by
  unfold newline
  split
  · simp
  · exact List.forall_mem_cons.2 ⟨rfl, isSpace_replicate _⟩

/-! ## Strings -/

theorem readUnit?_control {n : Nat} (h : n < 0x20) (cs : List Char) :
    readUnit? (Literal.hexDigits 4 n ++ cs) = some (n, cs) := by
  interval_cases n <;> rfl

theorem readUnicode_control {c : Char} (h : c.toNat < 0x20) (cs : List Char) :
    readUnicode (Literal.hexDigits 4 c.toNat ++ cs) = .ok (c, cs) := by
  have hlow : ¬ 0xD800 ≤ c.toNat := by omega
  have hhigh : ¬ 0xDC00 ≤ c.toNat := by omega
  simp [readUnicode, readUnit?_control h, hlow, hhigh, Char.ofNat_toNat]

/-- A character is written as it is, as an escape of one letter or as a unicode escape. -/
theorem escape_cases (c : Char) :
    escape false c = [c] ∧ c ≠ '"' ∧ c ≠ '\\' ∧ 0x20 ≤ c.toNat ∨
      (∃ e, escape false c = ['\\', e] ∧ simpleEscape? e = some c ∧ e ≠ 'u') ∨
      escape false c = '\\' :: 'u' :: Literal.hexDigits 4 c.toNat ∧ c.toNat < 0x20 := by
  unfold escape
  rw [Bool.false_and, if_neg Bool.false_ne_true]
  by_cases hcontrol : c.toNat < 0x20
  · have hunit : charEscape c = '\\' :: 'u' :: Literal.hexDigits 4 c.toNat := if_pos (by omega)
    split_ifs
    case neg => exact .inr (.inr ⟨hunit, hcontrol⟩)
    all_goals
      subst c
      exact .inr (.inl ⟨_, rfl, rfl, by decide⟩)
  · split_ifs with hquote hbackslash
    case neg => exact .inl ⟨rfl, hquote, hbackslash, Nat.not_lt.1 hcontrol⟩
    all_goals
      subst c
      exact .inr (.inl ⟨_, rfl, rfl, by decide⟩)

/-- What is written for one character is read as one. -/
theorem readStringBody_escape {opening fuel : Nat} {inside cs rest : List Char} (c : Char)
    (h : readStringBody opening fuel cs = .ok (inside, rest)) :
    readStringBody opening (fuel + 1) (escape false c ++ cs) = .ok (c :: inside, rest) := by
  rcases escape_cases c with ⟨heq, hquote, hbackslash, hcontrol⟩ | ⟨e, heq, hsimple, he⟩ | ⟨heq, hcontrol⟩
  · rw [heq]
    simp [readStringBody, hquote, hbackslash, Nat.not_lt.2 hcontrol, h, bind, Except.bind, pure,
      Except.pure]
  · rw [heq]
    simp [readStringBody, hsimple, h, bind, Except.bind, pure, Except.pure]
  · rw [heq]
    simp [readStringBody, readUnicode_control hcontrol, h, bind, Except.bind, pure, Except.pure]

theorem readStringBody_flatMap {opening fuel : Nat} {cs : List Char} (h : cs.length < fuel)
    (rest : List Char) :
    readStringBody opening fuel (cs.flatMap (escape false) ++ '"' :: rest) = .ok (cs, rest) := by
  induction cs generalizing fuel with
  | nil =>
    obtain ⟨fuel, rfl⟩ := Nat.exists_eq_succ_of_ne_zero (Nat.ne_of_gt h)
    rfl
  | cons c cs ih =>
    obtain ⟨fuel, rfl⟩ := Nat.exists_eq_succ_of_ne_zero (Nat.ne_zero_of_lt h)
    rw [List.flatMap_cons, List.append_assoc]
    exact readStringBody_escape c (ih (Nat.lt_of_succ_lt_succ h))

theorem length_le_flatMap_escape (cs : List Char) : cs.length ≤ (cs.flatMap (escape false)).length := by
  induction cs with
  | nil => exact le_rfl
  | cons c cs ih =>
    have hpos : 0 < (escape false c).length := by
      rcases escape_cases c with ⟨heq, -⟩ | ⟨e, heq, -⟩ | ⟨heq, -⟩ <;> simp [heq]
    rw [List.flatMap_cons, List.length_append, List.length_cons]
    omega

theorem readString_flatMap (cs rest : List Char) :
    readString (cs.flatMap (escape false) ++ '"' :: rest) = .ok (String.ofList cs, rest) := by
  have hlength := length_le_flatMap_escape cs
  have hfuel : cs.length < (cs.flatMap (escape false) ++ '"' :: rest).length + 1 := by
    rw [List.length_append]
    omega
  rw [readString, readStringBody_flatMap hfuel]
  rfl

/-- Reading a string that is written as JSON, after its opening quote. -/
theorem readString_toList (s : String) (rest : List Char) :
    readString (s.toList.flatMap (escape false) ++ '"' :: rest) = .ok (s, rest) := by
  rw [readString_flatMap, String.ofList_toList]

/-! ## Values -/

theorem stringChars_append (cs rest : List Char) :
    stringChars false cs ++ rest = '"' :: (cs.flatMap (escape false) ++ '"' :: rest) := by
  simp [stringChars]

theorem readValue_stringChars (fuel : Nat) (s : String) (rest : List Char) :
    readValue (fuel + 1) (stringChars false s.toList ++ rest) = .ok (.text s, rest) := by
  rw [stringChars_append]
  simp [readValue, readString_toList, bind, Except.bind, pure, Except.pure]

theorem readValue_null (fuel : Nat) (rest : List Char) :
    readValue (fuel + 1) ("null".toList ++ rest) = .ok (.null, rest) := rfl

/-- A text that starts as that of a plain value does: with a name, a string, a list or a record. -/
def Begins (cs : List Char) : Prop := ∃ c rest, cs = c :: rest ∧ c ∈ ['n', '"', '[', '\x7b']

theorem ne_of_mem_beginnings {c : Char} (h : c ∈ ['n', '"', '[', '\x7b']) :
    isSpace c = false ∧ c ≠ ']' ∧ c ≠ '\uFEFF' := by
  simp only [List.mem_cons, List.not_mem_nil, or_false] at h
  rcases h with rfl | rfl | rfl | rfl <;> decide

theorem Begins.append {cs : List Char} (h : Begins cs) (rest : List Char) : Begins (cs ++ rest) := by
  obtain ⟨c, cs, rfl, hc⟩ := h
  exact ⟨c, cs ++ rest, rfl, hc⟩

theorem begins_stringChars (s : String) : Begins (stringChars false s.toList) :=
  ⟨'"', _, rfl, by decide⟩

/-- Blanks before a text are skipped, and nothing of the text itself. -/
theorem Begins.skipSpace_append {blanks cs : List Char} (h : Begins cs)
    (hblanks : ∀ c ∈ blanks, isSpace c) : skipSpace (blanks ++ cs) = cs := by
  obtain ⟨c, cs, rfl, hc⟩ := h
  rw [Json.skipSpace_append hblanks, skipSpace_cons (ne_of_mem_beginnings hc).1]

section
variable {fuel : Nat} {blanks gap cs next rest : List Char} {key : String} {v : Value} {vs : List Value}
variable {members : List (String × Value)}

theorem readValue_list (hblanks : ∀ c ∈ blanks, isSpace c) (hcs : Begins cs)
    (hitems : readItems fuel cs = .ok (vs, rest)) :
    readValue (fuel + 1) ('[' :: (blanks ++ cs)) = .ok (.list vs, rest) := by
  have hskip := hcs.skipSpace_append hblanks
  obtain ⟨c, cs, rfl, hc⟩ := hcs
  have hend := (ne_of_mem_beginnings hc).2.1
  simp [readValue, hskip, hend, hitems, bind, Except.bind, pure, Except.pure]

theorem readItems_last (hblanks : ∀ c ∈ blanks, isSpace c)
    (hv : readValue fuel cs = .ok (v, blanks ++ ']' :: rest)) :
    readItems (fuel + 1) cs = .ok ([v], rest) := by
  simp [readItems, hv, skipSpace_append hblanks, skipSpace_cons, isSpace, bind, Except.bind, pure,
    Except.pure]

theorem readItems_more (hblanks : ∀ c ∈ blanks, isSpace c) (hnext : Begins next)
    (hv : readValue fuel cs = .ok (v, ',' :: (blanks ++ next)))
    (hvs : readItems fuel next = .ok (vs, rest)) :
    readItems (fuel + 1) cs = .ok (v :: vs, rest) := by
  simp [readItems, hv, hnext.skipSpace_append hblanks, hvs, skipSpace_cons, isSpace, bind, Except.bind,
    pure, Except.pure]

theorem readValue_record (hblanks : ∀ c ∈ blanks, isSpace c)
    (hmembers : readMembers fuel (stringChars false key.toList ++ cs) = .ok (members, rest)) :
    readValue (fuel + 1) ('\x7b' :: (blanks ++ (stringChars false key.toList ++ cs))) =
      .ok (.record members, rest) := by
  have hskip := ((begins_stringChars key).append cs).skipSpace_append hblanks
  rw [stringChars_append] at hskip hmembers ⊢
  simp [readValue, hskip, hmembers, bind, Except.bind, pure, Except.pure]

theorem readMembers_last (hgap : ∀ c ∈ gap, isSpace c) (hcs : Begins cs)
    (hblanks : ∀ c ∈ blanks, isSpace c) (hv : readValue fuel cs = .ok (v, blanks ++ '\x7d' :: rest)) :
    readMembers (fuel + 1) (stringChars false key.toList ++ ':' :: (gap ++ cs)) =
      .ok ([(key, v)], rest) := by
  rw [stringChars_append]
  simp [readMembers, readString_toList, hcs.skipSpace_append hgap, hv, skipSpace_append hblanks,
    skipSpace_cons, isSpace, bind, Except.bind, pure, Except.pure]

/-- A member whose key no later one has is put in front of them as it is. -/
theorem consMember_of_not_mem (h : key ∉ members.map (·.1)) :
    consMember key v members = (key, v) :: members := by
  have hother : ∀ m ∈ members, m.1 ≠ key := fun m hm heq => h (heq ▸ List.mem_map_of_mem hm)
  have hlookup : lookup? key members = none := by
    clear h
    induction members with
    | nil => rfl
    | cons m members ih =>
      obtain ⟨hm, hmembers⟩ := List.forall_mem_cons.1 hother
      rw [lookup?, if_neg hm, ih hmembers]
  have hfilter : members.filter (·.1 ≠ key) = members :=
    List.filter_eq_self.2 fun m hm => by simpa using hother m hm
  rw [consMember, hlookup, hfilter]
  rfl

theorem readMembers_more (hgap : ∀ c ∈ gap, isSpace c) (hcs : Begins cs)
    (hblanks : ∀ c ∈ blanks, isSpace c) (hnext : Begins next)
    (hv : readValue fuel cs = .ok (v, ',' :: (blanks ++ next)))
    (hmembers : readMembers fuel next = .ok (members, rest)) (hkey : key ∉ members.map (·.1)) :
    readMembers (fuel + 1) (stringChars false key.toList ++ ':' :: (gap ++ cs)) =
      .ok ((key, v) :: members, rest) := by
  rw [stringChars_append, ← consMember_of_not_mem hkey]
  simp [readMembers, readString_toList, hcs.skipSpace_append hgap, hv, hnext.skipSpace_append hblanks,
    hmembers, skipSpace_cons, isSpace, bind, Except.bind, pure, Except.pure]

end

/-! ## What is written is read -/

/-- What is written for a value is read as that value, whatever follows. -/
structure ReadsBack (layout : Layout) (v : Value) : Prop where
  begins : ∀ level, Begins (chars layout level v)
  readValue : ∀ level fuel rest, (chars layout level v).length ≤ fuel →
    readValue fuel (chars layout level v ++ rest) = .ok (v, rest)

variable {layout : Layout}

theorem isSpace_gap (n : Nat) (layout : Layout) (level : Nat) :
    ∀ c ∈ List.replicate n ' ' ++ newline layout level, isSpace c := by
  intro c hc
  rcases List.mem_append.1 hc with hc | hc
  · exact isSpace_replicate n c hc
  · exact isSpace_newline layout level c hc

theorem readItems_chars (hlayout : layout.IsPlain) {v : Value} {vs : List Value}
    (h : ∀ w ∈ v :: vs, ReadsBack layout w) {level fuel : Nat}
    (hfuel : (chars layout level v ++ itemChars layout level vs).length < fuel) {blanks : List Char}
    (hblanks : ∀ c ∈ blanks, isSpace c) (rest : List Char) :
    readItems fuel (chars layout level v ++ (itemChars layout level vs ++ (blanks ++ ']' :: rest))) =
      .ok (v :: vs, rest) := by
  obtain ⟨n, hcomma⟩ := hlayout.comma
  induction vs generalizing v fuel with
  | nil =>
    obtain ⟨fuel, rfl⟩ := Nat.exists_eq_succ_of_ne_zero (Nat.ne_zero_of_lt hfuel)
    have hlength : (chars layout level v).length ≤ fuel := by
      simpa [itemChars, Nat.lt_succ_iff] using hfuel
    exact readItems_last hblanks ((h v List.mem_cons_self).readValue level fuel _ hlength)
  | cons w vs ih =>
    obtain ⟨fuel, rfl⟩ := Nat.exists_eq_succ_of_ne_zero (Nat.ne_zero_of_lt hfuel)
    have hw := h w (List.mem_cons_of_mem v List.mem_cons_self)
    have hitems : itemChars layout level (w :: vs) = ',' :: (List.replicate n ' ' ++
        newline layout level ++ (chars layout level w ++ itemChars layout level vs)) := by
      simp [itemChars, hcomma]
    rw [hitems] at hfuel ⊢
    simp only [List.length_append, List.length_cons] at hfuel
    have hlength : (chars layout level w ++ itemChars layout level vs).length < fuel := by
      rw [List.length_append]
      omega
    have hvs := ih (fun u hu => h u (List.mem_cons_of_mem v hu)) hlength
    have hv := (h v List.mem_cons_self).readValue level fuel (',' :: (List.replicate n ' ' ++
      newline layout level ++ (chars layout level w ++ (itemChars layout level vs ++
        (blanks ++ ']' :: rest))))) (by omega)
    have hmore := readItems_more (isSpace_gap n layout level) ((hw.begins level).append _) hv hvs
    simpa only [List.append_assoc, List.cons_append] using hmore

theorem readMembers_chars (hlayout : layout.IsPlain) {key : String} {v : Value}
    {members : List (String × Value)} (h : ∀ m ∈ (key, v) :: members, ReadsBack layout m.2)
    (hkeys : (((key, v) :: members).map (·.1)).Nodup) {level fuel : Nat}
    (hfuel : (stringChars false key.toList ++ (layout.colon ++ (chars layout level v ++
      memberChars layout level members))).length < fuel)
    {blanks : List Char} (hblanks : ∀ c ∈ blanks, isSpace c) (rest : List Char) :
    readMembers fuel (stringChars false key.toList ++ (layout.colon ++ (chars layout level v ++
      (memberChars layout level members ++ (blanks ++ '\x7d' :: rest))))) =
        .ok ((key, v) :: members, rest) := by
  obtain ⟨n, hcomma⟩ := hlayout.comma
  obtain ⟨k, hcolon⟩ := hlayout.colon
  have hgap := isSpace_replicate k
  rw [hcolon] at hfuel ⊢
  induction members generalizing key v fuel with
  | nil =>
    obtain ⟨fuel, rfl⟩ := Nat.exists_eq_succ_of_ne_zero (Nat.ne_zero_of_lt hfuel)
    have hv : ReadsBack layout v := h (key, v) List.mem_cons_self
    simp only [List.length_append, List.length_cons] at hfuel
    exact readMembers_last hgap ((hv.begins level).append _) hblanks
      (hv.readValue level fuel _ (by omega))
  | cons m members ih =>
    obtain ⟨other, w⟩ := m
    obtain ⟨fuel, rfl⟩ := Nat.exists_eq_succ_of_ne_zero (Nat.ne_zero_of_lt hfuel)
    have hv : ReadsBack layout v := h (key, v) List.mem_cons_self
    obtain ⟨hkey, hkeys⟩ := List.nodup_cons.1 hkeys
    have hmembers : memberChars layout level ((other, w) :: members) =
        ',' :: (List.replicate n ' ' ++ newline layout level ++ (stringChars false other.toList ++
          (':' :: List.replicate k ' ' ++ (chars layout level w ++ memberChars layout level members)))) := by
      simp [memberChars, hcomma, hcolon, hlayout.asciiOnly]
    rw [hmembers] at hfuel ⊢
    simp only [List.length_append, List.length_cons] at hfuel
    have hlength : (stringChars false other.toList ++ (':' :: List.replicate k ' ' ++
        (chars layout level w ++ memberChars layout level members))).length < fuel := by
      simp only [List.length_append, List.length_cons]
      omega
    have hmore := ih (fun u hu => h u (List.mem_cons_of_mem _ hu)) hkeys hlength
    have hvalue := hv.readValue level fuel (',' :: (List.replicate n ' ' ++ newline layout level ++
      (stringChars false other.toList ++ (':' :: List.replicate k ' ' ++ (chars layout level w ++
        (memberChars layout level members ++ (blanks ++ '\x7d' :: rest))))))) (by omega)
    have hall := readMembers_more hgap ((hv.begins level).append _) (isSpace_gap n layout level)
      ((begins_stringChars other).append _) hvalue hmore hkey
    simpa only [List.append_assoc, List.cons_append] using hall

theorem readsBack_null (layout : Layout) : ReadsBack layout .null where
  begins _ := ⟨'n', _, rfl, by decide⟩
  readValue level fuel rest hfuel := by
    obtain ⟨fuel, rfl⟩ := Nat.exists_eq_succ_of_ne_zero (Nat.ne_zero_of_lt hfuel)
    exact readValue_null fuel rest

theorem readsBack_text (hlayout : layout.IsPlain) (s : String) : ReadsBack layout (.text s) := by
  have hchars (level : Nat) : chars layout level (.text s) = stringChars false s.toList := by
    rw [chars, hlayout.asciiOnly]
  refine ⟨fun level => hchars level ▸ begins_stringChars s, fun level fuel rest hfuel => ?_⟩
  rw [hchars] at hfuel ⊢
  obtain ⟨fuel, rfl⟩ := Nat.exists_eq_succ_of_ne_zero (Nat.ne_zero_of_lt hfuel)
  exact readValue_stringChars fuel s rest

theorem readsBack_list (hlayout : layout.IsPlain) {vs : List Value} (h : ∀ v ∈ vs, ReadsBack layout v) :
    ReadsBack layout (.list vs) := by
  refine ⟨fun level => ?_, fun level fuel rest hfuel => ?_⟩
  · cases vs <;> exact ⟨'[', _, rfl, by decide⟩
  · cases vs with
    | nil =>
      obtain ⟨fuel, rfl⟩ := Nat.exists_eq_succ_of_ne_zero (Nat.ne_zero_of_lt hfuel)
      rfl
    | cons v vs =>
      -- The bracket takes one step of the fuel and is one of the characters that it is counted by.
      obtain ⟨fuel, rfl⟩ := Nat.exists_eq_succ_of_ne_zero (Nat.ne_zero_of_lt hfuel)
      have hv := (h v List.mem_cons_self).begins (level + 1)
      rw [chars] at hfuel ⊢
      simp only [List.length_append, List.length_cons] at hfuel
      have hlength : (chars layout (level + 1) v ++ itemChars layout (level + 1) vs).length < fuel := by
        rw [List.length_append]
        omega
      have hitems := readItems_chars hlayout h hlength (isSpace_newline layout level) rest
      have hlist := readValue_list (isSpace_newline layout (level + 1)) (hv.append _) hitems
      simpa only [List.append_assoc, List.cons_append, List.nil_append] using hlist

theorem readsBack_record (hlayout : layout.IsPlain) {fields : List (String × Value)}
    (hkeys : (fields.map (·.1)).Nodup) (h : ∀ m ∈ fields, ReadsBack layout m.2) :
    ReadsBack layout (.record fields) := by
  refine ⟨fun level => ?_, fun level fuel rest hfuel => ?_⟩
  · cases fields <;> exact ⟨'\x7b', _, rfl, by decide⟩
  · cases fields with
    | nil =>
      obtain ⟨fuel, rfl⟩ := Nat.exists_eq_succ_of_ne_zero (Nat.ne_zero_of_lt hfuel)
      rfl
    | cons m members =>
      obtain ⟨key, v⟩ := m
      obtain ⟨fuel, rfl⟩ := Nat.exists_eq_succ_of_ne_zero (Nat.ne_zero_of_lt hfuel)
      rw [chars, hlayout.asciiOnly] at hfuel ⊢
      simp only [List.length_append, List.length_cons] at hfuel
      have hlength : (stringChars false key.toList ++ (layout.colon ++ (chars layout (level + 1) v ++
          memberChars layout (level + 1) members))).length < fuel := by
        simp only [List.length_append]
        omega
      have hmembers := readMembers_chars hlayout h hkeys hlength (isSpace_newline layout level) rest
      have hrecord := readValue_record (isSpace_newline layout (level + 1)) hmembers
      simpa only [List.append_assoc, List.cons_append, List.nil_append] using hrecord

/-- What is written for a plain value is read as that value wherever it stands. -/
theorem Plain.readsBack (hlayout : layout.IsPlain) {v : Value} (h : Plain v) : ReadsBack layout v := by
  induction h with
  | null => exact readsBack_null layout
  | text s => exact readsBack_text hlayout s
  | list _ ih => exact readsBack_list hlayout ih
  | record hkeys _ ih => exact readsBack_record hlayout hkeys ih

theorem parseChars_of_readValue {cs : List Char} {v : Value} (hcs : Begins cs)
    (h : ∀ fuel, cs.length ≤ fuel → readValue fuel cs = .ok (v, [])) : parseChars cs = .ok v := by
  have hskip : skipSpace cs = cs := hcs.skipSpace_append (List.forall_mem_nil _)
  have hread := h (2 * cs.length + 2) (by omega)
  obtain ⟨c, cs, rfl, hc⟩ := hcs
  have hmark := (ne_of_mem_beginnings hc).2.2
  unfold parseChars
  split
  case h_1 cs' heq => exact absurd (List.cons.inj heq).1 hmark
  · rw [hskip, hread]
    rfl

/-- What is written for a plain value is read as that value. -/
theorem parse_render (hlayout : layout.IsPlain) {v : Value} (h : Plain v) :
    parse (render layout v) = .ok v := by
  have hback := h.readsBack hlayout
  rw [parse, render, String.toList_ofList]
  refine parseChars_of_readValue (hback.begins 0) fun fuel hfuel => ?_
  have hread := hback.readValue 0 fuel [] hfuel
  rwa [List.append_nil] at hread

/-- The text of a plain value may also stand in a record, under a key. -/
theorem parse_member (hlayout : layout.IsPlain) {v : Value} (h : Plain v) (key : String)
    {gap : List Char} (hgap : ∀ c ∈ gap, isSpace c) :
    parse ("\x7b" ++ String.ofList (stringChars false key.toList) ++ ":" ++ String.ofList gap ++
      render layout v ++ "\x7d") = .ok (.record [(key, v)]) := by
  have hback := h.readsBack hlayout
  have htext : ("\x7b" ++ String.ofList (stringChars false key.toList) ++ ":" ++ String.ofList gap ++
      render layout v ++ "\x7d").toList = '\x7b' :: ([] ++ (stringChars false key.toList ++
        ':' :: (gap ++ (chars layout 0 v ++ ([] ++ '\x7d' :: []))))) := by
    simp [render]
  rw [parse, htext]
  refine parseChars_of_readValue ⟨'\x7b', _, rfl, by decide⟩ fun fuel hfuel => ?_
  obtain ⟨fuel, rfl⟩ := Nat.exists_eq_succ_of_ne_zero (Nat.ne_zero_of_lt hfuel)
  simp only [List.length_append, List.length_cons] at hfuel
  obtain ⟨fuel, rfl⟩ : ∃ n, fuel = n + 1 := Nat.exists_eq_succ_of_ne_zero (by omega)
  have hv := hback.readValue 0 fuel ([] ++ '\x7d' :: []) (by omega)
  exact readValue_record (by simp) (readMembers_last hgap ((hback.begins 0).append _) (by simp) hv)

/-! ## Control characters -/

/-- Whether a text has no control characters but newlines. -/
def Calm (cs : List Char) : Prop := ∀ c ∈ cs, c = '\n' ∨ 0x20 ≤ c.toNat

theorem calm_append {cs ds : List Char} : Calm (cs ++ ds) ↔ Calm cs ∧ Calm ds := List.forall_mem_append

theorem calm_cons {c : Char} {cs : List Char} :
    Calm (c :: cs) ↔ (c = '\n' ∨ 0x20 ≤ c.toNat) ∧ Calm cs := List.forall_mem_cons

theorem calm_nil : Calm [] := List.forall_mem_nil _

theorem calm_replicate (n : Nat) : Calm (List.replicate n ' ') := by
  intro c hc
  obtain rfl := List.eq_of_mem_replicate hc
  decide

theorem calm_newline (layout : Layout) (level : Nat) : Calm (newline layout level) := by
  unfold newline
  split
  · exact calm_nil
  · exact calm_cons.2 ⟨.inl rfl, calm_replicate _⟩

theorem Layout.IsPlain.calm_comma (hlayout : layout.IsPlain) : Calm layout.comma := by
  obtain ⟨n, hcomma⟩ := hlayout.comma
  exact hcomma ▸ calm_cons.2 ⟨by decide, calm_replicate n⟩

theorem Layout.IsPlain.calm_colon (hlayout : layout.IsPlain) : Calm layout.colon := by
  obtain ⟨n, hcolon⟩ := hlayout.colon
  exact hcolon ▸ calm_cons.2 ⟨by decide, calm_replicate n⟩

theorem calm_hexDigits {n : Nat} (h : n < 0x20) : Calm (Literal.hexDigits 4 n) := by
  have hall : (Literal.hexDigits 4 n).all fun c => 0x20 ≤ c.toNat := by interval_cases n <;> rfl
  exact fun c hc => .inr (of_decide_eq_true (List.all_eq_true.1 hall c hc))

/-- Control characters are escaped. -/
theorem calm_escape (c : Char) : Calm (escape false c) := by
  rcases escape_cases c with ⟨heq, -, -, hcontrol⟩ | ⟨e, heq, hsimple, -⟩ | ⟨heq, hcontrol⟩
  · exact heq ▸ List.forall_mem_singleton.2 (.inr hcontrol)
  · have he : 0x20 ≤ e.toNat := by
      unfold simpleEscape? at hsimple
      split at hsimple <;> first | decide | cases hsimple
    rw [heq]
    exact calm_cons.2 ⟨by decide, List.forall_mem_singleton.2 (.inr he)⟩
  · rw [heq]
    exact calm_cons.2 ⟨by decide, calm_cons.2 ⟨by decide, calm_hexDigits hcontrol⟩⟩

theorem calm_stringChars (cs : List Char) : Calm (stringChars false cs) := by
  refine calm_cons.2 ⟨by decide, calm_append.2 ⟨fun c hc => ?_, calm_cons.2 ⟨by decide, calm_nil⟩⟩⟩
  obtain ⟨d, -, hd⟩ := List.mem_flatMap.1 hc
  exact calm_escape d c hd

theorem calm_itemChars (hlayout : layout.IsPlain) {level : Nat} {vs : List Value}
    (h : ∀ v ∈ vs, Calm (chars layout level v)) : Calm (itemChars layout level vs) := by
  induction vs with
  | nil => simp [itemChars, Calm]
  | cons v vs ih =>
    obtain ⟨hv, hvs⟩ := List.forall_mem_cons.1 h
    simp only [itemChars, calm_append]
    exact ⟨⟨⟨hlayout.calm_comma, calm_newline layout level⟩, hv⟩, ih hvs⟩

theorem calm_memberChars (hlayout : layout.IsPlain) {level : Nat} {members : List (String × Value)}
    (h : ∀ m ∈ members, Calm (chars layout level m.2)) : Calm (memberChars layout level members) := by
  induction members with
  | nil => simp [memberChars, Calm]
  | cons m members ih =>
    obtain ⟨hv, hmembers⟩ := List.forall_mem_cons.1 h
    simp only [memberChars, hlayout.asciiOnly, calm_append]
    exact ⟨⟨⟨⟨⟨hlayout.calm_comma, calm_newline layout level⟩, calm_stringChars _⟩, hlayout.calm_colon⟩, hv⟩,
      ih hmembers⟩

/-- The text of a plain value has no control characters but the newlines between its lines. -/
theorem Plain.calm_chars (hlayout : layout.IsPlain) {v : Value} (h : Plain v) (level : Nat) :
    Calm (chars layout level v) := by
  induction h generalizing level with
  | null => simp [chars, Calm]
  | text s =>
    rw [chars, hlayout.asciiOnly]
    exact calm_stringChars _
  | @list vs _ ih =>
    cases vs with
    | nil => simp [chars, Calm]
    | cons v vs =>
      have hitems := calm_itemChars hlayout fun w hw => ih w (List.mem_cons_of_mem v hw) (level + 1)
      simp only [chars, calm_cons, calm_append]
      exact ⟨by decide, ⟨⟨⟨calm_newline _ _, ih v List.mem_cons_self _⟩, hitems⟩, calm_newline _ _⟩, by decide,
        calm_nil⟩
  | @record fields _ _ ih =>
    cases fields with
    | nil => simp [chars, Calm]
    | cons m members =>
      have hmembers := calm_memberChars hlayout fun w hw => ih w (List.mem_cons_of_mem m hw) (level + 1)
      simp only [chars, hlayout.asciiOnly, calm_cons, calm_append]
      exact ⟨by decide, ⟨⟨⟨⟨⟨calm_newline _ _, calm_stringChars _⟩, hlayout.calm_colon⟩,
        ih m List.mem_cons_self _⟩, hmembers⟩, calm_newline _ _⟩, by decide, calm_nil⟩

theorem Calm.not_mem {cs : List Char} (h : Calm cs) : '\r' ∉ cs := fun hmem => absurd (h _ hmem) (by decide)

end Rollup.Json

namespace Rollup.Files

/-- A text without carriage returns is seen as it is. -/
theorem normalizeLineEnds_eq_self {cs : List Char} (h : '\r' ∉ cs) : normalizeLineEnds cs = cs := by
  fun_induction normalizeLineEnds cs with
  | case1 => rfl
  | case2 cs ih => simp at h
  | case3 cs _ ih => simp at h
  | case4 c cs _ _ ih => rw [ih fun hmem => h (List.mem_cons_of_mem c hmem)]

end Rollup.Files
