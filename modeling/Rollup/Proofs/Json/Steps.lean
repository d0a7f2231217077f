import Rollup.Number.Decimal
import Rollup.Proofs.Json.Path
import Rollup.Proofs.Text.Split

/-!
# Paths of several steps

A path can lead further into a value than to a member of it: every dot takes the key of a member, and brackets
take the place of an item. A path leads along one list of steps at most (`Json.Path.Leads.unique`), and the
path to a key is the one step to the member under this key, whatever stands in it
(`Json.Path.ofKey_leads_to_key`).
-/

namespace Rollup.Json.Path

/-- A step into a value: to the member under a key or to the item at a place. -/
inductive Step
  | member (key : String)
  | item (place : Nat)
  deriving DecidableEq, Repr

/-- What stands between quotes for a key. A backslash takes the next character for itself. -/
inductive Escaped : List Char → List Char → Prop
  | nil : Escaped [] []
  | plain {c : Char} {cs key : List Char} (hquote : c ≠ '"') (hslash : c ≠ '\\') (h : Escaped cs key) :
    Escaped (c :: cs) (c :: key)
  | slash {cs key : List Char} (c : Char) (h : Escaped cs key) : Escaped ('\\' :: c :: cs) (c :: key)

/-- What stands behind a dot for a key. -/
inductive Names : List Char → List Char → Prop
  | bare {key : List Char} (hne : key ≠ []) (h : ∀ c ∈ key, c.isAlphanum ∨ c = '_') : Names key key
  | quoted {cs key : List Char} (h : Escaped cs key) : Names ('"' :: (cs ++ ['"'])) key

/-- The steps that a text behind the root of a path consists of. -/
inductive Continues : List Char → List Step → Prop
  | stop : Continues [] []
  | member {name key cs : List Char} {steps : List Step} (hname : Names name key) (h : Continues cs steps) :
    Continues ('.' :: (name ++ cs)) (.member (String.ofList key) :: steps)
  | item {digits cs : List Char} {steps : List Step} (hne : digits ≠ []) (hdigits : ∀ c ∈ digits, c.isDigit)
      (h : Continues cs steps) :
    Continues ('[' :: (digits ++ ']' :: cs)) (.item (Numeral.digitsValue digits) :: steps)

/-- The steps that a path leads along, from the root of a value on. -/
def Leads (path : String) (steps : List Step) : Prop := ∃ cs, path.toList = '$' :: cs ∧ Continues cs steps

variable {cs cs' body body' rest rest' name name' key key' path : List Char} {steps steps' : List Step}

/-! ## The path to a key -/

theorem isBareChar_iff {c : Char} : isBareChar c ↔ c.isAlphanum ∨ c = '_' := by
  simp [isBareChar]

theorem isBare_iff : isBare key ↔ key ≠ [] ∧ ∀ c ∈ key, c.isAlphanum ∨ c = '_' := by
  simp [isBare, isBareChar]

/-- A quoted key ends at the only quote that no backslash takes. -/
theorem readQuoted_eq_some_iff : readQuoted cs = some key ↔ ∃ body, cs = body ++ ['"'] ∧ Escaped body key := by
  constructor
  · intro h
    fun_induction readQuoted cs generalizing key with
    | case1 => cases h
    | case2 => exact ⟨[], rfl, Option.some.inj h ▸ .nil⟩
    | case3 => cases h
    | case4 c cs ih =>
      obtain ⟨more, hmore, rfl⟩ := Option.map_eq_some_iff.1 h
      obtain ⟨body, rfl, hbody⟩ := ih hmore
      exact ⟨_, rfl, .slash c hbody⟩
    | case5 => cases h
    | case6 c cs hlast hquote hslash hend ih =>
      obtain ⟨more, hmore, rfl⟩ := Option.map_eq_some_iff.1 h
      obtain ⟨body, rfl, hbody⟩ := ih hmore
      refine ⟨c :: body, rfl, .plain hquote ?_ hbody⟩
      rintro rfl
      cases body <;> simp at hslash
  · rintro ⟨body, rfl, hbody⟩
    induction hbody with
    | nil => rfl
    | plain hquote hslash _ ih =>
      rw [List.cons_append, readQuoted_cons hquote hslash, ih]
      rfl
    | slash c _ ih =>
      rw [List.cons_append, List.cons_append, readQuoted, ih]
      rfl

theorem keyChars?_eq_some_iff : keyChars? path = some key ↔
    ∃ name, path = '$' :: '.' :: name ∧ Names name key := by
  constructor
  · intro h
    unfold keyChars? at h
    split at h
    · obtain ⟨body, rfl, hbody⟩ := readQuoted_eq_some_iff.1 h
      exact ⟨_, rfl, .quoted hbody⟩
    · split_ifs at h with hbare
      obtain rfl := Option.some.inj h
      obtain ⟨hne, hall⟩ := isBare_iff.1 hbare
      exact ⟨_, rfl, .bare hne hall⟩
    · cases h
  · rintro ⟨name, rfl, hname⟩
    cases hname with
    | quoted hbody => exact readQuoted_eq_some_iff.2 ⟨_, rfl, hbody⟩
    | bare hne hall =>
      obtain ⟨c, key, rfl⟩ := List.exists_cons_of_ne_nil hne
      have hquote : c ≠ '"' := by
        rintro rfl
        exact absurd (hall '"' List.mem_cons_self) (by decide)
      simp [keyChars?, hquote, isBare_iff.2 ⟨hne, hall⟩]

/-- A path is read as a key exactly if it leads to the member under this key. -/
theorem key?_eq_some_iff {path key : String} : key? path = some key ↔ Leads path [.member key] := by
  unfold key? Leads
  rw [Option.map_eq_some_iff]
  constructor
  · rintro ⟨cs, hcs, rfl⟩
    obtain ⟨name, hpath, hname⟩ := keyChars?_eq_some_iff.1 hcs
    refine ⟨_, hpath, ?_⟩
    have hmember := Continues.member hname .stop
    rwa [List.append_nil] at hmember
  · rintro ⟨cs, hpath, hcs⟩
    cases hcs with
    | member hname hstop =>
      cases hstop
      rw [List.append_nil] at hpath
      exact ⟨_, keyChars?_eq_some_iff.2 ⟨_, hpath, hname⟩, rfl⟩

/-! ## One way to read a path -/

theorem Escaped.unique (h : Escaped body key) (h' : Escaped body' key')
    (heq : body ++ '"' :: rest = body' ++ '"' :: rest') : key = key' ∧ rest = rest' := by
  induction h generalizing body' key' with
  | nil =>
    cases h' with
    | nil => exact ⟨rfl, (List.cons.inj heq).2⟩
    | plain hquote => exact absurd (List.cons.inj heq).1.symm hquote
    | slash c => cases heq
  | plain hquote hslash _ ih =>
    cases h' with
    | nil => exact absurd (List.cons.inj heq).1 hquote
    | plain _ _ hmore =>
      obtain ⟨rfl, htail⟩ := List.cons.inj heq
      obtain ⟨rfl, hrest⟩ := ih hmore htail
      exact ⟨rfl, hrest⟩
    | slash c => exact absurd (List.cons.inj heq).1 hslash
  | slash c _ ih =>
    cases h' with
    | nil => cases heq
    | plain _ hslash => exact absurd (List.cons.inj heq).1.symm hslash
    | slash d hmore =>
      obtain ⟨rfl, htail⟩ := List.cons.inj (List.cons.inj heq).2
      obtain ⟨rfl, hrest⟩ := ih hmore htail
      exact ⟨rfl, hrest⟩

/-- Words that run as far as they can are the same where they begin the same text. -/
theorem eq_of_append_eq {p : Char → Bool} (h : ∀ c ∈ name, p c) (h' : ∀ c ∈ name', p c)
    (hrest : ∀ c ∈ rest.head?, p c = false) (hrest' : ∀ c ∈ rest'.head?, p c = false)
    (heq : name ++ rest = name' ++ rest') : name = name' ∧ rest = rest' := by
  have hword {name rest : List Char} (h : ∀ c ∈ name, p c) (hrest : ∀ c ∈ rest.head?, p c = false) :
      (name ++ rest).takeWhile p = name := by
    cases rest with
    | nil => rw [List.append_nil, List.takeWhile_eq_self_iff.2 h]
    | cons c rest => exact Text.takeWhile_append_cons h (hrest c rfl) rest
  obtain rfl : name = name' := by rw [← hword h hrest, heq, hword h' hrest']
  exact ⟨rfl, List.append_cancel_left heq⟩

theorem Continues.head (h : Continues cs steps) : ∀ c ∈ cs.head?, isBareChar c = false := by
  intro c hc
  cases h with
  | stop => cases hc
  | member | item =>
    obtain rfl := Option.some.inj hc
    decide

theorem Names.unique (h : Names name key) (h' : Names name' key') (hrest : Continues rest steps)
    (hrest' : Continues rest' steps') (heq : name ++ rest = name' ++ rest') : key = key' ∧ rest = rest' := by
  have hquote {key rest more : List Char} (hne : key ≠ []) (hall : ∀ c ∈ key, c.isAlphanum ∨ c = '_') :
      key ++ rest ≠ '"' :: more := by
    obtain ⟨c, key, rfl⟩ := List.exists_cons_of_ne_nil hne
    intro heq
    obtain ⟨rfl, -⟩ := List.cons.inj heq
    exact absurd (hall '"' List.mem_cons_self) (by decide)
  cases h with
  | bare hne hall =>
    cases h' with
    | bare hne' hall' =>
      exact eq_of_append_eq (fun c hc => isBareChar_iff.2 (hall c hc))
        (fun c hc => isBareChar_iff.2 (hall' c hc)) hrest.head hrest'.head heq
    | quoted => exact absurd heq (hquote hne hall)
  | quoted hbody =>
    cases h' with
    | bare hne' hall' => exact absurd heq.symm (hquote hne' hall')
    | quoted hbody' =>
      simp only [List.cons_append, List.append_assoc, List.nil_append] at heq
      exact hbody.unique hbody' (List.cons.inj heq).2

theorem Continues.unique (h : Continues cs steps) (h' : Continues cs steps') : steps = steps' := by
  generalize hcs : cs = cs' at h'
  induction h generalizing cs' steps' with
  | stop =>
    cases h' with
    | stop => rfl
    | member | item => cases hcs
  | member hname hmore ih =>
    cases h' with
    | stop | item => cases hcs
    | member hname' hmore' =>
      obtain ⟨rfl, rfl⟩ := hname.unique hname' hmore hmore' (List.cons.inj hcs).2
      rw [ih _ rfl hmore']
  | item hne hdigits hmore ih =>
    cases h' with
    | stop | member => cases hcs
    | item hne' hdigits' hmore' =>
      have hbracket (cs : List Char) : ∀ c ∈ (']' :: cs).head?, c.isDigit = false := by
        intro c hc
        obtain rfl := Option.some.inj hc
        decide
      obtain ⟨rfl, heq⟩ := eq_of_append_eq hdigits hdigits' (hbracket _) (hbracket _) (List.cons.inj hcs).2
      obtain ⟨-, rfl⟩ := List.cons.inj heq
      rw [ih _ rfl hmore']

/-- A path leads along one list of steps at most. -/
theorem Leads.unique {path : String} (h : Leads path steps) (h' : Leads path steps') : steps = steps' := by
  obtain ⟨cs, hpath, hcs⟩ := h
  obtain ⟨cs', hpath', hcs'⟩ := h'
  obtain ⟨-, rfl⟩ := List.cons.inj (hpath.symm.trans hpath')
  exact hcs.unique hcs'

/-- The path to a key is read as this key, it leads to the member under this key and nowhere else, and it is
the path to no other key. -/
theorem ofKey_leads_to_key (key : String) : key? (ofKey key) = some key ∧
    (∀ steps, Leads (ofKey key) steps ↔ steps = [.member key]) ∧
    ∀ other, ofKey other = ofKey key ↔ other = key := by
  have hleads : Leads (ofKey key) [.member key] := key?_eq_some_iff.1 (key?_ofKey key)
  refine ⟨key?_ofKey key, fun steps => ⟨fun h => h.unique hleads, fun h => h ▸ hleads⟩, fun other => ?_⟩
  refine ⟨fun h => ?_, fun h => h ▸ rfl⟩
  have hother := key?_ofKey other
  rw [h, key?_ofKey key] at hother
  exact (Option.some.inj hother).symm

end Rollup.Json.Path
