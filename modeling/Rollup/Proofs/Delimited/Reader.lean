import Rollup.Export
import Mathlib.Tactic.Common

/-!
# A reader of delimited text

The reader goes over a text character by character (`step`). A delimiter ends a field and a record end
ends a record, except between quotes; a quote mark opens a quoted field at the beginning of a field, and
closes it where no other quote mark follows. An empty line is a record without fields. From the records
that are written of fields it gets back the fields, each with whether it stands between quotes
(`run_records`). The exception is a record of one field that is empty and without quotes, since its line
is empty.
-/

namespace Rollup.Delimited

/-- A field as it stands in a text. -/
structure Field where
  isQuoted : Bool
  content : String
  deriving DecidableEq, Repr

/-- What ends fields and records. -/
structure Dialect where
  delimiter : Char
  recordEnds : List Char

/-- Whether a dialect reads what is written with its delimiter: newlines end records, and no other
character has two roles or is unknown to the writer. -/
structure Dialect.Fits (d : Dialect) : Prop where
  newline_mem : '\n' ∈ d.recordEnds
  recordEnds_subset : ∀ c ∈ d.recordEnds, c = '\n' ∨ c = '\r'
  delimiter_ne_quote : d.delimiter ≠ '"'
  delimiter_not_mem : d.delimiter ∉ d.recordEnds

/-! ## Reading -/

/-- Where a reader stands in a field: in a field without quotes, perhaps at its beginning; between
quotes; or behind a quote mark that ends the field if no other one follows. -/
inductive Mode
  | plain (cs : List Char)
  | inside (cs : List Char)
  | closing (cs : List Char)

structure State where
  records : List (List Field)
  /-- The fields of the record that is not ended. -/
  fields : List Field
  mode : Mode

namespace State

/-- Behind records and fields, at the beginning of a field. -/
def fresh (records : List (List Field)) (fields : List Field) : State := ⟨records, fields, .plain []⟩

/-- The fields of a line. An empty line has none. -/
def recordOf (fields : List Field) : List Field := if fields = [⟨false, ""⟩] then [] else fields

/-- Ends a field by a delimiter or with its record. -/
def finish? (d : Dialect) (s : State) (f : Field) (c : Char) : Option State :=
  if c = d.delimiter then some (fresh s.records (s.fields ++ [f]))
  else if c ∈ d.recordEnds then some (fresh (s.records ++ [recordOf (s.fields ++ [f])]) [])
  else none

def step (d : Dialect) (s : State) (c : Char) : Option State :=
  match s.mode with
  | .plain cs =>
    if c = '"' ∧ cs = [] then some { s with mode := .inside [] }
    else (s.finish? d ⟨false, String.ofList cs⟩ c).or (some { s with mode := .plain (cs ++ [c]) })
  | .inside cs => some { s with mode := if c = '"' then .closing cs else .inside (cs ++ [c]) }
  | .closing cs =>
    if c = '"' then some { s with mode := .inside (cs ++ [c]) }
    else s.finish? d ⟨true, String.ofList cs⟩ c

def run (d : Dialect) (s : State) (cs : List Char) : Option State := cs.foldlM (step d) s

/-- The records at the end of a text, of which the last one need not be ended. -/
def records? (s : State) : Option (List (List Field)) :=
  match s.mode with
  | .plain cs =>
    if cs = [] ∧ s.fields = [] then some s.records
    else some (s.records ++ [s.fields ++ [⟨false, String.ofList cs⟩]])
  | .inside _ => none
  | .closing cs => some (s.records ++ [s.fields ++ [⟨true, String.ofList cs⟩]])

end State

/-- The records of a text. -/
def read? (d : Dialect) (s : String) : Option (List (List Field)) :=
  (State.run d (.fresh [] []) s.toList).bind State.records?

/-! ## Writing fields -/

namespace Field

/-- A field as it is written. -/
def chars (f : Field) : List Char :=
  if f.isQuoted then quoted f.content.toList else f.content.toList

/-- Whether a field has quotes where it needs them. -/
def Proper (delimiter : Char) (f : Field) : Prop :=
  f.isQuoted = false → needsQuotes delimiter f.content.toList = false

/-- The field that has quotes only where it has to. -/
def minimal (delimiter : Char) (s : String) : Field := ⟨needsQuotes delimiter s.toList, s⟩

theorem proper_minimal (delimiter : Char) (s : String) : (minimal delimiter s).Proper delimiter := id

end Field

/-! ## Reading what was written -/

namespace State
variable {d : Dialect} {records : List (List Field)} {fields : List Field} {f : Field} {c : Char}

theorem run_append (d : Dialect) (s : State) (as bs : List Char) :
    run d s (as ++ bs) = (run d s as).bind fun t => run d t bs := List.foldlM_append

theorem run_singleton (d : Dialect) (s : State) (c : Char) : run d s [c] = s.step d c := by
  simp [run]

/-- No text between quotes is taken for their end. -/
theorem run_encode (d : Dialect) (records : List (List Field)) (fields : List Field) (done cs : List Char) :
    run d ⟨records, fields, .inside done⟩ (Text.Quoted.encode '"' cs) =
      some ⟨records, fields, .inside (done ++ cs)⟩ := by
  induction cs generalizing done with
  | nil => rw [List.append_nil]; rfl
  | cons c cs ih =>
    have hdone : done ++ c :: cs = (done ++ [c]) ++ cs := by simp
    rw [hdone, ← ih (done ++ [c]), Text.Quoted.encode]
    split_ifs with hc
    · subst hc
      rfl
    · have hstep : step d ⟨records, fields, .inside done⟩ c =
          some ⟨records, fields, .inside (done ++ [c])⟩ := by simp [step, hc]
      simp [run, hstep]

theorem run_quoted (d : Dialect) (records : List (List Field)) (fields : List Field) (cs : List Char) :
    run d (fresh records fields) (quoted cs) = some ⟨records, fields, .closing cs⟩ := by
  have hopen : run d (fresh records fields) ['"'] = some ⟨records, fields, .inside []⟩ := by
    simp [run, step, fresh]
  have hclose : run d ⟨records, fields, .inside cs⟩ ['"'] = some ⟨records, fields, .closing cs⟩ := by
    simp [run, step]
  show run d _ (['"'] ++ (Text.Quoted.encode '"' cs ++ ['"'])) = _
  rw [run_append, hopen, Option.bind_some, run_append, run_encode, Option.bind_some, List.nil_append,
    hclose]

theorem run_plain (h : ∀ c ∈ cs, c ≠ '"' ∧ c ≠ d.delimiter ∧ c ∉ d.recordEnds)
    (records : List (List Field)) (fields : List Field) (done : List Char) :
    run d ⟨records, fields, .plain done⟩ cs = some ⟨records, fields, .plain (done ++ cs)⟩ := by
  induction cs generalizing done with
  | nil => rw [List.append_nil]; rfl
  | cons c cs ih =>
    obtain ⟨hquote, hdelimiter, hend⟩ := h c List.mem_cons_self
    have hstep : step d ⟨records, fields, .plain done⟩ c =
        some ⟨records, fields, .plain (done ++ [c])⟩ := by
      simp [step, finish?, hquote, hdelimiter, hend]
    have hdone : done ++ c :: cs = (done ++ [c]) ++ cs := by simp
    rw [hdone, ← ih (fun a ha => h a (List.mem_cons_of_mem _ ha)) (done ++ [c])]
    simp [run, hstep]

theorem mem_of_needsQuotes_eq_false (hd : d.Fits) {cs : List Char}
    (h : needsQuotes d.delimiter cs = false) :
    ∀ c ∈ cs, c ≠ '"' ∧ c ≠ d.delimiter ∧ c ∉ d.recordEnds := by
  intro c hc
  unfold needsQuotes at h
  have hc := List.any_eq_false.1 h c hc
  simp only [Bool.or_eq_true, decide_eq_true_eq, not_or] at hc
  obtain ⟨⟨⟨hdelimiter, hquote⟩, hnewline⟩, hreturn⟩ := hc
  refine ⟨hquote, hdelimiter, fun hend => ?_⟩
  rcases hd.recordEnds_subset c hend with rfl | rfl
  · exact hnewline rfl
  · exact hreturn rfl

/-- A field is read up to the character that ends it. -/
theorem run_field (hd : d.Fits) (hf : f.Proper d.delimiter)
    (hc : c = d.delimiter ∨ c ∈ d.recordEnds) :
    run d (fresh records fields) (f.chars ++ [c]) = (fresh records fields).finish? d f c := by
  have hquote : c ≠ '"' := by
    rcases hc with rfl | hc
    · exact hd.delimiter_ne_quote
    · rcases hd.recordEnds_subset c hc with rfl | rfl <;> decide
  obtain ⟨isQuoted, content⟩ := f
  cases isQuoted with
  | true =>
    show run d _ (quoted content.toList ++ [c]) = _
    rw [run_append, run_quoted, Option.bind_some, run_singleton]
    simp [step, hquote, finish?, fresh]
  | false =>
    show run d _ (content.toList ++ [c]) = _
    have hplain := run_plain (mem_of_needsQuotes_eq_false hd (hf rfl)) records fields []
    rw [run_append, fresh, hplain, Option.bind_some, run_singleton]
    rcases hc with rfl | hc
    · simp [step, hquote, finish?]
    · have hne : c ≠ d.delimiter := fun h => hd.delimiter_not_mem (h ▸ hc)
      simp [step, hquote, finish?, hne, hc]

theorem finish?_delimiter (d : Dialect) (f : Field) :
    (fresh records fields).finish? d f d.delimiter = some (fresh records (fields ++ [f])) := if_pos rfl

theorem finish?_newline (hd : d.Fits) (f : Field) : (fresh records fields).finish? d f '\n' =
    some (fresh (records ++ [recordOf (fields ++ [f])]) []) := by
  have hne : '\n' ≠ d.delimiter := fun h => hd.delimiter_not_mem (h ▸ hd.newline_mem)
  rw [finish?, if_neg hne, if_pos hd.newline_mem]
  rfl

/-- By induction on the fields that are not read yet. -/
theorem run_fields (hd : d.Fits) (records : List (List Field)) {more : List Field}
    (hf : f.Proper d.delimiter) (hmore : ∀ g ∈ more, g.Proper d.delimiter) :
    run d (fresh records fields) (record d.delimiter ((f :: more).map Field.chars)) =
      some (fresh (records ++ [recordOf (fields ++ f :: more)]) []) := by
  induction more generalizing f fields with
  | nil =>
    have hwritten : record d.delimiter ([f].map Field.chars) = f.chars ++ ['\n'] := by simp [record]
    rw [hwritten, run_field hd hf (.inr hd.newline_mem), finish?_newline hd]
  | cons g more ih =>
    have hwritten : record d.delimiter ((f :: g :: more).map Field.chars) =
        f.chars ++ [d.delimiter] ++ record d.delimiter ((g :: more).map Field.chars) := by
      simp [record, List.intercalate_cons_cons]
    have hfields : fields ++ f :: g :: more = (fields ++ [f]) ++ g :: more := by simp
    rw [hwritten, run_append, run_field hd hf (.inl rfl), finish?_delimiter, Option.bind_some, hfields]
    exact ih (hmore g List.mem_cons_self) fun a ha => hmore a (List.mem_cons_of_mem _ ha)

theorem run_record (hd : d.Fits) (records : List (List Field)) (h : ∀ f ∈ fields, f.Proper d.delimiter) :
    run d (fresh records []) (record d.delimiter (fields.map Field.chars)) =
      some (fresh (records ++ [recordOf fields]) []) := by
  cases fields with
  | nil =>
    have hempty := @run_field d records [] ⟨false, ""⟩ '\n' hd (fun _ => rfl) (.inr hd.newline_mem)
    rw [finish?_newline hd] at hempty
    exact hempty
  | cons f more =>
    exact run_fields hd records (h f List.mem_cons_self) fun g hg => h g (List.mem_cons_of_mem _ hg)

/-- By induction on the records that are not read yet. -/
theorem run_records (hd : d.Fits) (records : List (List Field)) {more : List (List Field)}
    (h : ∀ fields ∈ more, ∀ f ∈ fields, f.Proper d.delimiter) :
    run d (fresh records []) (more.map fun fields => record d.delimiter (fields.map Field.chars)).flatten =
      some (fresh (records ++ more.map recordOf) []) := by
  induction more generalizing records with
  | nil => rw [List.map_nil, List.map_nil, List.append_nil]; rfl
  | cons fields more ih =>
    have hrest := ih (records ++ [recordOf fields]) fun a ha => h a (List.mem_cons_of_mem _ ha)
    rw [List.map_cons, List.flatten_cons, run_append, run_record hd records (h fields List.mem_cons_self),
      Option.bind_some, hrest, List.map_cons, List.append_assoc, List.singleton_append]

end State

end Rollup.Delimited
