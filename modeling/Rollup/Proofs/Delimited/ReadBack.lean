import Rollup.Proofs.Delimited.Reader
import Rollup.Proofs.Except
import Rollup.Proofs.Number.Form

/-!
# Exports read back

The text of an export is read as a record with the column keys and one record for each row, with a field
for each column (`text_reads_back`). A field tells what kind of cell it was written for: nothing is an
empty field without quotes, numbers are without quotes unless the delimiter occurs in them, and all else
is between quotes (`Field.Shows`). What a cell is made of does not matter, nor which character the
delimiter is.
-/

namespace Rollup

namespace Value

/-- Whether a value is written as a number. -/
def isNumeric : Value → Bool
  | .int _ | .double _ | .decimal _ => true
  | _ => false

/-- Whether a value is written as a text. -/
def isTextual : Value → Bool
  | .null | .int _ | .double _ | .decimal _ => false
  | _ => true

end Value

namespace Delimited
variable {delimiter : Char} {columns : List String} {rows : List Row} {r : Row} {v : Value} {s : String}

/-- What a field tells about the cell that it was written for. -/
structure Field.Shows (delimiter : Char) (v : Value) (f : Field) : Prop where
  isEmpty_iff : f = ⟨false, ""⟩ ↔ v = .null
  isQuoted_iff : f.isQuoted ↔ v.isTextual ∨ v.isNumeric ∧ delimiter ∈ f.content.toList
  cellText : v ≠ .null → cellText v = .ok f.content

/-! ## Fields of cells -/

theorem cellText_cases (v : Value) :
    (∃ s, cellText v = .ok s) ∨ cellText v = .error .noTextForm ∧ v.text? = none := by
  cases v with
  | timestamp t => exact .inl ⟨_, rfl⟩
  | _ =>
    unfold cellText Value.textForm
    dsimp only
    split
    · rename_i s hs
      exact .inl ⟨s, rfl⟩
    · rename_i hs
      exact .inr ⟨rfl, hs⟩

theorem cell_of_isTextual (h : v.isTextual) (delimiter : Char) :
    cell delimiter v = do return quoted (← cellText v).toList := by
  cases v with
  | null | int _ | double _ | decimal _ => cases h
  | _ => rfl

theorem cell_of_isNumeric (h : v.isNumeric) (delimiter : Char) :
    cell delimiter v = do return minimal delimiter (← cellText v).toList := by
  cases v with
  | int _ | double _ | decimal _ => rfl
  | _ => cases h

theorem kinds (v : Value) : v = .null ∨ v.isTextual ∧ v.isNumeric = false ∨
    v.isNumeric ∧ v.isTextual = false := by
  cases v <;> simp [Value.isTextual, Value.isNumeric]

theorem written_cellText (h : v.isNumeric) (hs : cellText v = .ok s) : Numeral.Written s.toList := by
  cases v with
  | int n =>
    have htext : (Number.intText? n) = some s := by
      unfold cellText Value.textForm Value.text? Value.literal? at hs
      dsimp only at hs
      split at hs
      · rename_i hn
        rw [hn, Except.ok.inj hs]
      · cases hs
    exact Number.written_intText? htext
  | double x =>
    have htext : String.ofList x.textChars = s := by
      unfold cellText Value.textForm Value.text? Value.literal? at hs
      exact Except.ok.inj hs
    rw [← htext, String.toList_ofList]
    exact x.written_textChars
  | decimal d =>
    have htext : String.ofList d.textChars = s := Except.ok.inj hs
    rw [← htext, String.toList_ofList]
    exact d.written_textChars
  | _ => cases h

/-- Of the characters that numbers are written with, none but the delimiter asks for quotes. -/
theorem needsQuotes_of_written {cs : List Char} (h : Numeral.Written cs) :
    needsQuotes delimiter cs ↔ delimiter ∈ cs := by
  unfold needsQuotes
  rw [List.any_eq_true]
  constructor
  · rintro ⟨c, hc, hspecial⟩
    simp only [Bool.or_eq_true, decide_eq_true_eq] at hspecial
    obtain ((rfl | rfl) | rfl) | rfl := hspecial
    · exact hc
    · exact absurd (h.2 _ hc) (by decide)
    · exact absurd (h.2 _ hc) (by decide)
    · exact absurd (h.2 _ hc) (by decide)
  · exact fun hmem => ⟨delimiter, hmem, by simp⟩

theorem shows_null (delimiter : Char) : Field.Shows delimiter .null ⟨false, ""⟩ :=
  ⟨by simp, by simp [Value.isTextual, Value.isNumeric], fun h => absurd rfl h⟩

theorem shows_quoted (h : v.isTextual) (hs : cellText v = .ok s) :
    Field.Shows delimiter v ⟨true, s⟩ := by
  refine ⟨?_, by simp [h], fun _ => hs⟩
  constructor
  · intro hf
    cases hf
  · rintro rfl
    cases h

theorem shows_minimal (h : v.isNumeric) (htextual : v.isTextual = false) (hs : cellText v = .ok s) :
    Field.Shows delimiter v (.minimal delimiter s) := by
  have hwritten := written_cellText h hs
  refine ⟨?_, ?_, fun _ => hs⟩
  · constructor
    · intro hf
      exact absurd (congrArg (fun f => f.content.toList) hf) hwritten.1
    · rintro rfl
      cases h
  · rw [h, htextual]
    simpa [Field.minimal] using needsQuotes_of_written hwritten

/-- A cell is written as a field that has quotes where it needs them and tells what it was written
for; or it holds something without a text form. -/
theorem cell_cases (delimiter : Char) (v : Value) :
    (∃ f : Field, cell delimiter v = .ok f.chars ∧ f.Proper delimiter ∧ f.Shows delimiter v) ∨
      cell delimiter v = .error .noTextForm ∧ v.text? = none := by
  rcases kinds v with rfl | ⟨htextual, -⟩ | ⟨hnumeric, htextual⟩
  · exact .inl ⟨⟨false, ""⟩, rfl, fun _ => rfl, shows_null delimiter⟩
  · rw [cell_of_isTextual htextual]
    rcases cellText_cases v with ⟨s, hs⟩ | ⟨hs, hnone⟩
    · exact .inl ⟨⟨true, s⟩, by rw [hs]; rfl, nofun, shows_quoted htextual hs⟩
    · exact .inr ⟨by rw [hs]; rfl, hnone⟩
  · rw [cell_of_isNumeric hnumeric]
    rcases cellText_cases v with ⟨s, hs⟩ | ⟨hs, hnone⟩
    · exact .inl ⟨.minimal delimiter s, by rw [hs]; rfl, Field.proper_minimal delimiter s,
        shows_minimal hnumeric htextual hs⟩
    · exact .inr ⟨by rw [hs]; rfl, hnone⟩

/-! ## Records of rows -/

/-- What the fields of a record tell about a row, with one field for each column. -/
def ShowsRow (delimiter : Char) (columns : List String) (r : Row) (fields : List Field) : Prop :=
  List.Forall₂ (fun key f => f.Shows delimiter (r.get key)) columns fields

theorem row_cases (delimiter : Char) (columns : List String) (r : Row) :
    (∃ fields : List Field, row delimiter columns r = .ok (record delimiter (fields.map Field.chars)) ∧
        (∀ f ∈ fields, f.Proper delimiter) ∧ ShowsRow delimiter columns r fields) ∨
      row delimiter columns r = .error .noTextForm ∧ ∃ key ∈ columns, (r.get key).text? = none := by
  have hcells := mapM_cases (fun key => cell_cases delimiter (r.get key)) columns
  unfold row
  rcases hcells with ⟨fields, hfields, hall⟩ | ⟨herror, hnone⟩
  · rw [hfields]
    obtain ⟨hproper, hshows⟩ := (List.forall₂_and_left _ _).1 hall.flip
    exact .inl ⟨fields, rfl, hproper, hshows.flip⟩
  · rw [herror]
    exact .inr ⟨rfl, hnone⟩

theorem rows_cases (delimiter : Char) (columns : List String) (rows : List Row) :
    (∃ body : List (List Field), rows.mapM (row delimiter columns) =
        .ok (body.map fun fields => record delimiter (fields.map Field.chars)) ∧
        (∀ fields ∈ body, ∀ f ∈ fields, f.Proper delimiter) ∧
        List.Forall₂ (ShowsRow delimiter columns) rows body) ∨
      rows.mapM (row delimiter columns) = .error .noTextForm ∧
        ∃ r ∈ rows, ∃ key ∈ columns, (r.get key).text? = none := by
  rcases mapM_cases (row_cases delimiter columns) rows with ⟨body, hbody, hall⟩ | herror
  · obtain ⟨hproper, hshows⟩ := (List.forall₂_and_left _ _).1 hall.flip
    exact .inl ⟨body, hbody, hproper, hshows.flip⟩
  · exact .inr herror

/-- The line of a row is empty only where the row is a single empty cell or there are no columns. -/
theorem recordOf_of_showsRow {fields : List Field} (hshows : ShowsRow delimiter columns r fields)
    (hnull : columns.map r.get ≠ [.null]) : State.recordOf fields = fields := by
  refine if_neg fun hfields => hnull ?_
  subst hfields
  obtain ⟨key, keys, hkey, hkeys, rfl⟩ := List.forall₂_cons_right_iff.1 hshows
  obtain rfl := List.forall₂_nil_right_iff.1 hkeys
  rw [List.map_singleton, hkey.isEmpty_iff.1 rfl]

theorem map_recordOf {body : List (List Field)}
    (hshows : List.Forall₂ (ShowsRow delimiter columns) rows body)
    (hnull : ∀ r ∈ rows, columns.map r.get ≠ [.null]) : body.map State.recordOf = body := by
  induction hshows with
  | nil => rfl
  | @cons r fields rows body hrow _ ih =>
    rw [List.map_cons, recordOf_of_showsRow hrow (hnull r List.mem_cons_self),
      ih fun a ha => hnull a (List.mem_cons_of_mem r ha)]

/-! ## The header -/

/-- The fields of the header. -/
def headerFields (delimiter : Char) (columns : List String) : List Field :=
  if columns = [""] then [⟨true, ""⟩] else columns.map (Field.minimal delimiter)

theorem header_eq (delimiter : Char) (columns : List String) :
    header delimiter columns = record delimiter ((headerFields delimiter columns).map Field.chars) := by
  unfold header headerFields
  split_ifs
  · rfl
  · rw [List.map_map]
    rfl

theorem proper_headerFields : ∀ f ∈ headerFields delimiter columns, f.Proper delimiter := by
  intro f hf
  unfold headerFields at hf
  split_ifs at hf
  · rw [List.mem_singleton.1 hf]
    exact nofun
  · obtain ⟨key, -, rfl⟩ := List.mem_map.1 hf
    exact Field.proper_minimal delimiter key

theorem content_headerFields (delimiter : Char) (columns : List String) :
    (headerFields delimiter columns).map Field.content = columns := by
  unfold headerFields
  split_ifs with hcolumns
  · rw [hcolumns]
    rfl
  · rw [List.map_map]
    exact List.map_id columns

theorem recordOf_headerFields (delimiter : Char) (columns : List String) :
    State.recordOf (headerFields delimiter columns) = headerFields delimiter columns := by
  refine if_neg fun hfields => ?_
  have hcolumns := content_headerFields delimiter columns
  rw [hfields] at hcolumns
  rw [← hcolumns] at hfields
  exact absurd hfields (by simp [headerFields])

/-- Whatever is behind the header, its record is read as the column keys. -/
theorem run_header {d : Dialect} (hd : d.Fits) (columns : List String) (rest : List Char) :
    State.run d (.fresh [] []) (header d.delimiter columns ++ rest) =
      State.run d (.fresh [headerFields d.delimiter columns] []) rest := by
  rw [header_eq, State.run_append, State.run_record hd [] proper_headerFields, Option.bind_some,
    recordOf_headerFields]
  rfl

/-! ## The text of an export -/

/-- The dialect in which newlines end records. -/
def Dialect.lines (delimiter : Char) : Dialect := ⟨delimiter, ['\n']⟩

theorem fits_lines (h : delimiter ∉ ['"', '\r', '\n']) : (Dialect.lines delimiter).Fits := by
  simp only [List.mem_cons, List.not_mem_nil, or_false, not_or] at h
  obtain ⟨hquote, hreturn, hnewline⟩ := h
  refine ⟨List.mem_singleton_self _, fun c hc => .inl (List.mem_singleton.1 hc), hquote, ?_⟩
  exact fun hmem => hnewline (List.mem_singleton.1 hmem)

/-- With every delimiter but a quote mark or a line end, an export has a text, except for a cell that
holds an integer of too many digits; and the text is read as one record with the column keys and then
one for each row, in order, each with one field for each column that tells what the cell of the row under
the column is. -/
theorem text_reads_back (hdelimiter : delimiter ∉ ['"', '\r', '\n'])
    (hnull : ∀ r ∈ rows, columns.map r.get ≠ [.null]) :
    (∃ s header body, text rows columns delimiter = .ok s ∧
        read? (.lines delimiter) s = some (header :: body) ∧ header.map Field.content = columns ∧
        List.Forall₂ (ShowsRow delimiter columns) rows body) ∨
      text rows columns delimiter = .error .noTextForm ∧
        ∃ r ∈ rows, ∃ key ∈ columns, (r.get key).text? = none := by
  have hfits := fits_lines hdelimiter
  unfold text chars
  rcases rows_cases delimiter columns rows with ⟨body, hbody, hproper, hshows⟩ | ⟨herror, hnone⟩
  · rw [hbody]
    refine .inl ⟨_, _, body, rfl, ?_, content_headerFields delimiter columns, hshows⟩
    have hheader := run_header hfits columns
      (body.map fun fields => record delimiter (fields.map Field.chars)).flatten
    have hrecords := State.run_records hfits [headerFields delimiter columns] hproper
    rw [map_recordOf hshows hnull] at hrecords
    unfold read?
    rw [String.toList_ofList]
    exact congrArg (Option.bind · State.records?) (hheader.trans hrecords)
  · rw [herror]
    exact .inr ⟨rfl, hnone⟩

/-- A digit as the delimiter, a key and a text with quotes, and an empty text beside a missing cell. -/
theorem digit_text_reads_back :
    '1' ∉ ['"', '\r', '\n'] ∧
      (∀ r ∈ [[("a\"b", .text "1\n\"\""), ("n", .int (-412))], [("a\"b", .text "")]],
        ["a\"b", "n"].map (Row.get r) ≠ [.null]) ∧
      ∃ header body, read? (.lines '1') "\"a\"\"b\"1n\n\"1\n\"\"\"\"\"1\"-412\"\n\"\"1\n" =
          some (header :: body) ∧ header.map Field.content = ["a\"b", "n"] ∧
        List.Forall₂ (ShowsRow '1' ["a\"b", "n"])
          [[("a\"b", .text "1\n\"\""), ("n", .int (-412))], [("a\"b", .text "")]] body := by
  have hdelimiter : '1' ∉ ['"', '\r', '\n'] := by decide
  have hnull : ∀ r ∈ [[("a\"b", .text "1\n\"\""), ("n", .int (-412))], [("a\"b", .text "")]],
      ["a\"b", "n"].map (Row.get r) ≠ [.null] := by simp
  have htext : text [[("a\"b", .text "1\n\"\""), ("n", .int (-412))], [("a\"b", .text "")]]
      ["a\"b", "n"] '1' = .ok "\"a\"\"b\"1n\n\"1\n\"\"\"\"\"1\"-412\"\n\"\"1\n" := rfl
  refine ⟨hdelimiter, hnull, ?_⟩
  rcases text_reads_back hdelimiter hnull with ⟨s, header, body, hs, hread⟩ | ⟨herror, -⟩
  · rw [htext] at hs
    obtain rfl := Except.ok.inj hs
    exact ⟨header, body, hread⟩
  · rw [htext] at herror
    cases herror

end Delimited

end Rollup
