import Rollup.Proofs.Number.Rounding
import Rollup.Proofs.Typing

/-!
# What a query with a filter keeps

A filter on a built-in field becomes a condition on a column. `Sql.holds` says for which cells that
condition is true, unknown results included (`Schema.eval_condition`), and a query with the condition
yields the rows of the query without it whose cell satisfies it (`Select.rowsOf_condition`,
`Select.run_condition`).
-/

namespace Rollup

theorem lookup?_putEntry (key k : String) (v : Value) (entries : Row) :
    lookup? key (putEntry k v entries) = if k = key then some v else lookup? key entries := by
  induction entries with
  | nil => rfl
  | cons entry more ih =>
    obtain ⟨k', w⟩ := entry
    unfold putEntry
    by_cases hk : k' = k
    · subst hk
      by_cases hkey : k' = key <;> simp [lookup?, hkey]
    · rw [if_neg hk, lookup?, lookup?, ih]
      by_cases hkey : k' = key
      · have hne : k ≠ key := fun h => hk (hkey.trans h.symm)
        simp [hkey, hne]
      · simp [hkey]

namespace Sql

/-- How a query compares the text of a cell with the value of a filter: in doubles where both read as
numbers, and as texts otherwise. -/
def order (text value : String) : Ordering :=
  match Number.ofText? value, Cast.doubleOfText? text with
  | some b, some x => Number.compare (.double x) (.double b.nearest)
  | _, _ => compare text value

/-- Whether the condition of a filter is true of a cell. -/
def holds (f : Filter) (cell : Value) : Bool :=
  if cell.isNull then false
  else match f.operator with
    | .contains =>
      Text.occursIn (Text.lowerEach f.value).toList (Text.lowerEach (Cast.text cell)).toList
    | comparison => comparison.accepts (order (Cast.text cell) f.value)

variable {t : Table} {row : List Value} {schema : Schema} {cell : Value}

/-! ## Expressions -/

namespace Expr
variable {e : Expr}

theorem eval_castText (h : e.eval t row = .ok cell) :
    (castText e).eval t row = .ok (if cell.isNull then .null else .text (Cast.text cell)) := by
  rw [eval, h]
  cases cell <;> rfl

theorem compareValues_number (x : Double) (n : Number) :
    compareValues (.double x) n.toValue = some (Number.compare (.double x) (.double n.nearest)) := by
  cases n <;> rfl

end Expr

namespace Schema

theorem source_builtIn {key : String} (h : customName? key = none) : schema.source key = .column key := by
  unfold source
  rw [h]

theorem eval_source_builtIn {key : String} (h : customName? key = none) :
    (schema.source key).eval t row =
      match t.cell? key row with
      | some v => .ok v
      | none => .error (.noColumn key) := by
  rw [source_builtIn h]
  unfold Expr.eval
  cases t.cell? key row <;> rfl

theorem eval_comparison_null {e : Expr} (h : e.eval t row = .ok .null) (op : Comparison)
    (value : String) : (comparison op e value).eval t row = .ok .null := by
  unfold comparison
  cases Number.ofText? value with
  | none => simp [Expr.eval, h, bind, Except.bind, pure, Except.pure, compareValues, doubleOf?, truth]
  | some n =>
    simp [Expr.eval, h, bind, Except.bind, pure, Except.pure, compareValues, doubleOf?, truth, onText]

theorem eval_comparison_text {e : Expr} {text : String} (h : e.eval t row = .ok (.text text))
    (op : Comparison) (value : String) :
    (comparison op e value).eval t row = .ok (.bool (op.holds (order text value))) := by
  unfold comparison order
  cases Number.ofText? value with
  | none => simp [Expr.eval, h, bind, Except.bind, pure, Except.pure, compareValues, truth]
  | some n =>
    cases hx : Cast.doubleOfText? text with
    | none =>
      simp [Expr.eval, h, hx, bind, Except.bind, pure, Except.pure, compareValues, doubleOf?, truth,
        onText]
    | some x =>
      simp [Expr.eval, h, hx, bind, Except.bind, pure, Except.pure, truth, onText,
        Expr.compareValues_number]

theorem eval_contains_null {e : Expr} (h : e.eval t row = .ok .null) (value : String) :
    (Expr.contains (.lower e) (.lower (.text value))).eval t row = .ok .null := by
  simp [Expr.eval, h, onText, onTexts, bind, Except.bind]

theorem eval_contains_text {e : Expr} {text : String} (h : e.eval t row = .ok (.text text))
    (value : String) : (Expr.contains (.lower e) (.lower (.text value))).eval t row =
      .ok (.bool (Text.occursIn (Text.lowerEach value).toList (Text.lowerEach text).toList)) := by
  simp [Expr.eval, h, onText, onTexts, bind, Except.bind]

/-- The condition of a filter on a built-in field is unknown where the cell is nothing, and otherwise
true or false. -/
theorem eval_condition {f : Filter} (hfield : customName? f.field = none)
    (hcell : t.cell? f.field row = some cell) : (schema.condition f).eval t row =
      .ok (if cell.isNull then .null else .bool (holds f cell)) := by
  have hsource : (schema.source f.field).eval t row = .ok cell := by
    rw [eval_source_builtIn hfield, hcell]
  have hcast := Expr.eval_castText hsource
  unfold condition holds
  by_cases hnull : cell.isNull
  · rw [if_pos hnull] at hcast ⊢
    cases f.operator with
    | contains => exact eval_contains_null hcast _
    | _ => exact eval_comparison_null hcast _ _
  · rw [if_neg hnull] at hcast ⊢
    rw [if_neg hnull]
    cases f.operator with
    | contains => exact eval_contains_text hcast _
    | _ => exact eval_comparison_text hcast _ _

/-- A condition looks at nothing but the field of its filter. -/
theorem columns_condition {f : Filter} (hfield : customName? f.field = none) :
    ∀ name ∈ (schema.condition f).columns, name = f.field := by
  unfold condition
  rw [source_builtIn hfield]
  cases f.operator with
  | contains => simp [Expr.columns]
  | _ =>
    simp only [comparison]
    cases Number.ofText? f.value <;> simp [Expr.columns]

end Schema

/-! ## Rows -/

namespace Select
variable {rows : List (List Value)} {out : Row} {outs : List Row}

theorem checkColumns_eq_ok_iff {names : List String} :
    checkColumns t names = .ok () ↔ ∀ name ∈ names, name ≠ "" ∧ (t.indexOf? name).isSome := by
  induction names with
  | nil => simp [checkColumns]
  | cons name names ih =>
    unfold checkColumns
    split_ifs with hempty hnone
    · simp [hempty]
    · simp only [Option.isNone_iff_eq_none] at hnone
      simp [hnone]
    · rw [ih]
      have hsome : (t.indexOf? name).isSome := by
        simpa [Option.isSome_iff_ne_none] using hnone
      simp [hempty, hsome]

/-- A row of a query has under the key of a built-in field what the table has in that column. -/
theorem lookup?_of_project {key : String} (hkey : customName? key = none) {columns : List String}
    {before : Row}
    (h : (columns.map fun key => (schema.source key, key)).foldlM
      (fun out (e, key) => return putEntry key (← e.eval t row) out) before = .ok out)
    (hmem : key ∈ columns ∨ ∃ v, t.cell? key row = some v ∧ lookup? key before = some v) :
    ∃ v, t.cell? key row = some v ∧ lookup? key out = some v := by
  induction columns generalizing before with
  | nil =>
    obtain rfl := Except.ok.inj h
    exact hmem.resolve_left List.not_mem_nil
  | cons column columns ih =>
    obtain ⟨next, hnext, h⟩ := exists_of_bind_eq_ok h
    obtain ⟨w, hw, hnext⟩ := exists_of_bind_eq_ok hnext
    obtain rfl := Except.ok.inj hnext
    refine ih h ?_
    by_cases hcolumn : column = key
    · subst hcolumn
      rw [Schema.eval_source_builtIn hkey] at hw
      cases hcell : t.cell? column row with
      | none => simp [hcell] at hw
      | some v =>
        obtain rfl : v = w := by simpa [hcell] using hw
        exact .inr ⟨v, rfl, by simp [lookup?_putEntry]⟩
    · refine hmem.imp (fun hmem => ?_) ?_
      · exact (List.mem_cons.1 hmem).resolve_left (Ne.symm hcolumn)
      · rintro ⟨v, hcell, hbefore⟩
        exact ⟨v, hcell, by simp [lookup?_putEntry, hcolumn, hbefore]⟩

variable {columns : List String} {table : String} {f : Filter}

theorem accepts_condition (hfield : customName? f.field = none) {select : List (Expr × String)}
    (hcell : t.cell? f.field row = some cell) :
    accepts ⟨select, table, some (schema.condition f)⟩ t row = .ok (holds f cell) := by
  simp only [accepts, Schema.eval_condition hfield hcell, bind, Except.bind]
  by_cases hnull : cell.isNull
  · simp [hnull, holds, pure, Except.pure]
  · simp [hnull, pure, Except.pure]

/-- The rows of a query with a filter are those rows of the query without it whose cell satisfies the
filter. That cell is the one of the table. -/
theorem rowsOf_condition (hfield : customName? f.field = none) (hmem : f.field ∈ columns)
    (h : rowsOf ⟨columns.map fun key => (schema.source key, key), table, none⟩ t rows = .ok outs) :
    rowsOf ⟨columns.map fun key => (schema.source key, key), table, some (schema.condition f)⟩ t rows =
        .ok (outs.filter fun out => holds f (out.get f.field)) ∧
      ∀ out ∈ outs, ∃ row ∈ rows, t.cell? f.field row = some (out.get f.field) := by
  induction rows generalizing outs with
  | nil =>
    obtain rfl := Except.ok.inj h
    exact ⟨rfl, by simp⟩
  | cons row rows ih =>
    -- Without a condition every row is accepted.
    obtain ⟨out, hout, h⟩ := exists_of_bind_eq_ok (x := project _ t row) h
    obtain ⟨more, hmore, h⟩ := exists_of_bind_eq_ok h
    obtain rfl := Except.ok.inj h
    obtain ⟨v, hcell, hlookup⟩ := lookup?_of_project hfield hout (.inl hmem)
    have hget : out.get f.field = v := by simp [Row.get, hlookup]
    obtain ⟨ih, ihcells⟩ := ih hmore
    refine ⟨?_, ?_⟩
    · have hproject : project ⟨columns.map fun key => (schema.source key, key), table,
          some (schema.condition f)⟩ t row = .ok out := hout
      unfold rowsOf
      simp only [accepts_condition hfield hcell, hproject, ih, bind, Except.bind, pure, Except.pure]
      rw [List.filter_cons, hget]
      cases holds f v <;> rfl
    · intro o ho
      rcases List.mem_cons.1 ho with rfl | ho
      · exact ⟨row, List.mem_cons_self, hget ▸ hcell⟩
      · obtain ⟨r, hr, hcell⟩ := ihcells o ho
        exact ⟨r, List.mem_cons_of_mem _ hr, hcell⟩

/-- The answer to a query with a filter, given the answer to the query without it. -/
theorem run_condition (hfield : customName? f.field = none) (hmem : f.field ∈ columns)
    (h : run ⟨columns.map fun key => (schema.source key, key), table, none⟩ t = .ok outs) :
    run ⟨columns.map fun key => (schema.source key, key), table, some (schema.condition f)⟩ t =
        .ok (outs.filter fun out => holds f (out.get f.field)) ∧
      ∀ out ∈ outs, ∃ row ∈ t.rows, t.cell? f.field row = some (out.get f.field) := by
  obtain ⟨_, hcheck, h⟩ := exists_of_bind_eq_ok h
  obtain ⟨hrows, hcells⟩ := rowsOf_condition hfield hmem h
  refine ⟨?_, hcells⟩
  have hread : f.field ∈ (columns.map fun key => (schema.source key, key)).flatMap (·.1.columns) := by
    refine List.mem_flatMap.2 ⟨_, List.mem_map_of_mem hmem, ?_⟩
    rw [Schema.source_builtIn hfield]
    exact List.mem_singleton_self _
  have hcheck' : checkColumns t (reads ⟨columns.map fun key => (schema.source key, key), table,
      some (schema.condition f)⟩) = .ok () := by
    rw [checkColumns_eq_ok_iff] at hcheck ⊢
    intro name hname
    rcases List.mem_append.1 hname with hname | hname
    · exact hcheck name (List.mem_append_left _ hname)
    · rw [Schema.columns_condition hfield name hname]
      exact hcheck _ (List.mem_append_left _ hread)
  unfold run
  rw [hcheck']
  exact hrows

end Select

end Sql

end Rollup
