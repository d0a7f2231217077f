import Rollup.Warehouse
import Rollup.Proofs.Filter
import Rollup.Proofs.Number.Reading
import Rollup.Proofs.Sql.Filtering

/-!
# Filters in queries and on rows

The same filter is evaluated in two ways: as a condition of a query, and on rows that were fetched. The
two are meant to agree and do, save on four kinds of cells (`Filter.Diverges`): a query compares numbers
as doubles, and so takes different numbers for equal that round to one double; it does not know all
digits and blanks, nor integers beyond the range of doubles; it knows infinities; and it lowercases each
character by itself. On columns of texts and of integers these are all differences there are
(`Warehouse.fetch_eq_applyAll_iff`).
-/

namespace Rollup

/-- The cells of columns of texts and of integers. -/
inductive Value.Plain : Value → Prop
  | null : Plain .null
  | text (s : String) : Plain (.text s)
  | int {n : Int} (h : Cast.isLong n) : Plain (.int n)

namespace Value.Plain
variable {cell : Value} {x : Double}

theorem of_fits {type : ColumnType} (htype : type = .varchar ∨ type = .bigint) (h : type.Fits cell) :
    cell.Plain := by
  cases h with
  | null => exact .null
  | text s => exact .text s
  | int h => exact .int h
  | _ => simp at htype

theorem cast_text (s : String) : Cast.text (.text s) = s := by
  simp only [Cast.text, Cast.textChars, String.ofList_toList]

/-- The text of a cell in a table is its text form. -/
theorem text?_eq (h : cell.Plain) (hcell : cell.isNull = false) : cell.text? = some (Cast.text cell) := by
  cases h with
  | null => cases hcell
  | text s => rw [cast_text]; rfl
  | int h => exact Cast.text?_int h

theorem hasText (h : cell.Plain) : cell.HasText := by
  cases hnull : cell.isNull with
  | true =>
    cases h with
    | null => rfl
    | _ => cases hnull
  | false =>
    unfold HasText
    rw [h.text?_eq hnull]
    rfl

/-- A cell that a query reads as a finite double is a number with that nearest double. -/
theorem number?_of_doubleOfText? (h : cell.Plain) (hcell : cell.isNull = false)
    (hx : Cast.doubleOfText? (Cast.text cell) = some x) (hfinite : x.isFinite) :
    ∃ a, cell.number? = some a ∧ a.isFinite ∧ a.nearest.place = x.place := by
  cases h with
  | null => cases hcell
  | text s =>
    rw [cast_text] at hx
    exact Number.ofText?_of_doubleOfText? hx hfinite
  | int h =>
    obtain ⟨y, hy, -, hplace⟩ := Cast.doubleOfText?_int h
    obtain rfl := Option.some.inj (hx.symm.trans hy)
    exact ⟨_, rfl, rfl, hplace.symm⟩

/-- A cell that a query reads as infinite or as no number is no number. -/
theorem number?_eq_none (h : cell.Plain) (hcell : cell.isNull = false)
    (hx : Cast.doubleOfText? (Cast.text cell) = some x) (hinfinite : x.isFinite = false) :
    cell.number? = none := by
  cases h with
  | null => cases hcell
  | text s =>
    rw [cast_text] at hx
    exact Number.ofText?_eq_none_of_doubleOfText? hx hinfinite
  | int h =>
    obtain ⟨y, hy, hfinite, -⟩ := Cast.doubleOfText?_int h
    obtain rfl := Option.some.inj (hx.symm.trans hy)
    rw [hinfinite] at hfinite
    cases hfinite

end Value.Plain

namespace Filter
variable {f : Filter} {row : Row}

/-- The cells on which a query and evaluation on rows come apart. -/
inductive Diverges (f : Filter) (cell : Value) : Prop
  /-- Different numbers that round to one double. -/
  | rounding {a b : Number} {x : Double} (hcell : cell.number? = some a)
      (hvalue : Number.ofText? f.value = some b) (hread : Cast.doubleOfText? (Cast.text cell) = some x)
      (hsame : a.nearest.place = b.nearest.place)
      (h : f.operator.accepts (a.compare b) ≠ f.operator.accepts .eq)
  /-- A cell that only evaluation on rows takes for a number. -/
  | unread {a b : Number} (hcell : cell.number? = some a) (hvalue : Number.ofText? f.value = some b)
      (hread : Cast.doubleOfText? (Cast.text cell) = none)
      (h : f.operator.accepts (a.compare b) ≠
        f.operator.accepts (compare (Cast.text cell) f.value))
  /-- A cell that only a query takes for a number, or for none. -/
  | special {b : Number} {x : Double} (hnull : cell.isNull = false) (hcell : cell.number? = none)
      (hvalue : Number.ofText? f.value = some b) (hread : Cast.doubleOfText? (Cast.text cell) = some x)
      (h : f.operator.accepts (Number.compare (.double x) (.double b.nearest)) ≠
        f.operator.accepts (compare (Cast.text cell) f.value))
  /-- A cell whose lowercase form depends on more than single characters. -/
  | folding (hnull : cell.isNull = false) (hoperator : f.operator = .contains)
      (h : Text.occursIn (Text.lowerEach f.value).toList (Text.lowerEach (Cast.text cell)).toList ≠
        Text.occursIn (Text.lower f.value).toList (Text.lower (Cast.text cell)).toList)

theorem holds_of_isNull (h : (row.get f.field).isNull) : f.holds row = false := by
  unfold holds matchesRow
  cases hcell : row.get f.field with
  | null => rfl
  | _ => simp [hcell, Value.isNull] at h

theorem holds_of_text? {text : String} (hcell : (row.get f.field).isNull = false)
    (h : (row.get f.field).text? = some text) : f.holds row =
      match f.operator with
      | .contains => Text.occursIn (Text.lower f.value).toList (Text.lower text).toList
      | comparison => comparison.accepts (compareWithText (row.get f.field) text f.value) := by
  have hform : (row.get f.field).textForm = .ok text := by
    unfold Value.textForm
    rw [h]
  unfold holds matchesRow
  cases hv : row.get f.field with
  | null => simp [hv, Value.isNull] at hcell
  | _ =>
    rw [hv] at hform
    simp only [matchesCell, hform, bind, Except.bind, pure, Except.pure]
    cases f.operator <;> rfl

/-- How a query orders a cell that it reads as a finite double: as evaluation on rows does, unless the
double is the one nearest to the value. -/
theorem order_of_isFinite {cell : Value} {a b : Number} {x : Double} (ha : a.isFinite)
    (hplace : a.nearest.place = x.place) (hvalue : Number.ofText? f.value = some b)
    (hread : Cast.doubleOfText? (Cast.text cell) = some x) :
    Sql.order (Cast.text cell) f.value =
      if a.nearest.place = b.nearest.place then .eq else a.compare b := by
  unfold Sql.order
  rw [hvalue, hread, ← Number.compare_nearest ha (Number.isFinite_of_ofText? hvalue), hplace]
  rfl

/-- Comparisons of a text or integer that is there come out alike unless the cell is one of the first
three kinds. -/
theorem accepts_order_eq_iff {cell : Value} (hplain : cell.Plain) (hnull : cell.isNull = false)
    (hoperator : f.operator ≠ .contains) :
    f.operator.accepts (Sql.order (Cast.text cell) f.value) =
      f.operator.accepts (compareWithText cell (Cast.text cell) f.value) ↔ ¬ f.Diverges cell := by
  cases hvalue : Number.ofText? f.value with
  | none =>
    have horder : Sql.order (Cast.text cell) f.value = compare (Cast.text cell) f.value := by
      simp only [Sql.order, hvalue]
    have hcompare : compareWithText cell (Cast.text cell) f.value = compare (Cast.text cell) f.value := by
      unfold compareWithText
      rw [hvalue]
      cases cell.number? <;> rfl
    rw [horder, hcompare]
    exact ⟨fun _ hd => by cases hd <;> simp_all, fun _ => rfl⟩
  | some b =>
    cases hread : Cast.doubleOfText? (Cast.text cell) with
    | none =>
      have horder : Sql.order (Cast.text cell) f.value = compare (Cast.text cell) f.value := by
        simp only [Sql.order, hvalue, hread]
      cases hcell : cell.number? with
      | none =>
        have hcompare : compareWithText cell (Cast.text cell) f.value =
            compare (Cast.text cell) f.value := by
          simp only [compareWithText, hvalue, hcell]
        rw [horder, hcompare]
        exact ⟨fun _ hd => by cases hd <;> simp_all, fun _ => rfl⟩
      | some a =>
        have hcompare : compareWithText cell (Cast.text cell) f.value = a.compare b := by
          simp only [compareWithText, hvalue, hcell]
        rw [horder, hcompare]
        refine ⟨fun heq hd => ?_, fun h => ?_⟩
        · cases hd <;> simp_all
        · by_contra hne
          exact h (.unread hcell hvalue hread (Ne.symm hne))
    | some x =>
      by_cases hfinite : x.isFinite
      · obtain ⟨a, hcell, ha, hplace⟩ := hplain.number?_of_doubleOfText? hnull hread hfinite
        have hcompare : compareWithText cell (Cast.text cell) f.value = a.compare b := by
          simp only [compareWithText, hvalue, hcell]
        rw [order_of_isFinite ha hplace hvalue hread, hcompare]
        split_ifs with hsame
        · refine ⟨fun heq hd => ?_, fun h => ?_⟩
          · cases hd <;> simp_all
          · by_contra hne
            exact h (.rounding hcell hvalue hread hsame (Ne.symm hne))
        · exact ⟨fun _ hd => by cases hd <;> simp_all, fun _ => rfl⟩
      · have hcell := hplain.number?_eq_none hnull hread (Bool.eq_false_iff.2 hfinite)
        have horder : Sql.order (Cast.text cell) f.value =
            Number.compare (.double x) (.double b.nearest) := by
          simp only [Sql.order, hvalue, hread]
        have hcompare : compareWithText cell (Cast.text cell) f.value =
            compare (Cast.text cell) f.value := by
          simp only [compareWithText, hvalue, hcell]
        rw [horder, hcompare]
        refine ⟨fun heq hd => ?_, fun h => ?_⟩
        · cases hd <;> simp_all
        · by_contra hne
          exact h (.special hnull hcell hvalue hread hne)

/-- On the cells of text and integer columns, a query and evaluation on rows come apart exactly as
`Diverges` says. -/
theorem sqlHolds_eq_holds_iff (hplain : (row.get f.field).Plain) :
    Sql.holds f (row.get f.field) = f.holds row ↔ ¬ f.Diverges (row.get f.field) := by
  by_cases hnull : (row.get f.field).isNull
  · have hcell : row.get f.field = .null := by
      cases hcell : row.get f.field <;> simp_all [Value.isNull]
    rw [holds_of_isNull hnull, hcell]
    refine ⟨fun _ hd => ?_, fun _ => rfl⟩
    cases hd <;> simp_all [Value.number?, Value.isNull]
  · have hthere : (row.get f.field).isNull = false := Bool.eq_false_iff.2 hnull
    rw [holds_of_text? hthere (hplain.text?_eq hthere)]
    unfold Sql.holds
    rw [if_neg hnull]
    by_cases hoperator : f.operator = .contains
    · rw [hoperator]
      refine ⟨fun heq hd => ?_, fun h => ?_⟩
      · cases hd <;> simp_all [Operator.accepts]
      · by_contra hne
        exact h (.folding hthere hoperator hne)
    · have hcompare := accepts_order_eq_iff hplain hthere hoperator
      cases hop : f.operator with
      | contains => exact absurd hop hoperator
      | _ => rwa [hop] at hcompare

end Filter

theorem filter_eq_filter_iff {α : Type} {p q : α → Bool} {l : List α} :
    l.filter p = l.filter q ↔ ∀ x ∈ l, p x = q x := by
  refine ⟨fun h x hx => ?_, List.filter_congr⟩
  have hmem : x ∈ l.filter p ↔ x ∈ l.filter q := by rw [h]
  rw [Bool.eq_iff_iff]
  simpa [hx] using hmem

namespace Warehouse
variable {w : Warehouse} {entity : String} {columns : List String} {t : Table} {f : Filter}
  {rows : List Row}

/-- A fetch without a limit is the query of the fetch on the table of the entity. -/
theorem fetch_eq (hlimit : w.pageSize = 0) (hcolumns : columns ≠ [])
    (htable : w.database.get (w.schema.tableOf entity) = .ok t) (filters : List Filter) :
    w.fetch ⟨entity, columns, filters⟩ =
      match Sql.Select.run ⟨columns.map fun key => (w.schema.source key, key), w.schema.tableOf entity,
        Sql.Schema.conjunction (filters.map w.schema.condition)⟩ t with
      | .ok rows => .ok rows
      | .error e => .error (.database e) := by
  have hne : ¬ columns.isEmpty := by simpa using hcolumns
  unfold fetch Sql.Schema.compile?
  rw [if_neg hne, hlimit, if_pos rfl]
  simp only [Database.select, htable, bind, Except.bind, pure, Except.pure]
  cases Sql.Select.run ⟨columns.map fun key => (w.schema.source key, key), w.schema.tableOf entity,
    Sql.Schema.conjunction (filters.map w.schema.condition)⟩ t <;> rfl

/-- What a fetch with a filter on a built-in field returns, given what the fetch without it returns. -/
theorem fetch_filter (hlimit : w.pageSize = 0) (hfield : customName? f.field = none)
    (hmem : f.field ∈ columns) (htable : w.database.get (w.schema.tableOf entity) = .ok t)
    (hrows : w.fetch ⟨entity, columns, []⟩ = .ok rows) :
    w.fetch ⟨entity, columns, [f]⟩ = .ok (rows.filter fun row => Sql.holds f (row.get f.field)) ∧
      ∀ row ∈ rows, ∃ cells ∈ t.rows, t.cell? f.field cells = some (row.get f.field) := by
  have hcolumns : columns ≠ [] := List.ne_nil_of_mem hmem
  have hnone : Sql.Schema.conjunction ([].map w.schema.condition) = none := rfl
  have hsome : Sql.Schema.conjunction ([f].map w.schema.condition) = some (w.schema.condition f) := rfl
  rw [fetch_eq hlimit hcolumns htable, hnone] at hrows
  rw [fetch_eq hlimit hcolumns htable, hsome]
  cases hrun : Sql.Select.run ⟨columns.map fun key => (w.schema.source key, key),
      w.schema.tableOf entity, none⟩ t with
  | error e =>
    rw [hrun] at hrows
    cases hrows
  | ok answer =>
    rw [hrun] at hrows
    obtain rfl := Except.ok.inj hrows
    obtain ⟨hfiltered, hcells⟩ := Sql.Select.run_condition hfield hmem hrun
    exact ⟨by rw [hfiltered], hcells⟩

/-- A filter on a column of texts or integers means the same to a query as on fetched rows exactly
where no fetched row has a cell on which the two come apart. Either way both return. -/
theorem fetch_eq_applyAll_iff (hdatabase : w.database.WellTyped) (hlimit : w.pageSize = 0)
    (htable : w.database.get (w.schema.tableOf entity) = .ok t) {type : ColumnType}
    (htype : t.typeOf? f.field = some type) (hkind : type = .varchar ∨ type = .bigint)
    (hfield : customName? f.field = none) (hmem : f.field ∈ columns) (hactive : f.isInert = false)
    (hrows : w.fetch ⟨entity, columns, []⟩ = .ok rows) :
    ∃ pushed kept, w.fetch ⟨entity, columns, [f]⟩ = .ok pushed ∧ Filter.applyAll [f] rows = .ok kept ∧
      (pushed = kept ↔ ∀ row ∈ rows, ¬ f.Diverges (row.get f.field)) := by
  obtain ⟨hpushed, hcells⟩ := fetch_filter hlimit hfield hmem htable hrows
  have hplain : ∀ row ∈ rows, (row.get f.field).Plain := fun row hrow => by
    obtain ⟨cells, hmemCells, hcell⟩ := hcells row hrow
    exact .of_fits hkind ((hdatabase.get htable).fits_of_cell? hmemCells htype hcell)
  have hkept : Filter.applyAll [f] rows = .ok (rows.filter fun row => [f].all (·.holds row)) :=
    Filter.applyAll_eq_filter (by simpa using hactive)
      (by simpa using fun row hrow => (hplain row hrow).hasText)
  refine ⟨_, _, hpushed, hkept, ?_⟩
  calc _ ↔ ∀ row ∈ rows, Sql.holds f (row.get f.field) = [f].all (·.holds row) :=
        filter_eq_filter_iff
    _ ↔ ∀ row ∈ rows, ¬ f.Diverges (row.get f.field) := forall₂_congr fun row hrow => by
        rw [← Filter.sqlHolds_eq_holds_iff (hplain row hrow), List.all_cons, List.all_nil, Bool.and_true]

/-! ### Two sizes that round to one double -/

def sizes : List (List Value) :=
  [[.text "Acme", .int 9007199254740993], [.text "Bolt", .int 12], [.text "Cask", .null]]

def sizeTable : Table where
  name := "companies"
  columns := [⟨"name", .varchar, false⟩, ⟨"size", .bigint, false⟩]
  rows := sizes

def sizeWarehouse : Warehouse :=
  { database := (Database.createFromData {} "companies" ["name", "size"] sizes).1 }

def sizeRows : List Row :=
  [[("name", .text "Acme"), ("size", .int 9007199254740993)], [("name", .text "Bolt"), ("size", .int 12)],
   [("name", .text "Cask"), ("size", .null)]]

/-- The number before the size of the first company, which is even and so a double. -/
def evenSize : Filter := ⟨"size", .equals, "9007199254740992"⟩

theorem get_companies : sizeWarehouse.database.get (sizeWarehouse.schema.tableOf "companies") =
    .ok sizeTable := rfl

theorem fetch_sizes : sizeWarehouse.fetch ⟨"companies", ["name", "size"], []⟩ = .ok sizeRows := rfl

theorem evenSize_fetch_eq_applyAll_iff :
    sizeWarehouse.database.WellTyped ∧ sizeWarehouse.pageSize = 0 ∧
    sizeWarehouse.database.get (sizeWarehouse.schema.tableOf "companies") = .ok sizeTable ∧
    sizeTable.typeOf? "size" = some .bigint ∧ customName? "size" = none ∧
    "size" ∈ ["name", "size"] ∧ evenSize.isInert = false ∧
    sizeWarehouse.fetch ⟨"companies", ["name", "size"], []⟩ = .ok sizeRows ∧
    ∃ pushed kept, sizeWarehouse.fetch ⟨"companies", ["name", "size"], [evenSize]⟩ = .ok pushed ∧
      Filter.applyAll [evenSize] sizeRows = .ok kept ∧
      (pushed = kept ↔ ∀ row ∈ sizeRows, ¬ evenSize.Diverges (row.get "size")) := by
  have hdatabase : sizeWarehouse.database.WellTyped := Database.wellTyped_empty.createFromData _ _ _
  have htype : sizeTable.typeOf? "size" = some .bigint := by decide
  have hfield : customName? "size" = none := by decide
  have hmem : "size" ∈ ["name", "size"] := by decide
  have hactive : evenSize.isInert = false := by decide
  exact ⟨hdatabase, rfl, get_companies, htype, hfield, hmem, hactive, fetch_sizes,
    fetch_eq_applyAll_iff hdatabase rfl get_companies htype (.inr rfl) hfield hmem hactive fetch_sizes⟩

/-- A query finds a company of a size that it does not have: its size and the value of the filter are
different numbers with the same double. Evaluated on the fetched rows, the filter keeps none. -/
theorem evenSize_kept_by_query_only :
    sizeWarehouse.fetch ⟨"companies", ["name", "size"], []⟩ = .ok sizeRows ∧
    sizeWarehouse.fetch ⟨"companies", ["name", "size"], [evenSize]⟩ =
      .ok [[("name", .text "Acme"), ("size", .int 9007199254740993)]] ∧
    Filter.applyAll [evenSize] sizeRows = .ok [] := by
  have hfield : customName? evenSize.field = none := by decide
  have hpushed := (fetch_filter rfl hfield (by decide) get_companies fetch_sizes).1
  have hlarge : Sql.holds evenSize (.int 9007199254740993) = true := by decide +kernel
  have hsmall : Sql.holds evenSize (.int 12) = false := by decide +kernel
  have hnull : Sql.holds evenSize .null = false := rfl
  have htext : ∀ row ∈ sizeRows, ∀ g ∈ [evenSize], (row.get g.field).HasText := by decide
  have hkept : ∀ row ∈ sizeRows, [evenSize].all (·.holds row) = false := by decide +kernel
  refine ⟨fetch_sizes, ?_, ?_⟩
  · rw [hpushed]
    refine congrArg Except.ok ?_
    show (sizeRows.filter fun row => Sql.holds evenSize (row.get "size")) = _
    simp [sizeRows, Row.get, lookup?, hlarge, hsmall, hnull]
  · rw [Filter.applyAll_eq_filter (by decide) htext]
    exact congrArg Except.ok (List.filter_eq_nil_iff.2 fun row hrow => by simp [hkept row hrow])

end Warehouse

end Rollup
