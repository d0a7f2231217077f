import Rollup.Memory
import Rollup.Proofs.Aggregation
import Rollup.Proofs.Planning

/-!
# The meaning of a definition

`Definition.meaning` says what a definition yields on the rows of its entity: the rows that satisfy
every finished filter on a known field, as they are, are cut down to the valid columns or grouped. A
store's capabilities do not occur in it. Executions refine it (`execute_outcome_eq_meaning`): whichever
operators a store supports, and so whichever columns have to be fetched for what is left to do here,
the outcome is the same, failures of an aggregation included.
-/

namespace Rollup

/-- A store that does what it is asked for: whenever the filters of a fetch can be evaluated, it
answers in time with the rows that satisfy all of them, cut down to the requested columns. -/
def DataStore.Serves (store : DataStore) (timeout? : Option Double) (entity : String)
    (rows : List Row) : Prop :=
  ∀ f : Fetch, f.entity = entity → ∀ kept, Filter.keepMatching f.filters rows = .ok kept →
    (store.fetch f).rows entity timeout? = .ok (kept.map (Plan.project f.columns))

namespace Definition
variable {d : Definition} {catalog : Catalog}

/-- The filters that have an effect: the finished ones on known fields. -/
def effective (d : Definition) (catalog : Catalog) : List Filter :=
  d.filters.filter fun f => !f.isInert && catalog.contains f.field

/-- The finished filters on unknown fields. -/
def refused (d : Definition) (catalog : Catalog) : List Filter :=
  d.filters.filter fun f => !f.isInert && !catalog.contains f.field

/-- The rows that satisfy all filters that have an effect. -/
def satisfying (d : Definition) (catalog : Catalog) (rows : List Row) : List Row :=
  rows.filter fun row => (d.effective catalog).all (·.holds row)

/-- What a definition yields on the rows of its entity. -/
def meaning (d : Definition) (catalog : Catalog) (label : String) (rows : List Row) :
    Except ExecutionError Result :=
  match d.splitColumns catalog, d.resolveGrouping catalog with
  | .error e, _ => .error (.report e)
  | .ok _, .error e => .error (.report e)
  | .ok (columns, dropped), .ok (aggregations, warnings) =>
    let result (columns : List String) (rows : List Row) : Result :=
      { columns, rows, grouped := d.isGrouped, rejectedFilters := d.refused catalog,
        droppedColumns := dropped, warnings := catalog.warnings ++ warnings }
    match d.groupBy? with
    | none =>
      .ok (result columns ((d.satisfying catalog rows).map fun row =>
        columns.map fun key => (key, row.get key)))
    | some key =>
      match aggregate (d.satisfying catalog rows) key aggregations label with
      | .ok grouped => .ok (result (outputColumns key aggregations) grouped)
      | .error e => .error (.evaluation e)

theorem filters_rejected_eq (supported : List Operator) :
    (FilterPlan.ofFilters catalog.keys supported d.filters).rejected = d.refused catalog := by
  rw [FilterPlan.ofFilters_eq]
  exact List.filter_congr fun f _ => by
    rw [Bool.eq_iff_iff, decide_eq_true_eq]
    exact FilterPlan.route_eq_refused_iff

theorem mem_effective_of_mem_pushed {supported : List Operator} {f : Filter}
    (h : f ∈ (FilterPlan.ofFilters catalog.keys supported d.filters).pushed) :
    f ∈ d.effective catalog :=
  FilterPlan.mem_pushed_or_kept.1 (.inl h)

theorem mem_effective_of_mem_kept {supported : List Operator} {f : Filter}
    (h : f ∈ (FilterPlan.ofFilters catalog.keys supported d.filters).kept) :
    f ∈ d.effective catalog :=
  FilterPlan.mem_pushed_or_kept.1 (.inr h)

/-- The filters of the store and then those kept here leave the rows that satisfy all of them. -/
theorem filter_pushed_filter_kept (supported : List Operator) (rows : List Row) :
    (rows.filter fun row =>
        (FilterPlan.ofFilters catalog.keys supported d.filters).pushed.all (·.holds row)).filter
      (fun row => (FilterPlan.ofFilters catalog.keys supported d.filters).kept.all (·.holds row)) =
    d.satisfying catalog rows := by
  rw [List.filter_filter]
  refine List.filter_congr fun row _ => ?_
  rw [Bool.and_comm, FilterPlan.all_holds_split]
  rfl

end Definition

namespace Plan
variable {p : Plan} {rows : List Row}

/-- What is left to do here gives the same on rows that are cut down to the fetched columns. -/
theorem applyAll_project (hactive : ∀ f ∈ p.filters.kept, f.isInert = false)
    (htext : ∀ row ∈ rows, ∀ f ∈ p.filters.kept, (row.get f.field).HasText) :
    Filter.applyAll p.filters.kept (rows.map (project p.fetchColumns)) =
      .ok ((rows.filter fun row => p.filters.kept.all (·.holds row)).map (project p.fetchColumns)) := by
  have hget : ∀ f ∈ p.filters.kept, ∀ row : Row,
      (project p.fetchColumns row).get f.field = row.get f.field := fun f hf =>
    get_project (mem_fetchColumns.2 (.inr (.inr (.inr ⟨f, hf, rfl⟩))))
  have hkept : rows.filter ((fun row => p.filters.kept.all (·.holds row)) ∘ project p.fetchColumns) =
      rows.filter fun row => p.filters.kept.all (·.holds row) := by
    refine List.filter_congr fun row _ => ?_
    show p.filters.kept.all (·.holds (project p.fetchColumns row)) = _
    rw [Bool.eq_iff_iff, List.all_eq_true, List.all_eq_true]
    exact forall₂_congr fun f hf => by rw [Filter.holds_congr (hget f hf row)]
  rw [Filter.applyAll_eq_filter hactive, List.filter_map, hkept]
  · intro row hrow f hf
    obtain ⟨raw, hraw, rfl⟩ := List.mem_map.1 hrow
    rw [hget f hf]
    exact htext raw hraw f hf

theorem aggregate_project {key : String} (hkey : p.definition.groupBy? = some key) (label : String) :
    aggregate (rows.map (project p.fetchColumns)) key p.aggregations label =
      aggregate rows key p.aggregations label :=
  aggregate_map (get_project (mem_fetchColumns.2 (.inr (.inl hkey))))
    (fun a ha hcount =>
      get_project (mem_fetchColumns.2 (.inr (.inr (.inl ⟨a, ha, hcount, rfl⟩))))) rows

/-- Finishing a plan on rows that are cut down to the fetched columns, with the filters kept here
evaluated and the cells looked at in the rows as they were. -/
theorem finish_project (label : String) (hactive : ∀ f ∈ p.filters.kept, f.isInert = false)
    (htext : ∀ row ∈ rows, ∀ f ∈ p.filters.kept, (row.get f.field).HasText) :
    p.finish label (rows.map (project p.fetchColumns)) =
      let kept := rows.filter fun row => p.filters.kept.all (·.holds row)
      let result (columns : List String) (rows : List Row) : Result :=
        { columns, rows, grouped := p.definition.isGrouped, rejectedFilters := p.filters.rejected,
          droppedColumns := p.dropped, warnings := p.warnings }
      match p.definition.groupBy? with
      | none => .ok (result p.columns (kept.map (project p.columns)))
      | some key =>
        (aggregate kept key p.aggregations label).map (result (outputColumns key p.aggregations)) := by
  have hcolumns : ∀ key ∈ p.columns, key ∈ p.fetchColumns := fun key hkey =>
    mem_fetchColumns.2 (.inl hkey)
  unfold finish
  rw [applyAll_project hactive htext]
  cases hgroup : p.definition.groupBy? with
  | none =>
    simp only [bind, Except.bind, pure, Except.pure, List.map_map]
    refine congrArg (fun rows => Except.ok (Result.mk p.columns rows _ _ _ _)) ?_
    exact List.map_congr_left fun row _ => project_project hcolumns row
  | some key =>
    simp only [bind, Except.bind, pure, Except.pure, aggregate_project hgroup]
    cases aggregate (rows.filter fun row => p.filters.kept.all (·.holds row)) key p.aggregations
      label <;> rfl

end Plan

namespace MemoryStore
variable {m : MemoryStore} {rows : List Row}

theorem accepts_record {filters : List Filter} {row : Row} {keep : Bool}
    (h : Filter.allMatch row filters = .ok keep) : accepts filters (.record row) = .ok keep := by
  cases filters with
  | nil =>
    obtain rfl : true = keep := Except.ok.inj h
    rfl
  | cons f fs => simp [accepts, h]

theorem project_record (columns : List String) (row : Row) :
    project columns (.record row) = .ok (.record (Plan.project columns row)) := by
  cases columns <;> rfl

theorem select_records (hwhole : m.whole = false) (f : Fetch) {kept : List Row}
    (h : Filter.keepMatching f.filters rows = .ok kept) :
    m.select f (rows.map .record) = .ok ((kept.map (Plan.project f.columns)).map .record) := by
  induction rows generalizing kept with
  | nil =>
    obtain rfl : [] = kept := Except.ok.inj h
    rfl
  | cons row rows ih =>
    cases hrow : Filter.allMatch row f.filters with
    | error e => simp [Filter.keepMatching, hrow, bind, Except.bind] at h
    | ok keep =>
      cases hrest : Filter.keepMatching f.filters rows with
      | error e => simp [Filter.keepMatching, hrow, hrest, bind, Except.bind] at h
      | ok rest =>
        obtain rfl : (if keep then row :: rest else rest) = kept := by
          simpa [Filter.keepMatching, hrow, hrest, bind, Except.bind, pure, Except.pure] using h
        simp only [List.map_cons, select, accepts_record hrow, project_record, hwhole, ih hrest,
          bind, Except.bind, pure, Except.pure]
        cases keep <;> rfl

theorem rowList_records (rows : List Row) : rowList (rows.map .record) = .ok rows := by
  induction rows with
  | nil => rfl
  | cons row rows ih =>
    rw [List.map_cons, rowList, ih]
    rfl

/-- Records in memory are served as long as nothing has to be waited for. -/
theorem serves (hwhole : m.whole = false) {entity : String} (hrows : m.rowsOf entity = rows.map .record)
    (describe : EvaluationError → String) (timeout? : Option Double) :
    (m.toDataStore describe none).Serves timeout? entity rows := by
  rintro f rfl kept hkept
  have hanswer : m.answer f = .ok (kept.map (Plan.project f.columns)) := by
    rw [answer, hrows, select_records hwhole f hkept]
    exact rowList_records _
  simp [toDataStore, FetchReply.rows, FetchReply.isLate, hanswer]

end MemoryStore

namespace Engine
variable {engine : Engine} {draft : Draft} {d : Definition} {catalog : Catalog} {rows : List Row}

theorem outcome_runPlan (calls : List String) {p : Plan}
    (hserves : engine.store.Serves engine.config.fetchTimeout? p.definition.entity rows)
    (hpushed : ∀ row ∈ rows, ∀ f ∈ p.filters.pushed, (row.get f.field).HasText) :
    (engine.runPlan calls p).outcome =
      match p.finish engine.config.unknownGroupLabel
        ((rows.filter fun row => p.filters.pushed.all (·.holds row)).map
          (Plan.project p.fetchColumns)) with
      | .ok result => .ok result
      | .error e => .error (.evaluation e) := by
  have hrows := hserves p.toFetch rfl _ (Filter.keepMatching_eq_filter hpushed)
  have hentity : p.toFetch.entity = p.definition.entity := rfl
  unfold runPlan
  simp only [hentity, hrows]
  rfl

/-- What an execution yields on a store that serves the rows of the entity. -/
theorem outcome_execute (hd : draft.validate = .ok d)
    (hcatalog : engine.resolve d.entity = .ok catalog)
    (htext : ∀ row ∈ rows, ∀ f ∈ d.effective catalog, (row.get f.field).HasText)
    (hserves : engine.store.Serves engine.config.fetchTimeout? d.entity rows) :
    (engine.execute draft).outcome = d.meaning catalog engine.config.unknownGroupLabel rows := by
  rw [execute_eq hd hcatalog]
  unfold Definition.meaning
  cases hcolumns : d.splitColumns catalog with
  | error e => rw [Plan.make_eq_error_of_columns hcolumns]
  | ok split =>
    obtain ⟨columns, dropped⟩ := split
    cases hgrouping : d.resolveGrouping catalog with
    | error e => rw [Plan.make_eq_error_of_grouping hcolumns hgrouping]
    | ok kept =>
      obtain ⟨aggregations, warnings⟩ := kept
      rw [Plan.make_eq hcolumns hgrouping]
      set filters := FilterPlan.ofFilters catalog.keys engine.store.supported d.filters with hfilters
      rw [outcome_runPlan _ hserves fun row hrow f hf =>
          htext row hrow f (Definition.mem_effective_of_mem_pushed hf),
        Plan.finish_project _ (fun f hf => FilterPlan.isInert_of_mem_kept hf) fun row hrow f hf =>
          htext row (List.mem_of_mem_filter hrow) f (Definition.mem_effective_of_mem_kept hf)]
      simp only [hfilters, Definition.filter_pushed_filter_kept, Definition.filters_rejected_eq]
      cases d.groupBy? with
      | none => rfl
      | some key =>
        dsimp only
        cases aggregate (d.satisfying catalog rows) key aggregations
          engine.config.unknownGroupLabel <;> rfl

def companies : List Row :=
  [[("name", .text "Acme"), ("industry", .text "Tech"), ("size", .int 250)],
   [("name", .text "Bolt"), ("industry", .text "Tech"), ("size", .text "9")],
   [("name", .text "Cask"), ("industry", .null), ("size", .null)]]

def companyStore (supported : List Operator) : DataStore :=
  MemoryStore.toDataStore { rows := [("companies", companies.map .record)], supported }
    (fun _ => "") none

def companyEngine : Engine :=
  { registry := .default, store := companyStore [.equals],
    fields? := some fun _ => ⟨false, .ok (some [⟨"tier", "Tier", .custom, .number⟩])⟩ }

def companyCatalog : Catalog :=
  ⟨"companies", Registry.commonFields ++
    [⟨"name", "Name", .builtIn, .text⟩, ⟨"website", "Website", .builtIn, .text⟩,
     ⟨"industry", "Industry", .builtIn, .text⟩, ⟨"size", "Size", .builtIn, .text⟩,
     ⟨"custom.tier", "Tier", .custom, .number⟩], []⟩

def largeTech : Definition :=
  { entity := "companies", columns := ["name", "gone"], groupBy? := some "industry",
    filters := [⟨"size", .greaterThan, "100"⟩, ⟨"industry", .equals, "Tech"⟩, ⟨"gone", .equals, "1"⟩,
      ⟨"name", .contains, " "⟩],
    aggregations := [⟨.count, "name"⟩, ⟨.sum, "size"⟩, ⟨.max, "custom.tier"⟩] }

theorem companyStore_serves (supported : List Operator) :
    (companyStore supported).Serves companyEngine.config.fetchTimeout? "companies" companies :=
  MemoryStore.serves rfl rfl _ _

end Engine

end Rollup
