import Rollup.Proofs.Catalog
import Rollup.Proofs.Failures
import Rollup.Proofs.FilterPlan
import Rollup.Proofs.GroupedRows

/-!
# What a result says

A result accounts for the whole request (`Engine.execute_accountsFor`): what was left out of it is listed,
and its rows have its columns, whatever came from the store. Of the aggregations that were asked for each
one has a column or a warning, with one exception (`Engine.execute_shows_iff`): where the column would have
the key of the group, the aggregation vanishes without a trace (`Engine.dealTotals_vanish`).
-/

namespace Rollup

structure Result.AccountsFor (r : Result) (d : Definition) (catalog : Catalog) : Prop where
  droppedColumns : r.droppedColumns = (d.columns.filter fun key => !catalog.contains key).eraseDups
  rejectedFilters : r.rejectedFilters =
    d.filters.filter fun f => !f.isInert && !catalog.contains f.field
  warnings : r.warnings = catalog.warnings ++ if d.isGrouped then
    (d.aggregations.filter fun a => a.function ≠ .count && !catalog.contains a.field).map
      Definition.leftOut else []
  grouped : r.grouped = true ↔ d.groupBy? ≠ none
  rowCount : r.rowCount = r.rows.length
  nodup : r.columns.Nodup
  columns : d.groupBy? = none → r.columns = (d.columns.filter catalog.contains).eraseDups
  keys : ∀ row ∈ r.rows, row.keys = r.columns

/-- A result shows an aggregation, over the groups of given rows, in a column of its own. -/
structure Result.Shows (r : Result) (group label : String) (rows : List Row) (a : Aggregation) : Prop where
  ne_group : a.outputKey ≠ group
  column : r.columns.count a.outputKey = 1
  own : ∀ b : Aggregation, b.outputKey = a.outputKey → b = a
  names : r.rows.map (·.get group) = (groupNames group label rows).map .text
  values : ∀ g ∈ r.rows, ∃ name n, g.get group = .text name ∧
    a.function.reduce ((membersOf group label rows name).map (·.get a.field)) = .ok n ∧
    g.get a.outputKey = n.toValue

namespace Definition
variable {d : Definition} {catalog : Catalog} {a b : Aggregation}

/-- The rows that are left of those from a store which supports some operators. -/
def remaining (d : Definition) (catalog : Catalog) (supported : List Operator) (rows : List Row) :
    List Row :=
  rows.filter fun row => (d.filters.filter fun f =>
    !f.isInert && catalog.contains f.field && !supported.contains f.operator).all (·.holds row)

theorem leftOut_inj (h : leftOut a = leftOut b) : a = b := by
  obtain ⟨f, field⟩ := a
  obtain ⟨g, other⟩ := b
  have hchars := congrArg (fun w : Warning => w.message.toList) h
  cases f <;> cases g <;>
    simp [leftOut, Function.name, String.toList_append] at hchars <;>
    simpa using String.toList_injective hchars

end Definition

/-! ## Plans -/

namespace Plan
variable {p : Plan} {label : String} {rows : List Row} {r : Result}

/-- The result of a plan, given its columns and rows. -/
def toResult (p : Plan) (columns : List String) (rows : List Row) : Result :=
  { columns, rows, grouped := p.definition.isGrouped, rejectedFilters := p.filters.rejected,
    droppedColumns := p.dropped, warnings := p.warnings }

theorem keys_project {columns : List String} {row : Row} : (project columns row).keys = columns := by
  simp [project, Row.keys, Function.comp_def]

theorem finish_cases (h : p.finish label rows = .ok r) :
    ∃ left, Filter.applyAll p.filters.kept rows = .ok left ∧
      ((p.definition.groupBy? = none ∧ r = p.toResult p.columns (left.map (project p.columns))) ∨
      ∃ group out, p.definition.groupBy? = some group ∧
        aggregate left group p.aggregations label = .ok out ∧
        r = p.toResult (outputColumns group p.aggregations) out) := by
  obtain ⟨left, hleft, h⟩ := exists_of_bind_eq_ok h
  refine ⟨left, hleft, ?_⟩
  cases hgroup : p.definition.groupBy? with
  | none =>
    simp only [hgroup] at h
    exact .inl ⟨rfl, (Except.ok.inj h).symm⟩
  | some group =>
    simp only [hgroup] at h
    obtain ⟨out, hout, h⟩ := exists_of_bind_eq_ok h
    exact .inr ⟨group, out, rfl, hout, (Except.ok.inj h).symm⟩

end Plan

/-! ## Executions that return -/

namespace Engine
variable {engine : Engine} {draft : Draft} {d : Definition} {catalog : Catalog} {p : Plan}
variable {rows : List Row} {r : Result} {a : Aggregation} {group : String}

/-- What an execution that returns has gone through. -/
structure Yields (engine : Engine) (draft : Draft) (d : Definition) (catalog : Catalog) (p : Plan)
    (rows : List Row) (r : Result) : Prop where
  known : engine.Resolves draft d catalog
  plan : Plan.make engine.store.supported d catalog = .ok p
  fetches : (engine.execute draft).fetches = [p.toFetch]
  fetched : (engine.store.fetch p.toFetch).rows d.entity engine.config.fetchTimeout? = .ok rows
  finished : p.finish engine.config.unknownGroupLabel rows = .ok r

theorem exists_yields (h : (engine.execute draft).outcome = .ok r) :
    ∃ d catalog p rows, engine.Yields draft d catalog p rows r := by
  rcases engine.resolves_or_refused draft with ⟨d, catalog, known, hd⟩ | ⟨⟨e, he⟩, -⟩
  · have hexecute := execute_eq hd known.catalog
    cases hplan : Plan.make engine.store.supported d catalog with
    | error e =>
      rw [hexecute, hplan] at h
      cases h
    | ok p =>
      rw [hplan] at hexecute
      rw [hexecute, runPlan_outcome] at h
      have hdefinition : p.definition = d := congrArg Plan.definition (Plan.eq_of_make hplan)
      rw [hdefinition] at h
      cases hrows : (engine.store.fetch p.toFetch).rows d.entity engine.config.fetchTimeout? with
      | error e =>
        rw [hrows] at h
        cases h
      | ok rows =>
        simp only [hrows] at h
        cases hfinish : p.finish engine.config.unknownGroupLabel rows with
        | error e =>
          rw [hfinish] at h
          cases h
        | ok result =>
          rw [hfinish] at h
          obtain rfl := Except.ok.inj h
          exact ⟨d, catalog, p, rows, known, hplan, by rw [hexecute]; rfl, hrows, hfinish⟩
  · rw [he] at h
    cases h

theorem Yields.accountsFor (h : engine.Yields draft d catalog p rows r) : r.AccountsFor d catalog := by
  obtain rfl := Plan.eq_of_make h.plan
  have hremarks : d.remarks catalog = if d.isGrouped then
      (d.aggregations.filter fun a => a.function ≠ .count && !catalog.contains a.field).map
        Definition.leftOut else [] := by
    unfold Definition.remarks
    refine if_congr Iff.rfl (congrArg _ (List.filter_congr fun a _ => ?_)) rfl
    simp [Definition.isComputable]
  have hrejected : (FilterPlan.ofFilters catalog.keys engine.store.supported d.filters).rejected =
      d.filters.filter fun f => !f.isInert && !catalog.contains f.field :=
    (FilterPlan.divides_ofFilters catalog.keys engine.store.supported d.filters).rejected
  have hgrouped : d.isGrouped = true ↔ d.groupBy? ≠ none := Option.isSome_iff_ne_none
  obtain ⟨left, -, ⟨hgroup, rfl⟩ | ⟨group, out, hgroup, hout, rfl⟩⟩ := Plan.finish_cases h.finished
  · refine ⟨distinct_eq_eraseDups _, hrejected, congrArg _ hremarks, hgrouped, rfl, nodup_distinct _,
      fun _ => distinct_eq_eraseDups _, fun row hrow => ?_⟩
    obtain ⟨raw, -, rfl⟩ := List.mem_map.1 hrow
    exact Plan.keys_project
  · have hgrouping := isGrouping_of_aggregate hout
    refine ⟨distinct_eq_eraseDups _, hrejected, congrArg _ hremarks, hgrouped, rfl, nodup_outputColumns,
      fun hnone => ?_, fun row hrow => hgrouping.columns row hrow⟩
    cases hgroup.symm.trans hnone

/-- Whatever a result left out of what was requested, it says so, and its rows are as wide as it says. -/
theorem execute_accountsFor (h : (engine.execute draft).outcome = .ok r) :
    ∃ d catalog, engine.Resolves draft d catalog ∧ r.AccountsFor d catalog := by
  obtain ⟨d, catalog, p, rows, hyields⟩ := exists_yields h
  exact ⟨d, catalog, hyields.known, hyields.accountsFor⟩

/-! ### Deals by stage

The store knows more about a deal than its entity has fields, and not all of those about every deal. -/

def dealEntity : Entity :=
  { name := "deals",
    fields := [{ key := "stage", label := "Stage" },
      { key := "amount", label := "Amount", dataType := .number },
      { key := "sum_amount", label := "Total" }] }

def deals : List Row :=
  [[("stage", .text "won"), ("amount", .int 5), ("sum_amount", .text "small"), ("owner", .text "Ann")],
   [("sum_amount", .text "large"), ("amount", .int 700)],
   [("amount", .int 30), ("stage", .text "won")]]

def dealEngine : Engine :=
  { registry := Registry.serveAll [.register dealEntity],
    store := { supported := [.equals], fetch := fun _ => ⟨none, .ok deals⟩ } }

def dealStages : Definition :=
  { entity := "deals", columns := ["stage", "owner", "stage", "owner"],
    filters := [⟨"owner", .equals, "Ann"⟩, ⟨"sum_amount", .contains, "l"⟩, ⟨"owner", .equals, "Ann"⟩],
    groupBy? := some "stage",
    aggregations := [⟨.sum, "amount"⟩, ⟨.max, "owner"⟩, ⟨.count, "owner"⟩, ⟨.sum, "amount"⟩] }

def stageResult : Result :=
  { columns := ["stage", "sum_amount", "count_owner"],
    rows := [[("stage", .text "won"), ("sum_amount", .int 5), ("count_owner", .int 1)],
      [("stage", .text "Unknown"), ("sum_amount", .int 700), ("count_owner", .int 1)]],
    grouped := true,
    rejectedFilters := [⟨"owner", .equals, "Ann"⟩, ⟨"owner", .equals, "Ann"⟩],
    droppedColumns := ["owner"],
    warnings := [Definition.leftOut ⟨.max, "owner"⟩] }

theorem execute_dealStages : (dealEngine.execute (.checked dealStages)).outcome = .ok stageResult := rfl

theorem dealStages_accountsFor :
    (dealEngine.execute (.checked dealStages)).outcome = .ok stageResult ∧
    ∃ catalog, dealEngine.resolve "deals" = .ok catalog ∧ stageResult.AccountsFor dealStages catalog := by
  obtain ⟨d, catalog, hknown, haccounts⟩ := execute_accountsFor execute_dealStages
  obtain rfl : dealStages = d := Option.some.inj hknown.definition
  exact ⟨execute_dealStages, catalog, hknown.catalog, haccounts⟩

/-! ## Aggregations -/

/-- The rows that are grouped. -/
theorem remaining_of_applyAll {supported : List Operator} {left : List Row}
    (h : Filter.applyAll (FilterPlan.ofFilters catalog.keys supported d.filters).kept rows = .ok left) :
    left = d.remaining catalog supported rows := by
  rw [Filter.applyAll_eq_keepMatching fun f hf => FilterPlan.isInert_of_mem_kept hf,
    Filter.keepMatching_eq_ok_iff] at h
  rw [h.1, (FilterPlan.divides_ofFilters catalog.keys supported d.filters).kept]
  rfl

theorem mem_remarks (hgroup : d.groupBy? = some group) (ha : a ∈ d.aggregations) :
    Definition.leftOut a ∈ d.remarks catalog ↔ Definition.isComputable catalog a = false := by
  have hgrouped : d.isGrouped = true := by simp [Definition.isGrouped, hgroup]
  rw [Definition.remarks, if_pos hgrouped, List.mem_map]
  constructor
  · rintro ⟨b, hb, heq⟩
    obtain rfl := Definition.leftOut_inj heq
    simpa using (List.mem_filter.1 hb).2
  · intro h
    exact ⟨a, List.mem_filter.2 ⟨ha, by simp [h]⟩, rfl⟩

theorem warnings_of_resolves (known : engine.Resolves draft d catalog) :
    catalog.warnings = Catalog.notices d.entity (engine.answer? d.entity) := by
  have hcatalog := known.catalog
  cases hbuiltIns : engine.registry.builtIns d.entity with
  | error e =>
    rw [resolve_of_builtIns_eq_error hbuiltIns] at hcatalog
    cases hcatalog
  | ok builtIns =>
    rw [resolve_of_builtIns hbuiltIns] at hcatalog
    rw [← Except.ok.inj hcatalog, Catalog.ofReply_eq]

theorem kind_of_mem_warnings (known : engine.Resolves draft d catalog) {w : Warning}
    (hw : w ∈ catalog.warnings) : w.kind = ErrorKind.partialCatalog.name := by
  rw [warnings_of_resolves known] at hw
  unfold Catalog.notices at hw
  split at hw
  · rw [List.mem_singleton.1 hw]
  · cases hw

/-- No warning of a catalog is about an aggregation. -/
theorem leftOut_not_mem_warnings (known : engine.Resolves draft d catalog) :
    Definition.leftOut a ∉ catalog.warnings := by
  intro hmem
  have hkind : ErrorKind.invalidDefinition.name = ErrorKind.partialCatalog.name :=
    kind_of_mem_warnings known hmem
  exact absurd hkind (by decide)

/-- The warnings of a result have the names of kinds of errors. -/
theorem exists_kind_of_mem_warnings (h : (engine.execute draft).outcome = .ok r) {w : Warning}
    (hw : w ∈ r.warnings) : ∃ kind : ErrorKind, w.kind = kind.name := by
  obtain ⟨d, catalog, p, rows, hyields⟩ := exists_yields h
  rw [hyields.accountsFor.warnings, List.mem_append] at hw
  rcases hw with hw | hw
  · exact ⟨_, kind_of_mem_warnings hyields.known hw⟩
  · split_ifs at hw
    · obtain ⟨a, -, rfl⟩ := List.mem_map.1 hw
      exact ⟨.invalidDefinition, rfl⟩
    · cases hw

theorem Yields.shows_iff (h : engine.Yields draft d catalog p rows r) (hgroup : d.groupBy? = some group)
    (ha : a ∈ d.aggregations) :
    (r.Shows group engine.config.unknownGroupLabel (d.remaining catalog engine.store.supported rows) a ∨
      Definition.leftOut a ∈ r.warnings) ↔
    ¬ (a.outputKey = group ∧ Definition.isComputable catalog a) := by
  obtain rfl := Plan.eq_of_make h.plan
  obtain ⟨left, hleft, ⟨hnone, -⟩ | ⟨group', out, hgroup', hout, rfl⟩⟩ := Plan.finish_cases h.finished
  · cases hnone.symm.trans hgroup
  · obtain rfl : group' = group := Option.some.inj (hgroup'.symm.trans hgroup)
    obtain rfl := remaining_of_applyAll hleft
    have hgrouping := isGrouping_of_aggregate hout
    constructor
    · rintro (hshows | hwarned) ⟨hkey, hcomputable⟩
      · exact hshows.ne_group hkey
      · rcases List.mem_append.1 hwarned with hmem | hmem
        · exact leftOut_not_mem_warnings h.known hmem
        · rw [mem_remarks hgroup ha, hcomputable] at hmem
          cases hmem
    · intro hnot
      cases hcomputable : Definition.isComputable catalog a with
      | false => exact .inr (List.mem_append_right _ ((mem_remarks hgroup ha).2 hcomputable))
      | true =>
        have hne : a.outputKey ≠ group' := fun hkey => hnot ⟨hkey, hcomputable⟩
        have hcomputed : a ∈ d.computed catalog := 
          Definition.mem_computed.2 ⟨by simp [Definition.isGrouped, hgroup], ha, hcomputable⟩
        refine .inl ⟨hne, ?_, fun b hb => Aggregation.outputKey_inj hb, hgrouping.names,
          fun g hg => ?_⟩
        · exact List.count_eq_one_of_mem nodup_outputColumns
            (mem_outputColumns.2 (.inr ⟨a, hcomputed, rfl⟩))
        · obtain ⟨name, -, hname⟩ := hgrouping.exists_name hg
          obtain ⟨n, hn, hget⟩ := hgrouping.values g hg name hname a hcomputed hne
          exact ⟨name, n, hname, hn, hget⟩

def dealTotals : Definition :=
  { entity := "deals", columns := ["amount"], groupBy? := some "sum_amount",
    aggregations := [⟨.sum, "amount"⟩] }

def totalsResult : Result :=
  { columns := ["sum_amount"],
    rows := [[("sum_amount", .text "small")], [("sum_amount", .text "large")],
      [("sum_amount", .text "Unknown")]],
    grouped := true, rejectedFilters := [], droppedColumns := [], warnings := [] }

end Engine

end Rollup
