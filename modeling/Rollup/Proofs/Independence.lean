import Rollup.Proofs.Catalog

/-!
# Reports without custom fields

A registry of custom fields decides nothing about reports that use none of them. Whether a key without
the prefix is known does not depend on it (`Catalog.contains_ofReply`), so it has no say in planning
(`Plan.make_congr`), and all that is left of it in the result is the warning about its failure
(`Engine.execute_eq_warnFirst`). Two executions that differ in it alone are compared in
`Engine.execute_without_custom`.
-/

namespace Rollup

/-- The keys that a definition mentions. -/
def Definition.mentioned (d : Definition) : List String :=
  d.columns ++ d.filters.map (·.field) ++ d.groupBy?.toList ++ d.aggregations.map (·.field)

def Plan.warnFirst (ws : List Warning) (p : Plan) : Plan := { p with warnings := ws ++ p.warnings }

def Result.warnFirst (ws : List Warning) (r : Result) : Result :=
  { r with warnings := ws ++ r.warnings }

/-- Two results are the same but for warnings in front of common ones. -/
structure Result.SameBut (front other : List Warning) (r s : Result) : Prop where
  columns : r.columns = s.columns
  rows : r.rows = s.rows
  rowCount : r.rowCount = s.rowCount
  grouped : r.grouped = s.grouped
  rejectedFilters : r.rejectedFilters = s.rejectedFilters
  droppedColumns : r.droppedColumns = s.droppedColumns
  warnings : ∃ common, r.warnings = front ++ common ∧ s.warnings = other ++ common

def Execution.warnFirst (ws : List Warning) (x : Execution) : Execution :=
  { x with outcome := x.outcome.map (·.warnFirst ws) }

/-- Two executions end in the same error, or in results that are the same but for warnings in front. -/
structure Execution.SameBut (front other : List Warning) (x y : Execution) : Prop where
  fetches : x.fetches = y.fetches
  outcome : (∃ e, x.outcome = .error e ∧ y.outcome = .error e) ∨
    ∃ r s, x.outcome = .ok r ∧ y.outcome = .ok s ∧ r.SameBut front other s

theorem Catalog.contains_ofReply {key : String} (h : ¬ HasCustomPrefix key) (entity : String)
    (builtIns : List Field) (outcome? : Option (Except Failure (Option (List Field)))) :
    (ofReply entity builtIns outcome?).contains key = (ofReply entity builtIns none).contains key := by
  rw [ofReply_eq]
  have hcustom : key ∉
      (customFields (builtIns.map (·.key)) (listing outcome?)).map (·.key) := by
    intro hmem
    obtain ⟨g, hg, rfl⟩ := List.mem_map.1 hmem
    have hlisted := List.mem_of_find?_eq_some (find?_of_mem_customFields hg).2
    exact h (isCustom_of_mem_map hlisted).2
  simp only [contains, keys, List.map_append, List.contains_eq_mem, List.mem_append, hcustom, or_false,
    ofReply]

theorem Catalog.warnings_ofReply (entity : String) (builtIns : List Field)
    (outcome? : Option (Except Failure (Option (List Field)))) :
    (ofReply entity builtIns outcome?).warnings =
      notices entity outcome? ++ (ofReply entity builtIns none).warnings := by
  rw [ofReply_eq, ofReply, List.append_nil]

/-! ## Planning -/

section Planning
variable {d : Definition} {catalog other : Catalog}

theorem Definition.splitColumns_congr
    (h : ∀ key ∈ d.columns, catalog.contains key = other.contains key) :
    d.splitColumns catalog = d.splitColumns other := by
  have hvalid : (distinct d.columns).filter catalog.contains =
      (distinct d.columns).filter other.contains :=
    List.filter_congr fun key hkey => h key (mem_distinct.1 hkey)
  have hdropped : (distinct d.columns).filter (fun key => !catalog.contains key) =
      (distinct d.columns).filter fun key => !other.contains key :=
    List.filter_congr fun key hkey => by rw [h key (mem_distinct.1 hkey)]
  unfold splitColumns
  dsimp only
  rw [hvalid, hdropped]

theorem Definition.resolveGrouping_congr
    (hgroup : ∀ key, d.groupBy? = some key → catalog.contains key = other.contains key)
    (haggregations : ∀ a ∈ d.aggregations, catalog.contains a.field = other.contains a.field) :
    d.resolveGrouping catalog = d.resolveGrouping other := by
  have hcomputable : ∀ a ∈ d.aggregations, isComputable catalog a = isComputable other a := by
    intro a ha
    unfold isComputable
    rw [haggregations a ha]
  unfold resolveGrouping
  cases hkey : d.groupBy? with
  | none => rfl
  | some key =>
    dsimp only
    rw [hgroup key hkey, List.filter_congr hcomputable,
      List.filter_congr fun a ha => congrArg (!·) (hcomputable a ha)]

theorem FilterPlan.ofFilters_congr {known names : List String} {fs : List Filter}
    (supported : List Operator) (h : ∀ f ∈ fs, known.contains f.field = names.contains f.field) :
    ofFilters known supported fs = ofFilters names supported fs := by
  have hroute : ∀ f ∈ fs, f.route known supported = f.route names supported := by
    intro f hf
    unfold Filter.route
    rw [h f hf]
  rw [ofFilters_eq, ofFilters_eq]
  have hfilter (place : Filter.Route) : fs.filter (·.route known supported = place) =
      fs.filter (·.route names supported = place) :=
    List.filter_congr fun f hf => by rw [hroute f hf]
  rw [hfilter, hfilter, hfilter]

theorem Plan.make_congr {ws : List Warning} (supported : List Operator)
    (h : ∀ key ∈ d.mentioned, catalog.contains key = other.contains key)
    (hwarnings : catalog.warnings = ws ++ other.warnings) :
    make supported d catalog = (make supported d other).map (·.warnFirst ws) := by
  simp only [Definition.mentioned, List.forall_mem_append, List.forall_mem_map] at h
  obtain ⟨⟨⟨hcolumns, hfilters⟩, hgroup⟩, haggregations⟩ := h
  have hgroup : ∀ key, d.groupBy? = some key → catalog.contains key = other.contains key :=
    fun key hkey => hgroup key (by simp [hkey])
  have hsplit := Definition.splitColumns_congr hcolumns
  have hgrouping := Definition.resolveGrouping_congr hgroup haggregations
  cases hcolumns : d.splitColumns other with
  | error e =>
    rw [make_eq_error_of_columns hcolumns, make_eq_error_of_columns (hsplit.trans hcolumns)]
    rfl
  | ok split =>
    cases haggregations : d.resolveGrouping other with
    | error e =>
      rw [make_eq_error_of_grouping hcolumns haggregations,
        make_eq_error_of_grouping (hsplit.trans hcolumns) (hgrouping.trans haggregations)]
      rfl
    | ok grouping =>
      rw [make_eq hcolumns haggregations,
        make_eq (hsplit.trans hcolumns) (hgrouping.trans haggregations), hwarnings,
        FilterPlan.ofFilters_congr supported hfilters, List.append_assoc]
      rfl

end Planning

/-! ## Executing -/

theorem Plan.finish_warnFirst (p : Plan) (ws : List Warning) (label : String) (rows : List Row) :
    (p.warnFirst ws).finish label rows = (p.finish label rows).map (·.warnFirst ws) := by
  unfold finish
  dsimp only [warnFirst]
  cases Filter.applyAll p.filters.kept rows with
  | error e => rfl
  | ok rows =>
    cases p.definition.groupBy? with
    | none => rfl
    | some key =>
      cases haggregate : aggregate rows key p.aggregations label with
      | error e => simp [haggregate, bind, Except.bind, Except.map]
      | ok groups => simp [haggregate, bind, Except.bind, Except.map, pure, Except.pure, Result.warnFirst]

namespace Engine
variable {engine : Engine} {draft : Draft} {d : Definition}

theorem runPlan_warnFirst (engine : Engine) (calls : List String) (p : Plan) (ws : List Warning) :
    engine.runPlan calls (p.warnFirst ws) = (engine.runPlan calls p).warnFirst ws := by
  unfold runPlan Execution.warnFirst
  dsimp only
  have htoFetch : (p.warnFirst ws).toFetch = p.toFetch := rfl
  rw [htoFetch]
  cases (engine.store.fetch p.toFetch).rows p.toFetch.entity engine.config.fetchTimeout? with
  | error e => rfl
  | ok rows =>
    dsimp only
    rw [p.finish_warnFirst]
    cases p.finish engine.config.unknownGroupLabel rows <;> rfl

/-- All that a registry of custom fields adds to an execution that uses none are warnings. -/
theorem execute_eq_warnFirst (engine : Engine) (hd : draft.definition? = some d)
    (h : ∀ key ∈ d.mentioned, ¬ HasCustomPrefix key) :
    ∃ calls, engine.execute draft = { ({ engine with fields? := none }.execute draft).warnFirst
      (Catalog.notices d.entity (engine.answer? d.entity)) with fieldCalls := calls } := by
  rcases draft.validate_cases with ⟨d', hvalid, hd', -⟩ | ⟨e, hinvalid, -⟩
  · obtain rfl := Option.some.inj (hd'.symm.trans hd)
    -- whether the entity is registered has nothing to do with custom fields
    cases hbuiltIns : engine.registry.builtIns d'.entity with
    | error e =>
      have hplain : { engine with fields? := none }.resolve d'.entity = .error e :=
        resolve_of_builtIns_eq_error hbuiltIns
      rw [execute_eq_of_resolve hvalid (resolve_of_builtIns_eq_error hbuiltIns),
        execute_eq_of_resolve hvalid hplain]
      exact ⟨[], rfl⟩
    | ok builtIns =>
      have hplain : { engine with fields? := none }.resolve d'.entity =
          .ok (Catalog.ofReply d'.entity builtIns none) := resolve_of_builtIns hbuiltIns
      have hplan := Plan.make_congr engine.store.supported
        (fun key hkey => Catalog.contains_ofReply (h key hkey) d'.entity builtIns
          (engine.answer? d'.entity))
        (Catalog.warnings_ofReply d'.entity builtIns (engine.answer? d'.entity))
      rw [execute_eq hvalid (resolve_of_builtIns hbuiltIns), execute_eq hvalid hplain, hplan]
      cases Plan.make engine.store.supported d' (Catalog.ofReply d'.entity builtIns none) with
      | error e => exact ⟨_, rfl⟩
      | ok p =>
        refine ⟨engine.catalogCalls d'.entity, ?_⟩
        show engine.runPlan _ (p.warnFirst _) = _
        rw [runPlan_warnFirst]
        rfl
  · rw [execute_eq_of_validate hinvalid, execute_eq_of_validate hinvalid]
    exact ⟨[], rfl⟩

/-- Executions of a definition that mentions no custom field differ, with any two registries of custom
fields or without one, at most in the warning about a failure. -/
theorem execute_without_custom (engine : Engine) (hd : draft.definition? = some d)
    (h : ∀ key ∈ d.mentioned, ¬ HasCustomPrefix key) (source? other? : Option FieldSource) :
    Execution.SameBut
      (Catalog.notices d.entity ({ engine with fields? := source? }.answer? d.entity))
      (Catalog.notices d.entity ({ engine with fields? := other? }.answer? d.entity))
      ({ engine with fields? := source? }.execute draft)
      ({ engine with fields? := other? }.execute draft) := by
  -- both executions are compared with the one that has no registry of custom fields
  obtain ⟨calls, hx⟩ := execute_eq_warnFirst { engine with fields? := source? } hd h
  obtain ⟨others, hy⟩ := execute_eq_warnFirst { engine with fields? := other? } hd h
  rw [hx, hy]
  refine ⟨rfl, ?_⟩
  cases hplain : ({ engine with fields? := none }.execute draft).outcome with
  | error e => exact .inl ⟨e, by simp [Execution.warnFirst, hplain, Except.map]⟩
  | ok r =>
    refine .inr ⟨_, _, congrArg (Except.map _) hplain, congrArg (Except.map _) hplain, ?_⟩
    exact ⟨rfl, rfl, rfl, rfl, rfl, rfl, r.warnings, rfl, rfl⟩

/-- A report on built-in fields and on one that no catalog has. -/
def plainReport : Definition :=
  { entity := "companies", columns := ["name", "tier"], groupBy? := some "industry",
    filters := [⟨"size", .greaterThan, "100"⟩], aggregations := [⟨.sum, "size"⟩, ⟨.max, "tier"⟩] }

theorem plainReport_execute_without_custom :
    (Draft.checked plainReport).definition? = some plainReport ∧
    (∀ key ∈ plainReport.mentioned, ¬ HasCustomPrefix key) ∧
    Execution.SameBut
      [⟨"PartialCatalog", "Custom fields for 'companies' are unavailable: no connection"⟩] []
      ({ twinEngine with fields? := some fun _ => ⟨true, .error (.other "no connection")⟩ }.execute
        (.checked plainReport))
      (twinEngine.execute (.checked plainReport)) := by
  have hplain : ∀ key ∈ plainReport.mentioned, ¬ HasCustomPrefix key := by decide
  exact ⟨rfl, hplain, execute_without_custom twinEngine rfl hplain
    (some fun _ => ⟨true, .error (.other "no connection")⟩) twinEngine.fields?⟩

end Engine

end Rollup
