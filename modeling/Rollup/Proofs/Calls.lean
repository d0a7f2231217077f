import Rollup.Proofs.FilterPlan
import Rollup.Proofs.Planning

/-!
# The calls of an execution

Which collaborators an execution asks, and for what (`execute_conducts`). Nobody is asked before it is
known that there is a definition of a registered entity to execute; then the registry of custom fields is
asked once, and the store at most once, after columns and grouping are settled. A fetch never asks for
anything outside the catalog, nor for anything that the definition does not need (`Fetch.Suits`). The
calls that an execution records are all that its outcome depends on (`execute_congr`).
-/

namespace Rollup

/-- The definition that a draft is, or is read as. -/
def Draft.definition? : Draft → Option Definition
  | checked d => some d
  | raw v => (Definition.check v).toOption

/-- A definition says what to report on. -/
def Definition.IsComplete (d : Definition) : Prop := Text.isBlank d.entity = false ∧ d.columns ≠ []

/-- The aggregations that are computed. -/
def Definition.computed (d : Definition) (catalog : Catalog) : List Aggregation :=
  if d.isGrouped then d.aggregations.filter (isComputable catalog) else []

/-- The warnings about those that are not. -/
def Definition.remarks (d : Definition) (catalog : Catalog) : List Warning :=
  if d.isGrouped then (d.aggregations.filter fun a => !isComputable catalog a).map leftOut else []

/-- A fetch asks for what a definition needs of the known fields, and for nothing else. -/
structure Fetch.Suits (f : Fetch) (d : Definition) (catalog : Catalog) (supported : List Operator) :
    Prop where
  entity : f.entity = d.entity
  nodup : f.columns.Nodup
  /-- The known columns come first, each where it is first requested. -/
  starts : (d.columns.filter catalog.contains).eraseDups <+: f.columns
  mem_columns : ∀ key, key ∈ f.columns ↔ catalog.contains key ∧ (key ∈ d.columns ∨
    d.groupBy? = some key ∨
    (d.isGrouped ∧ ∃ a ∈ d.aggregations, a.function ≠ .count ∧ a.field = key) ∨
    ∃ g ∈ d.filters, g.isInert = false ∧ g.operator ∉ supported ∧ g.field = key)
  filters : f.filters = d.filters.filter fun g =>
    !g.isInert && catalog.contains g.field && supported.contains g.operator

/-- A draft stands for a definition that can be executed with a catalog. -/
structure Engine.Resolves (engine : Engine) (draft : Draft) (d : Definition) (catalog : Catalog) :
    Prop where
  definition : draft.definition? = some d
  complete : d.IsComplete
  catalog : engine.resolve d.entity = .ok catalog

/-- How an execution may use its collaborators. -/
inductive Engine.Conducts (engine : Engine) (draft : Draft) : Execution → Prop
  /-- Without a complete definition of a registered entity nobody is asked. -/
  | refused {e : ReportError} (hkind : e.kind = .invalidDefinition ∨ e.kind = .unknownEntity)
      (h : ∀ d, draft.definition? = some d → d.IsComplete → d.entity ∉ engine.registry.names) :
      Conducts engine draft ⟨[], [], .error (.report e)⟩
  /-- Nothing is fetched when no requested column is known. -/
  | noColumns {d : Definition} {catalog : Catalog} (known : engine.Resolves draft d catalog)
      (hcolumns : ∀ key ∈ d.columns, catalog.contains key = false) :
      Conducts engine draft ⟨engine.catalogCalls d.entity, [],
        .error (.report (.noValidColumns d.entity d.columns.eraseDups))⟩
  /-- Nothing is fetched when rows are to be grouped by an unknown field. -/
  | unknownGroup {d : Definition} {catalog : Catalog} {group : String}
      (known : engine.Resolves draft d catalog)
      (hcolumns : ∃ key ∈ d.columns, catalog.contains key) (hgroup : d.groupBy? = some group)
      (hunknown : catalog.contains group = false) :
      Conducts engine draft ⟨engine.catalogCalls d.entity, [], .error (.report (.unknownGroup group))⟩
  /-- There is one fetch otherwise, whatever comes of it. -/
  | fetched {d : Definition} {catalog : Catalog} {f : Fetch} {outcome : Except ExecutionError Result}
      (known : engine.Resolves draft d catalog) (hcolumns : ∃ key ∈ d.columns, catalog.contains key)
      (hgroup : ∀ group, d.groupBy? = some group → catalog.contains group)
      (suits : f.Suits d catalog engine.store.supported) :
      Conducts engine draft ⟨engine.catalogCalls d.entity, [f], outcome⟩

/-- Two engines alike in everything but their collaborators, which answer alike whatever an execution
asks of them. -/
structure Engine.AnswersAlike (engine other : Engine) (x : Execution) : Prop where
  registry : other.registry = engine.registry
  config : other.config = engine.config
  supported : other.store.supported = engine.store.supported
  isSome : other.fields?.isSome = engine.fields?.isSome
  fields : ∀ entity ∈ x.fieldCalls, other.fields?.map (fun source => (source entity).outcome) =
    engine.fields?.map fun source => (source entity).outcome
  fetch : ∀ f ∈ x.fetches, other.store.fetch f = engine.store.fetch f

namespace Draft
variable {draft : Draft} {d : Definition}

theorem validate_of_definition? (h : draft.definition? = some d) : draft.validate =
    if Text.isBlank d.entity then .error .noEntity
    else if d.columns.isEmpty then .error .noColumns
    else .ok d := by
  cases draft with
  | checked d' =>
    obtain rfl : d' = d := Option.some.inj h
    rfl
  | raw v =>
    unfold definition? at h
    cases hv : Definition.check v with
    | error problems => simp [hv, Except.toOption] at h
    | ok d' =>
      obtain rfl : d' = d := by simpa [hv, Except.toOption] using h
      simp only [validate, hv, Checked.as]
      rfl

theorem validate_of_definition?_eq_none (h : draft.definition? = none) :
    ∃ r, draft.validate = .error (.malformed r) := by
  cases draft with
  | checked d => cases h
  | raw v =>
    unfold definition? at h
    cases hv : Definition.check v with
    | ok d => simp [hv, Except.toOption] at h
    | error problems => exact ⟨_, by simp only [validate, hv, Checked.as]; rfl⟩

/-- A draft is either a complete definition or refused for a reason of its own. -/
theorem validate_cases (draft : Draft) :
    (∃ d, draft.validate = .ok d ∧ draft.definition? = some d ∧ d.IsComplete) ∨
      ∃ e, draft.validate = .error e ∧ e.kind = .invalidDefinition ∧
        ∀ d, draft.definition? = some d → ¬ d.IsComplete := by
  cases hdraft : draft.definition? with
  | none =>
    obtain ⟨r, hr⟩ := validate_of_definition?_eq_none hdraft
    exact .inr ⟨_, hr, rfl, fun d hd => by cases hd⟩
  | some d =>
    rw [validate_of_definition? hdraft]
    by_cases hblank : Text.isBlank d.entity
    · refine .inr ⟨.noEntity, if_pos hblank, rfl, ?_⟩
      rintro _ h hcomplete
      obtain rfl := Option.some.inj h
      exact absurd hblank (by simp [hcomplete.1])
    · rw [if_neg hblank]
      by_cases hempty : d.columns.isEmpty
      · refine .inr ⟨.noColumns, if_pos hempty, rfl, ?_⟩
        rintro _ h hcomplete
        obtain rfl := Option.some.inj h
        exact hcomplete.2 (List.isEmpty_iff.1 hempty)
      · refine .inl ⟨d, if_neg hempty, rfl, ?_, ?_⟩
        · simpa using hblank
        · simpa using hempty

end Draft

namespace Engine
variable {engine : Engine} {draft : Draft} {d : Definition} {catalog : Catalog}

theorem resolve_eq_error_iff {entity : String} {e : ReportError} :
    engine.resolve entity = .error e ↔
      e = .unknownEntity entity ∧ entity ∉ engine.registry.names := by
  unfold Engine.resolve Catalog.resolve Registry.builtIns Registry.get
  cases hfind : engine.registry.find? entity with
  | some known =>
    have hmem : entity ∈ engine.registry.names :=
      List.mem_map.2 ⟨known, List.mem_of_find?_eq_some hfind, by simpa using List.find?_some hfind⟩
    simp [bind, Except.bind, pure, Except.pure, hmem]
  | none =>
    have hmem : entity ∉ engine.registry.names := by
      intro hmem
      obtain ⟨known, hknown, hname⟩ := List.mem_map.1 hmem
      simpa [hname] using List.find?_eq_none.1 hfind known hknown
    simp [bind, Except.bind, hmem, eq_comm]

end Engine

namespace Definition
variable {d : Definition} {catalog : Catalog}

theorem splitColumns_eq_error (h : ∀ key ∈ d.columns, catalog.contains key = false) :
    d.splitColumns catalog = .error (.noValidColumns d.entity d.columns.eraseDups) := by
  have hvalid : (distinct d.columns).filter catalog.contains = [] := by
    rw [List.filter_eq_nil_iff]
    intro key hkey
    simp [h key (mem_distinct.1 hkey)]
  rw [← distinct_eq_eraseDups]
  simp only [splitColumns, hvalid, List.isEmpty_nil, if_true]

theorem splitColumns_eq_ok (h : ∃ key ∈ d.columns, catalog.contains key) :
    d.splitColumns catalog = .ok (distinct (d.columns.filter catalog.contains),
      distinct (d.columns.filter fun key => !catalog.contains key)) := by
  obtain ⟨key, hkey, hknown⟩ := h
  have hmem : key ∈ (distinct d.columns).filter catalog.contains :=
    List.mem_filter.2 ⟨mem_distinct.2 hkey, hknown⟩
  have hvalid : ((distinct d.columns).filter catalog.contains).isEmpty = false := by
    simpa using List.ne_nil_of_mem hmem
  simp [splitColumns, hvalid, distinct_filter]

theorem resolveGrouping_eq_error {group : String} (hgroup : d.groupBy? = some group)
    (hunknown : catalog.contains group = false) :
    d.resolveGrouping catalog = .error (.unknownGroup group) := by
  simp [resolveGrouping, hgroup, hunknown]

theorem resolveGrouping_eq (h : ∀ group, d.groupBy? = some group → catalog.contains group) :
    d.resolveGrouping catalog = .ok (d.computed catalog, d.remarks catalog) := by
  unfold resolveGrouping computed remarks isGrouped
  cases hgroup : d.groupBy? with
  | none => rfl
  | some group => exact if_pos (h group hgroup)

theorem mem_computed {a : Aggregation} : a ∈ d.computed catalog ↔
    d.isGrouped ∧ a ∈ d.aggregations ∧ isComputable catalog a := by
  unfold computed
  cases d.isGrouped <;> simp

end Definition

namespace Plan
variable {d : Definition} {catalog : Catalog} {supported : List Operator} {p : Plan}

theorem eq_of_make (h : make supported d catalog = .ok p) :
    p = { definition := d, columns := distinct (d.columns.filter catalog.contains),
          dropped := distinct (d.columns.filter fun key => !catalog.contains key),
          aggregations := d.computed catalog, warnings := catalog.warnings ++ d.remarks catalog,
          filters := .ofFilters catalog.keys supported d.filters } := by
  by_cases hcolumns : ∃ key ∈ d.columns, catalog.contains key
  · have hsplit := Definition.splitColumns_eq_ok hcolumns
    by_cases hgroup : ∀ group, d.groupBy? = some group → catalog.contains group
    · rw [make_eq hsplit (Definition.resolveGrouping_eq hgroup)] at h
      exact (Except.ok.inj h).symm
    · push Not at hgroup
      obtain ⟨group, hkey, hunknown⟩ := hgroup
      rw [make_eq_error_of_grouping hsplit
        (Definition.resolveGrouping_eq_error hkey (by simpa using hunknown))] at h
      cases h
  · have hnone : ∀ key ∈ d.columns, catalog.contains key = false := by simpa using hcolumns
    rw [make_eq_error_of_columns (Definition.splitColumns_eq_error hnone)] at h
    cases h

/-- The fetch of a plan for a definition whose columns and grouping are settled. -/
theorem suits_toFetch (h : make supported d catalog = .ok p)
    (hgroup : ∀ group, d.groupBy? = some group → catalog.contains group) :
    p.toFetch.Suits d catalog supported := by
  obtain rfl := eq_of_make h
  have hkept (g : Filter) : g ∈ (FilterPlan.ofFilters catalog.keys supported d.filters).kept ↔
      g ∈ d.filters ∧ g.isInert = false ∧ catalog.contains g.field ∧ g.operator ∉ supported := by
    rw [(FilterPlan.divides_ofFilters catalog.keys supported d.filters).kept, List.mem_filter]
    simp [Catalog.contains, and_assoc]
  have hcounted (a : Aggregation) (hcount : a.function ≠ .count) :
      Definition.isComputable catalog a ↔ catalog.contains a.field := by
    simp [Definition.isComputable, hcount]
  refine ⟨rfl, nodup_distinct _, ?_, fun key => ?_, ?_⟩
  · unfold toFetch fetchColumns
    rw [List.append_assoc, List.append_assoc, distinct_append, distinct_eq_self (nodup_distinct _),
      ← distinct_eq_eraseDups]
    exact List.prefix_append _ _
  · refine mem_fetchColumns.trans ?_
    rw [mem_distinct, List.mem_filter]
    constructor
    · rintro (⟨hmem, hknown⟩ | hkey | ⟨a, ha, hcount, rfl⟩ | ⟨g, hg, rfl⟩)
      · exact ⟨hknown, .inl hmem⟩
      · exact ⟨hgroup key hkey, .inr (.inl hkey)⟩
      · obtain ⟨hgrouped, hmem, hcomputable⟩ := Definition.mem_computed.1 ha
        exact ⟨(hcounted a hcount).1 hcomputable, .inr (.inr (.inl ⟨hgrouped, a, hmem, hcount, rfl⟩))⟩
      · obtain ⟨hmem, hactive, hknown, hunsupported⟩ := (hkept g).1 hg
        exact ⟨hknown, .inr (.inr (.inr ⟨g, hmem, hactive, hunsupported, rfl⟩))⟩
    · rintro ⟨hknown, hmem | hkey | ⟨hgrouped, a, ha, hcount, rfl⟩ | ⟨g, hg, hactive, hunsupported, rfl⟩⟩
      · exact .inl ⟨hmem, hknown⟩
      · exact .inr (.inl hkey)
      · exact .inr (.inr (.inl ⟨a, Definition.mem_computed.2 ⟨hgrouped, ha, (hcounted a hcount).2 hknown⟩,
          hcount, rfl⟩))
      · exact .inr (.inr (.inr ⟨g, (hkept g).2 ⟨hg, hactive, hknown, hunsupported⟩, rfl⟩))
  · exact (FilterPlan.divides_ofFilters catalog.keys supported d.filters).pushed

end Plan

namespace Engine
variable {engine other : Engine} {draft : Draft} {d : Definition} {catalog : Catalog}

/-- With a catalog an execution fails without a fetch, by its columns or its grouping, or fetches
once. -/
theorem conducts_of_resolves (known : engine.Resolves draft d catalog) (hd : draft.validate = .ok d) :
    engine.Conducts draft (engine.execute draft) := by
  rw [execute_eq hd known.catalog]
  by_cases hcolumns : ∃ key ∈ d.columns, catalog.contains key
  · have hsplit := Definition.splitColumns_eq_ok hcolumns
    by_cases hgroup : ∀ group, d.groupBy? = some group → catalog.contains group
    · have hplan : Plan.make engine.store.supported d catalog = .ok _ :=
        Plan.make_eq hsplit (Definition.resolveGrouping_eq hgroup)
      rw [hplan]
      exact .fetched known hcolumns hgroup (Plan.suits_toFetch hplan hgroup)
    · push Not at hgroup
      obtain ⟨group, hkey, hunknown⟩ := hgroup
      have hunknown : catalog.contains group = false := by simpa using hunknown
      have hgrouping := Definition.resolveGrouping_eq_error hkey hunknown
      rw [Plan.make_eq_error_of_grouping hsplit hgrouping]
      exact .unknownGroup known hcolumns hkey hunknown
  · have hcolumns : ∀ key ∈ d.columns, catalog.contains key = false := by simpa using hcolumns
    rw [Plan.make_eq_error_of_columns (Definition.splitColumns_eq_error hcolumns)]
    exact .noColumns known hcolumns

/-- Where there are no registries of custom fields, there are no answers that could differ. -/
theorem outcome_congr {fields? other? : Option FieldSource} {entity : String}
    (hsome : other?.isSome = fields?.isSome)
    (h : fields?.isSome → other?.map (fun source => (source entity).outcome) =
      fields?.map fun source => (source entity).outcome) :
    other?.map (fun source => (source entity).outcome) =
      fields?.map fun source => (source entity).outcome := by
  cases hfields : fields?.isSome with
  | true => exact h hfields
  | false =>
    have hother := hsome.trans hfields
    rw [Option.isSome_eq_false_iff, Option.isNone_iff_eq_none] at hfields hother
    rw [hfields, hother]

namespace AnswersAlike
variable {x : Execution}

theorem catalogCalls (h : engine.AnswersAlike other x) (entity : String) :
    other.catalogCalls entity = engine.catalogCalls entity := by
  unfold Engine.catalogCalls
  rw [h.isSome]

theorem resolve (h : engine.AnswersAlike other x) {entity : String}
    (hcalls : x.fieldCalls = engine.catalogCalls entity) :
    other.resolve entity = engine.resolve entity := by
  have hfields : other.fields?.map (fun source => (source entity).outcome) =
      engine.fields?.map fun source => (source entity).outcome :=
    outcome_congr h.isSome fun hsome =>
      h.fields entity (by simp [hcalls, Engine.catalogCalls, hsome])
  unfold Engine.resolve Catalog.resolve
  rw [h.registry, hfields]

end AnswersAlike

/-- An execution depends on its collaborators only through the calls that it records. -/
theorem execute_congr (h : engine.AnswersAlike other (engine.execute draft)) :
    other.execute draft = engine.execute draft := by
  cases hd : draft.validate with
  | error e => rw [execute_eq_of_validate hd, execute_eq_of_validate hd]
  | ok d =>
    cases hcatalog : engine.resolve d.entity with
    | error e =>
      have hother : other.resolve d.entity = .error e := by
        rw [resolve_eq_error_iff, h.registry]
        exact resolve_eq_error_iff.1 hcatalog
      rw [execute_eq_of_resolve hd hcatalog, execute_eq_of_resolve hd hother]
    | ok catalog =>
      rw [execute_eq hd hcatalog] at h ⊢
      have hcalls : (engine.execute draft).fieldCalls = engine.catalogCalls d.entity := by
        rw [execute_eq hd hcatalog]
        cases Plan.make engine.store.supported d catalog <;> rfl
      rw [execute_eq hd hcatalog] at hcalls
      rw [execute_eq hd ((h.resolve hcalls).trans hcatalog), h.supported, h.catalogCalls]
      cases hplan : Plan.make engine.store.supported d catalog with
      | error e => rfl
      | ok p =>
        rw [hplan] at h
        have hfetch := h.fetch p.toFetch (List.mem_singleton_self _)
        simp only [runPlan, hfetch, h.config]

/-- What an execution asks of its collaborators, whatever they answer. -/
theorem execute_conducts (engine : Engine) (draft : Draft) :
    engine.Conducts draft (engine.execute draft) ∧
      ∀ other : Engine, engine.AnswersAlike other (engine.execute draft) →
        other.execute draft = engine.execute draft := by
  refine ⟨?_, fun other => execute_congr⟩
  rcases draft.validate_cases with ⟨d, hd, hdefinition, hcomplete⟩ | ⟨e, he, hkind, hincomplete⟩
  · cases hcatalog : engine.resolve d.entity with
    | ok catalog => exact conducts_of_resolves ⟨hdefinition, hcomplete, hcatalog⟩ hd
    | error e =>
      obtain ⟨rfl, hunknown⟩ := resolve_eq_error_iff.1 hcatalog
      rw [execute_eq_of_resolve hd hcatalog]
      refine .refused (.inr rfl) fun d' hd' _ => ?_
      obtain rfl : d = d' := Option.some.inj (hdefinition.symm.trans hd')
      exact hunknown
  · rw [execute_eq_of_validate he]
    exact .refused (.inl hkind) fun d hd hcomplete => absurd hcomplete (hincomplete d hd)

end Engine

end Rollup
