import Rollup.Proofs.Filter
import Rollup.Proofs.Row

/-!
# Planning an execution

What an execution plans once its definition is checked and its catalog resolved (`execute_eq`), and
that the planned fetch covers every cell that is looked at afterwards: those of the valid columns, of
the group field, of aggregations other than counts and of the filters kept here.
-/

namespace Rollup

theorem mem_distinct {s : String} {ss : List String} : s ∈ distinct ss ↔ s ∈ ss := by
  induction ss with
  | nil => simp [distinct]
  | cons t ts ih =>
    by_cases h : s = t
    · simp [distinct, h]
    · simp [distinct, h, ih]

theorem nodup_distinct (ss : List String) : (distinct ss).Nodup := by
  induction ss with
  | nil => exact .nil
  | cons s ss ih => exact List.nodup_cons.2 ⟨by simp, ih.filter _⟩

theorem distinct_append (ss ts : List String) :
    distinct (ss ++ ts) = distinct ss ++ (distinct ts).filter (· ∉ ss) := by
  induction ss with
  | nil => simp [distinct]
  | cons s ss ih =>
    rw [List.cons_append, distinct, ih, List.filter_append, List.filter_filter, distinct,
      List.cons_append]
    refine congrArg (fun rest => s :: (_ ++ rest)) (List.filter_congr fun t _ => ?_)
    simp

theorem distinct_filter (p : String → Bool) (ss : List String) :
    distinct (ss.filter p) = (distinct ss).filter p := by
  induction ss with
  | nil => rfl
  | cons s ss ih =>
    by_cases hs : p s
    · rw [List.filter_cons_of_pos hs, distinct, ih, distinct, List.filter_cons_of_pos hs,
        List.filter_comm]
    · rw [List.filter_cons_of_neg hs, ih, distinct, List.filter_cons_of_neg hs, List.filter_filter]
      refine List.filter_congr fun t _ => ?_
      by_cases ht : t = s
      · simp [ht, hs]
      · simp [ht]

theorem distinct_eq_self {ss : List String} (h : ss.Nodup) : distinct ss = ss := by
  induction ss with
  | nil => rfl
  | cons s ss ih =>
    obtain ⟨hs, hss⟩ := List.nodup_cons.1 h
    rw [distinct, ih hss]
    refine congrArg (s :: ·) (List.filter_eq_self.2 fun t ht => ?_)
    have hts : t ≠ s := fun heq => hs (heq ▸ ht)
    simpa using hts

theorem distinct_eq_eraseDups (ss : List String) : distinct ss = ss.eraseDups := by
  match ss with
  | [] => rfl
  | s :: ss =>
    have hlength := List.length_filter_le (fun t => !t == s) ss
    rw [List.eraseDups_cons, ← distinct_eq_eraseDups, distinct_filter, distinct]
    refine congrArg (s :: ·) (List.filter_congr fun t _ => ?_)
    by_cases ht : t = s <;> simp [ht]
termination_by ss.length
decreasing_by simp only [List.length_cons]; omega

/-- Where names are distinct, what has a name is what is found under it. -/
theorem find?_eq_some_of_nodup {α : Type} {name : α → String} {as : List α} (h : (as.map name).Nodup)
    {a : α} (ha : a ∈ as) : as.find? (fun b => name b == name a) = some a := by
  induction as with
  | nil => cases ha
  | cons first rest ih =>
    rw [List.map_cons, List.nodup_cons] at h
    obtain ⟨hfirst, hrest⟩ := h
    rcases List.mem_cons.1 ha with rfl | ha
    · simp
    · have hmem : name a ∈ rest.map name := List.mem_map_of_mem ha
      have hne : name first ≠ name a := fun heq => hfirst (heq ▸ hmem)
      rw [List.find?_cons_of_neg (by simpa using hne), ih hrest ha]

namespace Plan
variable {p : Plan}

/-- Cutting a row down to columns keeps the cells there. -/
theorem get_project {columns : List String} {key : String} (h : key ∈ columns) (row : Row) :
    (project columns row).get key = row.get key :=
  Row.get_map_pair row.get h

theorem project_project {columns all : List String} (h : ∀ c ∈ columns, c ∈ all) (row : Row) :
    project columns (project all row) = project columns row :=
  List.map_congr_left fun c hc => by rw [get_project (h c hc)]

theorem mem_fetchColumns {key : String} : key ∈ p.fetchColumns ↔
    key ∈ p.columns ∨ p.definition.groupBy? = some key ∨
      (∃ a ∈ p.aggregations, a.function ≠ .count ∧ a.field = key) ∨
      ∃ f ∈ p.filters.kept, f.field = key := by
  simp [fetchColumns, mem_distinct, and_assoc]

/-- The plan for a definition whose columns and grouping are settled. -/
theorem make_eq {supported : List Operator} {d : Definition} {catalog : Catalog}
    {columns dropped : List String} {aggregations : List Aggregation} {warnings : List Warning}
    (hcolumns : d.splitColumns catalog = .ok (columns, dropped))
    (hgrouping : d.resolveGrouping catalog = .ok (aggregations, warnings)) :
    make supported d catalog = .ok
      { definition := d, columns, dropped, aggregations, warnings := catalog.warnings ++ warnings,
        filters := .ofFilters catalog.keys supported d.filters } := by
  simp [make, hcolumns, hgrouping, bind, Except.bind, pure, Except.pure]

theorem make_eq_error_of_columns {supported : List Operator} {d : Definition} {catalog : Catalog}
    {e : ReportError} (h : d.splitColumns catalog = .error e) :
    make supported d catalog = .error e := by
  simp [make, h, bind, Except.bind]

theorem make_eq_error_of_grouping {supported : List Operator} {d : Definition} {catalog : Catalog}
    {split : List String × List String} {e : ReportError}
    (hcolumns : d.splitColumns catalog = .ok split)
    (h : d.resolveGrouping catalog = .error e) : make supported d catalog = .error e := by
  simp [make, hcolumns, h, bind, Except.bind]

end Plan

namespace Engine
variable {engine : Engine} {draft : Draft} {d : Definition} {catalog : Catalog}

/-- The calls to the registry of custom fields on the way to the catalog of a known entity. -/
def catalogCalls (engine : Engine) (entity : String) : List String :=
  if engine.fields?.isSome then [entity] else []

/-- An execution asks nobody when there is no definition to execute. -/
theorem execute_eq_of_validate {e : ReportError} (h : draft.validate = .error e) :
    engine.execute draft = { outcome := .error (.report e) } := by
  simp [execute, h, bind, Except.bind]

/-- An execution asks nobody about an entity that is not registered. -/
theorem execute_eq_of_resolve {e : ReportError} (hd : draft.validate = .ok d)
    (h : engine.resolve d.entity = .error e) :
    engine.execute draft = { outcome := .error (.report e) } := by
  unfold Engine.resolve Catalog.resolve at h
  cases hbuiltIns : engine.registry.builtIns d.entity with
  | ok builtIns => simp [hbuiltIns, bind, Except.bind, pure, Except.pure] at h
  | error e' =>
    obtain rfl : e' = e := by simpa [hbuiltIns, bind, Except.bind] using h
    simp [execute, hd, hbuiltIns, bind, Except.bind]

/-- An execution of a checked definition with a catalog carries out its plan. -/
theorem execute_eq (hd : draft.validate = .ok d) (hcatalog : engine.resolve d.entity = .ok catalog) :
    engine.execute draft =
      match Plan.make engine.store.supported d catalog with
      | .error e => { fieldCalls := engine.catalogCalls d.entity, outcome := .error (.report e) }
      | .ok p => engine.runPlan (engine.catalogCalls d.entity) p := by
  unfold Engine.resolve Catalog.resolve at hcatalog
  cases hbuiltIns : engine.registry.builtIns d.entity with
  | error e => simp [hbuiltIns, bind, Except.bind] at hcatalog
  | ok builtIns =>
    obtain rfl : Catalog.ofReply d.entity builtIns
        (engine.fields?.map fun source => (source d.entity).outcome) = catalog := by
      simpa [hbuiltIns, bind, Except.bind, pure, Except.pure] using hcatalog
    simp only [execute, hd, hbuiltIns, bind, Except.bind, pure, Except.pure, catalogCalls]
    cases Plan.make engine.store.supported d (Catalog.ofReply d.entity builtIns
      (engine.fields?.map fun source => (source d.entity).outcome)) <;> rfl

end Engine

end Rollup
