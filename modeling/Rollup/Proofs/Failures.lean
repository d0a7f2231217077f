import Rollup.Proofs.Calls
import Rollup.Proofs.Except
import Rollup.Proofs.Grouping

/-!
# How an execution can fail

An execution ends with a result or with an error of this library, except where an aggregation overflows:
where the cells of a store have text forms, filtering and grouping never fail, and a sum or a mean fails
by the magnitude and the order of its numbers alone. That exception is real
(`cancelling_ends_in_overflow`), and it is the only one (`execute_is_reported_iff`).
-/

namespace Rollup

/-- Whatever rows a store answers with, their cells have text forms. It may fail in any way. -/
def DataStore.AnswersTexts (store : DataStore) : Prop :=
  ∀ f rows, (store.fetch f).outcome = .ok rows → ∀ row ∈ rows, ∀ cell ∈ row, cell.2.HasText

/-- Whether an aggregation of a plan overflows on fetched rows. -/
def Plan.Overflows (p : Plan) (label : String) (rows : List Row) : Prop :=
  ∃ key, p.definition.groupBy? = some key ∧
    AggregateOverflows (rows.filter fun row => p.filters.kept.all (·.holds row)) key p.aggregations label

/-- Whether an execution comes to aggregate rows on which it overflows. -/
def Engine.Overflows (engine : Engine) (draft : Draft) : Prop :=
  ∃ d catalog p rows, engine.Resolves draft d catalog ∧
    Plan.make engine.store.supported d catalog = .ok p ∧
    (engine.store.fetch p.toFetch).rows d.entity engine.config.fetchTimeout? = .ok rows ∧
    p.Overflows engine.config.unknownGroupLabel rows

/-- A cell that is not there has a text form too. -/
theorem Row.hasText_get {row : Row} (h : ∀ cell ∈ row, cell.2.HasText) (key : String) :
    (row.get key).HasText := by
  unfold Row.get
  induction row with
  | nil => exact rfl
  | cons cell row ih =>
    obtain ⟨hcell, hrow⟩ := List.forall_mem_cons.1 h
    rw [lookup?]
    split_ifs
    · exact hcell
    · exact ih hrow

namespace FetchReply
variable {reply : FetchReply} {entity : String} {timeout? : Option Double}

/-- Rows are taken from an answer as they are. -/
theorem outcome_eq_of_rows {rows : List Row} (h : reply.rows entity timeout? = .ok rows) :
    reply.outcome = .ok rows := by
  unfold FetchReply.rows at h
  split_ifs at h
  split at h
  case h_1 rows' hrows =>
    obtain rfl := Except.ok.inj h
    exact hrows
  all_goals cases h

end FetchReply

namespace Plan
variable {p : Plan} {label : String} {rows : List Row}

/-- What is done with fetched rows fails only by an overflow. -/
theorem finish_eq_error_iff (hactive : ∀ f ∈ p.filters.kept, f.isInert = false)
    (htext : ∀ row ∈ rows, ∀ cell ∈ row, cell.2.HasText) {e : EvaluationError} :
    p.finish label rows = .error e ↔ e = .overflow ∧ p.Overflows label rows := by
  have happly := Filter.applyAll_eq_filter hactive fun row hrow f _ =>
    Row.hasText_get (htext row hrow) f.field
  unfold finish Overflows
  rw [happly]
  cases hgroup : p.definition.groupBy? with
  | none => exact iff_of_false nofun (by simp)
  | some key =>
    have hkept : ∀ row ∈ rows.filter fun row => p.filters.kept.all (·.holds row),
        (row.get key).HasText := fun row hrow =>
      Row.hasText_get (htext row (List.mem_of_mem_filter hrow)) key
    simp only [Option.some.injEq, exists_eq_left']
    rw [← aggregate_eq_error_iff hkept]
    simp only [bind, Except.bind, pure, Except.pure]
    cases aggregate (rows.filter fun row => p.filters.kept.all (·.holds row)) key p.aggregations
      label <;> simp

end Plan

namespace Engine
variable {engine : Engine} {draft : Draft} {d d' : Definition} {catalog catalog' : Catalog} {p : Plan}

theorem Resolves.unique (h : engine.Resolves draft d catalog) (h' : engine.Resolves draft d' catalog') :
    d' = d ∧ catalog' = catalog := by
  obtain rfl : d' = d := Option.some.inj (h'.definition.symm.trans h.definition)
  exact ⟨rfl, Except.ok.inj (h'.catalog.symm.trans h.catalog)⟩

/-- An execution without a catalog ends in an error of this library. -/
theorem resolves_or_refused (engine : Engine) (draft : Draft) :
    (∃ d catalog, engine.Resolves draft d catalog ∧ draft.validate = .ok d) ∨
      (∃ e, (engine.execute draft).outcome = .error (.report e)) ∧
        ∀ d catalog, ¬ engine.Resolves draft d catalog := by
  rcases draft.validate_cases with ⟨d, hd, hdefinition, hcomplete⟩ | ⟨e, he, -, hincomplete⟩
  · cases hcatalog : engine.resolve d.entity with
    | ok catalog => exact .inl ⟨d, catalog, ⟨hdefinition, hcomplete, hcatalog⟩, hd⟩
    | error e =>
      refine .inr ⟨⟨e, by rw [execute_eq_of_resolve hd hcatalog]⟩, fun d' catalog known => ?_⟩
      obtain rfl : d' = d := Option.some.inj (known.definition.symm.trans hdefinition)
      cases hcatalog.symm.trans known.catalog
  · exact .inr ⟨⟨e, by rw [execute_eq_of_validate he]⟩, fun d _ known =>
      hincomplete d known.definition known.complete⟩

/-- What comes of a plan: the failure of the fetch, or what finishing the plan yields. -/
theorem runPlan_outcome (calls : List String) : (engine.runPlan calls p).outcome =
    match (engine.store.fetch p.toFetch).rows p.definition.entity engine.config.fetchTimeout? with
    | .error e => .error (.report e)
    | .ok rows => match p.finish engine.config.unknownGroupLabel rows with
      | .ok result => .ok result
      | .error e => .error (.evaluation e) := rfl

/-- Where cells have text forms, an execution fails by nothing but an overflow and errors of this
library. -/
theorem outcome_eq_evaluation_iff (htext : engine.store.AnswersTexts) {e : EvaluationError} :
    (engine.execute draft).outcome = .error (.evaluation e) ↔ e = .overflow ∧ engine.Overflows draft := by
  rcases engine.resolves_or_refused draft with ⟨d, catalog, known, hd⟩ | ⟨⟨e', he'⟩, hnone⟩
  · rw [execute_eq hd known.catalog]
    cases hplan : Plan.make engine.store.supported d catalog with
    | error e' =>
      refine iff_of_false nofun ?_
      rintro ⟨-, d', catalog', p, rows, known', hplan', -⟩
      obtain ⟨rfl, rfl⟩ := known.unique known'
      cases hplan.symm.trans hplan'
    | ok p =>
      have hoverflows : engine.Overflows draft ↔ ∃ rows,
          (engine.store.fetch p.toFetch).rows d.entity engine.config.fetchTimeout? = .ok rows ∧
            p.Overflows engine.config.unknownGroupLabel rows := by
        constructor
        · rintro ⟨d', catalog', p', rows, known', hplan', hrows⟩
          obtain ⟨rfl, rfl⟩ := known.unique known'
          obtain rfl := Except.ok.inj (hplan.symm.trans hplan')
          exact ⟨rows, hrows⟩
        · rintro ⟨rows, hrows⟩
          exact ⟨d, catalog, p, rows, known, hplan, hrows⟩
      have hdefinition : p.definition = d := congrArg Plan.definition (Plan.eq_of_make hplan)
      have hfilters := congrArg Plan.filters (Plan.eq_of_make hplan)
      rw [hoverflows]
      dsimp only
      rw [runPlan_outcome, hdefinition]
      cases hrows : (engine.store.fetch p.toFetch).rows d.entity engine.config.fetchTimeout? with
      | error e' => exact iff_of_false nofun (by simp)
      | ok rows =>
        have hactive : ∀ f ∈ p.filters.kept, f.isInert = false := fun f hf =>
          FilterPlan.isInert_of_mem_kept (hfilters ▸ hf)
        have hcells := htext _ rows (FetchReply.outcome_eq_of_rows hrows)
        simp only [Except.ok.injEq, exists_eq_left']
        rw [← Plan.finish_eq_error_iff hactive hcells]
        cases p.finish engine.config.unknownGroupLabel rows <;> simp
  · rw [he']
    refine iff_of_false nofun ?_
    rintro ⟨-, d, catalog, p, rows, known, -⟩
    exact hnone d catalog known

/-- Where cells have text forms, an execution ends with a result or with an error of this library unless
it overflows. -/
theorem execute_is_reported_iff (htext : engine.store.AnswersTexts) :
    ((∃ r, (engine.execute draft).outcome = .ok r) ∨
      ∃ e, (engine.execute draft).outcome = .error (.report e)) ↔ ¬ engine.Overflows draft := by
  have h (e : EvaluationError) : (engine.execute draft).outcome = .error (.evaluation e) ↔
      e = .overflow ∧ engine.Overflows draft := outcome_eq_evaluation_iff htext
  cases houtcome : (engine.execute draft).outcome with
  | ok r =>
    refine iff_of_true (.inl ⟨r, rfl⟩) fun hoverflows => ?_
    cases houtcome.symm.trans ((h .overflow).2 ⟨rfl, hoverflows⟩)
  | error e =>
    cases e with
    | report e =>
      refine iff_of_true (.inr ⟨e, rfl⟩) fun hoverflows => ?_
      cases houtcome.symm.trans ((h .overflow).2 ⟨rfl, hoverflows⟩)
    | evaluation e =>
      refine iff_of_false (by simp) (not_not_intro ?_)
      exact ((h e).1 houtcome).2

/-! ### Amounts that cancel

The sizes of an industry add up to a half, but the second of them, which is too large for a double, meets
the first, which is no integer, before the third takes it back. -/

def half : Double := .ofFraction false 1 2

def cancelling : List Row :=
  [[("industry", .text "Tech"), ("size", .double half)],
   [("industry", .text "Tech"), ("size", .int (10 ^ 309))],
   [("industry", .text "Tech"), ("size", .int (-10 ^ 309))]]

def cancellingEngine : Engine :=
  { registry := .default, store := { fetch := fun _ => ⟨none, .ok cancelling⟩ } }

def totalSize : Definition :=
  { entity := "companies", columns := ["industry"], groupBy? := some "industry",
    aggregations := [⟨.sum, "size"⟩] }

def totalPlan : Plan :=
  { definition := totalSize, columns := ["industry"], dropped := [], aggregations := [⟨.sum, "size"⟩],
    warnings := [], filters := {} }

theorem cancellingEngine_answersTexts : cancellingEngine.store.AnswersTexts := by
  rintro f rows h
  obtain rfl := Except.ok.inj h
  decide +kernel

theorem cancelling_numbers : (⟨.sum, "size"⟩ : Aggregation).numbers
    (membersOf "industry" "Unknown" cancelling "Tech") =
      [.double half, .int (10 ^ 309), .int (-10 ^ 309)] := by decide +kernel

theorem cancelling_overflows : cancellingEngine.Overflows (.checked totalSize) := by
  refine ⟨totalSize, _, totalPlan, cancelling, ⟨rfl, ⟨by decide, by decide⟩, rfl⟩, rfl, rfl, "industry",
    rfl, ?_⟩
  show AggregateOverflows cancelling "industry" [⟨.sum, "size"⟩] "Unknown"
  refine ⟨_, List.mem_cons_self, _, List.mem_singleton_self _, by decide, ?_⟩
  show Number.SumOverflows ((⟨.sum, "size"⟩ : Aggregation).numbers
    (membersOf "industry" "Unknown" cancelling "Tech"))
  rw [cancelling_numbers]
  have hlarge : Double.limit ≤ (10 ^ 309 : Int).natAbs := by decide +kernel
  exact ⟨[], half, _, rfl, .inr ⟨_, List.mem_cons_self, hlarge⟩⟩

theorem cancelling_is_reported_iff : cancellingEngine.store.AnswersTexts ∧
    cancellingEngine.Overflows (.checked totalSize) ∧
    (((∃ r, (cancellingEngine.execute (.checked totalSize)).outcome = .ok r) ∨
      ∃ e, (cancellingEngine.execute (.checked totalSize)).outcome = .error (.report e)) ↔
        ¬ cancellingEngine.Overflows (.checked totalSize)) :=
  ⟨cancellingEngine_answersTexts, cancelling_overflows,
    execute_is_reported_iff cancellingEngine_answersTexts⟩

/-- An execution can overflow although every cell has a text form. -/
theorem cancelling_ends_in_overflow : cancellingEngine.store.AnswersTexts ∧
    (cancellingEngine.execute (.checked totalSize)).outcome = .error (.evaluation .overflow) :=
  ⟨cancellingEngine_answersTexts, (outcome_eq_evaluation_iff cancellingEngine_answersTexts).2
    ⟨rfl, cancelling_overflows⟩⟩

end Engine

end Rollup
