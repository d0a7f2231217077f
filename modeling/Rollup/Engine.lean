import Rollup.Config
import Rollup.Export
import Rollup.Resolver

/-!
# The engine

Executing a definition: it is checked, its entity's catalog is resolved, its columns and grouping are
settled, its filters are divided, rows are fetched once, and what the store did not do is done here.
An execution records which calls it made on its way to its outcome.
-/

namespace Rollup

/-- What is asked of a store. -/
structure Fetch where
  entity : String
  columns : List String
  /-- The filters that the store is to apply. -/
  filters : List Filter
  deriving DecidableEq, Repr

structure FetchReply where
  /-- After how many milliseconds the answer comes, if it has to be waited for. -/
  delay? : Option Nat := none
  outcome : Except Failure (List Row)

/-- A store: the operators it supports and what it answers. -/
structure DataStore where
  supported : List Operator := Operator.all
  fetch : Fetch → FetchReply

/-- A definition to execute: as it came, or checked already. -/
inductive Draft
  | raw (v : Value)
  | checked (d : Definition)

structure Result where
  columns : List String
  rows : List Row
  grouped : Bool
  rejectedFilters : List Filter
  droppedColumns : List String
  warnings : List Warning

def Result.rowCount (r : Result) : Nat := r.rows.length

inductive ExecutionError
  | report (e : ReportError)
  | evaluation (e : EvaluationError)
  deriving DecidableEq

/-- An execution with the calls that it made. -/
structure Execution where
  fieldCalls : List String := []
  fetches : List Fetch := []
  outcome : Except ExecutionError Result

structure Engine where
  registry : Registry
  config : Config := {}
  fields? : Option FieldSource := none
  store : DataStore

/-- Keeps the first of equal texts. -/
def distinct : List String → List String
  | [] => []
  | s :: ss => s :: (distinct ss).filter (· ≠ s)

namespace Draft

/-- The definition of a draft, if it says what to report on. -/
def validate (draft : Draft) : Except ReportError Definition := do
  let d ← match draft with
    | .checked d => pure d
    | .raw v =>
      match (Definition.check v).as .definition with
      | .ok d => pure d
      | .error r => throw (.malformed r)
  if Text.isBlank d.entity then throw .noEntity
  else if d.columns.isEmpty then throw .noColumns
  else return d

end Draft

namespace Definition

/-- The requested columns that are in a catalog, and those that are not. At least one has to be. -/
def splitColumns (d : Definition) (catalog : Catalog) :
    Except ReportError (List String × List String) :=
  let requested := distinct d.columns
  let valid := requested.filter catalog.contains
  if valid.isEmpty then .error (.noValidColumns d.entity requested)
  else .ok (valid, requested.filter fun key => !catalog.contains key)

/-- Whether an aggregation can be computed: a count always, anything else on a known field. -/
def isComputable (catalog : Catalog) (a : Aggregation) : Bool :=
  a.function = .count || catalog.contains a.field

def leftOut (a : Aggregation) : Warning :=
  ⟨ErrorKind.invalidDefinition.name,
    "Ignored " ++ a.function.name ++ " on unknown field '" ++ a.field ++ "'"⟩

/-- The aggregations that are computed, and warnings about the others. Without a grouping there are
none of either; the group field must be known. -/
def resolveGrouping (d : Definition) (catalog : Catalog) :
    Except ReportError (List Aggregation × List Warning) :=
  match d.groupBy? with
  | none => .ok ([], [])
  | some key =>
    if catalog.contains key then
      .ok (d.aggregations.filter (isComputable catalog),
        (d.aggregations.filter fun a => !isComputable catalog a).map leftOut)
    else .error (.unknownGroup key)

end Definition

/-- What an execution will do once its catalog is known. -/
structure Plan where
  definition : Definition
  columns : List String
  dropped : List String
  aggregations : List Aggregation
  warnings : List Warning
  filters : FilterPlan

namespace Plan

def make (supported : List Operator) (d : Definition) (catalog : Catalog) :
    Except ReportError Plan := do
  let (columns, dropped) ← d.splitColumns catalog
  let (aggregations, warnings) ← d.resolveGrouping catalog
  return { definition := d, columns, dropped, aggregations,
           warnings := catalog.warnings ++ warnings,
           filters := .ofFilters catalog.keys supported d.filters }

/-- The columns to fetch: the valid ones, and what grouping and the filters kept here look at. -/
def fetchColumns (p : Plan) : List String :=
  -- A count does not look at its field.
  distinct (p.columns ++ p.definition.groupBy?.toList ++
    (p.aggregations.filter (·.function ≠ .count)).map (·.field) ++ p.filters.kept.map (·.field))

def toFetch (p : Plan) : Fetch := ⟨p.definition.entity, p.fetchColumns, p.filters.pushed⟩

def project (columns : List String) (row : Row) : Row := columns.map fun key => (key, row.get key)

def finish (p : Plan) (label : String) (rows : List Row) : Except EvaluationError Result := do
  let rows ← Filter.applyAll p.filters.kept rows
  let (columns, rows) ← match p.definition.groupBy? with
    | some key =>
      pure (outputColumns key p.aggregations, ← aggregate rows key p.aggregations label)
    | none => pure (p.columns, rows.map (project p.columns))
  return { columns, rows, grouped := p.definition.isGrouped, rejectedFilters := p.filters.rejected,
           droppedColumns := p.dropped, warnings := p.warnings }

end Plan

namespace FetchReply

/-- Whether an answer that has to be waited for comes too late. -/
def isLate (reply : FetchReply) (timeout? : Option Double) : Bool :=
  match reply.delay?, timeout? with
  | some delay, some timeout =>
    Number.compare (.double (timeout.mulNat 1000)) (.int delay) = .lt
  | _, _ => false

/-- The fetched rows, or the error that a failure becomes. -/
def rows (reply : FetchReply) (entity : String) (timeout? : Option Double) :
    Except ReportError (List Row) :=
  if reply.isLate timeout? then .error (.fetchTimedOut entity timeout?)
  else match reply.outcome with
    | .ok rows => .ok rows
    | .error (.report e) => .error e
    | .error (.timeout _) => .error (.fetchTimedOut entity timeout?)
    | .error (.other text) => .error (.fetchFailed entity text)

end FetchReply

namespace Engine

def runPlan (engine : Engine) (calls : List String) (p : Plan) : Execution :=
  let fetch := p.toFetch
  let outcome := match (engine.store.fetch fetch).rows fetch.entity engine.config.fetchTimeout? with
    | .error e => .error (.report e)
    | .ok rows =>
      match p.finish engine.config.unknownGroupLabel rows with
      | .ok result => .ok result
      | .error e => .error (.evaluation e)
  { fieldCalls := calls, fetches := [fetch], outcome }

def execute (engine : Engine) (draft : Draft) : Execution :=
  let planned : Except ReportError (List String × Except ReportError Plan) := do
    let d ← draft.validate
    -- Nobody is asked for the custom fields of an entity that is not registered.
    let builtIns ← engine.registry.builtIns d.entity
    let calls := if engine.fields?.isSome then [d.entity] else []
    let catalog := Catalog.ofReply d.entity builtIns
      (engine.fields?.map fun source => (source d.entity).outcome)
    return (calls, Plan.make engine.store.supported d catalog)
  match planned with
  | .error e => { outcome := .error (.report e) }
  | .ok (calls, .error e) => { fieldCalls := calls, outcome := .error (.report e) }
  | .ok (calls, .ok p) => engine.runPlan calls p

def resolve (engine : Engine) (entity : String) : Except ReportError Catalog :=
  Catalog.resolve engine.registry engine.fields? entity

def resolveNow (engine : Engine) (entity : String) : Except Catalog.ImmediateError Catalog :=
  Catalog.resolveNow engine.registry engine.fields? entity

/-- The entities that are asked of the registry of custom fields when a catalog is resolved. -/
def resolveCalls (engine : Engine) (entity : String) : List String :=
  if engine.fields?.isSome && (engine.registry.find? entity).isSome then [entity] else []

def toText (engine : Engine) (r : Result) : Except EvaluationError String :=
  Delimited.text r.rows r.columns engine.config.delimiter

def toFile (engine : Engine) (r : Result) (filename : String) :
    Except EvaluationError ExportFile :=
  ExportFile.build r.rows r.columns filename engine.config.delimiter

end Engine

/-- The registry that a configuration leads to: the entities of its catalog file, or the default
ones. -/
def Config.registry (config : Config) (files : Files) : Except LoadError Registry :=
  match config.entityCatalog? with
  | some path => Registry.ofFile files path
  | none => .ok Registry.default

end Rollup
