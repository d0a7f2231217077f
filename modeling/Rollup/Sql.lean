import Rollup.Definition
import Rollup.Json.Path

/-!
# Fetches as queries

A fetch of columns of an entity, with filters, is a query on its table. A built-in field is a column;
a custom field is a member of the JSON object in the column of custom fields. Filters mean what they
mean on fetched rows: numbers are compared as numbers where the text of a cell reads as one, and texts
as texts.
-/

namespace Rollup.Sql

inductive Comparison
  | equal
  | greater
  | less
  deriving DecidableEq, Repr

inductive Expr
  | column (name : String)
  | text (s : String)
  | number (n : Number)
  /-- The text of a value. -/
  | castText (e : Expr)
  /-- The double that a text reads as, if it does. -/
  | tryDouble (e : Expr)
  | lower (e : Expr)
  /-- Whether one text contains another. -/
  | contains (whole part : Expr)
  /-- The text of a member of a JSON object. -/
  | memberText (object path : Expr)
  | compare (op : Comparison) (a b : Expr)
  /-- The first of two values that is there. -/
  | coalesce (a b : Expr)
  | and (a b : Expr)
  deriving DecidableEq

/-- A query: what is read from each row of a table that satisfies a condition, and under which
names. -/
structure Select where
  columns : List (Expr × String)
  table : String
  condition? : Option Expr
  deriving DecidableEq

/-- How entities are laid out in tables. -/
structure Schema where
  /-- The tables of entities that are not in a table of their own name. -/
  tables : List (String × String) := []
  /-- The column that holds the custom fields of a row. -/
  customColumn : String := "custom_fields"
  deriving DecidableEq, Repr

namespace Schema

def source (schema : Schema) (key : String) : Expr :=
  match customName? key with
  | some name => .memberText (.column schema.customColumn) (.text (Json.Path.ofKey name))
  | none => .column key

/-- A comparison with a text, by number where both sides are numbers. -/
def comparison (op : Comparison) (cell : Expr) (value : String) : Expr :=
  let textual := Expr.compare op cell (.text value)
  match Number.ofText? value with
  | some n => .coalesce (.compare op (.tryDouble cell) (.number n)) textual
  | none => textual

def condition (schema : Schema) (f : Filter) : Expr :=
  let cell := Expr.castText (schema.source f.field)
  match f.operator with
  | .contains => .contains (.lower cell) (.lower (.text f.value))
  | .equals => comparison .equal cell f.value
  | .greaterThan => comparison .greater cell f.value
  | .lessThan => comparison .less cell f.value

def conjunction : List Expr → Option Expr
  | [] => none
  | e :: es => some (es.foldl .and e)

def tableOf (schema : Schema) (entity : String) : String :=
  (lookup? entity schema.tables).getD entity

/-- The query of a fetch. A fetch without columns has none. -/
def compile? (schema : Schema) (entity : String) (columns : List String) (filters : List Filter) :
    Option Select :=
  if columns.isEmpty then none
  else some ⟨columns.map fun key => (schema.source key, key), schema.tableOf entity,
    conjunction (filters.map schema.condition)⟩

end Schema

/-- What is said of a fetch without columns. -/
def noColumnsMessage : String := "Cannot compile a fetch without columns"

end Rollup.Sql
