import Rollup.Aggregation
import Rollup.Field
import Rollup.Json.Reader

/-!
# Report definitions

A report definition says what a report shows: the entity, its columns, filters, grouping and
aggregations. It is purely declarative, so it can be stored and loaded as it is. Reading one from a
value settles the spelling of its parts once and for all: filter values become texts, and a blank
grouping becomes none.
-/

namespace Rollup

inductive Visualization
  | table
  | bar
  | pie
  | line
  deriving DecidableEq, Repr

namespace Visualization

def name : Visualization → String
  | table => "table"
  | bar => "bar"
  | pie => "pie"
  | line => "line"

def ofName? (s : String) : Option Visualization :=
  [table, bar, pie, line].find? fun v => v.name == s

end Visualization

structure Definition where
  entity : String := ""
  columns : List String := []
  filters : List Filter := []
  groupBy? : Option String := none
  aggregations : List Aggregation := []
  visualization : Visualization := .table
  name : String := ""
  deriving DecidableEq, Repr

def Definition.isGrouped (d : Definition) : Bool := d.groupBy?.isSome

/-- A definition as it is kept: under an id, with the time of its last saving. -/
structure SavedReport where
  definition : Definition
  id : String
  createdAt : Timestamp
  deriving DecidableEq, Repr

/-- The definition with a blank grouping taken for none, which is how it is read. -/
def Definition.settled (d : Definition) : Definition :=
  { d with groupBy? := d.groupBy?.filter fun s => !Text.isBlank s }

/-- The definition of a saved report without its id and time, as it is read anew. -/
def SavedReport.toDefinition (r : SavedReport) : Definition := r.definition.settled

/-! ## Reading -/

open Checked

/-- The value of a filter, always a text. Nothing is the empty text, and truth values and numbers
are taken by their texts. -/
def Filter.checkValue : Value → Checked String
  | .null => .ok ""
  | .bool b => .ok (if b then "true" else "false")
  | .int n => match Number.intText? n with
    | some s => .ok s
    | none => fail .tooManyDigits
  | .double x => .ok x.text
  | .text s => .ok s
  | _ => fail .notText

def Filter.check : Value → Checked Filter :=
  model fun r =>
    (both (required r "field" text) <|
      both (optional r "operator" .equals (named Operator.ofName?))
        (optional r "value" "" Filter.checkValue)).map
      fun (field, operator, value) => ⟨field, operator, value⟩

/-- A filter as it is handed to a store: complete, with a value that is a text. -/
def Filter.checkClause : Value → Checked Filter :=
  model fun r =>
    (both (required r "field" text) <| both (required r "operator" (named Operator.ofName?))
      (required r "value" text)).map
      fun (field, operator, value) => ⟨field, operator, value⟩

def FilterPlan.check : Value → Checked FilterPlan :=
  model fun r =>
    (both (optional r "pushdown" [] (list Filter.checkClause)) <|
      both (optional r "local" [] (list Filter.check))
        (optional r "rejected" [] (list Filter.check))).map
      fun (pushed, kept, rejected) => ⟨pushed, kept, rejected⟩

def Aggregation.check : Value → Checked Aggregation :=
  model fun r =>
    (both (required r "function" (named Function.ofName?)) (required r "field" text)).map
      fun (function, field) => ⟨function, field⟩

namespace Definition

/-- The grouping of a definition; a blank one is none. -/
def checkGroupBy : Value → Checked (Option String)
  | .null => .ok none
  | .text s => .ok (if Text.isBlank s then none else some s)
  | _ => fail .notText

/-- The fields of a definition in a record that may have others. -/
def checkFields (r : List (String × Value)) : Checked Definition :=
  (both (optional r "entity" "" text) <|
    both (optional r "columns" [] (list text)) <|
    both (optional r "filters" [] (list Filter.check)) <|
    both (optional r "group_by" none checkGroupBy) <|
    both (optional r "aggregations" [] (list Aggregation.check)) <|
    both (optional r "visualization" .table (named Visualization.ofName?))
      (optional r "name" "" text)).map
    fun (entity, columns, filters, groupBy?, aggregations, visualization, name) =>
      ⟨entity, columns, filters, groupBy?, aggregations, visualization, name⟩

def check : Value → Checked Definition := model checkFields

end Definition

def SavedReport.check : Value → Checked SavedReport :=
  model fun r =>
    (both (Definition.checkFields r) <| both (required r "id" text)
      (required r "created_at" timestamp)).map
      fun (definition, id, createdAt) => ⟨definition, id, createdAt⟩

/-! ## Writing -/

def Filter.toValue (f : Filter) : Value :=
  .record [("field", .text f.field), ("operator", .text f.operator.name), ("value", .text f.value)]

def Aggregation.toValue (a : Aggregation) : Value :=
  .record [("function", .text a.function.name), ("field", .text a.field)]

namespace Definition

/-- The members of a definition, in their order. -/
def toFields (d : Definition) : List (String × Value) :=
  [("entity", .text d.entity), ("columns", .list (d.columns.map .text)),
   ("filters", .list (d.filters.map Filter.toValue)),
   ("group_by", match d.groupBy? with | some s => .text s | none => .null),
   ("aggregations", .list (d.aggregations.map Aggregation.toValue)),
   ("visualization", .text d.visualization.name), ("name", .text d.name)]

def toValue (d : Definition) : Value := .record d.toFields

def toJson (layout : Json.Layout) (d : Definition) : String := Json.render layout d.toValue

def ofJson (text : String) : Checked Definition :=
  match Json.parse text with
  | .ok v => check v
  | .error _ => fail .notJson

end Definition

end Rollup
