import Rollup.Filter

/-!
# Grouping and aggregation

Rows are grouped by the text of one cell, missing cells under a label of their own, and each group
gives one row: the group key followed by one column for each aggregation. Groups come in the order
in which their keys are first seen.
-/

namespace Rollup

inductive Function
  | count
  | sum
  | avg
  | max
  | min
  deriving DecidableEq, Repr

namespace Function

def all : List Function := [count, sum, avg, max, min]

def name : Function → String
  | count => "count"
  | sum => "sum"
  | avg => "avg"
  | max => "max"
  | min => "min"

def ofName? (s : String) : Option Function := all.find? fun f => f.name == s

end Function

structure Aggregation where
  function : Function
  field : String
  deriving DecidableEq, Repr

/-- The column of an aggregation in grouped rows, as in `sum_revenue`. -/
def Aggregation.outputKey (a : Aggregation) : String := a.function.name ++ "_" ++ a.field

def EvaluationError.ofArithmetic : ArithmeticError → EvaluationError
  | .overflow => .overflow

def Number.toValue : Number → Value
  | .int n => .int n
  | .double x => .double x

def liftArithmetic {α : Type} : Except ArithmeticError α → Except EvaluationError α
  | .ok a => .ok a
  | .error e => .error (.ofArithmetic e)

namespace Function

/-- One aggregate over numbers, of which there is at least one. -/
def reduceNumbers (f : Function) (first : Number) (others : List Number) :
    Except ArithmeticError Number :=
  match f with
  | count => .ok (.int (others.length + 1))
  | sum => Number.sum (first :: others)
  | avg => do
    let total ← Number.sum (first :: others)
    return .double (← total.divNat (others.length + 1))
  | max => .ok (Number.maximum first others)
  | min => .ok (Number.minimum first others)

/-- One aggregate over the cells of a group. The count is that of all cells; everything else looks
at those that are numbers and is zero without any. -/
def reduce (f : Function) (cells : List Value) : Except EvaluationError Number :=
  match f with
  | count => .ok (.int cells.length)
  | f =>
    match cells.filterMap Value.number? with
    | [] => .ok (.int 0)
    | first :: others => liftArithmetic (f.reduceNumbers first others)

end Function

/-- The label of missing group values, unless another is configured. -/
def unknownGroup : String := "Unknown"

/-- The text that a cell is grouped by. Missing and blank cells are grouped under a label. -/
def groupKey (label : String) (cell : Value) : Except EvaluationError String :=
  match cell with
  | .null => .ok label
  | cell => do
    let text ← cell.textForm
    return if Text.isBlank text then label else text

/-- Keys in the order in which they are first seen, each with its members in order. -/
abbrev Groups := List (String × List Row)

/-- Adds a row to the group of a key, which is appended when it is new. -/
def Groups.insert (key : String) (row : Row) : Groups → Groups
  | [] => [(key, [row])]
  | (k, rows) :: more =>
    if k = key then (k, rows ++ [row]) :: more else (k, rows) :: Groups.insert key row more

def groupRows (groupBy label : String) (rows : List Row) : Except EvaluationError Groups :=
  rows.foldlM (fun groups row => return groups.insert (← groupKey label (row.get groupBy)) row) []

/-- The columns of grouped rows: the group key and one for each distinct output key. -/
def outputColumns (groupBy : String) (aggregations : List Aggregation) : List String :=
  aggregations.foldl (fun columns a =>
    if columns.contains a.outputKey then columns else columns ++ [a.outputKey]) [groupBy]

/-- Adds the column of an aggregation to the row of a group, unless the row has it. -/
def aggregateStep (members : List Row) (out : Row) (a : Aggregation) :
    Except EvaluationError Row :=
  if out.keys.contains a.outputKey then .ok out
  else do
    let number ← a.function.reduce (members.map (·.get a.field))
    return out ++ [(a.outputKey, number.toValue)]

def aggregateGroup (groupBy : String) (aggregations : List Aggregation)
    (group : String × List Row) : Except EvaluationError Row :=
  aggregations.foldlM (aggregateStep group.2) [(groupBy, .text group.1)]

def aggregate (rows : List Row) (groupBy : String) (aggregations : List Aggregation)
    (label : String) : Except EvaluationError (List Row) := do
  (← groupRows groupBy label rows).mapM (aggregateGroup groupBy aggregations)

end Rollup
