import Rollup.Value
import Rollup.Text.Lowercase

/-!
# Filters

A filter compares the cells of one field with a text. Where both sides read as numbers they are
compared as numbers, otherwise by their texts; containment disregards case. A filter whose value is
blank is unfinished and has no effect.

Planning sends every other filter to exactly one place: to the store, to local evaluation, or to the
rejected ones when its field is unknown.
-/

namespace Rollup

inductive Operator
  | equals
  | contains
  | greaterThan
  | lessThan
  deriving DecidableEq, Repr

namespace Operator

def all : List Operator := [equals, contains, greaterThan, lessThan]

def name : Operator → String
  | equals => "equals"
  | contains => "contains"
  | greaterThan => "greater_than"
  | lessThan => "less_than"

def ofName? (s : String) : Option Operator := all.find? fun op => op.name == s

/-- Whether the outcome of a comparison is the one that an operator asks for. -/
def accepts : Operator → Ordering → Bool
  | equals, o => o == .eq
  | greaterThan, o => o == .gt
  | lessThan, o => o == .lt
  | contains, _ => false

end Operator

inductive EvaluationError
  /-- A cell holds an integer with too many digits to be written out. -/
  | noTextForm
  /-- A number is too large for a double. -/
  | overflow
  deriving DecidableEq, Repr

structure Filter where
  field : String
  operator : Operator
  value : String
  deriving DecidableEq, Repr

/-- Compares a cell with a value, as numbers where both are and by their texts otherwise. -/
def compareWithText (cell : Value) (cellText value : String) : Ordering :=
  match cell.number?, Number.ofText? value with
  | some a, some b => a.compare b
  | _, _ => compare cellText value

def Value.textForm (cell : Value) : Except EvaluationError String :=
  match cell.text? with
  | some s => .ok s
  | none => .error .noTextForm

/-- Whether a cell satisfies an operator and a value. An empty cell satisfies nothing. -/
def matchesCell (cell : Value) (operator : Operator) (value : String) :
    Except EvaluationError Bool :=
  match cell with
  | .null => .ok false
  | cell => do
    let text ← cell.textForm
    match operator with
    | .contains => return Text.occursIn (Text.lower value).toList (Text.lower text).toList
    | comparison => return comparison.accepts (compareWithText cell text value)

namespace Filter

/-- An unfinished filter, which is ignored. -/
def isInert (f : Filter) : Bool := Text.isBlank f.value

def matchesRow (f : Filter) (row : Row) : Except EvaluationError Bool :=
  matchesCell (row.get f.field) f.operator f.value

/-- Whether a row satisfies all filters; the first that it does not satisfy ends the test. -/
def allMatch (row : Row) : List Filter → Except EvaluationError Bool
  | [] => .ok true
  | f :: fs => do if ← f.matchesRow row then allMatch row fs else return false

def keepMatching (filters : List Filter) : List Row → Except EvaluationError (List Row)
  | [] => .ok []
  | row :: rows => do
    let keep ← allMatch row filters
    let rest ← keepMatching filters rows
    return if keep then row :: rest else rest

/-- The rows that satisfy every finished filter, in order. -/
def applyAll (filters : List Filter) (rows : List Row) : Except EvaluationError (List Row) :=
  match filters.filter (!·.isInert) with
  | [] => .ok rows
  | active => keepMatching active rows

/-- Where a filter is evaluated. -/
inductive Route
  | ignored
  | store
  | here
  | refused
  deriving DecidableEq, Repr

/-- The route of a filter, given the known fields and the operators that the store supports. -/
def route (known : List String) (supported : List Operator) (f : Filter) : Route :=
  if f.isInert then .ignored
  else if !known.contains f.field then .refused
  else if supported.contains f.operator then .store
  else .here

end Filter

structure FilterPlan where
  /-- Evaluated by the store. -/
  pushed : List Filter := []
  /-- Evaluated on the fetched rows. -/
  kept : List Filter := []
  /-- Dropped, because the field is unknown. -/
  rejected : List Filter := []
  deriving DecidableEq, Repr

namespace FilterPlan

/-- Adds a filter in front of the list that its route leads to. -/
def insert (known : List String) (supported : List Operator) (f : Filter) (plan : FilterPlan) :
    FilterPlan :=
  match f.route known supported with
  | .ignored => plan
  | .store => { plan with pushed := f :: plan.pushed }
  | .here => { plan with kept := f :: plan.kept }
  | .refused => { plan with rejected := f :: plan.rejected }

def ofFilters (known : List String) (supported : List Operator) (filters : List Filter) :
    FilterPlan :=
  filters.foldr (insert known supported) {}

end FilterPlan

end Rollup
