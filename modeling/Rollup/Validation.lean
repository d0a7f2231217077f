import Rollup.Value

/-!
# Validation

Reading typed data from values. A reader of a record looks at all of its fields and reports every
problem that it finds, in the order of the fields, each with the steps that lead to it.
-/

namespace Rollup

/-- One step from a value into a part of it. -/
inductive Step
  | key (name : String)
  | index (n : Nat)
  deriving DecidableEq, Repr

inductive ProblemKind
  /-- A required field is absent. -/
  | missing
  /-- Something other than a text. -/
  | notText
  /-- Not one of the names of an enumeration. -/
  | notName
  /-- Something other than a list. -/
  | notList
  /-- Something other than a record of arbitrary keys. -/
  | notRecord
  /-- Something other than a record of the fields of a type. -/
  | notModel
  | tooShort
  | tooLong
  | notGreater
  /-- Something that is neither a number nor a text that could be one. -/
  | notDouble
  | unreadableDouble
  | notInteger
  | unreadableInteger
  | fractionalInteger
  | infiniteInteger
  | notTruthValue
  | unreadableTruthValue
  | notPath
  | notTimestamp
  | unreadableTimestamp
  /-- An integer with too many digits to be written out. -/
  | tooManyDigits
  /-- A text that is not JSON. -/
  | notJson
  deriving DecidableEq, Repr

structure Problem where
  location : List Step
  kind : ProblemKind
  deriving DecidableEq, Repr

/-- Typed data, or all problems of the value that it was to be read from. -/
abbrev Checked := Except (List Problem)

namespace Checked

/-- A problem of the value itself. -/
def fail {α : Type} (kind : ProblemKind) : Checked α := .error [⟨[], kind⟩]

/-- What holds of a part, seen from the whole. -/
def within {α : Type} (step : Step) : Checked α → Checked α
  | .ok a => .ok a
  | .error problems => .error (problems.map fun p => { p with location := step :: p.location })

/-- Two parts of a whole; the problems of both count. -/
def both {α β : Type} : Checked α → Checked β → Checked (α × β)
  | .ok a, .ok b => .ok (a, b)
  | .ok _, .error q => .error q
  | .error p, .ok _ => .error p
  | .error p, .error q => .error (p ++ q)

def model {α : Type} (f : List (String × Value) → Checked α) : Value → Checked α
  | .record fields => f fields
  | _ => fail .notModel

def required {α : Type} (fields : List (String × Value)) (key : String)
    (check : Value → Checked α) : Checked α :=
  within (.key key) <| match lookup? key fields with
    | some v => check v
    | none => fail .missing

/-- A field that may be absent. -/
def optional {α : Type} (fields : List (String × Value)) (key : String) (default : α)
    (check : Value → Checked α) : Checked α :=
  match lookup? key fields with
  | some v => within (.key key) (check v)
  | none => .ok default

def text : Value → Checked String
  | .text s => .ok s
  | _ => fail .notText

/-- Nothing, or what is checked. -/
def nullable {α : Type} (check : Value → Checked α) : Value → Checked (Option α)
  | .null => .ok none
  | v => (check v).map some

def named {α : Type} (ofName? : String → Option α) : Value → Checked α
  | .text s => match ofName? s with
    | some a => .ok a
    | none => fail .notName
  | _ => fail .notName

/-- The items of a list from the `n`-th on. -/
def items {α : Type} (check : Value → Checked α) (n : Nat) : List Value → Checked (List α)
  | [] => .ok []
  | v :: vs => (both (within (.index n) (check v)) (items check (n + 1) vs)).map fun (a, as) => a :: as

def list {α : Type} (check : Value → Checked α) : Value → Checked (List α)
  | .list vs => items check 0 vs
  | _ => fail .notList

def record : Value → Checked (List (String × Value))
  | .record fields => .ok fields
  | _ => fail .notRecord

/-- A double; integers, truth values and texts that read as numbers are taken too. -/
def double : Value → Checked Double
  | .double x => .ok x
  | .int n => .ok (Double.ofInt n)
  | .bool b => .ok (Double.ofInt (if b then 1 else 0))
  | .decimal d => .ok d.toDouble
  | .text s => match Double.ofChars? (Text.trimChars s.toList) with
    | some x => .ok x
    | none => fail .unreadableDouble
  | _ => fail .notDouble

def wholeDouble? : Double → Option Int
  | .finite negative units _ =>
    if units % Double.unitsPerOne = 0 then
      some (Double.signed negative (units / Double.unitsPerOne))
    else none
  | _ => none

/-- An integer; whole doubles, truth values and texts that read as integers are taken too. -/
def integer : Value → Checked Int
  | .int n => .ok n
  | .bool b => .ok (if b then 1 else 0)
  | .double x =>
    if !x.isFinite then fail .infiniteInteger
    else match wholeDouble? x with
      | some n => .ok n
      | none => fail .fractionalInteger
  | .decimal d => match d.toInt? with
    | some n => .ok n
    | none => fail .fractionalInteger
  | .text s =>
    let cs := Text.trimChars s.toList
    match Numeral.readInt? cs with
    | some n => .ok n
    | none => match (Numeral.read? cs).bind fun m => (Decimal.ofNumeral m).toInt? with
      | some n => if cs.contains 'e' || cs.contains 'E' then fail .unreadableInteger else .ok n
      | none => fail .unreadableInteger
  | _ => fail .notInteger

def truthWords : List (String × Bool) :=
  [("0", false), ("off", false), ("f", false), ("false", false), ("n", false), ("no", false),
   ("1", true), ("on", true), ("t", true), ("true", true), ("y", true), ("yes", true)]

/-- A truth value; zero, one and the usual words are taken too. -/
def truthValue : Value → Checked Bool
  | .bool b => .ok b
  | .int n => if n = 0 then .ok false else if n = 1 then .ok true else fail .unreadableTruthValue
  | .double x => match wholeDouble? x with
    | some n =>
      if n = 0 then .ok false else if n = 1 then .ok true else fail .unreadableTruthValue
    | none => fail .notTruthValue
  | .text s => match lookup? (String.ofList (s.toList.map Char.toLower)) truthWords with
    | some b => .ok b
    | none => fail .unreadableTruthValue
  | _ => fail .notTruthValue

/-- The start of 1970, which numeric timestamps count from. -/
def epoch : Timestamp := ⟨⟨1970, 1, 1⟩, 0, 0, 0, 0, some 0⟩

/-- The timestamp of a number of seconds since 1970, or of milliseconds where seconds would be out
of range. -/
def epochTimestamp (units : Int) : Timestamp :=
  let seconds := units.natAbs / Double.unitsPerOne
  let scale : Int := if seconds ≤ 20000000000 then 1000000 else 1000
  epoch.addMicroseconds (units * scale / Double.unitsPerOne)

/-- A timestamp; dates, texts of either and numbers of seconds are taken too. -/
def timestamp : Value → Checked Timestamp
  | .timestamp t => .ok t
  | .date d => .ok (.ofDate d)
  | .int n => .ok (epochTimestamp (n * Double.unitsPerOne))
  | .double x => match x.signedUnits? with
    | some units => .ok (epochTimestamp units)
    | none => fail .unreadableTimestamp
  | .text s =>
    let cs := Text.trimChars s.toList
    match Calendar.timestampOfChars? ['T', 't', ' ', '_'] cs with
    | some t => .ok t
    | none => match Calendar.dateOfText? (String.ofList cs) with
      | some d => .ok (.ofDate d)
      | none => match Numeral.readPlain? cs with
        | some n => match n.toDouble.signedUnits? with
          | some units => .ok (epochTimestamp units)
          | none => fail .unreadableTimestamp
        | none => fail .unreadableTimestamp
  | _ => fail .notTimestamp

def oneChar (v : Value) : Checked Char :=
  match v with
  | .text s => match s.toList with
    | [] => fail .tooShort
    | [c] => .ok c
    | _ => fail .tooLong
  | _ => fail .notText

end Checked

/-- The kinds of typed data. -/
inductive Shape
  | field
  | warning
  | catalog
  | filter
  | aggregation
  | clause
  | plan
  | definition
  | savedReport
  | entity
  | config
  | result
  | queryResult
  | exportFile
  deriving DecidableEq, Repr

namespace Shape

def all : List Shape :=
  [field, warning, catalog, filter, aggregation, clause, plan, definition, savedReport, entity,
   config, result, queryResult, exportFile]

def name : Shape → String
  | field => "FieldDefinition"
  | warning => "ReportWarning"
  | catalog => "FieldCatalog"
  | filter => "Filter"
  | aggregation => "Aggregation"
  | clause => "PushdownClause"
  | plan => "FilterPlan"
  | definition => "ReportDefinition"
  | savedReport => "SavedReport"
  | entity => "EntitySpec"
  | config => "EngineConfig"
  | result => "ReportResult"
  | queryResult => "QueryResult"
  | exportFile => "ExportFile"

end Shape

/-- A value that is not what it was read as, with its problems. -/
structure Rejection where
  shape : Shape
  problems : List Problem
  deriving DecidableEq, Repr

def Rejection.summary (r : Rejection) : String :=
  let n := r.problems.length
  String.ofList (Text.digitChars n) ++ (if n = 1 then " validation error for " else
    " validation errors for ") ++ r.shape.name

/-- Reads a value as typed data of some shape. -/
def Checked.as {α : Type} (shape : Shape) : Checked α → Except Rejection α
  | .ok a => .ok a
  | .error problems => .error ⟨shape, problems⟩

end Rollup
