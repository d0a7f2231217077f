import Rollup.Engine

/-!
# Saved reports

Saving, loading, listing and deleting definitions. Where they are kept is left open: a keeper has four
operations, and a list of reports in memory is one. Saving under an id that is in use replaces the
whole report; a loaded definition is run against live data, since nothing but the definition is kept.
-/

namespace Rollup

/-- A place where reports are kept, and how it can fail. -/
class ReportKeeper (σ : Type) (ε : outParam Type) where
  /-- Keeps a report, in place of any with its id. -/
  insert : σ → SavedReport → Except ε σ
  /-- All reports, newest first. -/
  all : σ → Except ε (List SavedReport)
  find? : σ → String → Except ε (Option SavedReport)
  /-- Removes the report with an id. -/
  remove : σ → String → Except ε σ

/-- Where new reports get their ids and their times from. -/
structure Issuer where
  /-- The ids, in the order in which they are given out. -/
  id : Nat → String
  /-- The times of the savings. -/
  time : Nat → Timestamp
  issuedIds : Nat := 0
  savings : Nat := 0

namespace Issuer

/-- The report that a definition becomes. An id that is given is kept unless it is empty. -/
def issue (issuer : Issuer) (d : Definition) (id? : Option String) : SavedReport × Issuer :=
  let createdAt := issuer.time issuer.savings
  match id? with
  | some id =>
    if id ≠ "" then (⟨d, id, createdAt⟩, { issuer with savings := issuer.savings + 1 })
    else (⟨d, issuer.id issuer.issuedIds, createdAt⟩,
      { issuer with issuedIds := issuer.issuedIds + 1, savings := issuer.savings + 1 })
  | none => (⟨d, issuer.id issuer.issuedIds, createdAt⟩,
      { issuer with issuedIds := issuer.issuedIds + 1, savings := issuer.savings + 1 })

/-- Ids that count up, and times that are a number of seconds apart. -/
def counting (start : Timestamp) (step : Int) : Issuer where
  id n := "id-" ++ String.ofList (Text.digitChars (n + 1))
  time n := start.addMicroseconds (step * 1000000 * (n + 1))

end Issuer

inductive ReportsError (ε : Type)
  | report (e : ReportError)
  | keeper (e : ε)
  deriving DecidableEq

def ReportsError.ofKeeper {ε α : Type} : Except ε α → Except (ReportsError ε) α
  | .ok a => .ok a
  | .error e => .error (.keeper e)

structure Reports (σ : Type) where
  keeper : σ
  issuer : Issuer

namespace Reports

variable {σ ε : Type} [ReportKeeper σ ε]

/-- Saves a definition under its trimmed name. A definition without a name is not saved. -/
def save (reports : Reports σ) (d : Definition) (id? : Option String) :
    Reports σ × Except (ReportsError ε) SavedReport :=
  if Text.isBlank d.name then (reports, .error (.report .missingName))
  else
    let (report, issuer) := reports.issuer.issue { d with name := Text.trim d.name } id?
    match ReportKeeper.insert reports.keeper report with
    | .ok keeper => (⟨keeper, issuer⟩, .ok report)
    | .error e => (⟨reports.keeper, issuer⟩, .error (.keeper e))

/-- Saves a report again, of which only the definition counts. -/
def resave (reports : Reports σ) (r : SavedReport) (id? : Option String) :
    Reports σ × Except (ReportsError ε) SavedReport :=
  reports.save r.toDefinition id?

def list (reports : Reports σ) : Except (ReportsError ε) (List SavedReport) :=
  ReportsError.ofKeeper (ReportKeeper.all reports.keeper)

def get (reports : Reports σ) (id : String) : Except (ReportsError ε) SavedReport := do
  match ← ReportsError.ofKeeper (ReportKeeper.find? reports.keeper id) with
  | some report => return report
  | none => throw (.report (.reportNotFound id))

def load (reports : Reports σ) (id : String) : Except (ReportsError ε) Definition := do
  return (← reports.get id).toDefinition

def delete (reports : Reports σ) (id : String) : Reports σ × Except (ReportsError ε) Unit :=
  match reports.get id with
  | .error e => (reports, .error e)
  | .ok _ =>
    match ReportKeeper.remove reports.keeper id with
    | .ok keeper => ({ reports with keeper }, .ok ())
    | .error e => (reports, .error (.keeper e))

end Reports

/-- Executes a saved report. There is no execution when it cannot be loaded. -/
def Engine.executeSaved {σ ε : Type} [ReportKeeper σ ε] (engine : Engine) (reports : Reports σ)
    (id : String) : Except (ReportsError ε) Execution := do
  return engine.execute (.checked (← reports.load id))

/-! ## Reports in memory -/

/-- Reports in the order in which their ids were first used. -/
structure Shelf where
  reports : List SavedReport := []
  deriving DecidableEq, Repr

/-- An error that does not occur. -/
inductive Never
  deriving DecidableEq, Repr

namespace Shelf

/-- Puts a report in the place of the one with its id, or at the end. -/
def put (r : SavedReport) : List SavedReport → List SavedReport
  | [] => [r]
  | s :: more => if s.id = r.id then r :: more else s :: put r more

/-- Whether a report comes before or beside another when the newest is first. -/
def isNotOlder (a b : SavedReport) : Bool := b.createdAt.instant ≤ a.createdAt.instant

instance : ReportKeeper Shelf Never where
  insert shelf r := .ok ⟨put r shelf.reports⟩
  all shelf := .ok (shelf.reports.mergeSort isNotOlder)
  find? shelf id := .ok (shelf.reports.find? fun r => r.id == id)
  remove shelf id := .ok ⟨shelf.reports.filter fun r => r.id ≠ id⟩

end Shelf

end Rollup
