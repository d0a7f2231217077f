import Rollup.Database
import Rollup.Reports

/-!
# Saved reports in a table

Reports as rows of a table: the id, the name, the definition as JSON text and the time of the last
saving.
-/

namespace Rollup.Database

def reportsTable : String := "saved_reports"

def emptyReports : Table where
  name := reportsTable
  columns := [⟨"id", .varchar, true⟩, ⟨"name", .varchar, true⟩, ⟨"definition", .varchar, true⟩,
    ⟨"created_at", .timestamp, true⟩]
  keyed := true

/-- Adds the table of saved reports unless there is one. -/
def ensureReports (db : Database) : Database :=
  if (db.find? reportsTable).isSome then db else db.put emptyReports

inductive KeeperError
  | database (e : DatabaseError)
  /-- A stored definition is not JSON. -/
  | notJson (e : Json.ReadError) (text : String)
  /-- A stored row is no report. -/
  | rejected (r : Rejection)
  deriving DecidableEq, Repr

def KeeperError.ofDatabase {α : Type} : Except DatabaseError α → Except KeeperError α
  | .ok a => .ok a
  | .error e => .error (.database e)

def reportRow (r : SavedReport) : List Value :=
  [.text r.id, .text r.definition.name, .text (r.definition.toJson .compact), .timestamp r.createdAt]

def insertReport (db : Database) (r : SavedReport) : Except KeeperError Database :=
  KeeperError.ofDatabase do return db.put (← (← db.get reportsTable).insertOrReplace (reportRow r))

def reportOfRow (row : Row) : Except KeeperError SavedReport :=
  match row.get "definition" with
  | .text text =>
    match Json.parse text with
    | .error e => .error (.notJson e text)
    | .ok v =>
      let fields := match v with
        | .record fields => fields
        | _ => []
      let v := Value.record (("id", row.get "id") :: ("created_at", row.get "created_at") ::
        fields.filter fun (key, _) => key ≠ "id" && key ≠ "created_at")
      match (SavedReport.check v).as .savedReport with
      | .ok r => .ok r
      | .error r => .error (.rejected r)
  | _ => .error (.database (.conversion .varchar))

def readColumns : Sql.Select where
  columns := ["id", "definition", "created_at"].map fun key => (.column key, key)
  table := reportsTable
  condition? := none

def readReports (db : Database) : Except KeeperError (List SavedReport) := do
  (← KeeperError.ofDatabase (db.select none readColumns)).mapM reportOfRow

/-- Whether a report comes before another: the newest first, and of equally new ones by their ids. -/
def comesFirst (a b : SavedReport) : Bool :=
  if a.createdAt.instant = b.createdAt.instant then a.id ≤ b.id
  else b.createdAt.instant ≤ a.createdAt.instant

def allReports (db : Database) : Except KeeperError (List SavedReport) :=
  return (← db.readReports).mergeSort comesFirst

def findReport? (db : Database) (id : String) : Except KeeperError (Option SavedReport) := do
  let rows ← KeeperError.ofDatabase (db.select none readColumns)
  match rows.find? fun row => Table.keyOf [row.get "id"] = some id with
  | some row => return some (← reportOfRow row)
  | none => return none

def removeReport (db : Database) (id : String) : Except KeeperError Database :=
  KeeperError.ofDatabase do
    let t ← db.get reportsTable
    return db.put { t with rows := t.rows.filter fun row =>
      ((t.cell? "id" row).bind fun v => Table.keyOf [v]) ≠ some id }

end Rollup.Database
