import Rollup.Database.CustomFields
import Rollup.Database.Reports

/-!
# An engine on a database

One database holds the tables of the entities, the custom fields and the saved reports. Closing drops
it: the tables of the entities start afresh in an empty database, while reports and custom fields, which
hold on to what was closed, are not to be had any more.
-/

namespace Rollup

structure Warehouse where
  database : Database := {}
  schema : Sql.Schema := {}
  /-- The most rows that a fetch returns; no limit where it is zero. -/
  pageSize : Int := 0
  closed : Bool := false

namespace Warehouse

def ofDatabase (registry : Registry) (db : Database) : Warehouse :=
  { database := db.ensureReports, schema := { tables := registry.tables } }

def close (w : Warehouse) : Warehouse := { w with database := {}, closed := true }

inductive FetchError
  | noColumns
  | database (e : DatabaseError)
  deriving DecidableEq, Repr

/-- The rows of an entity that satisfy filters, in the order of its table. -/
def fetch (w : Warehouse) (f : Fetch) : Except FetchError (List Row) :=
  match w.schema.compile? f.entity f.columns f.filters with
  | none => .error .noColumns
  | some q =>
    match w.database.select (if w.pageSize = 0 then none else some w.pageSize) q with
    | .ok rows => .ok rows
    | .error e => .error (.database e)

def FetchError.message : FetchError → String
  | noColumns => Sql.noColumnsMessage
  | database e => e.message

def toDataStore (w : Warehouse) : DataStore where
  fetch f := ⟨none, match w.fetch f with
    | .ok rows => .ok rows
    | .error e => .error (.other e.message)⟩

def listFields (w : Warehouse) (entity : String) : Except Database.FieldsError (List Field) :=
  if w.closed then .error (.database .closed) else w.database.customFields entity

def toFieldSource (w : Warehouse) : FieldSource := fun entity =>
  ⟨false, match w.listFields entity with
    | .ok fields => .ok (some fields)
    | .error e => .error (.other e.message)⟩

/-- Does something with the saved reports, as long as they are to be had. -/
def whileOpen {α : Type} (w : Warehouse) (f : Database → Except Database.KeeperError α) :
    Except Database.KeeperError α :=
  if w.closed then .error (.database .closed) else f w.database

instance : ReportKeeper Warehouse Database.KeeperError where
  insert w r := w.whileOpen fun db => return { w with database := ← db.insertReport r }
  all w := w.whileOpen Database.allReports
  find? w id := w.whileOpen (·.findReport? id)
  remove w id := w.whileOpen fun db => return { w with database := ← db.removeReport id }

def toEngine (w : Warehouse) (registry : Registry) (config : Config) : Engine where
  registry := registry
  config := config
  fields? := some w.toFieldSource
  store := w.toDataStore

end Warehouse

end Rollup
