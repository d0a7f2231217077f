import Rollup.Sql.Evaluator

/-!
# Databases

A database is a collection of tables. Names of tables differ only where they differ in more than the
case of ASCII letters.
-/

namespace Rollup

structure Database where
  tables : List Table := []

namespace Database

def find? (db : Database) (name : String) : Option Table :=
  db.tables.find? fun t => sameName t.name name

def get (db : Database) (name : String) : Except DatabaseError Table :=
  if !isPlainName name then .error (.badName name)
  else match db.find? name with
    | some t => .ok t
    | none => .error (.noTable name)

/-- Puts a table in the place of the one with its name, or at the end. -/
def putTable (t : Table) : List Table → List Table
  | [] => [t]
  | u :: more => if sameName u.name t.name then t :: more else u :: putTable t more

def put (db : Database) (t : Table) : Database := ⟨putTable t db.tables⟩

/-- Whether there is a table of exactly this name. -/
def exists_ (db : Database) (name : String) : Bool := db.tables.any fun t => t.name == name

def schema (db : Database) (name : String) : Except DatabaseError (List (String × ColumnType)) := do
  return (← db.get name).columns.map fun c => (c.name, c.type)

/-- The answer to a query; at most so many rows where there is a limit. -/
def select (db : Database) (limit? : Option Int) (q : Sql.Select) :
    Except DatabaseError (List Row) := do
  let limit? : Option Nat ← match limit? with
    | none => pure none
    | some n => if n < 0 then throw .badLimit else pure (some n.toNat)
  let rows ← q.run (← db.get q.table)
  return match limit? with
    | some n => rows.take n
    | none => rows

inductive CreateError
  /-- There are no rows to take types from. -/
  | noData
  /-- A row ends before a column whose type is not known yet. -/
  | shortRow
  | database (e : DatabaseError)
  deriving DecidableEq, Repr

def noDataMessage : String := "Cannot create table from empty data"

/-- The type of the column at a position, by the first row that has a value there. -/
def inferColumn (i : Nat) : List (List Value) → Except CreateError ColumnType
  | [] => .ok .varchar
  | row :: rows =>
    match row[i]? with
    | none => .error .shortRow
    | some v => if v.isNull then inferColumn i rows else .ok (.ofValue v)

/-- The columns of a table made from data, from a position on. -/
def inferColumns (i : Nat) (rows : List (List Value)) :
    List String → Except CreateError (List Column)
  | [] => .ok []
  | name :: names => do
    let type ← inferColumn i rows
    return { name, type } :: (← inferColumns (i + 1) rows names)

/-- Makes a table from data in place of any that has its name. Rows up to the first one that does not
fit are inserted. -/
def createFromData (db : Database) (name : String) (columns : List String)
    (rows : List (List Value)) : Database × Except CreateError Unit :=
  if rows.isEmpty then (db, .error .noData)
  else match inferColumns 0 rows columns with
    | .error e => (db, .error e)
    | .ok columns =>
      match Table.create name columns with
      | .error e => (db, .error (.database e))
      | .ok t =>
        match t.insertAll rows with
        | (t, .ok ()) => (db.put t, .ok ())
        | (t, .error e) => (db.put t, .error (.database e))

/-- Copies the rows and columns of a table, without its constraints. -/
def copy (db : Database) (source name : String) : Except DatabaseError Database := do
  let t ← db.get source
  let columns := t.columns.map fun c => { c with required := false }
  let copied ← Table.create name columns
  return db.put { copied with rows := t.rows }

/-! ## Delimited files -/

/-- Splits the records of a delimited text at commas and newlines outside quotes. `field` is what has
been read of the current field, last character first. -/
def splitRecords (quoted : Bool) (field : List Char) (record : List String) :
    List Char → List (List String)
  | [] =>
    if field.isEmpty && record.isEmpty then []
    else [(String.ofList field.reverse :: record).reverse]
  | c :: cs =>
    if c = '"' then splitRecords (!quoted) field record cs
    else if quoted then splitRecords true (c :: field) record cs
    else if c = ',' then splitRecords false [] (String.ofList field.reverse :: record) cs
    else if c = '\n' then
      (String.ofList field.reverse :: record).reverse :: splitRecords false [] [] cs
    else if c = '\r' then splitRecords false field record cs
    else splitRecords false (c :: field) record cs

/-- The narrowest of three types that all texts of a column fit. -/
def narrowestType (texts : List String) : ColumnType :=
  let present := texts.filter (· ≠ "")
  let digits (s : String) : Bool :=
    let (_, cs) := Numeral.splitSign s.toList
    !cs.isEmpty && cs.all Char.isDigit
  if present.isEmpty then .varchar
  else if present.all fun s => digits s && ((Cast.intOfText? s).any Cast.isLong) then .bigint
  else if present.all fun s => (Cast.doubleOfText? s).isSome then .double
  else .varchar

/-- Makes a table from a delimited text whose first record has the names of the columns. An empty
field is nothing. -/
def loadCsv (db : Database) (name content : String) : Except DatabaseError Database := do
  match splitRecords false [] [] content.toList with
  | [] => throw .noColumns
  | header :: records =>
    let column (i : Nat) : List String := records.map fun r => (r[i]?).getD ""
    let columns : List Column := header.zipIdx.map fun (name, i) =>
      { name, type := narrowestType (column i) }
    let t ← Table.create name columns
    let cells (r : List String) : List Value := header.zipIdx.map fun (_, i) =>
      match r[i]? with
      | some "" | none => .null
      | some s => .text s
    match t.insertAll (records.map cells) with
    | (t, .ok ()) => return db.put t
    | (_, .error e) => throw e

end Database

end Rollup
