import Rollup.Database
import Rollup.Json.Reader

/-!
# Databases as text

A database as a JSON document, to be kept in a file: the columns of each table with their types, and the
rows. A value that JSON has no notation for stands as text; the type of its column tells what it was.
-/

namespace Rollup.Database

def columnValue (c : Column) : Value :=
  .record [("name", .text c.name), ("type", .text c.type.name), ("required", .bool c.required)]

def tableValue (t : Table) : Value :=
  .record [("name", .text t.name), ("columns", .list (t.columns.map columnValue)),
    ("keyed", .bool t.keyed), ("rows", .list (t.rows.map .list))]

def toText (db : Database) : String :=
  Json.render .compact (.record [("tables", .list (db.tables.map tableValue))])

def member? (key : String) : Value → Option Value
  | .record fields => lookup? key fields
  | _ => none

def items? (key : String) (v : Value) : Option (List Value) :=
  match member? key v with
  | some (.list vs) => some vs
  | _ => none

def text? (key : String) (v : Value) : Option String :=
  match member? key v with
  | some (.text s) => some s
  | _ => none

def flag? (key : String) (v : Value) : Option Bool :=
  match member? key v with
  | some (.bool b) => some b
  | _ => none

def columnOf? (v : Value) : Option Column := do
  return ⟨← text? "name" v, ← ColumnType.ofName? (← text? "type" v), ← flag? "required" v⟩

def rowOf? (columns : List Column) : Value → Option (List Value)
  | .list vs => (Table.castRow columns vs).toOption
  | _ => none

def tableOf? (v : Value) : Option Table := do
  let columns ← (← items? "columns" v).mapM columnOf?
  let rows ← (← items? "rows" v).mapM (rowOf? columns)
  return { name := ← text? "name" v, columns, keyed := ← flag? "keyed" v, rows }

def ofText? (s : String) : Option Database := do
  let v ← (Json.parse s).toOption
  return ⟨← (← items? "tables" v).mapM tableOf?⟩

end Rollup.Database
