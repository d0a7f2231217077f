import Rollup.Database
import Rollup.Field

/-!
# Custom fields in a table

The custom fields of an entity as rows of a table, in their sort order and then by key, those without
a sort order last.
-/

namespace Rollup.Database

def customFieldsTable : String := "custom_fields"

inductive FieldsError
  | database (e : DatabaseError)
  | rejected (r : Rejection)
  /-- The type of a field is given by something other than a text. -/
  | badType (v : Value)

def FieldsError.message : FieldsError → String
  | database e => e.message
  | rejected r => r.summary
  | badType _ => "bad field type"

/-- The data types of the field types of the registry; all others are texts. -/
def fieldTypes : List (String × FieldType) :=
  [("number", .number), ("currency", .number), ("date", .date), ("datetime", .date),
   ("boolean", .boolean), ("checkbox", .boolean)]

/-- The order of cells: by value, with nothing last. -/
def compareCells (a b : Value) : Ordering :=
  match a, b with
  | .null, .null => .eq
  | .null, _ => .gt
  | _, .null => .lt
  | a, b => (Sql.compareValues a b).getD (compare (Cast.text a) (Cast.text b))

/-- Whether a row comes before or beside another. -/
def rowComesFirst (a b : Row) : Bool :=
  ((compareCells (a.get "sort_order") (b.get "sort_order")).then
    (compareCells (a.get "field_key") (b.get "field_key"))) != .gt

/-- Whether a cell stands for nothing where a text is optional. -/
def isVoidCell : Value → Bool
  | .null | .text "" | .bool false => true
  | .int n => n = 0
  | .double (.finite _ units _) => units = 0
  | _ => false

/-- The field of a row. Without a name its key is its label. -/
def fieldOfRow (row : Row) : Except FieldsError Field := do
  let key := row.get "field_key"
  let name := row.get "name"
  let dataType ← match row.get "field_type" with
    | .text s => pure ((lookup? (Text.lower s) fieldTypes).getD .text)
    | v => if isVoidCell v then pure .text else throw (.badType v)
  let label := if isVoidCell name then key else name
  match (Field.check (.record [("key", key), ("label", label), ("kind", .text FieldKind.custom.name),
      ("data_type", .text dataType.name)])).as .field with
  | .ok f => return f
  | .error r => throw (.rejected r)

/-- The columns that the registry reads. -/
def fieldColumns : Sql.Select where
  columns := ["field_key", "name", "field_type", "sort_order"].map fun key => (.column key, key)
  table := customFieldsTable
  condition? := none

def customFields (db : Database) (entity : String) : Except FieldsError (List Field) := do
  let ofDatabase {α : Type} : Except DatabaseError α → Except FieldsError α
    | .ok a => .ok a
    | .error e => .error (.database e)
  let condition := Sql.Expr.compare .equal (.castText (.column "entity_type")) (.text entity)
  let rows ← ofDatabase (db.select none { fieldColumns with condition? := some condition })
  (rows.mergeSort rowComesFirst).mapM fieldOfRow

end Rollup.Database
