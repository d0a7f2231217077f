import Rollup.Sql
import Rollup.Table
import Rollup.Text.Lowercase

/-!
# Evaluating queries

The rows that a query yields. What is unknown is nothing: it spreads through calls and comparisons, a
conjunction with something false is false all the same, and only rows whose condition is true are
kept, in the order of the table.
-/

namespace Rollup.Sql

/-- The text of a member of a JSON text: strings by themselves, all else as it is written, and nothing
where there is no such member. -/
def textOfMember (object path : String) : Except DatabaseError Value :=
  match Json.parse object with
  | .error _ => .error .malformedJson
  | .ok v =>
    match v, Json.Path.key? path with
    | .record fields, some key =>
      match lookup? key fields with
      | some (.text s) => .ok (.text s)
      | some .null => .ok .null
      | some v => .ok (.text (Json.render .compact v))
      | none => .ok .null
    | _, _ => .ok .null

def Comparison.holds : Comparison → Ordering → Bool
  | equal, o => o == .eq
  | greater, o => o == .gt
  | less, o => o == .lt

/-- The double that stands for a number in comparisons. -/
def doubleOf? : Value → Option Double
  | .int n => some (Double.ofInt n)
  | .double x => some x
  | _ => none

/-- Compares two values of one kind. No number comes after all others and is like itself. -/
def compareValues (a b : Value) : Option Ordering :=
  match a, b with
  | .text s, .text t => some (compare s t)
  | a, b =>
    match doubleOf? a, doubleOf? b with
    | some x, some y => some (Number.compare (.double x) (.double y))
    | _, _ => none

def truth : Option Bool → Value
  | some b => .bool b
  | none => .null

def onText (f : String → Except DatabaseError Value) : Value → Except DatabaseError Value
  | .text s => f s
  | _ => .ok .null

def onTexts (f : String → String → Except DatabaseError Value) (a b : Value) :
    Except DatabaseError Value :=
  onText (fun s => onText (f s) b) a

/-- A conjunction in three-valued logic. -/
def conjoin (a b : Value) : Value :=
  match a, b with
  | .bool false, _ => .bool false
  | _, .bool false => .bool false
  | .bool true, .bool true => .bool true
  | _, _ => .null

def Expr.eval (t : Table) (row : List Value) : Expr → Except DatabaseError Value
  | .column name =>
    match t.cell? name row with
    | some v => .ok v
    | none => .error (.noColumn name)
  | .text s => .ok (.text s)
  | .number n => .ok n.toValue
  | .castText e => do
    match ← e.eval t row with
    | .null => return .null
    | v => return .text (Cast.text v)
  | .tryDouble e => do
    onText (fun s => .ok (((Cast.doubleOfText? s).map Value.double).getD .null)) (← e.eval t row)
  | .lower e => do onText (fun s => .ok (.text (Text.lowerEach s))) (← e.eval t row)
  | .contains a b => do
    onTexts (fun s u => .ok (.bool (Text.occursIn u.toList s.toList))) (← a.eval t row)
      (← b.eval t row)
  | .memberText a b => do onTexts textOfMember (← a.eval t row) (← b.eval t row)
  | .compare op a b => do
    return truth ((compareValues (← a.eval t row) (← b.eval t row)).map op.holds)
  | .coalesce a b => do
    match ← a.eval t row with
    | .null => b.eval t row
    | v => return v
  | .and a b => do
    match ← a.eval t row with
    | .bool true => return conjoin (.bool true) (← b.eval t row)
    | .bool false => return .bool false
    | v => return conjoin v (← b.eval t row)

def Expr.columns : Expr → List String
  | .column name => [name]
  | .text _ | .number _ => []
  | .castText e | .tryDouble e | .lower e => e.columns
  | .contains a b | .memberText a b | .compare _ a b | .coalesce a b | .and a b =>
    a.columns ++ b.columns

namespace Select

def reads (q : Select) : List String :=
  q.columns.flatMap (·.1.columns) ++ (q.condition?.map Expr.columns).getD []

def checkColumns (t : Table) : List String → Except DatabaseError Unit
  | [] => .ok ()
  | name :: names =>
    if name = "" then .error (.badName name)
    else if (t.indexOf? name).isNone then .error (.noColumn name)
    else checkColumns t names

def accepts (q : Select) (t : Table) (row : List Value) : Except DatabaseError Bool :=
  match q.condition? with
  | none => .ok true
  | some e => do
    match ← e.eval t row with
    | .bool b => return b
    | _ => return false

def project (q : Select) (t : Table) (row : List Value) : Except DatabaseError Row :=
  q.columns.foldlM (fun out (e, key) => return putEntry key (← e.eval t row) out) []

def rowsOf (q : Select) (t : Table) : List (List Value) → Except DatabaseError (List Row)
  | [] => .ok []
  | row :: rows => do
    if ← q.accepts t row then
      let out ← q.project t row
      return out :: (← q.rowsOf t rows)
    else q.rowsOf t rows

def run (q : Select) (t : Table) : Except DatabaseError (List Row) := do
  checkColumns t q.reads
  q.rowsOf t t.rows

end Select

end Rollup.Sql
