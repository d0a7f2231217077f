import Rollup.Engine

/-!
# A store in memory

Rows by entity, with the operators that the store claims to support. A fetch keeps the rows that
satisfy all of its filters and returns the requested columns of each. What was put in for a row may be
less than one: it is looked at only when its turn comes.
-/

namespace Rollup

inductive RowError
  /-- It has no keys to look cells up by. -/
  | noLookup (v : Value)
  | notItems (v : Value)
  /-- Of its items, the one at an index has no parts. -/
  | noParts (index : Nat)
  /-- Of its items, the one at an index is not made of two parts. -/
  | notTwoParts (index length : Nat)
  | badKey (v : Value)
  | evaluation (e : EvaluationError)

namespace RowError

def naming (index : Nat) : String := "#" ++ String.ofList (Text.digitChars index)

def message (describe : EvaluationError → String) : RowError → String
  | noLookup v => "'" ++ v.kindName ++ "' object has no attribute 'get'"
  | notItems v => "'" ++ v.kindName ++ "' object is not iterable"
  | noParts index =>
    "cannot convert dictionary update sequence element " ++ naming index ++ " to a sequence"
  | notTwoParts index length =>
    "dictionary update sequence element " ++ naming index ++ " has length " ++
      String.ofList (Text.digitChars length) ++ "; 2 is required"
  | badKey v => "unhashable type: '" ++ v.kindName ++ "'"
  | evaluation e => describe e

end RowError

namespace Row

/-- Adds a cell under the value that is its key. A key that is no text is never asked for. -/
def putUnder (key cell : Value) (row : Row) : Except RowError Row :=
  match key with
  | .text s => .ok (putEntry s cell row)
  | .list _ | .record _ => .error (.badKey key)
  | _ => .ok row

def ofPairs (row : Row) (index : Nat) : List Value → Except RowError Row
  | [] => .ok row
  | pair :: more =>
    match pair.items? with
    | none => .error (.noParts index)
    | some [key, cell] => do ofPairs (← putUnder key cell row) (index + 1) more
    | some parts => .error (.notTwoParts index parts.length)

/-- The row that a value stands for: a record, or what is made of pairs. -/
def ofValue : Value → Except RowError Row
  | .record fields => .ok fields
  | v =>
    match v.items? with
    | some pairs => ofPairs [] 0 pairs
    | none => .error (.notItems v)

end Row

structure MemoryStore where
  rows : List (String × List Value)
  supported : List Operator := Operator.all
  /-- Whether rows are returned with all of their cells, as they are. -/
  whole : Bool := false

namespace MemoryStore

def rowsOf (m : MemoryStore) (entity : String) : List Value := (lookup? entity m.rows).getD []

/-- Whether a value is a row that satisfies all filters. Without filters nothing is looked up in it. -/
def accepts (filters : List Filter) (v : Value) : Except RowError Bool :=
  match filters, v with
  | [], _ => .ok true
  | _, .record row =>
    match Filter.allMatch row filters with
    | .ok keep => .ok keep
    | .error e => .error (.evaluation e)
  | _, v => .error (.noLookup v)

/-- The requested columns of a row. Without any nothing is looked up in it. -/
def project (columns : List String) (v : Value) : Except RowError Value :=
  match columns, v with
  | [], _ => .ok (.record [])
  | _, .record row => .ok (.record (Plan.project columns row))
  | _, v => .error (.noLookup v)

/-- What the store has for a fetch, before it is known to be rows. -/
def select (m : MemoryStore) (f : Fetch) : List Value → Except RowError (List Value)
  | [] => .ok []
  | v :: vs => do
    if ← accepts f.filters v then
      let w ← if m.whole then pure v else project f.columns v
      return w :: (← m.select f vs)
    else m.select f vs

def rowList : List Value → Except RowError (List Row)
  | [] => .ok []
  | v :: vs => do return (← Row.ofValue v) :: (← rowList vs)

def answer (m : MemoryStore) (f : Fetch) : Except RowError (List Row) := do
  rowList (← m.select f (m.rowsOf f.entity))

/-- The store as the engine sees it. The words for a failed evaluation are the caller's. -/
def toDataStore (m : MemoryStore) (describe : EvaluationError → String) (delay? : Option Nat) :
    DataStore where
  supported := m.supported
  fetch f := ⟨delay?, match m.answer f with
    | .ok rows => .ok rows
    | .error e => .error (.other (e.message describe))⟩

end MemoryStore

end Rollup
