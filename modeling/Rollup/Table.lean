import Rollup.Definition

/-!
# Tables

A table has typed columns and rows of cells in insertion order. A value is cast to the type of its
column when it is inserted; nothing fits every column.
-/

namespace Rollup

inductive ColumnType
  | boolean
  | bigint
  | double
  | timestamp
  | date
  | varchar
  deriving DecidableEq, Repr

def ColumnType.name : ColumnType → String
  | boolean => "BOOLEAN"
  | bigint => "BIGINT"
  | double => "DOUBLE"
  | timestamp => "TIMESTAMP"
  | date => "DATE"
  | varchar => "VARCHAR"

def ColumnType.ofName? (s : String) : Option ColumnType :=
  [boolean, bigint, double, timestamp, date, varchar].find? fun t => t.name == s

/-- The type of the columns that hold a value. -/
def ColumnType.ofValue : Value → ColumnType
  | .bool _ => boolean
  | .int _ => bigint
  | .double _ => double
  | .timestamp _ => timestamp
  | .date _ => date
  | _ => varchar

/-- The type of a column, by its first value that is there. -/
def ColumnType.infer (values : List Value) : ColumnType :=
  match values.find? fun v => !v.isNull with
  | some v => ofValue v
  | none => varchar

inductive DatabaseError
  | noTable (name : String)
  | noColumn (name : String)
  /-- A name that is empty or holds a quote. -/
  | badName (name : String)
  | repeatedColumn (name : String)
  | noColumns
  /-- A row with too few or too many values. -/
  | wrongWidth
  | conversion (type : ColumnType)
  | requiredColumn (name : String)
  | noPrimaryKey (table : String)
  | malformedJson
  | badLimit
  | closed
  deriving DecidableEq, Repr

def DatabaseError.message : DatabaseError → String
  | noTable name => "Catalog Error: Table with name " ++ name ++ " does not exist!"
  | noColumn name => "Binder Error: Referenced column \"" ++ name ++ "\" not found in FROM clause!"
  | badName _ => "Parser Error: syntax error"
  | repeatedColumn name => "Catalog Error: Column with name " ++ name ++ " already exists!"
  | noColumns => "Parser Error: Table must have at least one column!"
  | wrongWidth => "Invalid Input Error: Values were not provided for all parameters"
  | conversion type => "Conversion Error: Could not convert to " ++ type.name
  | requiredColumn name => "Constraint Error: NOT NULL constraint failed: " ++ name
  | noPrimaryKey table => "Binder Error: There are no UNIQUE/PRIMARY KEY constraints on " ++ table
  | malformedJson => "Invalid Input Error: Malformed JSON"
  | badLimit => "Binder Error: LIMIT cannot be negative"
  | closed => "Connection Error: Connection already closed!"

/-! ## Casts -/

namespace Cast

def isLong (n : Int) : Bool := -9223372036854775808 ≤ n && n ≤ 9223372036854775807

def isSpace (c : Char) : Bool := Text.inRanges [(0x09, 0x0D), (0x20, 0x20)] c.toNat

def trim (s : String) : List Char :=
  Text.dropLastWhile isSpace (s.toList.dropWhile isSpace)

/-- The microseconds of a second after a point, without zeros at the end. -/
def fractionChars (microsecond : Nat) : List Char :=
  if microsecond = 0 then []
  else '.' :: Text.dropLastWhile (· == '0') (Text.digitCharsPadded 6 microsecond)

def universal (t : Timestamp) : Timestamp := Timestamp.ofMicroseconds t.instant none

def timestampChars (t : Timestamp) : List Char :=
  t.date.textChars ++ ' ' :: t.timeChars ++ fractionChars t.microsecond

mutual

def textChars : Value → List Char
  | .null => "NULL".toList
  | .bool b => (if b then "true" else "false").toList
  | .int n => if n < 0 then '-' :: Text.digitChars n.natAbs else Text.digitChars n.natAbs
  | .double x => x.textChars
  | .decimal d => d.textChars
  | .date d => d.textChars
  | .timestamp t => timestampChars t
  | .text s => s.toList
  | .list [] => ['[', ']']
  | .list (v :: vs) => '[' :: (textChars v ++ itemChars vs)
  | .record [] => ['\x7b', '\x7d']
  | .record ((key, v) :: more) =>
    '\x7b' :: '\'' :: (key.toList ++ '\'' :: ':' :: ' ' :: (textChars v ++ fieldChars more))

def itemChars : List Value → List Char
  | [] => [']']
  | v :: vs => ',' :: ' ' :: (textChars v ++ itemChars vs)

def fieldChars : List (String × Value) → List Char
  | [] => ['\x7d']
  | (key, v) :: more =>
    ',' :: ' ' :: '\'' :: (key.toList ++ '\'' :: ':' :: ' ' :: (textChars v ++ fieldChars more))

end

def text (v : Value) : String := String.ofList (textChars v)

/-- The double that a text reads as. Digits are ASCII ones, with single separators between them, and
the number must not be out of range. -/
def doubleOfText? (s : String) : Option Double :=
  let cs := trim s
  match (Numeral.dropSeparators false cs).bind Numeral.readPlain? with
  | some n => let x := n.toDouble; if x.isFinite then some x else none
  | none => Double.ofSpecial? cs

/-- The whole number nearest to a fraction, a half going away from zero. -/
def nearest (negative : Bool) (num den : Nat) : Int :=
  let n : Int := (2 * num + den) / (2 * den)
  if negative then -n else n

def intOfText? (s : String) : Option Int :=
  ((Numeral.dropSeparators false (trim s)).bind Numeral.readPlain?).bind fun n =>
    if 40 < n.exponent then none
    else if 0 ≤ n.exponent then some (nearest n.negative (n.digits * Nat.pow 10 n.exponent.toNat) 1)
    else if n.exponent < -5000 then some 0
    else some (nearest n.negative n.digits (Nat.pow 10 (-n.exponent).toNat))

def boolWords : List (String × Bool) :=
  [("true", true), ("t", true), ("1", true), ("yes", true), ("y", true),
   ("false", false), ("f", false), ("0", false), ("no", false), ("n", false)]

def dateOfText? (s : String) : Option Date := Calendar.dateOfText? (String.ofList (trim s))

def timestampOfText? (s : String) : Option Timestamp :=
  match Calendar.timestampOfText? (String.ofList (trim s)) with
  | some t => some (if t.offset?.isSome then universal t else t)
  | none => (dateOfText? s).map Timestamp.ofDate

def toBoolean? : Value → Option Value
  | .bool b => some (.bool b)
  | .int n => some (.bool (n ≠ 0))
  | .double x => some (.bool (Number.compare (.double x) (.int 0) ≠ .eq))
  | .text s => (lookup? (String.ofList (s.toList.map Char.toLower)) boolWords).map .bool
  | _ => none

/-- The whole number nearest to a finite double, a half going to the even one. -/
def wholeOfDouble? : Double → Option Int
  | .finite negative units _ =>
    some (Double.signed negative (Double.roundQuotient units Double.unitsPerOne))
  | _ => none

def toBigint? (v : Value) : Option Value :=
  let n? : Option Int := match v with
    | .bool b => some (if b then 1 else 0)
    | .int n => some n
    | .double x => wholeOfDouble? x
    | .decimal d => intOfText? d.text
    | .text s => intOfText? s
    | _ => none
  n?.bind fun n => if isLong n then some (.int n) else none

def toDouble? : Value → Option Value
  | .bool b => some (.double (Double.ofInt (if b then 1 else 0)))
  | .int n => some (.double (Double.ofInt n))
  | .double x => some (.double x)
  | .decimal d => some (.double d.toDouble)
  | .text s => (doubleOfText? s).map .double
  | _ => none

def toTimestamp? : Value → Option Value
  | .timestamp t => some (.timestamp (if t.offset?.isSome then universal t else t))
  | .date d => some (.timestamp (Timestamp.ofDate d))
  | .text s => (timestampOfText? s).map .timestamp
  | _ => none

def toDate? : Value → Option Value
  | .timestamp t => some (.date (if t.offset?.isSome then universal t else t).date)
  | .date d => some (.date d)
  | .text s => ((dateOfText? s).orElse fun _ => (timestampOfText? s).map (·.date)).map .date
  | _ => none

/-- Casts a value that is there to a type. -/
def convert? : ColumnType → Value → Option Value
  | .boolean, v => toBoolean? v
  | .bigint, v => toBigint? v
  | .double, v => toDouble? v
  | .timestamp, v => toTimestamp? v
  | .date, v => toDate? v
  | .varchar, v => some (.text (text v))

def convert (type : ColumnType) (v : Value) : Except DatabaseError Value :=
  if v.isNull then .ok .null
  else match convert? type v with
    | some w => .ok w
    | none => .error (.conversion type)

end Cast

/-! ## Tables -/

structure Column where
  name : String
  type : ColumnType
  /-- Whether every row must have a value here. -/
  required : Bool := false
  deriving DecidableEq, Repr

structure Table where
  name : String
  columns : List Column
  /-- Whether the first column is a primary key. -/
  keyed : Bool := false
  rows : List (List Value) := []

/-- Names that differ only in the case of ASCII letters are the same. -/
def sameName (a b : String) : Bool :=
  a.toList.map Char.toLower == b.toList.map Char.toLower

/-- Whether a name can stand between double quotes as it is. -/
def isPlainName (s : String) : Bool := s ≠ "" && !s.toList.contains '"'

namespace Table

def indexOf? (t : Table) (name : String) : Option Nat :=
  t.columns.findIdx? fun c => sameName c.name name

/-- Checks the names of the columns of a new table, given those before them. -/
def checkNames (seen : List String) : List String → Except DatabaseError Unit
  | [] => .ok ()
  | name :: names =>
    if !isPlainName name then .error (.badName name)
    else if seen.any (sameName name) then .error (.repeatedColumn name)
    else checkNames (name :: seen) names

def create (name : String) (columns : List Column) : Except DatabaseError Table := do
  if !isPlainName name then throw (.badName name)
  else if columns.isEmpty then throw .noColumns
  else
    checkNames [] (columns.map (·.name))
    return { name, columns }

def castRow : List Column → List Value → Except DatabaseError (List Value)
  | [], [] => .ok []
  | c :: cs, v :: vs => do
    let w ← Cast.convert c.type v
    if c.required && w.isNull then throw (.requiredColumn c.name)
    return w :: (← castRow cs vs)
  | _, _ => .error .wrongWidth

def insert (t : Table) (row : List Value) : Except DatabaseError Table := do
  return { t with rows := t.rows ++ [← castRow t.columns row] }

/-- Appends rows up to the first one that does not fit; those before it stay. -/
def insertAll (t : Table) : List (List Value) → Table × Except DatabaseError Unit
  | [] => (t, .ok ())
  | row :: rows =>
    match t.insert row with
    | .ok t => t.insertAll rows
    | .error e => (t, .error e)

/-- The text that a row is known by in a table with a primary key. -/
def keyOf : List Value → Option String
  | .text key :: _ => some key
  | _ => none

/-- Puts a row in the place of the one with its key, or at the end. -/
def replaceRow (row : List Value) : List (List Value) → List (List Value)
  | [] => [row]
  | r :: rows => if keyOf r = keyOf row then row :: rows else r :: replaceRow row rows

def insertOrReplace (t : Table) (row : List Value) : Except DatabaseError Table := do
  let row ← castRow t.columns row
  if t.keyed then return { t with rows := replaceRow row t.rows }
  else throw (.noPrimaryKey t.name)

def cell? (t : Table) (name : String) (row : List Value) : Option Value :=
  (t.indexOf? name).bind fun i => row[i]?

end Table

end Rollup
