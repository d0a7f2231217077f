import Rollup.Number
import Rollup.Calendar
import Rollup.Text.Printable

/-!
# Values

A value is what a cell of a row holds and what a definition is read from: nothing, a truth value, a
number, a date, a text, a list or a record. Every value but an integer of very many digits has a
text form, which filters and groups compare by.
-/

namespace Rollup

inductive Value
  | null
  | bool (b : Bool)
  | int (n : Int)
  | double (x : Double)
  | decimal (d : Decimal)
  | date (d : Date)
  | timestamp (t : Timestamp)
  | text (s : String)
  | list (items : List Value)
  | record (fields : List (String × Value))

def Value.kindName : Value → String
  | null => "NoneType"
  | bool _ => "bool"
  | int _ => "int"
  | double _ => "float"
  | decimal _ => "decimal.Decimal"
  | date _ => "datetime.date"
  | timestamp _ => "datetime.datetime"
  | text _ => "str"
  | list _ => "list"
  | record _ => "dict"

/-- What a value is made of: the items of a list, the keys of a record, the characters of a text. -/
def Value.items? : Value → Option (List Value)
  | list items => some items
  | record fields => some (fields.map fun (key, _) => text key)
  | text s => some (s.toList.map fun c => text (String.ofList [c]))
  | _ => none

/-- The value under a key of a list of pairs, if there is one. -/
def lookup? {α : Type} (key : String) : List (String × α) → Option α
  | [] => none
  | (k, v) :: more => if k = key then some v else lookup? key more

/-- Adds an entry behind others: with a known key it replaces the value at its place. -/
def putEntry (key : String) (v : Value) : List (String × Value) → List (String × Value)
  | [] => [(key, v)]
  | (k, w) :: more => if k = key then (k, v) :: more else (k, w) :: putEntry key v more

/-- A row of a table: cells under column keys, in column order. -/
abbrev Row := List (String × Value)

/-- The cell under a key; a row without the key has nothing there. -/
def Row.get (row : Row) (key : String) : Value := (lookup? key row).getD .null

def Row.keys (row : Row) : List String := row.map (·.1)

namespace Literal

def hexDigits (width n : Nat) : List Char :=
  let digits := Nat.toDigits 16 n
  List.replicate (width - digits.length) '0' ++ digits

def escape (quote c : Char) : List Char :=
  if c = quote || c = '\\' then ['\\', c]
  else if c = '\n' then ['\\', 'n']
  else if c = '\r' then ['\\', 'r']
  else if c = '\t' then ['\\', 't']
  else if Text.isPrintable c then [c]
  else if c.toNat < 0x100 then '\\' :: 'x' :: hexDigits 2 c.toNat
  else if c.toNat < 0x10000 then '\\' :: 'u' :: hexDigits 4 c.toNat
  else '\\' :: 'U' :: hexDigits 8 c.toNat

/-- A text as a literal: between single quotes, or between double quotes where it holds single ones
only. -/
def quoted (s : String) : String :=
  let cs := s.toList
  let quote := if cs.contains '\'' && !cs.contains '"' then '"' else '\''
  String.ofList (quote :: (cs.flatMap (escape quote) ++ [quote]))

def parts (ns : List Nat) : String := ", ".intercalate (ns.map fun n => String.ofList (Text.digitChars n))

def date (d : Date) : String := "datetime.date(" ++ parts [d.year, d.month, d.day] ++ ")"

/-- An offset as a literal: whole days, negative for offsets to the west, and seconds. -/
def offset (seconds : Int) : String :=
  if seconds = 0 then "datetime.timezone.utc"
  else
    let days := if seconds < 0 then "days=-1, " else ""
    "datetime.timezone(datetime.timedelta(" ++ days ++ "seconds=" ++ parts [(seconds % 86400).toNat] ++
      "))"

def timestamp (t : Timestamp) : String :=
  let tail := if t.microsecond ≠ 0 then [t.second, t.microsecond]
    else if t.second ≠ 0 then [t.second] else []
  let zone := match t.offset? with
    | none => ""
    | some seconds => ", tzinfo=" ++ offset seconds
  "datetime.datetime(" ++
    parts ([t.date.year, t.date.month, t.date.day, t.hour, t.minute] ++ tail) ++ zone ++ ")"

end Literal

namespace Value

mutual

/-- A value in literal notation, as it stands inside the text of a list or record. -/
def literal? : Value → Option String
  | .null => some "None"
  | .bool b => some (if b then "True" else "False")
  | .int n => Number.intText? n
  | .double x => some x.text
  | .decimal d => some ("Decimal('" ++ d.text ++ "')")
  | .date d => some (Literal.date d)
  | .timestamp t => some (Literal.timestamp t)
  | .text s => some (Literal.quoted s)
  | .list items => do return "[" ++ ", ".intercalate (← literals? items) ++ "]"
  | .record fields => do return "\x7b" ++ ", ".intercalate (← fieldLiterals? fields) ++ "\x7d"

def literals? : List Value → Option (List String)
  | [] => some []
  | v :: vs => do return (← literal? v) :: (← literals? vs)

def fieldLiterals? : List (String × Value) → Option (List String)
  | [] => some []
  | (key, v) :: more => do
    return (Literal.quoted key ++ ": " ++ (← literal? v)) :: (← fieldLiterals? more)

end

/-- The text form of a value. Truth values are `true` and `false`, dates and timestamps are ISO with
a blank before the time, and lists and records stand in literal notation. An integer with more than
`Numeral.maxIntegerDigits` digits has none. -/
def text? : Value → Option String
  | .bool b => some (if b then "true" else "false")
  | .date d => some d.text
  | .timestamp t => some t.text
  | .text s => some s
  | .decimal d => some d.text
  | v => v.literal?

/-- The number that a value stands for. Truth values are no numbers, nor are infinite doubles; a
text is one when it reads as one. -/
def number? : Value → Option Number
  | .int n => some (.int n)
  | .double x => if x.isFinite then some (.double x) else none
  | .decimal d => Number.ofDecimal? d
  | .text s => Number.ofText? s
  | _ => none

def isNull : Value → Bool
  | .null => true
  | _ => false

end Value

end Rollup
