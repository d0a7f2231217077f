import Rollup.Filter
import Rollup.Path
import Rollup.Text.Quoted

/-!
# Export

Rows as delimited text: a header with the column keys and a record for each row. Texts always stand
between quotes and numbers never do, unless the delimiter occurs in them; nothing is an empty field
without quotes. So a reader can tell an empty text from nothing and a number from its text.
-/

namespace Rollup

namespace Delimited

/-- Whether a field cannot be read back without quotes. -/
def needsQuotes (delimiter : Char) (cs : List Char) : Bool :=
  cs.any fun c => c = delimiter || c = '"' || c = '\n' || c = '\r'

def quoted (cs : List Char) : List Char := Text.Quoted.enclose '"' cs

/-- A field that stands between quotes only where it has to. -/
def minimal (delimiter : Char) (cs : List Char) : List Char :=
  if needsQuotes delimiter cs then quoted cs else cs

/-- Fields with delimiters between them and a newline at the end. -/
def record (delimiter : Char) (fields : List (List Char)) : List Char :=
  [delimiter].intercalate fields ++ ['\n']

/-- The header. A single empty name stands between quotes, so that the line is not empty. -/
def header (delimiter : Char) (columns : List String) : List Char :=
  if columns = [""] then record delimiter [quoted []]
  else record delimiter (columns.map fun key => minimal delimiter key.toList)

/-- The text of a cell; timestamps have a `T` before the time. -/
def cellText (v : Value) : Except EvaluationError String :=
  match v with
  | .timestamp t => .ok t.isoText
  | v => v.textForm

def cell (delimiter : Char) (v : Value) : Except EvaluationError (List Char) :=
  match v with
  | .null => .ok []
  | .int _ | .double _ | .decimal _ => return minimal delimiter (← cellText v).toList
  | v => return quoted (← cellText v).toList

def row (delimiter : Char) (columns : List String) (r : Row) :
    Except EvaluationError (List Char) := do
  return record delimiter (← columns.mapM fun key => cell delimiter (r.get key))

/-- A header and the rows below it. Of each row the cells under the given columns are written. -/
def chars (delimiter : Char) (columns : List String) (rows : List Row) :
    Except EvaluationError (List Char) := do
  return header delimiter columns ++ (← rows.mapM (row delimiter columns)).flatten

def text (rows : List Row) (columns : List String) (delimiter : Char) :
    Except EvaluationError String := do
  return String.ofList (← chars delimiter columns rows)

def delimiterOf? (s : String) : Option Char :=
  match s.toList with
  | [c] => some c
  | _ => none

end Delimited

structure ExportFile where
  filename : String
  content : String
  mediaType : String := "text/csv"
  deriving DecidableEq, Repr

namespace ExportFile

def ending : String := ".csv"

/-- Whether a name ends like an export file, in any case of letters. -/
def hasEnding (name : String) : Bool := ending.toList.isSuffixOf (Text.lowerChars name.toList)

/-- The name of an export: the last component of the given one, with the ending. -/
def nameFor (filename : String) : String :=
  let last := (Path.ofText filename).name
  let name := if last = "" then "report" else last
  if hasEnding name then name else name ++ ending

def build (rows : List Row) (columns : List String) (filename : String) (delimiter : Char) :
    Except EvaluationError ExportFile := do
  return { filename := nameFor filename, content := ← Delimited.text rows columns delimiter }

def size (f : ExportFile) : Nat := f.content.utf8ByteSize

end ExportFile

end Rollup
