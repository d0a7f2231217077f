import Rollup.Definition
import Rollup.Export

/-!
# Results as values

Results, answers to queries and export files as they are passed between programs: read from values,
with all of their fields.
-/

namespace Rollup

open Checked

/-- A result with its number of rows and the time that it took. -/
structure ResultRecord where
  columns : List String
  rows : List Row
  rowCount : Int
  grouped : Bool
  rejectedFilters : List Filter
  droppedColumns : List String
  warnings : List Warning
  milliseconds : Double

def ResultRecord.check : Value → Checked ResultRecord :=
  model fun r =>
    (both (required r "columns" (list text)) <| both (required r "rows" (list record)) <|
      both (required r "row_count" integer) <| both (optional r "grouped" false truthValue) <|
      both (optional r "rejected_filters" [] (list Filter.check)) <|
      both (optional r "dropped_columns" [] (list text)) <|
      both (optional r "warnings" [] (list Warning.check))
        (optional r "execution_time_ms" .zero double)).map
      fun (columns, rows, rowCount, grouped, rejectedFilters, droppedColumns, warnings,
          milliseconds) =>
        ⟨columns, rows, rowCount, grouped, rejectedFilters, droppedColumns, warnings, milliseconds⟩

structure QueryRecord where
  sql : String
  columns : List String
  rows : List Row
  rowCount : Int
  milliseconds : Double

def QueryRecord.check : Value → Checked QueryRecord :=
  model fun r =>
    (both (required r "sql" text) <| both (required r "columns" (list text)) <|
      both (required r "data" (list record)) <| both (required r "row_count" integer)
        (required r "execution_time_ms" double)).map
      fun (sql, columns, rows, rowCount, milliseconds) =>
        ⟨sql, columns, rows, rowCount, milliseconds⟩

def ExportFile.check : Value → Checked ExportFile :=
  model fun r =>
    (both (required r "filename" text) <| both (required r "content" text)
      (optional r "media_type" "text/csv" text)).map
      fun (filename, content, mediaType) => ⟨filename, content, mediaType⟩

end Rollup
