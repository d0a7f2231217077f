import Rollup.Definition

/-!
# Errors of reports

Everything that can stop a report for a reason of its own. Each error is a cause; its kind is what a
caller switches on, and its message is what a reader sees.
-/

namespace Rollup

inductive ErrorKind
  | invalidDefinition
  | unknownEntity
  /-- Only ever a warning. -/
  | partialCatalog
  | noValidColumns
  | dataSourceError
  | missingName
  | reportNotFound
  deriving DecidableEq, Repr

def ErrorKind.name : ErrorKind → String
  | invalidDefinition => "InvalidDefinition"
  | unknownEntity => "UnknownEntity"
  | partialCatalog => "PartialCatalog"
  | noValidColumns => "NoValidColumns"
  | dataSourceError => "DataSourceError"
  | missingName => "MissingName"
  | reportNotFound => "ReportNotFound"

inductive ReportError
  /-- The value is not a definition at all. -/
  | malformed (rejection : Rejection)
  | noEntity
  | noColumns
  | unknownGroup (field : String)
  /-- A file holds something else. -/
  | notADefinition (path : String)
  /-- Invalid for a reason that a collaborator gives. -/
  | invalid (reason : String)
  | unknownEntity (entity : String)
  | noValidColumns (entity : String) (columns : List String)
  | fetchFailed (entity reason : String)
  | fetchTimedOut (entity : String) (timeout? : Option Double)
  /-- Failed for a reason that a collaborator gives. -/
  | dataSource (reason : String)
  | missingName
  | reportNotFound (id : String)
  deriving DecidableEq

namespace ReportError

def kind : ReportError → ErrorKind
  | malformed _ | noEntity | noColumns | unknownGroup _ | notADefinition _ | invalid _ =>
    .invalidDefinition
  | unknownEntity _ => .unknownEntity
  | noValidColumns .. => .noValidColumns
  | fetchFailed .. | fetchTimedOut .. | dataSource _ => .dataSourceError
  | missingName => .missingName
  | reportNotFound _ => .reportNotFound

/-- A number of seconds, or the word for none at all. -/
def timeoutText : Option Double → String
  | some x => x.text
  | none => "None"

def message : ReportError → String
  | malformed rejection => "Malformed report definition: " ++ rejection.summary
  | noEntity => "Select an entity"
  | noColumns => "Select at least one column"
  | unknownGroup field => "Cannot group by unknown field '" ++ field ++ "'"
  | notADefinition path => path ++ " does not contain a report definition"
  | invalid reason => reason
  | unknownEntity entity => "Unknown entity '" ++ entity ++ "'"
  | noValidColumns entity columns =>
    "None of the requested columns exist for '" ++ entity ++ "': " ++ ", ".intercalate columns
  | fetchFailed entity reason => "Fetching " ++ entity ++ " failed: " ++ reason
  | fetchTimedOut entity timeout? =>
    "Fetching " ++ entity ++ " timed out after " ++ timeoutText timeout? ++ "s"
  | dataSource reason => reason
  | missingName => "A report needs a name before it can be saved"
  | reportNotFound id => "No saved report with id '" ++ id ++ "'"

def text (e : ReportError) : String := e.kind.name ++ ": " ++ e.message

end ReportError

end Rollup
