import Rollup.Entity
import Rollup.Files
import Rollup.Yaml.Value

/-!
# Documents in files

Loading report definitions and entities from files. A file whose name ends in `.json` is JSON, any
other YAML. What is loaded may stand under a key of its own.
-/

namespace Rollup

inductive FileRole
  | definition
  | config
  | entities
  deriving DecidableEq, Repr

def FileRole.name : FileRole → String
  | definition => "Report definition"
  | config => "Config file"
  | entities => "Entity catalog"

inductive LoadError
  | notFound (role : FileRole) (path : Path)
  | isDirectory (path : Path)
  | badYaml (e : Yaml.Error)
  | badJson (e : Json.ReadError) (text : String)
  /-- A record was needed to look up a key in. -/
  | notARecord (v : Value)
  /-- Something was needed that has items. -/
  | notItems (v : Value)
  | rejected (r : Rejection)
  | refused (e : EntityError)
  | report (e : ReportError)

def LoadError.message : LoadError → String
  | notFound role path => role.name ++ " not found: " ++ path.text
  | isDirectory path => "[Errno 21] Is a directory: " ++ Literal.quoted path.text
  | badYaml e => e.headline
  | badJson e text => e.message text
  | notARecord v => "'" ++ v.kindName ++ "' object has no attribute 'get'"
  | notItems v => "'" ++ v.kindName ++ "' object is not iterable"
  | rejected r => r.summary
  | refused e => e.message
  | report e => e.text

/-- Raises the problems of a value as those of what was loaded. -/
def LoadError.ofRejection {α : Type} : Except Rejection α → Except LoadError α
  | .ok a => .ok a
  | .error r => .error (.rejected r)

namespace Document

/-- The text of a file. Any line end is one newline. -/
def text (role : FileRole) (files : Files) (path : Path) : Except LoadError String :=
  match files.find? path with
  | none => .error (.notFound role path)
  | some (.directory _) => .error (.isDirectory path)
  | some (.file _ text) => .ok (String.ofList (Files.normalizeLineEnds text.toList))

def ofYaml (s : String) : Except LoadError Value :=
  match Yaml.parse s with
  | .ok v => .ok v
  | .error e => .error (.badYaml e)

def ofJson (s : String) : Except LoadError Value :=
  match Json.parse s with
  | .ok v => .ok v
  | .error e => .error (.badJson e s)

/-- The value under a key of a record, or the record itself. -/
def unwrap (key : String) (fields : List (String × Value)) : Value :=
  (lookup? key fields).getD (.record fields)

/-- The definition that a value holds, bare or under the key `report`. -/
def definition (path : Path) (v : Value) : Except LoadError Definition :=
  match v with
  | .record fields =>
    LoadError.ofRejection ((Definition.check (unwrap "report" fields)).as .definition)
  | _ => .error (.report (.notADefinition path.text))

def loadDefinition (files : Files) (path : Path) : Except LoadError Definition := do
  let s ← text .definition files path
  definition path (← if path.suffix = ".json" then ofJson s else ofYaml s)

def itemsOf (v : Value) : Except LoadError (List Value) :=
  match v.items? with
  | some items => .ok items
  | none => .error (.notItems v)

end Document

namespace Registry

def registerValue (r : Registry) (v : Value) : Except LoadError Registry := do
  let e ← LoadError.ofRejection ((Entity.check v).as .entity)
  match r.register e with
  | .ok r => return r
  | .error e => throw (.refused e)

/-- Registers entities up to the first one that is not admitted; those before it stay. -/
def registerValues (r : Registry) : List Value → Registry × Except LoadError Unit
  | [] => (r, .ok ())
  | v :: vs =>
    match r.registerValue v with
    | .ok r => r.registerValues vs
    | .error e => (r, .error e)

/-- The entities that a document lists; a document of nothing lists none. -/
def entriesOf : Value → Except LoadError (List Value)
  | .null => .ok []
  | .record fields => Document.itemsOf ((lookup? "entities" fields).getD (.list []))
  | v => .error (.notARecord v)

/-- Registers the entities of a document. -/
def addDocument (r : Registry) (v : Value) : Registry × Except LoadError Unit :=
  match entriesOf v with
  | .ok vs => r.registerValues vs
  | .error e => (r, .error e)

def loadFile (r : Registry) (files : Files) (path : Path) : Registry × Except LoadError Unit :=
  match (Document.text .entities files path).bind Document.ofYaml with
  | .ok v => r.addDocument v
  | .error e => (r, .error e)

/-- The registry of the entities of a file, if all of them are admitted. -/
def ofFile (files : Files) (path : Path) : Except LoadError Registry :=
  match ({} : Registry).loadFile files path with
  | (r, .ok ()) => .ok r
  | (_, .error e) => .error e

end Registry

end Rollup
