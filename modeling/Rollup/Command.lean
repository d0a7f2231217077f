import Rollup.Command.Arguments
import Rollup.Terminal.Grid
import Rollup.Warehouse

/-!
# Commands

What the commands of a command line do to files and databases, and what they say. Results and errors go
to the output, remarks on them to the error output. A command ends with an exit code, or it breaks off
where something happens that it does not expect.
-/

namespace Rollup

/-- What commands act on. -/
structure World where
  files : Files := {}
  /-- The databases by their places among the files. -/
  databases : List (List String × Database) := []
  issuer : Issuer

structure Setting where
  /-- The width of the terminal. -/
  width : Nat
  /-- How many milliseconds an execution takes. -/
  milliseconds : Double

/-- What breaks a command off. -/
inductive Crash
  | markup (e : Terminal.MarkupError)
  | evaluation (e : EvaluationError)
  | keeper (e : Database.KeeperError)
  | write (e : Files.WriteError) (path : Path)
  /-- A file cannot stand beside what has no name. -/
  | unnamed (path : Path)

inductive Stop
  | exit (code : Nat)
  | crash (e : Crash)

/-- A world, with what has been said in it. -/
structure Scene where
  world : World
  output : List Char := []
  errors : List Char := []

/-- What a command does in a scene. -/
abbrev Act := ReaderT Setting (ExceptT Stop (StateM Scene))

namespace Act

def crash {α : Type} (e : Crash) : Act α := throw (.crash e)

def orCrash {ε α : Type} (f : ε → Crash) : Except ε α → Act α
  | .ok a => pure a
  | .error e => crash (f e)

def write (cs : List Char) : Act Unit := modify fun s => { s with output := s.output ++ cs }

def linesOf (markup : String) : Act (List Char) := do
  let cs ← orCrash .markup (Terminal.ofMarkup markup)
  return Terminal.layOut (← read).width .fold cs ++ ['\n']

def say (markup : String) : Act Unit := do write (← linesOf markup)

def remark (markup : String) : Act Unit := do
  let cs ← linesOf markup
  modify fun s => { s with errors := s.errors ++ cs }

def fail {α : Type} (message : String) : Act α := do
  say (Terminal.styled "red" (Terminal.escape message))
  throw (.exit 1)

def draw (g : Terminal.Grid) : Act Unit := do
  write (← orCrash .markup (g.render (← read).width))

end Act

/-! ## Databases -/

inductive OpenError
  | load (e : LoadError)
  | noDirectory (path : Path)
  | notADatabase (path : Path)

def OpenError.message : OpenError → String
  | load e => e.message
  | noDirectory path =>
    "IO Error: Cannot open file \"" ++ path.text ++ "\": No such file or directory"
  | notADatabase path =>
    "IO Error: The file \"" ++ path.text ++
      "\" exists, but it is not a valid DuckDB database file!"

/-- The place of a database, if it has one; else it is one in memory. -/
def World.placeOf (world : World) (name? : Option String) :
    Except OpenError (Option (List String)) :=
  match name? with
  | none | some "" => .ok none
  | some name =>
    let path := Path.ofText name
    if ":memory:".toList.isPrefixOf name.toList then .ok none
    else match world.files.locate path with
      | .ok _ => .error (.notADatabase path)
      | .error _ =>
        match world.files.target path with
        | .ok place => .ok (some place)
        | .error _ => .error (.noDirectory path)

def World.databaseAt (world : World) (place : List String) : Database :=
  ((world.databases.find? fun (p, _) => p == place).map (·.2)).getD {}

def World.putDatabase (world : World) (place : List String) (db : Database) : World :=
  { world with databases := (place, db) :: world.databases.filter (·.1 ≠ place) }

structure Opened where
  place? : Option (List String)
  warehouse : Warehouse
  registry : Registry
  config : Config

def Opened.engine (o : Opened) : Engine := o.warehouse.toEngine o.registry o.config

def World.open (world : World) (source : Source) : Except OpenError Opened := do
  let config ← match source.config? with
    | some path => load (Config.load world.files path)
    | none => pure {}
  let registry ← load (config.registry world.files)
  let place? ← world.placeOf source.database?
  let db := (place?.map world.databaseAt).getD {}
  return ⟨place?, .ofDatabase registry db, registry, config⟩
where
  load {α : Type} : Except LoadError α → Except OpenError α
    | .ok a => .ok a
    | .error e => .error (.load e)

namespace Act

/-- Writes a warehouse back to where its database is from. -/
def store (o : Opened) (w : Warehouse) : Act Unit :=
  match o.place? with
  | some place => modify fun s => { s with world := s.world.putDatabase place w.database }
  | none => pure ()

def openSource (source : Source) : Act Opened := do
  match (← get).world.open source with
  | .ok o => do store o o.warehouse; return o
  | .error e => fail ("Error opening database: " ++ e.message)

def openDatabase (database? : Option String) : Act Opened := openSource ⟨database?, none⟩

def loadDefinition (path : Path) : Act Definition := do
  match Document.loadDefinition (← get).world.files path with
  | .ok d => return d
  | .error e => fail ("Error loading report definition: " ++ e.message)

/-- Says what the library says is wrong; what else goes wrong is not expected. -/
def orFail {α : Type} : Except (ReportsError Database.KeeperError) α → Act α
  | .ok a => pure a
  | .error (.report e) => fail e.text
  | .error (.keeper e) => crash (.keeper e)

def reportsOf (o : Opened) : Act (Reports Warehouse) := return ⟨o.warehouse, (← get).world.issuer⟩

def keep (o : Opened) (reports : Reports Warehouse) : Act Unit := do
  store o reports.keeper
  modify fun s => { s with world := { s.world with issuer := reports.issuer } }

/-! ## Results -/

def warningMarkup (w : Warning) : String :=
  Terminal.styled "yellow" (w.kind ++ ": " ++ Terminal.escape w.message)

/-- The field is not escaped, so tags in it count. -/
def rejectionMarkup (f : Filter) : String :=
  Terminal.styled "yellow" ("Ignored filter on unknown field '" ++ f.field ++ "'")

def droppedMarkup (columns : List String) : String :=
  Terminal.styled "yellow" ("Dropped unknown columns: " ++ Terminal.escape (", ".intercalate columns))

def remarkWarning (w : Warning) : Act Unit := remark (warningMarkup w)

def remarkOmissions (r : Result) : Act Unit := do
  r.warnings.forM remarkWarning
  r.rejectedFilters.forM fun f => remark (rejectionMarkup f)
  if !r.droppedColumns.isEmpty then remark (droppedMarkup r.droppedColumns)

/-- A cell of a drawn table; nothing is an empty one. -/
def cellText : Value → Except EvaluationError String
  | .null => .ok ""
  | .bool b => .ok (if b then "True" else "False")
  | v => v.textForm

def tableRow (columns : List String) (row : Row) : Except EvaluationError (List String) :=
  columns.mapM fun key => cellText (row.get key)

def jsonText (rows : List Row) : Except EvaluationError String := do
  -- Any integer could be rendered; one without a text form is refused first.
  let _ ← rows.mapM fun row => row.mapM fun (_, v) => cellText v
  return Json.render .prettyAscii (.list (rows.map .record))

def countText (n : Nat) : String := String.ofList (Text.digitChars n)

def showTable (r : Result) : Act Unit := do
  let rows ← orCrash .evaluation (r.rows.mapM (tableRow r.columns))
  let title := "Report Results (" ++ countText r.rowCount ++ " rows, " ++
    (← read).milliseconds.text ++ "ms)"
  draw ⟨title, r.columns, rows⟩

def writePlain (overflow : Terminal.Overflow) (s : String) : Act Unit := do
  write (Terminal.layOut (← read).width overflow (Terminal.drawPictures 0 s.toList))

def showResult (config : Config) (format : OutputFormat) (r : Result) : Act Unit := do
  remarkOmissions r
  match format with
  | .table => showTable r
  | .json => do
    writePlain .ignore (← orCrash .evaluation (jsonText r.rows))
    write ['\n']
  | .csv => do
    writePlain .ignore (← orCrash .evaluation (Delimited.text r.rows r.columns config.delimiter))

/-- The path is not escaped either. -/
def exportMarkup (r : Result) (target : Path) : String :=
  Terminal.styled "green" ("Exported " ++ countText r.rowCount ++ " rows to " ++ target.text)

/-- Writes a result to a file, if it is to be, beside the path that is given. -/
def exportResult (o : Opened) (r : Result) : Option Path → Act Unit
  | none => pure ()
  | some path => do
    let file ← orCrash .evaluation (o.engine.toFile r path.name)
    if path.name = "" then crash (.unnamed path)
    let target := path.withName file.filename
    let files ← orCrash (.write · target) ((← get).world.files.write target file.content)
    modify fun s => { s with world := { s.world with files } }
    remark (exportMarkup r target)

def resultOf (e : Execution) : Act Result :=
  match e.outcome with
  | .ok r => pure r
  | .error (.report e) => fail e.text
  | .error (.evaluation e) => crash (.evaluation e)

def finish (o : Opened) (sink : Sink) (e : Execution) : Act Unit := do
  let r ← resultOf e
  exportResult o r sink.export?
  showResult o.config sink.format r

end Act

/-! ## Commands -/

namespace Command

open Act

def showFields (entity : String) (source : Source) : Act Unit := do
  let o ← openSource source
  match o.engine.resolve entity with
  | .error e => fail e.text
  | .ok catalog =>
    draw ⟨"Fields of " ++ entity, ["Key", "Label", "Kind", "Type"],
      catalog.fields.map fun f => [f.key, f.label, f.kind.name, f.dataType.name]⟩
    catalog.warnings.forM remarkWarning

def runFile (path : Path) (source : Source) (sink : Sink) : Act Unit := do
  let d ← loadDefinition path
  let o ← openSource source
  finish o sink (o.engine.execute (.checked d))

def runReport (id : String) (source : Source) (sink : Sink) : Act Unit := do
  let o ← openSource source
  finish o sink (← orFail (o.engine.executeSaved (← reportsOf o) id))

/-- Saves a definition under the name it has, or another one that is not empty. -/
def saveFile (path : Path) (database? name? id? : Option String) : Act Unit := do
  let d ← loadDefinition path
  let d := match name? with
    | none | some "" => d
    | some name => { d with name }
  let o ← openDatabase database?
  let (reports, outcome) := (← reportsOf o).save d id?
  keep o reports
  let saved ← orFail outcome
  say (Terminal.styled "green" ("Saved '" ++ saved.definition.name ++ "' as " ++ saved.id))

def reportRow (r : SavedReport) : List String :=
  [r.id, r.definition.name, r.definition.entity, r.definition.visualization.name,
    r.createdAt.minuteText]

def listReports (database? : Option String) : Act Unit := do
  let o ← openDatabase database?
  let reports ← orFail (← reportsOf o).list
  if reports.isEmpty then say (Terminal.styled "yellow" "No saved reports")
  else draw ⟨"Saved Reports", ["ID", "Name", "Entity", "Visualization", "Created"],
    reports.map reportRow⟩

def showReport (id : String) (database? : Option String) : Act Unit := do
  let o ← openDatabase database?
  let d ← orFail ((← reportsOf o).load id)
  -- Other than results in JSON, a definition is broken at the width of the terminal.
  writePlain .fold (d.toJson .pretty)
  write ['\n']

def deleteReport (id : String) (database? : Option String) : Act Unit := do
  let o ← openDatabase database?
  let (reports, outcome) := (← reportsOf o).delete id
  keep o reports
  orFail outcome
  say (Terminal.styled "green" ("Deleted " ++ id))

def act : Command → Act Unit
  | fields entity source => showFields entity source
  | run definition source sink => runFile definition source sink
  | runSaved id source sink => runReport id source sink
  | save definition database? name? id? => saveFile definition database? name? id?
  | list database? => listReports database?
  | display id database? => showReport id database?
  | delete id database? => deleteReport id database?

inductive Ending
  | exit (code : Nat)
  | misuse (e : UsageError)
  | crash (e : Crash)

def Ending.code : Ending → Nat
  | exit code => code
  | misuse _ => 2
  | crash _ => 1

def runWords (setting : Setting) (world : World) (words : List String) : Scene × Ending :=
  match Request.ofWords words with
  | .error e => ({ world }, .misuse e)
  | .ok .help => ({ world, output := Request.helpText.toList }, .exit 0)
  | .ok (.command c) =>
    match ((c.act.run setting).run).run { world } with
    | (.ok (), scene) => (scene, .exit 0)
    | (.error (.exit code), scene) => (scene, .exit code)
    | (.error (.crash e), scene) => (scene, .crash e)

end Command

end Rollup
