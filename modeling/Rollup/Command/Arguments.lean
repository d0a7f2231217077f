import Rollup.Path

/-!
# Command lines

Reading the words of a command line. Options may stand before and behind the arguments of a command; of
an option that is given twice the last value counts. Words behind `--` are arguments.
-/

namespace Rollup

structure OptionForm where
  long : String
  short? : Option Char := none
  /-- Whether a value follows. -/
  valued : Bool := true
  deriving Repr

inductive UsageError
  | noSuchOption (name : String)
  | missingValue (name : String)
  | unwantedValue (name : String)
  | missingArgument
  | extraArgument (word : String)
  | noSuchCommand (name : String)
  | missingCommand
  deriving DecidableEq, Repr

def UsageError.message : UsageError → String
  | noSuchOption name => "No such option: " ++ name
  | missingValue name => "Option '" ++ name ++ "' requires an argument."
  | unwantedValue name => "Option '" ++ name ++ "' does not take a value."
  | missingArgument => "Missing argument."
  | extraArgument word => "Got unexpected extra argument (" ++ word ++ ")"
  | noSuchCommand name => "No such command '" ++ name ++ "'."
  | missingCommand => "Missing command."

/-- The options and arguments of a command line. Options stand in the order in which they were given. -/
structure Arguments where
  options : List (String × String) := []
  words : List String := []
  deriving Repr

namespace Arguments

def option? (a : Arguments) (name : String) : Option String :=
  (a.options.reverse.find? fun (key, _) => key == name).map (·.2)

def has (a : Arguments) (name : String) : Bool := (a.option? name).isSome

def path? (a : Arguments) (name : String) : Option Path := (a.option? name).map Path.ofText

/-- The options in a word, and the one that still waits for its value. -/
abbrev Said := List (String × String) × Option String

/-- What letters behind a single dash say. The rest of the word is the value of an option that has one. -/
def ofLetters (forms : List OptionForm) : List Char → Except UsageError Said
  | [] => .ok ([], none)
  | c :: cs =>
    match forms.find? fun f => f.short? == some c with
    | none => .error (.noSuchOption (String.ofList ['-', c]))
    | some form =>
      if !form.valued then
        match ofLetters forms cs with
        | .ok (more, waiting) => .ok ((form.long, "") :: more, waiting)
        | .error e => .error e
      else if cs.isEmpty then .ok ([], some form.long)
      else .ok ([(form.long, String.ofList cs)], none)

/-- What a word behind two dashes says, with a value behind an equals sign if there is one. -/
def ofLong (forms : List OptionForm) (name : String) (value? : Option String) :
    Except UsageError Said :=
  match forms.find? fun f => f.long == name with
  | none => .error (.noSuchOption name)
  | some form =>
    match form.valued, value? with
    | true, some value => .ok ([(name, value)], none)
    | true, none => .ok ([], some name)
    | false, none => .ok ([(name, "")], none)
    | false, some _ => .error (.unwantedValue name)

/-- What a word says that begins with a dash. -/
def ofWord (forms : List OptionForm) (word : String) : Except UsageError Said :=
  match word.toList with
  | '-' :: '-' :: _ =>
    let name := word.toList.takeWhile (· ≠ '=')
    let value? := match word.toList.drop name.length with
      | _ :: value => some (String.ofList value)
      | [] => none
    ofLong forms (String.ofList name) value?
  | _ => ofLetters forms (word.toList.drop 1)

/-- Whether a word is an option: it begins with a dash and is longer than that. -/
def isOption (word : String) : Bool :=
  match word.toList with
  | '-' :: _ :: _ => true
  | _ => false

def addOptions (a : Arguments) (options : List (String × String)) : Arguments :=
  { a with options := a.options ++ options }

def addWords (a : Arguments) (words : List String) : Arguments := { a with words := a.words ++ words }

/-- Reads words behind others. Without `mixed` everything from the first argument on is one. -/
def read (forms : List OptionForm) (mixed : Bool) (a : Arguments) :
    List String → Except UsageError Arguments
  | [] => .ok a
  | word :: more =>
    if word = "--" then .ok (a.addWords more)
    else if isOption word then
      match ofWord forms word with
      | .error e => .error e
      | .ok (options, none) => read forms mixed (a.addOptions options) more
      | .ok (options, some name) =>
        match more with
        | [] => .error (.missingValue name)
        | value :: more => read forms mixed (a.addOptions (options ++ [(name, value)])) more
    else if mixed then read forms mixed (a.addWords [word]) more
    else .ok (a.addWords (word :: more))

end Arguments

/-! ## Commands -/

inductive OutputFormat
  | table
  | json
  | csv
  deriving DecidableEq, Repr

/-- The format of a name; any other name than those of the formats is a table. -/
def OutputFormat.ofName (name : String) : OutputFormat :=
  if name = "json" then .json else if name = "csv" then .csv else .table

/-- The database of a command and the settings it uses. -/
structure Source where
  database? : Option String
  config? : Option Path
  deriving DecidableEq, Repr

/-- What becomes of a result: how it is shown, and the file that it is also written to. -/
structure Sink where
  format : OutputFormat
  export? : Option Path
  deriving DecidableEq, Repr

inductive Command
  /-- Lists the fields of an entity. -/
  | fields (entity : String) (source : Source)
  | run (definition : Path) (source : Source) (sink : Sink)
  | runSaved (id : String) (source : Source) (sink : Sink)
  | save (definition : Path) (database? name? id? : Option String)
  | list (database? : Option String)
  | display (id : String) (database? : Option String)
  | delete (id : String) (database? : Option String)
  deriving DecidableEq, Repr

inductive Request
  | help
  | command (c : Command)
  deriving DecidableEq, Repr

namespace Request

def helpForm : OptionForm := { long := "--help", valued := false }
def databaseForm : OptionForm := { long := "--db" }
def configForm : OptionForm := { long := "--config", short? := some 'c' }
def outputForm : OptionForm := { long := "--output", short? := some 'o' }
def exportForm : OptionForm := { long := "--export", short? := some 'e' }
def nameForm : OptionForm := { long := "--name", short? := some 'n' }
def idForm : OptionForm := { long := "--id" }
def verboseForm : OptionForm := { long := "--verbose", short? := some 'v', valued := false }

def make (forms : List OptionForm) (f : Arguments → Except UsageError Command)
    (words : List String) : Except UsageError Request := do
  let a ← Arguments.read (helpForm :: databaseForm :: forms) true {} words
  if a.has helpForm.long then return .help
  else return .command (← f a)

def sourceOf (a : Arguments) : Source := ⟨a.option? databaseForm.long, a.path? configForm.long⟩

def sinkOf (a : Arguments) : Sink :=
  ⟨OutputFormat.ofName ((a.option? outputForm.long).getD "table"), a.path? exportForm.long⟩

def argument (a : Arguments) : Except UsageError String :=
  match a.words with
  | [] => .error .missingArgument
  | [word] => .ok word
  | _ :: word :: _ => .error (.extraArgument word)

def noArgument (a : Arguments) : Except UsageError Unit :=
  match a.words with
  | [] => .ok ()
  | word :: _ => .error (.extraArgument word)

def saving (a : Arguments) : Except UsageError Command := do
  let file ← argument a
  return .save (Path.ofText file) (a.option? databaseForm.long) (a.option? nameForm.long)
    (a.option? idForm.long)

def ofCommand (name : String) (words : List String) : Except UsageError Request :=
  let resultForms := [configForm, outputForm, exportForm]
  match name with
  | "fields" => make [configForm] (fun a => return .fields (← argument a) (sourceOf a)) words
  | "run" =>
    make resultForms (fun a => return .run (Path.ofText (← argument a)) (sourceOf a) (sinkOf a)) words
  | "run-saved" =>
    make resultForms (fun a => return .runSaved (← argument a) (sourceOf a) (sinkOf a)) words
  | "save" =>
    make [nameForm, idForm] saving words
  | "list" =>
    make [] (fun a => do noArgument a; return .list (a.option? databaseForm.long)) words
  | "show" =>
    make [] (fun a => return .display (← argument a) (a.option? databaseForm.long)) words
  | "delete" =>
    make [] (fun a => return .delete (← argument a) (a.option? databaseForm.long)) words
  | name => .error (.noSuchCommand name)

def ofWords (words : List String) : Except UsageError Request := do
  let a ← Arguments.read [helpForm, verboseForm] false {} words
  if a.has helpForm.long then return .help
  else match a.words with
    | [] => throw .missingCommand
    | name :: words => ofCommand name words

def helpText : String :=
  "Usage: rf [OPTIONS] COMMAND [ARGS]...\n\nReportForge - dynamic report builder CLI\n\n" ++
  "  fields ENTITY        List the selectable fields of an entity.\n" ++
  "  run DEFINITION       Run a report definition file.\n" ++
  "  run-saved ID         Run a saved report against live data.\n" ++
  "  save DEFINITION      Save a report definition for reuse.\n" ++
  "  list                 List saved reports, newest first.\n" ++
  "  show ID              Print a saved report's definition as JSON.\n" ++
  "  delete ID            Delete a saved report.\n\n" ++
  "  --db PATH            DuckDB database path\n" ++
  "  -c, --config PATH    Engine config YAML\n" ++
  "  -o, --output FORMAT  Output format: table, json, csv\n" ++
  "  -e, --export PATH    Also write the result as CSV\n" ++
  "  -n, --name NAME      Report name\n" ++
  "  --id ID              Overwrite the saved report with this id\n" ++
  "  -v, --verbose        Show debug logs\n"

end Request

end Rollup
