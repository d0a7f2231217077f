import Rollup.Command
import Rollup.Database.Snapshot
import Std.Time.DateTime.Timestamp

/-!
# The program

Runs one command line on the files and directories around it. What the command may need is read before,
and what it has changed is written after. A database is a file with the text of one.
-/

namespace Rollup.Program

/-- The place of the working directory. No path spells out its components, so that paths to it from
elsewhere do not meet those from it. -/
def workingDirectory : List String := List.replicate 64 ""

def pathTo (place : List String) : Path :=
  let named := place.dropWhile (· = "")
  let ups := workingDirectory.length - (place.length - named.length)
  if ups = workingDirectory.length then ⟨"/", named⟩ else ⟨"", List.replicate ups ".." ++ named⟩

def textOf? (path : Path) : IO (Option String) := do
  try return some (← IO.FS.readFile path.text) catch _ => return none

def isDirectory (path : Path) : IO Bool := do
  try
    let _ ← IO.FS.realPath (path.text ++ "/.")
    return true
  catch _ => return false

/-- Looks at what a path leads to, and at the directories on the way. -/
def look (files : Files) (path : Path) : IO Files := do
  let mut files := files
  for n in List.range path.parts.length do
    let above : Path := { path with parts := path.parts.take n }
    if ← isDirectory above then
      files := { files with directories := files.placeOf above :: files.directories }
  if ← isDirectory path then
    return { files with directories := files.placeOf path :: files.directories }
  match ← textOf? path with
  | some text => return files.put (files.placeOf path) text
  | none => return files

def definitionPath? : Command → Option Path
  | .run path _ _ => some path
  | .save path _ _ _ => some path
  | _ => none

def source : Command → Source
  | .fields _ source => source
  | .run _ source _ => source
  | .runSaved _ source _ => source
  | .save _ database? _ _ => ⟨database?, none⟩
  | .list database? => ⟨database?, none⟩
  | .display _ database? => ⟨database?, none⟩
  | .delete _ database? => ⟨database?, none⟩

def exportPath? : Command → Option Path
  | .run _ _ sink => sink.export?
  | .runSaved _ _ sink => sink.export?
  | _ => none

def filesFor (c : Command) : IO Files := do
  let mut files : Files := { base := workingDirectory }
  for path in (definitionPath? c).toList ++ (source c).config?.toList ++ (exportPath? c).toList ++
      ((source c).database?.map Path.ofText).toList do
    files ← look files path
  match (source c).config?.map (Config.load files) with
  | some (.ok config) =>
    for path in config.entityCatalog?.toList do
      files ← look files path
  | _ => pure ()
  return files

def newId : IO String := do
  let mut digits : List Char := []
  for n in List.range 32 do
    if n = 8 || n = 12 || n = 16 || n = 20 then digits := '-' :: digits
    let digit ← IO.rand 0 15
    let digit := if n = 12 then 4 else if n = 16 then 8 + digit % 4 else digit
    digits := Nat.digitChar digit :: digits
  return String.ofList digits.reverse

/-- The present time, as universal time. -/
def now : IO Timestamp := do
  let t ← Std.Time.Timestamp.now
  return Timestamp.addMicroseconds ⟨⟨1970, 1, 1⟩, 0, 0, 0, 0, none⟩
    (t.toNanosecondsSinceUnixEpoch.val / 1000)

/-- The world of a command. A file that is a database stands among the databases. -/
def worldFor (c : Command) : IO World := do
  let files ← filesFor c
  let id ← newId
  let time ← now
  let issuer : Issuer := { id := fun _ => id, time := fun _ => time }
  match (source c).database? with
  | none | some "" => return { files, issuer }
  | some name =>
    let place := files.placeOf (Path.ofText name)
    match files.entries.find? fun (p, _) => p == place with
    | none => return { files, issuer }
    | some (_, text) =>
      match Database.ofText? text with
      | some db =>
        return { files := { files with entries := files.entries.filter (·.1 ≠ place) }
                 databases := [(place, db)], issuer }
      | none => return { files, issuer }

def settle (before after : World) : IO Unit := do
  for (place, text) in after.files.entries do
    if !before.files.entries.contains (place, text) then
      IO.FS.writeFile (pathTo place).text text
  for (place, db) in after.databases do
    IO.FS.writeFile (pathTo place).text db.toText

def width : IO Nat := do
  match (← IO.getEnv "COLUMNS").bind String.toNat? with
  | some n => return max n 1
  | none => return 80

/-- A number of nanoseconds in milliseconds, with two digits behind the point. -/
def milliseconds (nanoseconds : Nat) : Double :=
  let hundredths := nanoseconds / 10000
  (Double.ofChars? (Text.digitChars (hundredths / 100) ++
    '.' :: Text.digitCharsPadded 2 (hundredths % 100))).getD .zero

def crashText : Crash → String
  | .markup _ => "The text holds markup that closes what is not open."
  | .evaluation .noTextForm => "An integer has too many digits."
  | .evaluation .overflow => "An integer is too large."
  | .keeper _ => "The saved reports cannot be read."
  | .write (.missing .nothing) path => "No such file or directory: " ++ Literal.quoted path.text
  | .write (.missing .notADirectory) path => "Not a directory: " ++ Literal.quoted path.text
  | .write .isDirectory path => "Is a directory: " ++ Literal.quoted path.text
  | .unnamed path => "The path has no name: " ++ Literal.quoted path.text

/-- Runs a command line. The first run is the one that is timed. -/
def run (words : List String) : IO UInt32 := do
  let world ← match Request.ofWords words with
    | .ok (.command c) => worldFor c
    | _ => pure { issuer := Issuer.counting ⟨⟨1970, 1, 1⟩, 0, 0, 0, 0, none⟩ 0 }
  let setting : Setting := { width := ← width, milliseconds := .zero }
  let start ← IO.monoNanosNow
  let length ← IO.lazyPure fun _ => (Command.runWords setting world words).1.output.length
  let stop ← IO.monoNanosNow
  let setting := if length = 0 then setting
    else { setting with milliseconds := milliseconds (stop - start) }
  let (scene, ending) := Command.runWords setting world words
  settle world scene.world
  IO.eprint (String.ofList scene.errors)
  IO.print (String.ofList scene.output)
  match ending with
  | .exit _ => pure ()
  | .misuse e => IO.eprintln ("Usage: rf [OPTIONS] COMMAND [ARGS]...\nError: " ++ e.message)
  | .crash e => IO.eprintln (crashText e)
  return ending.code.toUInt32

end Rollup.Program

def main (args : List String) : IO UInt32 := Rollup.Program.run args
