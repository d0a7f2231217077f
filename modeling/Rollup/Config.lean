import Rollup.Document

/-!
# Configuration

The settings of an engine, and loading them from a file.
-/

namespace Rollup

structure Config where
  /-- The label of rows whose group value is missing. -/
  unknownGroupLabel : String := unknownGroup
  /-- What separates the fields of an export. -/
  delimiter : Char := ','
  /-- How many seconds to wait for the store; forever without. -/
  fetchTimeout? : Option Double := none
  /-- A file of entities to use in place of the default ones. -/
  entityCatalog? : Option Path := none
  deriving DecidableEq

namespace Config

open Checked

def checkPositive (v : Value) : Checked Double :=
  match double v with
  | .ok x => if Number.compare (.double x) (.int 0) = .gt && x ≠ .nan then .ok x else fail .notGreater
  | .error problems => .error problems

def checkPath : Value → Checked Path
  | .text s => .ok (Path.ofText s)
  | _ => fail .notPath

def check : Value → Checked Config :=
  model fun r =>
    (both (optional r "unknown_group_label" unknownGroup text) <|
      both (optional r "delimiter" ',' oneChar) <|
      both (optional r "fetch_timeout" none (nullable checkPositive))
        (optional r "entity_catalog" none (nullable checkPath))).map
      fun (unknownGroupLabel, delimiter, fetchTimeout?, entityCatalog?) =>
        ⟨unknownGroupLabel, delimiter, fetchTimeout?, entityCatalog?⟩

/-- Whether a value counts as nothing, so that a file that holds it is an empty one. -/
def isVoid : Value → Bool
  | .null | .bool false | .text "" | .list [] | .record [] => true
  | .int n => n = 0
  | .double (.finite _ units _) => units = 0
  | _ => false

/-- The settings that a document holds, bare or under the key `reportforge`. -/
def ofDocument (v : Value) : Except LoadError Config :=
  if isVoid v then .ok {}
  else match v with
    | .record fields =>
      LoadError.ofRejection ((check (Document.unwrap "reportforge" fields)).as .config)
    | v => .error (.notARecord v)

/-- Loads settings. The entity catalog is seen from the directory of the file. -/
def load (files : Files) (path : Path) : Except LoadError Config := do
  let config ← ofDocument (← Document.ofYaml (← Document.text .config files path))
  return { config with entityCatalog? := config.entityCatalog?.map path.parent.join }

end Config

end Rollup
