import Rollup.Error

/-!
# Entities

An entity is a kind of thing that can be reported on: it has built-in fields and a table that its
rows are in. The registry is the closed, ordered set of entities; it admits an entity only if its
name is new, its field keys differ from each other and none lies in the space of custom fields.
-/

namespace Rollup

structure Entity where
  name : String
  label? : Option String := none
  table? : Option String := none
  fields : List Field := []
  deriving DecidableEq, Repr

def Entity.tableName (e : Entity) : String :=
  match e.table? with
  | some table => if table = "" then e.name else table
  | none => e.name

def Entity.check : Value → Checked Entity :=
  Checked.model fun r => open Checked in
    (both (required r "name" text) <| both (optional r "label" none (nullable text)) <|
      both (optional r "table" none (nullable text))
        (optional r "fields" [] (list Field.check))).map
      fun (name, label?, table?, fields) => ⟨name, label?, table?, fields⟩

inductive EntityError
  | duplicateEntity (name : String)
  | duplicateField (key entity : String)
  | reservedPrefix (key entity : String)
  deriving DecidableEq, Repr

def EntityError.message : EntityError → String
  | duplicateEntity name => "Duplicate entity: " ++ name
  | duplicateField key entity => "Duplicate field '" ++ key ++ "' in entity '" ++ entity ++ "'"
  | reservedPrefix key entity =>
    "Built-in field '" ++ key ++ "' in entity '" ++ entity ++ "' uses the reserved prefix '" ++
      customPrefix ++ "'"

structure Registry where
  entities : List Entity := []
  deriving DecidableEq, Repr

namespace Registry

def names (r : Registry) : List String := r.entities.map (·.name)

def tables (r : Registry) : List (String × String) :=
  r.entities.map fun e => (e.name, e.tableName)

def find? (r : Registry) (name : String) : Option Entity := r.entities.find? fun e => e.name == name

def get (r : Registry) (name : String) : Except ReportError Entity :=
  match r.find? name with
  | some e => .ok e
  | none => .error (.unknownEntity name)

def builtIns (r : Registry) (name : String) : Except ReportError (List Field) :=
  return (← r.get name).fields

/-- Checks keys from first to last, given those before them. -/
def checkKeys (entity : String) (seen : List String) : List String → Except EntityError Unit
  | [] => .ok ()
  | key :: keys =>
    if seen.contains key then .error (.duplicateField key entity)
    else if isCustomKey key then .error (.reservedPrefix key entity)
    else checkKeys entity (key :: seen) keys

/-- Admits an entity as the last one. Its fields are built-in ones, whatever they claim to be. -/
def register (r : Registry) (e : Entity) : Except EntityError Registry :=
  if r.names.contains e.name then .error (.duplicateEntity e.name)
  else do
    checkKeys e.name [] (e.fields.map (·.key))
    return ⟨r.entities ++ [{ e with fields := e.fields.map fun f => { f with kind := .builtIn } }]⟩

def commonFields : List Field :=
  [{ key := "id", label := "ID" },
   { key := "created_at", label := "Created At", dataType := .date },
   { key := "updated_at", label := "Updated At", dataType := .date }]

def defaultEntity (name label : String) (fields : List Field) : Entity :=
  ⟨name, some label, none, commonFields ++ fields⟩

def default : Registry :=
  ⟨[defaultEntity "companies" "Companies"
      [{ key := "name", label := "Name" }, { key := "website", label := "Website" },
       { key := "industry", label := "Industry" }, { key := "size", label := "Size" }],
    defaultEntity "people" "People"
      [{ key := "name", label := "Name" }, { key := "email", label := "Email" },
       { key := "phone", label := "Phone" }, { key := "position", label := "Position" }],
    defaultEntity "talents" "Talents"
      [{ key := "name", label := "Name" }, { key := "skills", label := "Skills" },
       { key := "experience", label := "Experience", dataType := .number },
       { key := "education", label := "Education" }],
    defaultEntity "dropdown_options" "Dropdown Options" []]⟩

end Registry

end Rollup
