import Rollup.Validation

/-!
# Fields and catalogs

A field is anything that a report can show, filter on or group by. Built-in fields belong to an
entity; custom fields come from a registry and live under a prefix of their own, so that they cannot
be taken for built-in ones. A catalog is the ordered list of the fields of one entity.
-/

namespace Rollup

inductive FieldKind
  | builtIn
  | custom
  deriving DecidableEq, Repr

namespace FieldKind

def name : FieldKind → String
  | builtIn => "built_in"
  | custom => "custom"

def ofName? (s : String) : Option FieldKind := [builtIn, custom].find? fun k => k.name == s

end FieldKind

inductive FieldType
  | text
  | number
  | date
  | boolean
  deriving DecidableEq, Repr

namespace FieldType

def name : FieldType → String
  | text => "text"
  | number => "number"
  | date => "date"
  | boolean => "boolean"

def ofName? (s : String) : Option FieldType :=
  [text, number, date, boolean].find? fun t => t.name == s

end FieldType

structure Field where
  key : String
  label : String
  kind : FieldKind := .builtIn
  dataType : FieldType := .text
  deriving DecidableEq, Repr

def customPrefix : String := "custom."

def customName? (key : String) : Option String :=
  if customPrefix.toList.isPrefixOf key.toList then
    some (String.ofList (key.toList.drop customPrefix.toList.length))
  else none

def isCustomKey (key : String) : Bool := (customName? key).isSome

/-- The catalog key of a custom field. A key that has the prefix already keeps it. -/
def customFieldKey (name : String) : String :=
  if isCustomKey name then name else customPrefix ++ name

/-- The key of a field as its registry knows it. -/
def stripCustomPrefix (key : String) : String := (customName? key).getD key

/-- Something that did not stop a report but should be known. -/
structure Warning where
  kind : String
  message : String
  deriving DecidableEq, Repr

structure Catalog where
  entity : String
  fields : List Field := []
  warnings : List Warning := []
  deriving DecidableEq, Repr

namespace Catalog

def keys (c : Catalog) : List String := c.fields.map (·.key)

def contains (c : Catalog) (key : String) : Bool := c.keys.contains key

def find? (c : Catalog) (key : String) : Option Field := c.fields.find? fun f => f.key == key

/-- A catalog that lacks its custom fields. -/
def isPartial (c : Catalog) : Bool := !c.warnings.isEmpty

end Catalog

/-! ## Reading -/

open Checked

def Field.check : Value → Checked Field :=
  model fun r =>
    (both (required r "key" text) <| both (required r "label" text) <|
      both (optional r "kind" .builtIn (named FieldKind.ofName?))
        (optional r "data_type" .text (named FieldType.ofName?))).map
      fun (key, label, kind, dataType) => ⟨key, label, kind, dataType⟩

def Warning.check : Value → Checked Warning :=
  model fun r =>
    (both (required r "kind" text) (required r "message" text)).map
      fun (kind, message) => ⟨kind, message⟩

def Catalog.check : Value → Checked Catalog :=
  model fun r =>
    (both (required r "entity" text) <| both (optional r "fields" [] (list Field.check))
      (optional r "warnings" [] (list Warning.check))).map
      fun (entity, fields, warnings) => ⟨entity, fields, warnings⟩

end Rollup
