import Rollup.Entity

/-!
# Resolving catalogs

The catalog of an entity is its built-in fields and, after them, the custom fields that a registry
of custom fields knows for it. When that registry fails, the catalog consists of the built-in fields
and carries a warning.
-/

namespace Rollup

inductive Failure
  /-- With an error of this library. -/
  | report (e : ReportError)
  | timeout (text : String)
  | other (text : String)
  deriving DecidableEq

def Failure.text : Failure → String
  | report e => e.text
  | timeout text => text
  | other text => text

/-- What a collaborator answers. -/
structure Reply (α : Type) where
  /-- Whether the answer comes only after waiting for it. -/
  deferred : Bool
  outcome : Except Failure α

namespace Catalog

/-- Appends custom fields under their catalog keys, given the keys so far. Of fields with one key the
first one counts. -/
def customFields (seen : List String) : List Field → List Field
  | [] => []
  | f :: fs =>
    let key := customFieldKey f.key
    if seen.contains key then customFields seen fs
    else { f with key, kind := .custom } :: customFields (key :: seen) fs

def merge (entity : String) (builtIns custom : List Field) : Catalog :=
  ⟨entity, builtIns ++ customFields (builtIns.map (·.key)) custom, []⟩

/-- The catalog without custom fields, with the reason. -/
def degraded (entity : String) (builtIns : List Field) (failure : Failure) : Catalog :=
  ⟨entity, builtIns, [⟨ErrorKind.partialCatalog.name,
    "Custom fields for '" ++ entity ++ "' are unavailable: " ++ failure.text⟩]⟩

end Catalog

/-- A registry of custom fields: what it answers for an entity, perhaps no list at all. -/
abbrev FieldSource := String → Reply (Option (List Field))

namespace Catalog

/-- The catalog of an entity, given what its registry of custom fields answered, if there is one. -/
def ofReply (entity : String) (builtIns : List Field)
    (outcome? : Option (Except Failure (Option (List Field)))) : Catalog :=
  match outcome? with
  | none => ⟨entity, builtIns, []⟩
  | some (.ok custom?) => merge entity builtIns (custom?.getD [])
  | some (.error failure) => degraded entity builtIns failure

/-- The catalog of an entity; a deferred answer is waited for. -/
def resolve (registry : Registry) (source? : Option FieldSource) (entity : String) :
    Except ReportError Catalog := do
  let builtIns ← registry.builtIns entity
  return ofReply entity builtIns (source?.map fun source => (source entity).outcome)

inductive ImmediateError
  | report (e : ReportError)
  /-- The registry of custom fields answers only after waiting. -/
  | deferred
  deriving DecidableEq

def ImmediateError.message : ImmediateError → String
  | report e => e.message
  | deferred => "Custom field registry is async, use resolve_async()"

/-- The catalog of an entity without waiting for any answer. -/
def resolveNow (registry : Registry) (source? : Option FieldSource) (entity : String) :
    Except ImmediateError Catalog :=
  match registry.builtIns entity with
  | .error e => .error (.report e)
  | .ok builtIns =>
    if source?.any fun source => (source entity).deferred then .error .deferred
    else .ok (ofReply entity builtIns (source?.map fun source => (source entity).outcome))

end Catalog

end Rollup
