import Rollup.Path

/-!
# Files

A tree of text files, as a list of their paths from the root and their texts, with a directory in it
that relative paths start from. Directories are those that hold files, and some further ones.
-/

namespace Rollup

structure Files where
  entries : List (List String × String) := []
  /-- Where relative paths start. -/
  base : List String := []
  /-- Directories that may hold nothing. -/
  directories : List (List String) := []

namespace Files

/-- What a path leads to. -/
inductive Found
  | file (parts : List String) (text : String)
  | directory (parts : List String)

inductive Missing
  | nothing
  /-- It leads through a file. -/
  | notADirectory
  deriving DecidableEq, Repr

def isDirectory (files : Files) (parts : List String) : Bool :=
  parts.isEmpty || parts == files.base || files.directories.contains parts ||
    files.entries.any fun (p, _) => parts.length < p.length && parts.isPrefixOf p

/-- Follows components from a directory. Every component but the last must lead to a directory. -/
def walk (files : Files) (from_ : List String) : List String → Except Missing Found
  | [] => .ok (.directory from_)
  | part :: more =>
    let next := if part = ".." then from_.dropLast else from_ ++ [part]
    if files.isDirectory next then walk files next more
    else match files.entries.find? fun (p, _) => p == next with
      | some (p, text) => if more.isEmpty then .ok (.file p text) else .error .notADirectory
      | none => .error .nothing

/-- What a path leads to. -/
def locate (files : Files) (path : Path) : Except Missing Found :=
  files.walk (if path.isAbsolute then [] else files.base) path.parts

def find? (files : Files) (path : Path) : Option Found :=
  match files.locate path with
  | .ok found => some found
  | .error _ => none

/-- The place that a path names, whether there is something or not. -/
def placeOf (files : Files) (path : Path) : List String :=
  path.parts.foldl (fun place part => if part = ".." then place.dropLast else place ++ [part])
    (if path.isAbsolute then [] else files.base)

/-- Line ends as a reader sees them: each is one newline. -/
def normalizeLineEnds : List Char → List Char
  | [] => []
  | '\r' :: '\n' :: cs => '\n' :: normalizeLineEnds cs
  | '\r' :: cs => '\n' :: normalizeLineEnds cs
  | c :: cs => c :: normalizeLineEnds cs

inductive WriteError
  | missing (e : Missing)
  | isDirectory
  deriving DecidableEq, Repr

/-- The place of the last component of a path, in a directory that is there. -/
def target (files : Files) (path : Path) : Except WriteError (List String) :=
  match files.locate path.parent with
  | .ok (.directory parts) =>
    let parts := parts ++ [path.name]
    if files.isDirectory parts then .error .isDirectory else .ok parts
  | .ok (.file ..) => .error (.missing .notADirectory)
  | .error e => .error (.missing e)

def put (files : Files) (place : List String) (text : String) : Files :=
  { files with entries := files.entries.filter (·.1 ≠ place) ++ [(place, text)] }

/-- Writes a text to a path, if the directory is there. -/
def write (files : Files) (path : Path) (text : String) : Except WriteError Files :=
  match files.target path with
  | .ok place => .ok (files.put place text)
  | .error e => .error e

end Files

end Rollup
