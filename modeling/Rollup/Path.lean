import Rollup.Text.Lowercase

/-!
# Paths

Slash-separated paths: a root and the components after it, without empty components and without
single dots. Double dots are kept, since what they lead to depends on the directories there are.
-/

namespace Rollup

structure Path where
  /-- Empty for a relative path; two slashes at the start are kept apart from one. -/
  root : String := ""
  parts : List String := []
  deriving DecidableEq, Repr

namespace Path

def splitSlash : List Char → List (List Char)
  | [] => [[]]
  | c :: cs =>
    if c = '/' then [] :: splitSlash cs
    else match splitSlash cs with
      | [] => [[c]]
      | part :: more => (c :: part) :: more

def rootOf : List Char → String
  | ['/', '/'] => "//"
  | '/' :: '/' :: c :: _ => if c = '/' then "/" else "//"
  | '/' :: _ => "/"
  | _ => ""

def ofText (s : String) : Path :=
  ⟨rootOf s.toList, ((splitSlash s.toList).map String.ofList).filter fun part =>
    part ≠ "" && part ≠ "."⟩

def isAbsolute (p : Path) : Bool := p.root ≠ ""

def text (p : Path) : String :=
  if p.root = "" && p.parts.isEmpty then "." else p.root ++ "/".intercalate p.parts

def name (p : Path) : String := p.parts.getLast?.getD ""

def parent (p : Path) : Path := { p with parts := p.parts.dropLast }

/-- A path seen from another; an absolute one stays what it is. -/
def join (base p : Path) : Path :=
  if p.isAbsolute then p else { base with parts := base.parts ++ p.parts }

def withName (p : Path) (name : String) : Path := { p with parts := p.parts.dropLast ++ [name] }

/-- The ending of the last component from its last dot on. A dot at its start or end begins no
ending. -/
def suffix (p : Path) : String :=
  let name := p.name.toList
  let ending := (name.reverse.takeWhile (· ≠ '.')).reverse
  if ending.length < name.length && 1 + ending.length < name.length && !ending.isEmpty then
    String.ofList ('.' :: ending)
  else ""

end Path

end Rollup
