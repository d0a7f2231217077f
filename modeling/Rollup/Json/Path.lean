import Rollup.Text.Blank

/-!
# Paths to members

A path to a top-level member of a JSON object: `$.` and the key, bare where it consists of ASCII
letters, digits and underscores only, and otherwise between double quotes with a backslash before
every quote and backslash.
-/

namespace Rollup.Json.Path

def isBareChar (c : Char) : Bool := c.isAlphanum || c == '_'

def isBare (key : List Char) : Bool := !key.isEmpty && key.all isBareChar

/-- Puts a backslash before every character of one kind. -/
def escapeEach (special : Char) : List Char → List Char
  | [] => []
  | c :: cs => if c = special then '\\' :: c :: escapeEach special cs else c :: escapeEach special cs

/-- Puts a backslash before every quote and backslash: before backslashes first, so that none of those put
before quotes is taken for one. -/
def escape (key : List Char) : List Char := escapeEach '"' (escapeEach '\\' key)

def ofKeyChars (key : List Char) : List Char :=
  if isBare key then '$' :: '.' :: key else '$' :: '.' :: '"' :: (escape key ++ ['"'])

def ofKey (key : String) : String := String.ofList (ofKeyChars key.toList)

/-- Reads a quoted key up to its closing quote, which ends the path. -/
def readQuoted : List Char → Option (List Char)
  | [] => none
  | ['"'] => some []
  | '"' :: _ => none
  | '\\' :: c :: cs => (readQuoted cs).map (c :: ·)
  | ['\\'] => none
  | c :: cs => (readQuoted cs).map (c :: ·)

def keyChars? : List Char → Option (List Char)
  | '$' :: '.' :: '"' :: cs => readQuoted cs
  | '$' :: '.' :: cs => if isBare cs then some cs else none
  | _ => none

def key? (path : String) : Option String := (keyChars? path.toList).map String.ofList

end Rollup.Json.Path
