import Rollup.Value

/-!
# JSON text

Writing values as JSON. A layout says whether members stand on lines of their own, what follows the
colon, and whether everything beyond ASCII is escaped. Values that JSON has no notation for are
written as the text of their text form.
-/

namespace Rollup.Json

structure Layout where
  /-- The blanks of one level of indentation; without, everything stands on one line. -/
  indent? : Option Nat
  /-- What stands between a key and its value. -/
  colon : List Char
  /-- What stands between two members on one line. -/
  comma : List Char
  /-- Whether characters beyond printable ASCII are escaped. -/
  asciiOnly : Bool

def Layout.compact : Layout := ⟨none, [':'], [','], false⟩

/-- One member a line, indented by two. -/
def Layout.pretty : Layout := ⟨some 2, [':', ' '], [','], false⟩

/-- One member a line, indented by two, in ASCII. -/
def Layout.prettyAscii : Layout := ⟨some 2, [':', ' '], [','], true⟩

def Layout.compactAscii : Layout := ⟨none, [':'], [','], true⟩

def unitEscape (unit : Nat) : List Char := '\\' :: 'u' :: Literal.hexDigits 4 unit

/-- An escape for any character, a surrogate pair beyond the basic plane. -/
def charEscape (c : Char) : List Char :=
  if c.toNat < 0x10000 then unitEscape c.toNat
  else
    let n := c.toNat - 0x10000
    unitEscape (0xD800 + n / 0x400) ++ unitEscape (0xDC00 + n % 0x400)

def escape (asciiOnly : Bool) (c : Char) : List Char :=
  if c = '"' then ['\\', '"']
  else if c = '\\' then ['\\', '\\']
  else if c = '\n' then ['\\', 'n']
  else if c = '\r' then ['\\', 'r']
  else if c = '\t' then ['\\', 't']
  else if c = '\u0008' then ['\\', 'b']
  else if c = '\u000c' then ['\\', 'f']
  else if c.toNat < 0x20 then charEscape c
  else if asciiOnly && 0x7F ≤ c.toNat then charEscape c
  else [c]

def stringChars (asciiOnly : Bool) (cs : List Char) : List Char :=
  '"' :: (cs.flatMap (escape asciiOnly) ++ ['"'])

/-- The notation of a double; those that are not finite are names. -/
def doubleChars : Double → List Char
  | .nan => "NaN".toList
  | .infinite negative => if negative then "-Infinity".toList else "Infinity".toList
  | x => x.textChars

/-- A new line indented to a level; nothing where everything stands on one line. -/
def newline (layout : Layout) (level : Nat) : List Char :=
  match layout.indent? with
  | none => []
  | some width => '\n' :: List.replicate (width * level) ' '

mutual

def chars (layout : Layout) (level : Nat) : Value → List Char
  | .null => "null".toList
  | .bool b => if b then "true".toList else "false".toList
  | .int n => if n < 0 then '-' :: Text.digitChars n.natAbs else Text.digitChars n.natAbs
  | .double x => doubleChars x
  | .text s => stringChars layout.asciiOnly s.toList
  | .list [] => ['[', ']']
  | .list (v :: vs) =>
    '[' :: (newline layout (level + 1) ++ chars layout (level + 1) v ++
      itemChars layout (level + 1) vs ++ newline layout level ++ [']'])
  | .record [] => ['\x7b', '\x7d']
  | .record ((key, v) :: more) =>
    '\x7b' :: (newline layout (level + 1) ++ stringChars layout.asciiOnly key.toList ++
      layout.colon ++ chars layout (level + 1) v ++ memberChars layout (level + 1) more ++
      newline layout level ++ ['\x7d'])
  | .decimal d => stringChars layout.asciiOnly d.textChars
  | .date d => stringChars layout.asciiOnly d.textChars
  | .timestamp t => stringChars layout.asciiOnly (t.textChars ' ')

/-- The items after the first, each with the comma before it. -/
def itemChars (layout : Layout) (level : Nat) : List Value → List Char
  | [] => []
  | v :: vs =>
    layout.comma ++ newline layout level ++ chars layout level v ++ itemChars layout level vs

/-- The members after the first, each with the comma before it. -/
def memberChars (layout : Layout) (level : Nat) : List (String × Value) → List Char
  | [] => []
  | (key, v) :: more =>
    layout.comma ++ newline layout level ++ stringChars layout.asciiOnly key.toList ++
      layout.colon ++ chars layout level v ++ memberChars layout level more

end

def render (layout : Layout) (v : Value) : String := String.ofList (chars layout 0 v)

end Rollup.Json
