import Rollup.Terminal.Picture

/-!
# Markup

Text for a terminal may hold tags between square brackets. A tag opens a style, a slash closes the style
that it names, or without a name the last one. Nothing is drawn in colour here, so tags only vanish, but
one that closes what is not open is still an error. Backslashes before a tag come in pairs that stand for
one; a single one left over makes the tag stand for itself. Names of pictures are replaced in what stands
between two tags.
-/

namespace Rollup.Terminal

/-- A tag closes a style that is not open. -/
inductive MarkupError
  | notOpen (tag : String)
  | nothingOpen
  deriving DecidableEq, Repr

inductive Piece
  | plain (cs : List Char)
  /-- A tag, without its brackets. -/
  | tag (cs : List Char)
  deriving DecidableEq, Repr

def startsTag (c : Char) : Bool := ('a' ≤ c && c ≤ 'z') || c = '#' || c = '/' || c = '@'

/-- The tag right behind an opening bracket, if there is one. It holds no further bracket. -/
def tagAt? : List Char → Option (List Char)
  | [] => none
  | c :: cs =>
    let more := cs.takeWhile fun c => c ≠ '[' && c ≠ ']'
    if startsTag c && cs[more.length]? = some ']' then some (c :: more) else none

/-- The pieces of a tag and what stands before it, the nearest first. -/
def piecesAt (before tag : List Char) : List Piece :=
  let slashes := (before.takeWhile (· = '\\')).length
  [.plain (before.drop slashes).reverse, .plain (List.replicate (slashes / 2) '\\'),
    if slashes % 2 = 0 then .tag tag else .plain ('[' :: (tag ++ [']']))]

/-- The pieces of a text. A number of characters at its start belong to the tag before it, or else some
stand before it, the nearest first. -/
def piecesFrom (before : List Char) (skip : Nat) : List Char → List Piece
  | [] => [.plain before.reverse]
  | c :: cs =>
    match skip with
    | n + 1 => piecesFrom before n cs
    | 0 =>
      match if c = '[' then tagAt? cs else none with
      | some tag => piecesAt before tag ++ piecesFrom [] (tag.length + 1) cs
      | none => piecesFrom (c :: before) 0 cs

/-- Takes the backslash away before brackets that are no tag. -/
def unescape : List Char → List Char
  | '\\' :: '[' :: cs => '[' :: unescape cs
  | c :: cs => c :: unescape cs
  | [] => []

def styleName (cs : List Char) : List Char := Text.lowerChars (Text.trimChars cs)

/-- The styles that are open after a tag, the last one first. -/
def stylesAfter (tag : List Char) (styles : List (List Char)) :
    Except MarkupError (List (List Char)) :=
  match tag.takeWhile (· ≠ '=') with
  | '/' :: cs =>
    match styleName cs, styles with
    | [], [] => .error .nothingOpen
    | [], _ :: styles => .ok styles
    | name, styles =>
      if styles.contains name then .ok (styles.erase name)
      else .error (.notOpen (String.ofList tag))
  | name => .ok (styleName name :: styles)

/-- The text that pieces show, under styles that are open before them. -/
def shown (styles : List (List Char)) : List Piece → Except MarkupError (List Char)
  | [] => .ok []
  | .plain cs :: more => return drawPictures 0 (unescape cs) ++ (← shown styles more)
  | .tag tag :: more => do shown (← stylesAfter tag styles) more

def ofMarkup (s : String) : Except MarkupError (List Char) := shown [] (piecesFrom [] 0 s.toList)

/-- Puts backslashes before the tags of a text that follows some, so that they stand for themselves. -/
def escapeFrom (slashes : Nat) : List Char → List Char
  | [] => if slashes = 1 then ['\\'] else []
  | c :: cs =>
    if c = '\\' then c :: escapeFrom (slashes + 1) cs
    else if c = '[' && (tagAt? cs).isSome then
      List.replicate (slashes + 1) '\\' ++ c :: escapeFrom 0 cs
    else c :: escapeFrom 0 cs

def escape (s : String) : String := String.ofList (escapeFrom 0 s.toList)

def styled (style markup : String) : String := "[" ++ style ++ "]" ++ markup ++ "[/" ++ style ++ "]"

end Rollup.Terminal
