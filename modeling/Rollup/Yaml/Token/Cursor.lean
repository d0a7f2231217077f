import Rollup.Yaml.Token

/-!
# A place in a YAML text

The characters from a place on, with its offset, line and column. Line breaks and the characters
that end a word are classified here.
-/

namespace Rollup.Yaml

structure Cursor where
  rest : List Char
  index : Nat := 0
  line : Nat := 0
  column : Nat := 0

def isBreak (c : Char) : Bool :=
  c == '\n' || c == '\r' || c == '\u0085' || c == '\u2028' || c == '\u2029'

def endsLine : Option Char → Bool
  | none => true
  | some c => isBreak c

/-- Whether a word ends at a place: at a blank, a tab or the end of the line. -/
def endsWord : Option Char → Bool
  | none => true
  | some c => c == ' ' || c == '\t' || isBreak c

/-- As `endsWord`, tabs not counting. -/
def endsAtBlank : Option Char → Bool
  | none => true
  | some c => c == ' ' || isBreak c

namespace Cursor

def peek (s : Cursor) : Option Char := s.rest.head?

def peekAt (s : Cursor) (n : Nat) : Option Char := (s.rest.drop n).head?

/-- One character further. A carriage return before a newline belongs to it, and a byte order mark
has no width. -/
def next (s : Cursor) : Cursor :=
  match s.rest with
  | [] => s
  | c :: cs =>
    if (isBreak c && c != '\r') || (c == '\r' && cs.head? != some '\n') then
      ⟨cs, s.index + 1, s.line + 1, 0⟩
    else if c == '\uFEFF' then ⟨cs, s.index + 1, s.line, s.column⟩
    else ⟨cs, s.index + 1, s.line, s.column + 1⟩

def advance : Nat → Cursor → Cursor
  | 0, s => s
  | n + 1, s => advance n s.next

/-- The characters from a place on as long as they satisfy `p`, and the place after them. -/
def span (p : Char → Bool) (s : Cursor) : List Char × Cursor :=
  let cs := s.rest.takeWhile p
  (cs, s.advance cs.length)

def skip (p : Char → Bool) (s : Cursor) : Cursor := (s.span p).2

def skipBlanks (s : Cursor) : Cursor := s.skip (· == ' ')

/-- The line break at a place, if there is one, as it counts in a text: the usual ones are one
newline, the separators of lines and paragraphs themselves. -/
def lineBreak (s : Cursor) : List Char × Cursor :=
  match s.rest with
  | '\r' :: '\n' :: _ => (['\n'], s.advance 2)
  | c :: _ =>
    if c == '\u2028' || c == '\u2029' then ([c], s.next)
    else if isBreak c then (['\n'], s.next)
    else ([], s)
  | [] => ([], s)

def skipComment (s : Cursor) : Cursor :=
  if s.peek == some '#' then s.skip (!isBreak ·) else s

def atDocumentMark (s : Cursor) : Bool :=
  (s.rest.take 3 == ['-', '-', '-'] || s.rest.take 3 == ['.', '.', '.']) && endsWord (s.peekAt 3)

end Cursor

end Rollup.Yaml
