import Rollup.Text.Width

/-!
# Lines of a terminal

Fitting text to a width. Lines are broken between words; a word that is wider than a line is broken
itself or cut. Tabs become blanks, and control characters that move the cursor vanish.
-/

namespace Rollup.Terminal

/-- What becomes of a text that is wider than a line. -/
inductive Overflow
  /-- It goes on in the next line, in the middle of a word if need be. -/
  | fold
  /-- It goes on in the next line, but a word that does not fit there is cut and gets an ellipsis. -/
  | ellipsis
  /-- It is left as it is. -/
  | ignore
  deriving DecidableEq, Repr

/-- Bell, backspace, vertical tab, form feed and carriage return. -/
def movesCursor (c : Char) : Bool := [0x07, 0x08, 0x0B, 0x0C, 0x0D].contains c.toNat

/-- The parts of a text between characters that satisfy `p`. -/
def splitLines (p : Char → Bool) : List Char → List (List Char)
  | [] => [[]]
  | c :: cs =>
    if p c then [] :: splitLines p cs
    else match splitLines p cs with
      | [] => [[c]]
      | line :: more => (c :: line) :: more

/-- Newline, separators of files, groups and records, next line, and the Unicode separators of lines and
paragraphs. -/
def endsLine (c : Char) : Bool := [0x0A, 0x1C, 0x1D, 0x1E, 0x85, 0x2028, 0x2029].contains c.toNat

def widestLine (cs : List Char) : Nat :=
  ((splitLines endsLine (cs.filter fun c => !movesCursor c)).map Text.width).foldl max 0

def tabWidth : Nat := 8

/-- Fills tabs up with blanks, in a line from a cell on. -/
def expandTabs (cell : Nat) : List Char → List Char
  | [] => []
  | c :: cs =>
    if c = '\t' then
      let next := (cell / tabWidth + 1) * tabWidth
      List.replicate (next - cell) ' ' ++ expandTabs next cs
    else c :: expandTabs (cell + Text.charWidth c) cs

/-- The words of a line, each with the blanks behind it, the first one also with those before it. The
word that is being read comes with its last character first. -/
def wordsFrom (word : List Char) (ended : Bool) : List Char → List (List Char)
  | [] => if word.all Text.isBlankChar then [] else [word.reverse]
  | c :: cs =>
    if Text.isBlankChar c then
      wordsFrom (c :: word) (ended || word.head?.any fun d => !Text.isBlankChar d) cs
    else if ended then word.reverse :: wordsFrom [c] false cs
    else wordsFrom (c :: word) false cs

/-- Cuts a word into parts that fit a width. The part that is being read comes with its last character
first. -/
def chopFrom (limit : Nat) (part : List Char) (cells : Nat) : List Char → List (List Char)
  | [] => [part.reverse]
  | c :: cs =>
    if limit < cells + Text.charWidth c then
      part.reverse :: chopFrom limit [c] (Text.charWidth c) cs
    else chopFrom limit (c :: part) (cells + Text.charWidth c) cs

/-- Fills lines with words, the first of them after what stands in it already. -/
def fillLines (limit : Nat) (fold : Bool) (line : List Char) : List (List Char) → List (List Char)
  | [] => [line]
  | word :: more =>
    let size := Text.width (Text.dropLastWhile Text.isBlankChar word)
    if Text.width line + size ≤ limit then fillLines limit fold (line ++ word) more
    else if size ≤ limit then line :: fillLines limit fold word more
    else
      -- The next words go on behind the last part of this one.
      let parts := if fold then chopFrom limit [] 0 word else [word]
      (if line.isEmpty then [] else [line]) ++ parts.dropLast ++
        fillLines limit fold (parts.getLastD []) more

/-- Breaks a line that is too wide between its words. A blank line is not broken. -/
def breakLine (limit : Nat) (fold : Bool) (line : List Char) : List (List Char) :=
  match wordsFrom [] false line with
  | [] => [line]
  | words => fillLines limit fold [] words

/-- Takes away blanks at the end, as many as there are characters too many. -/
def cropBlanks (limit : Nat) (line : List Char) : List Char :=
  let blanks := (line.reverse.takeWhile Text.isBlankChar).length
  line.take (line.length - min blanks (line.length - limit))

/-- The first cells of a line. A wide character that lies on the edge is a blank there. -/
def takeCells (limit : Nat) : List Char → List Char
  | [] => []
  | c :: cs =>
    if Text.charWidth c ≤ limit then c :: takeCells (limit - Text.charWidth c) cs
    else List.replicate limit ' '

/-- Cuts what is still too wide. -/
def crop (limit : Nat) (overflow : Overflow) (line : List Char) : List Char :=
  if Text.width line ≤ limit then line
  else match overflow with
    | .fold => takeCells limit line
    | .ellipsis => takeCells (limit - 1) line ++ ['…']
    | .ignore => line

def wrap (limit : Nat) (overflow : Overflow) (cs : List Char) : List (List Char) :=
  (splitLines (· = '\n') (cs.filter fun c => !movesCursor c)).flatMap fun line =>
    let line := expandTabs 0 line
    let lines := match overflow with
      | .ignore => [line]
      | .fold => breakLine limit true line
      | .ellipsis => breakLine limit false line
    lines.map fun l => crop limit overflow (cropBlanks limit l)

/-- A text as a terminal of some width shows it. -/
def layOut (limit : Nat) (overflow : Overflow) (cs : List Char) : List Char :=
  ['\n'].intercalate (wrap limit overflow cs)

end Rollup.Terminal
