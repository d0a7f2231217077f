import Rollup.Terminal.Line
import Rollup.Terminal.Markup

/-!
# Grids

A table drawn with lines: a title above it, a row of column names and rows of cells, all of them markup.
Columns are as wide as their widest cell. Where that is too wide for the terminal, the widest columns
shrink first, down to the next widest and on together with it.
-/

namespace Rollup.Terminal

structure Grid where
  title : String
  columns : List String
  rows : List (List String) := []
  deriving Repr

namespace Grid

/-- A quotient rounded to the nearest number, halves to the even one. -/
def divRound (a b : Nat) : Nat :=
  let q := a / b
  if 2 * (a % b) < b || (2 * (a % b) = b && q % 2 = 0) then q else q + 1

/-- Takes an excess off the widths for which it is shared, no more than a limit off each. -/
def takeOff (widest limit : Nat) (excess sharers : Nat) : List Nat → List Nat
  | [] => []
  | w :: ws =>
    if w = widest && 0 < sharers then
      let part := min limit (divRound excess sharers)
      (w - part) :: takeOff widest limit (excess - part) (sharers - 1) ws
    else w :: takeOff widest limit excess sharers ws

/-- One round of shrinking: the widest columns give up their lead, or as much of it as is too much. -/
def shrinkOnce (total : Nat) (ws : List Nat) : List Nat :=
  let widest := ws.foldl max 0
  let second := (ws.filter (· ≠ widest)).foldl max 0
  let excess := Text.totalWidth ws - total
  takeOff widest (min excess (widest - second)) excess (ws.count widest) ws

/-- Shrinks widths until they fit, in at most so many rounds. -/
def shrink (total : Nat) : Nat → List Nat → List Nat
  | 0, ws => ws
  | rounds + 1, ws => if Text.totalWidth ws ≤ total then ws else shrink total rounds (shrinkOnce total ws)

/-- The blanks at the sides of a cell. -/
def padding : Nat := 2

/-- The widths of columns with their padding, within a total one. -/
def columnWidths (total : Nat) (columns : List (List (List Char))) : List Nat :=
  let ws := columns.map fun cells => max 1 (min total ((cells.map widestLine).foldl max 0 + padding))
  shrink total (Text.totalWidth ws + 1) ws

def padTo (width : Nat) (line : List Char) : List Char :=
  line ++ List.replicate (width - Text.width line) ' '

def cellLines (width : Nat) (cell : List Char) : List (List Char) :=
  (wrap (width - padding) .ellipsis cell).map fun line =>
    ' ' :: (padTo (width - padding) line ++ [' '])

def blankLines (width n : Nat) : List (List Char) := List.replicate n (List.replicate width ' ')

/-- The lines of a row. Column names stand at its foot, cells at its head. -/
def rowLines (edge : Char) (atFoot : Bool) (widths : List Nat) (cells : List (List Char)) :
    List (List Char) :=
  let drawn := (widths.zip cells).map fun (w, cell) => (w, cellLines w cell)
  let height := (drawn.map fun (_, ls) => ls.length).foldl max 1
  let drawn := drawn.map fun (w, ls) =>
    let more := blankLines w (height - ls.length)
    if atFoot then more ++ ls else ls ++ more
  (List.range height).map fun n =>
    edge :: ([edge].intercalate (drawn.map fun ls => ls.getD n []) ++ [edge])

def ruler (left line cross right : Char) (widths : List Nat) : List Char :=
  left :: ([cross].intercalate (widths.map fun w => List.replicate w line) ++ [right])

def centered (width : Nat) (line : List Char) : List Char :=
  let line := Text.dropLastWhile Text.isBlankChar line
  padTo width (List.replicate ((width - Text.width line) / 2) ' ' ++ line)

/-- The cells of a column, its name first. A row that is too short has empty cells at its end. -/
def columnCells (names : List (List Char)) (rows : List (List (List Char))) :
    List (List (List Char)) :=
  (List.range names.length).map fun n => names.getD n [] :: rows.map fun row => row.getD n []

/-- The lines of a grid of which all markup is read. -/
def lines (width : Nat) (title : List Char) (names : List (List Char))
    (rows : List (List (List Char))) : List (List Char) :=
  if names.isEmpty then [[]]
  else
    let extra := names.length + 1
    let widths := columnWidths (width - extra) (columnCells names rows)
    let whole := Text.totalWidth widths + extra
    (wrap whole .fold title).map (centered whole) ++
      [ruler '┏' '━' '┳' '┓' widths] ++ rowLines '┃' true widths names ++
      [ruler '┡' '━' '╇' '┩' widths] ++ rows.flatMap (rowLines '│' false widths) ++
      [ruler '└' '─' '┴' '┘' widths]

def allText : List String → Except MarkupError (List (List Char))
  | [] => .ok []
  | s :: more => return (← ofMarkup s) :: (← allText more)

def allRows : List (List String) → Except MarkupError (List (List (List Char)))
  | [] => .ok []
  | row :: more => return (← allText row) :: (← allRows more)

def render (width : Nat) (g : Grid) : Except MarkupError (List Char) := do
  let ls := lines width (← ofMarkup g.title) (← allText g.columns) (← allRows g.rows)
  return ls.flatMap (· ++ ['\n'])

end Grid

end Rollup.Terminal
