import Rollup.Sql
import Rollup.Text.Quoted
import Rollup.Text.Width

/-!
# The text of queries

A query is written as a list of pieces: fixed words, names between double quotes, and literals between
single quotes, a quote inside either being doubled. The compact text stands on one line; the pretty one
breaks and indents what is too wide for a line.
-/

namespace Rollup.Sql

inductive Piece
  | words (cs : List Char)
  | name (cs : List Char)
  | literal (cs : List Char)
  deriving DecidableEq, Repr

namespace Piece

def ofWords (s : String) : Piece := words s.toList

def chars : Piece → List Char
  | words cs => cs
  | name cs => Text.Quoted.enclose '"' cs
  | literal cs => Text.Quoted.enclose '\'' cs

/-- How much room a line break inside a literal counts for. -/
def breakWidth : Nat := 15

def width : Piece → Nat
  | literal cs =>
    (literal cs).chars.length + (breakWidth - 1) * cs.count '\n'
  | p => p.chars.length

/-- Two blanks after every line break. -/
def indentChars (cs : List Char) : List Char :=
  cs.flatMap fun c => if c = '\n' then ['\n', ' ', ' '] else [c]

/-- Indents a piece by two; the lines of a literal are kept as they are. -/
def indent : Piece → Piece
  | words cs => words (indentChars cs)
  | name cs => name (indentChars cs)
  | literal cs => literal cs

end Piece

def integerChars (n : Int) : List Char :=
  if n < 0 then '-' :: Text.digitChars n.natAbs else Text.digitChars n.natAbs

/-- The text of a number. A double below zero is a minus sign and a decimal number. -/
def numberChars : Number → List Char
  | .int n => integerChars n
  | .double x =>
    if Number.compare (.double x) (.int 0) = .lt then
      let text := x.neg.text
      '-' :: (((Decimal.ofText? text).map Decimal.textChars).getD text.toList)
    else x.textChars

def Comparison.symbol : Comparison → String
  | equal => " = "
  | greater => " > "
  | less => " < "

/-- How wide the parts of something may be to stand on one line. -/
def lineWidth : Nat := 80

def isTooWide (parts : List (List Piece)) : Bool :=
  lineWidth < Text.totalWidth (parts.map fun part => Text.totalWidth (part.map Piece.width))

def joinPieces (separator : Piece) : List (List Piece) → List Piece
  | [] => []
  | [part] => part
  | part :: more => part ++ separator :: joinPieces separator more

/-- A call; its arguments stand on lines of their own where they are too wide. -/
def call (pretty : Bool) (function : String) (args : List (List Piece)) : List Piece :=
  if pretty && isTooWide args then
    .ofWords (function ++ "(\n  ") :: ((joinPieces (.ofWords ",\n") args).map Piece.indent ++
      [.ofWords "\n)"])
  else .ofWords (function ++ "(") :: (joinPieces (.ofWords ", ") args ++ [.ofWords ")"])

def parenthesize (pretty : Bool) (inside : List Piece) : List Piece :=
  if pretty then .ofWords "(\n  " :: (inside.map Piece.indent ++ [.ofWords "\n)"])
  else .ofWords "(" :: (inside ++ [.ofWords ")"])

def Expr.isConjunction : Expr → Bool
  | .and .. => true
  | _ => false

/-- The pieces of an expression. A conjunction inside another stands in parentheses. -/
def Expr.pieces (pretty : Bool) : Expr → List Piece
  | .column name => [.name name.toList]
  | .text s => [.literal s.toList]
  | .number n => [.words (numberChars n)]
  | .castText e => .ofWords "CAST(" :: (e.pieces pretty ++ [.ofWords " AS TEXT)"])
  | .tryDouble e => .ofWords "TRY_CAST(" :: (e.pieces pretty ++ [.ofWords " AS DOUBLE)"])
  | .lower e => call pretty "LOWER" [e.pieces pretty]
  | .contains a b => call pretty "CONTAINS" [a.pieces pretty, b.pieces pretty]
  | .memberText a b => call pretty "JSON_EXTRACT_STRING" [a.pieces pretty, b.pieces pretty]
  | .compare op a b => a.pieces pretty ++ .ofWords op.symbol :: b.pieces pretty
  | .coalesce a b => call pretty "COALESCE" [a.pieces pretty, b.pieces pretty]
  | .and a b =>
    let side (e : Expr) (inside : List Piece) : List Piece :=
      if e.isConjunction then parenthesize pretty inside else inside
    let left := side a (a.pieces pretty)
    let right := .ofWords "AND " :: side b (b.pieces pretty)
    left ++ .ofWords (if pretty && isTooWide [left, right] then "\n" else " ") :: right

namespace Select

def columnPieces (pretty : Bool) (column : Expr × String) : List Piece :=
  column.1.pieces pretty ++ [.ofWords " AS ", .name column.2.toList]

/-- The name of the table. An empty name is not written, nor is the blank before it at the end. -/
def tablePieces (q : Select) : List Piece :=
  if q.table ≠ "" then [.ofWords "FROM ", .name q.table.toList]
  else if q.condition?.isSome then [.ofWords "FROM "]
  else [.ofWords "FROM"]

def compactPieces (q : Select) : List Piece :=
  .ofWords "SELECT " :: (joinPieces (.ofWords ", ") (q.columns.map (columnPieces false)) ++
    .ofWords " " :: q.tablePieces ++
    (match q.condition? with
    | some e => .ofWords " WHERE " :: e.pieces false
    | none => []))

def prettyPieces (q : Select) : List Piece :=
  .ofWords "SELECT\n  " ::
    ((joinPieces (.ofWords ",\n") (q.columns.map (columnPieces true))).map Piece.indent ++
      .ofWords "\n" :: q.tablePieces ++
      (match q.condition? with
      | some e => .ofWords "\nWHERE\n  " :: (e.pieces true).map Piece.indent
      | none => []))

def render (pieces : List Piece) : String := String.ofList (pieces.flatMap Piece.chars)

def compact (q : Select) : String := render q.compactPieces

def pretty (q : Select) : String := render q.prettyPieces

end Select

end Rollup.Sql
