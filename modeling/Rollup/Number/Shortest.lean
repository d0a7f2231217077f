import Rollup.Number.Double
import Rollup.Text.Digit

/-!
# Shortest decimal text of a double

The text of a finite double has the fewest significant digits that read back as the same double and,
among those, the digits nearest to it. The search tests, for one digit, two digits and so on, the
two neighbours of the value on that decimal grid with the reader itself.
-/

namespace Rollup.Double

/-- The exponent of the leading decimal digit of a magnitude that is not zero. Scaling by `10 ^ 340`
brings every one of them above one, where the digits can be counted. -/
def leadingExponent (units : Nat) : Int :=
  ((Text.digitChars (units * Nat.pow 10 340 / unitsPerOne)).length : Int) - 341

/-- A magnitude in units as a fraction of `10 ^ scale`. -/
def scaled (units : Nat) (scale : Int) : Nat × Nat :=
  if 0 ≤ scale then (units, unitsPerOne * Nat.pow 10 scale.toNat)
  else (units * Nat.pow 10 (-scale).toNat, unitsPerOne)

/-- The multiple of `10 ^ scale` nearest to a magnitude among its two neighbours that read back as
the double of that magnitude; of two equally near ones the even one. -/
def nearestOnGrid? (units : Nat) (scale : Int) : Option Nat :=
  let (num, den) := scaled units scale
  let below := num / den
  let reads (digits : Nat) : Bool := ofScientific false digits scale == ofUnits false units
  match reads below, reads (below + 1) with
  | true, true =>
    let gap := 2 * (num % den)
    some (if gap < den || (gap == den && below % 2 == 0) then below else below + 1)
  | true, false => some below
  | false, true => some (below + 1)
  | false, false => none

/-- The first grid, of those that are left, on which a magnitude has a neighbour that reads back. -/
def searchGrids (units : Nat) (leading : Int) : List Nat → Option (Nat × Int)
  | [] => none
  | places :: more =>
    let scale := leading + 1 - places
    match nearestOnGrid? units scale with
    | some digits => some (digits, scale)
    | none => searchGrids units leading more

/-- A magnitude as decimal digits and a power of ten. Seventeen digits always suffice; the exact
expansion stands behind them. -/
def decimal (units : Nat) : Nat × Int :=
  if units = 0 then (0, 0)
  else (searchGrids units (leadingExponent units) (List.range' 1 17)).getD
    (units * Nat.pow 5 1074, -1074)

/-- Moves the trailing zeros of the digits into the exponent. -/
def stripZeros (digits : List Char) (exponent : Int) : List Char × Int :=
  let kept := Text.dropLastWhile (· == '0') digits
  if kept.isEmpty then (['0'], 0) else (kept, exponent + (digits.length - kept.length : Nat))

/-- How a number is laid out: the exponents of the leading digit written without an exponent, and
the mark before a written exponent with the least number of its digits. -/
structure Layout where
  leastPositional : Int
  beyondPositional : Int
  exponentMark : Char
  exponentWidth : Nat

/-- Positional from `0.0001` to below `10 ^ 16`; otherwise as in `1e-07` and `1e+16`. -/
def Layout.standard : Layout := ⟨-4, 16, 'e', 2⟩

def exponentChars (layout : Layout) (exponent : Int) : List Char :=
  layout.exponentMark :: (if exponent < 0 then '-' else '+') ::
    Text.digitCharsPadded layout.exponentWidth exponent.natAbs

/-- Writes `digits * 10 ^ exponent`, always with a point or an exponent. -/
def layOut (layout : Layout) (digits : List Char) (exponent : Int) : List Char :=
  let leading := exponent + digits.length - 1
  if layout.leastPositional ≤ leading && leading < layout.beyondPositional then
    if leading < 0 then
      '0' :: '.' :: (List.replicate (-leading - 1).toNat '0' ++ digits)
    else if 0 ≤ exponent then
      digits ++ List.replicate exponent.toNat '0' ++ ['.', '0']
    else
      digits.take (leading + 1).toNat ++ '.' :: digits.drop (leading + 1).toNat
  else
    match digits with
    | [d] => d :: exponentChars layout leading
    | d :: ds => d :: '.' :: (ds ++ exponentChars layout leading)
    | [] => []

def magnitudeChars (units : Nat) : List Char :=
  let (digits, exponent) := decimal units
  let (digits, exponent) := stripZeros (Text.digitChars digits) exponent
  layOut .standard digits exponent

def textChars : Double → List Char
  | nan => "nan".toList
  | infinite negative => if negative then "-inf".toList else "inf".toList
  | finite negative units _ =>
    if negative then '-' :: magnitudeChars units else magnitudeChars units

def text (x : Double) : String := String.ofList x.textChars

end Rollup.Double
