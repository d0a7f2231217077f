import Rollup.Number.Shortest
import Rollup.Number.Decimal

/-!
# Numbers

A number is an integer of any size or a double. Integers stay integers, so that sums of whole
numbers are exact; comparison is by exact value across the two kinds.
-/

namespace Rollup

inductive Number
  | int (n : Int)
  | double (x : Double)
  deriving DecidableEq

inductive ArithmeticError
  | overflow
  deriving DecidableEq, Repr

namespace Double

/-- The place of any double in a total order in which no number comes last. -/
def place (x : Double) : Int × Int := x.place?.getD (2, 0)

end Double

namespace Number

/-- The place of a number on the extended line, in units of `2 ^ -1074`. -/
def place : Number → Int × Int
  | int n => (0, n * Double.unitsPerOne)
  | double x => x.place

/-- Compares two places, infinities before and after all else. -/
def comparePlaces (a b : Int × Int) : Ordering := (compare a.1 b.1).then (compare a.2 b.2)

/-- Compares two numbers by their exact values. -/
def compare (a b : Number) : Ordering := comparePlaces a.place b.place

def isFinite : Number → Bool
  | int _ => true
  | double x => x.isFinite

/-- The double nearest to a number; an integer beyond the range of doubles has none. -/
def toDouble? : Number → Except ArithmeticError Double
  | int n => let x := Double.ofInt n; if x.isFinite then .ok x else .error .overflow
  | double x => .ok x

/-- Integers add exactly; as soon as a double takes part, the sum is one. -/
def add (a b : Number) : Except ArithmeticError Number :=
  match a, b with
  | int m, int n => .ok (int (m + n))
  | a, b => return double ((← a.toDouble?).add (← b.toDouble?))

/-- The sum from left to right. -/
def sum (numbers : List Number) : Except ArithmeticError Number :=
  numbers.foldlM add (int 0)

/-- The quotient by a positive whole number, rounded once. -/
def divNat (a : Number) (n : Nat) : Except ArithmeticError Double :=
  match a with
  | int m =>
    let x := Double.ofFraction (m < 0) m.natAbs n
    if x.isFinite then .ok x else .error .overflow
  | double x => .ok (x.divNat n)

/-- The first of the greatest numbers of a list that starts with `first`. -/
def maximum (first : Number) (others : List Number) : Number :=
  others.foldl (fun best n => if n.compare best = .gt then n else best) first

/-- The first of the least numbers of a list that starts with `first`. -/
def minimum (first : Number) (others : List Number) : Number :=
  others.foldl (fun best n => if n.compare best = .lt then n else best) first

/-- Reads a number from a text: an integer where the text is one, otherwise a finite double. -/
def ofText? (s : String) : Option Number :=
  let cs := Text.trimChars s.toList
  match Numeral.readInt? cs with
  | some n => some (int n)
  | none =>
    match Double.ofChars? cs with
    | some x => if x.isFinite then some (double x) else none
    | none => none

/-- The number that a decimal number stands for: an integer when it is whole, the nearest double
otherwise. -/
def ofDecimal? (d : Decimal) : Option Number :=
  if d.isFinite then
    match d.toInt? with
    | some n => some (int n)
    | none => some (double d.toDouble)
  else none

/-- The text of an integer, which has at most `Numeral.maxIntegerDigits` digits. -/
def intText? (n : Int) : Option String :=
  let digits := Text.digitChars n.natAbs
  if Numeral.maxIntegerDigits < digits.length then none
  else some (String.ofList (if n < 0 then '-' :: digits else digits))

end Number

end Rollup
