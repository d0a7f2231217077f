/-!
# Binary64 numbers

A finite double is a whole number of units of `2 ^ -1074`, so its magnitude is kept as that natural
number and every operation is exact integer arithmetic followed by one rounding, to nearest with
ties to even. Two doubles are equal as values of this type exactly when they have the same bits, all
NaNs being one. Powers are written with `Nat.pow`, which is one function whatever else is imported.
-/

namespace Rollup

/-- Whether a magnitude, counted in units of `2 ^ -1074`, is that of a finite double: it lies below
the overflow threshold and has at most 53 significant binary digits. -/
def Representable (units : Nat) : Prop :=
  units < Nat.pow 2 2098 ∧ Nat.pow 2 (units.log2 - 52) ∣ units

instance (units : Nat) : Decidable (Representable units) :=
  inferInstanceAs (Decidable (_ ∧ _))

inductive Double
  | nan
  | infinite (negative : Bool)
  | finite (negative : Bool) (units : Nat) (representable : Representable units)
  deriving DecidableEq

namespace Double

/-- The quotient rounded to a whole number, a half going to the even neighbour. -/
def roundQuotient (num den : Nat) : Nat :=
  let quotient := num / den
  let remainder := num % den
  if 2 * remainder < den then quotient
  else if den < 2 * remainder then quotient + 1
  else quotient + quotient % 2

/-- The quotient rounded to 53 significant binary digits, or to a whole number where that is
coarser. -/
def roundUnits (num den : Nat) : Nat :=
  let step := Nat.pow 2 ((num / den).log2 - 52)
  roundQuotient num (den * step) * step

/-- The double of a magnitude in units; a magnitude out of range is infinite. -/
def ofUnits (negative : Bool) (units : Nat) : Double :=
  if h : Representable units then finite negative units h else infinite negative

/-- The double nearest to `num / den` units. -/
def round (negative : Bool) (num den : Nat) : Double :=
  ofUnits negative (roundUnits num den)

def unitsPerOne : Nat := Nat.pow 2 1074

/-- The double nearest to the fraction `num / den`. -/
def ofFraction (negative : Bool) (num den : Nat) : Double :=
  round negative (num * unitsPerOne) den

def zero : Double := ofUnits false 0

/-- The double nearest to an integer, infinite when it is too large. -/
def ofInt (n : Int) : Double := ofFraction (n < 0) n.natAbs 1

/-- The double nearest to `± digits * 10 ^ exponent`. Exponents far outside the range of doubles
are not computed with. -/
def ofScientific (negative : Bool) (digits : Nat) (exponent : Int) : Double :=
  if digits = 0 then ofUnits negative 0
  else if 310 < exponent then infinite negative
  else if exponent + (digits.log2 + 1) < -1080 then ofUnits negative 0
  else if 0 ≤ exponent then ofFraction negative (digits * Nat.pow 10 exponent.toNat) 1
  else ofFraction negative digits (Nat.pow 10 (-exponent).toNat)

def isFinite : Double → Bool
  | finite .. => true
  | _ => false

def isNegative : Double → Bool
  | nan => false
  | infinite negative => negative
  | finite negative .. => negative

def signed (negative : Bool) (units : Nat) : Int := if negative then -(units : Int) else units

def signedUnits? : Double → Option Int
  | finite negative units _ => some (signed negative units)
  | _ => none

def ofSignedUnits (n : Int) : Double := round (n < 0) n.natAbs 1

/-- The sum, rounded once. Opposite numbers add to positive zero, opposite infinities to no number. -/
def add : Double → Double → Double
  | finite s a ha, finite t b _ =>
    -- The signs of two zeros meet here; a sum of units would lose them.
    if b = 0 then finite (if a = 0 then s && t else s) a ha
    else ofSignedUnits (signed s a + signed t b)
  | nan, _ => nan
  | _, nan => nan
  | infinite s, infinite t => if s = t then infinite s else nan
  | infinite s, finite .. => infinite s
  | finite .., infinite t => infinite t

/-- The quotient by a positive whole number, rounded once. -/
def divNat (x : Double) (n : Nat) : Double :=
  match x with
  | finite negative units _ => round negative units n
  | other => other

/-- The product with a whole number, rounded once. -/
def mulNat (x : Double) (n : Nat) : Double :=
  match x with
  | finite negative units _ => round negative (units * n) 1
  | other => other

/-- Where a number stands on the extended line: its signed units, after all numbers below infinity
for an infinity. No number has no place. -/
def place? : Double → Option (Int × Int)
  | nan => none
  | infinite negative => some (if negative then -1 else 1, 0)
  | finite negative units _ => some (0, signed negative units)

/-- The opposite of `isNegative` and the same otherwise. -/
def neg : Double → Double
  | nan => nan
  | infinite negative => infinite !negative
  | finite negative units h => finite (!negative) units h

end Double

end Rollup
