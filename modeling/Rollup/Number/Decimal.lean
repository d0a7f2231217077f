import Rollup.Number.Double
import Rollup.Text.Digit

/-!
# Decimal numbers

Decimal numbers of any precision, with the exponent they were written with: `1.50` and `1.5` are
equal in value and differ in text. Also the grammar of decimal numerals, which the readers of
doubles share.
-/

namespace Rollup

inductive Decimal
  | finite (negative : Bool) (coefficient : Nat) (exponent : Int)
  | infinite (negative : Bool)
  | nan (negative signaling : Bool) (payload : Option Nat)
  deriving DecidableEq, Repr

/-- A decimal numeral: `± digits * 10 ^ exponent`. -/
structure Numeral where
  negative : Bool
  digits : Nat
  exponent : Int
  deriving DecidableEq, Repr

namespace Numeral

/-- Writes the decimal digits of all scripts as ASCII digits. -/
def asciiDigits (cs : List Char) : List Char :=
  cs.map fun c => match Text.digitValue? c with
    | some d => Char.ofNat ('0'.toNat + d)
    | none => c

/-- Takes the separators out of a numeral. Each must stand between two digits; `afterDigit` tells
whether the text follows a digit. -/
def dropSeparators (afterDigit : Bool) : List Char → Option (List Char)
  | [] => some []
  | ['_'] => none
  | '_' :: c :: cs =>
    if afterDigit && c.isDigit then dropSeparators false (c :: cs) else none
  | c :: cs => (dropSeparators c.isDigit cs).map (c :: ·)

def splitSign : List Char → Bool × List Char
  | '-' :: cs => (true, cs)
  | '+' :: cs => (false, cs)
  | cs => (false, cs)

def digitsValue (cs : List Char) : Nat := Nat.ofDigitChars 10 cs 0

/-- Reads an exponent mark with its integer, or nothing at all. -/
def readExponent? : List Char → Option Int
  | [] => some 0
  | c :: cs =>
    if c == 'e' || c == 'E' then
      let (negative, digits) := splitSign cs
      if digits.isEmpty || !digits.all Char.isDigit then none
      else some (if negative then -digitsValue digits else digitsValue digits)
    else none

/-- Reads digits with an optional fraction and exponent. There is a digit before or after the
point. -/
def readUnsigned? (cs : List Char) : Option (Nat × Int) :=
  let whole := cs.takeWhile Char.isDigit
  let rest := cs.dropWhile Char.isDigit
  let (fraction, rest) := match rest with
    | '.' :: more => (more.takeWhile Char.isDigit, more.dropWhile Char.isDigit)
    | other => ([], other)
  if whole.isEmpty && fraction.isEmpty then none
  else (readExponent? rest).map fun exponent =>
    (digitsValue (whole ++ fraction), exponent - fraction.length)

def readPlain? (cs : List Char) : Option Numeral :=
  let (negative, rest) := splitSign cs
  (readUnsigned? rest).map fun (digits, exponent) => ⟨negative, digits, exponent⟩

/-- Reads a numeral with digits of any script and separators between digits. -/
def read? (cs : List Char) : Option Numeral :=
  (dropSeparators false (asciiDigits cs)).bind readPlain?

/-- The most digits that an integer is read from or written with. -/
def maxIntegerDigits : Nat := 4300

/-- Reads an integer of at most `maxIntegerDigits` digits. -/
def readInt? (cs : List Char) : Option Int :=
  (dropSeparators false (asciiDigits cs)).bind fun plain =>
    let (negative, digits) := splitSign plain
    if digits.isEmpty || !digits.all Char.isDigit || maxIntegerDigits < digits.length then none
    else some (if negative then -digitsValue digits else digitsValue digits)

def toDouble (n : Numeral) : Double := Double.ofScientific n.negative n.digits n.exponent

end Numeral

/-- Reads an infinity or no number, as doubles are written. -/
def Double.ofSpecial? (cs : List Char) : Option Double :=
  let (negative, rest) := Numeral.splitSign cs
  let word := String.ofList (rest.map Char.toLower)
  if word == "inf" || word == "infinity" then some (.infinite negative)
  else if word == "nan" then some .nan
  else none

/-- Reads a double from a text without blanks around it. -/
def Double.ofChars? (cs : List Char) : Option Double :=
  match Numeral.read? cs with
  | some n => some n.toDouble
  | none => Double.ofSpecial? cs

namespace Decimal

def ofNumeral (n : Numeral) : Decimal := .finite n.negative n.digits n.exponent

/-- Reads the word for an infinity or for no number. -/
def ofSpecial? (cs : List Char) : Option Decimal :=
  let (negative, rest) := Numeral.splitSign cs
  let word := rest.map Char.toLower
  let letters := String.ofList (word.takeWhile fun c => !c.isDigit)
  let digits := word.dropWhile fun c => !c.isDigit
  -- Digits behind the word for no number are its payload.
  let payload := if digits.isEmpty then none else some (Numeral.digitsValue digits)
  if !digits.all Char.isDigit then none
  else if (letters == "inf" || letters == "infinity") && digits.isEmpty then
    some (.infinite negative)
  else if letters == "nan" then some (.nan negative false payload)
  else if letters == "snan" then some (.nan negative true payload)
  else none

def ofText? (s : String) : Option Decimal :=
  let cs := Text.trimChars s.toList
  match Numeral.read? cs with
  | some n => some (ofNumeral n)
  | none => ofSpecial? cs

def isFinite : Decimal → Bool
  | finite .. => true
  | _ => false

def signChars (negative : Bool) : List Char := if negative then ['-'] else []

/-- Writes a coefficient and exponent: positional when the exponent is not positive and no more than
five zeros follow the point, with an exponent after `E` otherwise. -/
def finiteChars (coefficient : Nat) (exponent : Int) : List Char :=
  let digits := Text.digitChars coefficient
  let left := exponent + digits.length
  if exponent ≤ 0 && -6 < left then
    if left ≤ 0 then '0' :: '.' :: (List.replicate (-left).toNat '0' ++ digits)
    else if exponent = 0 then digits
    else digits.take left.toNat ++ '.' :: digits.drop left.toNat
  else
    let mantissa := match digits with
      | d :: e :: more => d :: '.' :: e :: more
      | other => other
    let power := left - 1
    if power = 0 then mantissa
    else mantissa ++ 'E' :: (if power < 0 then '-' else '+') :: Text.digitChars power.natAbs

def textChars : Decimal → List Char
  | finite negative coefficient exponent => signChars negative ++ finiteChars coefficient exponent
  | infinite negative => signChars negative ++ "Infinity".toList
  | nan negative signaling payload =>
    signChars negative ++ (if signaling then ['s'] else []) ++ "NaN".toList ++
      (payload.map Text.digitChars).getD []

/-- The text of a decimal number, which keeps its coefficient and exponent. -/
def text (d : Decimal) : String := String.ofList d.textChars

def toInt? : Decimal → Option Int
  | finite negative coefficient exponent =>
    let signed (n : Nat) : Int := if negative then -n else n
    if coefficient = 0 then some 0
    else if 0 ≤ exponent then some (signed (coefficient * Nat.pow 10 exponent.toNat))
    else if (Text.digitChars coefficient).length < (-exponent).toNat then none
    else
      let power := Nat.pow 10 (-exponent).toNat
      if coefficient % power = 0 then some (signed (coefficient / power)) else none
  | _ => none

def toDouble : Decimal → Double
  | finite negative coefficient exponent => Double.ofScientific negative coefficient exponent
  | infinite negative => .infinite negative
  | nan .. => .nan

end Decimal

end Rollup
