import Rollup.Calendar
import Rollup.Number

/-!
# Tags and plain scalars

The tag of a node says what kind of data it stands for. A plain scalar without a tag gets one by its
form: truth values, numbers in several notations, timestamps, nothing, and otherwise text.
-/

namespace Rollup.Yaml

inductive Tag
  | null
  | bool
  | int
  | float
  | binary
  | timestamp
  | omap
  | pairs
  | set
  | str
  | seq
  | map
  | merge
  | value
  | unknown (name : String)
  deriving DecidableEq, Repr

namespace Tag

/-- The beginning of the names of the tags of this library. -/
def base : String := "tag:yaml.org,2002:"

def known : List (String × Tag) :=
  [("null", null), ("bool", bool), ("int", int), ("float", float), ("binary", binary),
   ("timestamp", timestamp), ("omap", omap), ("pairs", pairs), ("set", set), ("str", str),
   ("seq", seq), ("map", map), ("merge", merge), ("value", value)]

def ofName (name : String) : Tag :=
  ((known.find? fun (short, _) => base ++ short == name).map (·.2)).getD (unknown name)

def name : Tag → String
  | unknown name => name
  | t => ((known.find? (·.2 == t)).map fun (short, _) => base ++ short).getD ""

end Tag

/-! ## Timestamps -/

/-- The parts of a written timestamp; without a time it is a date. -/
structure Stamp where
  year : Nat
  month : Nat
  day : Nat
  /-- Hour, minute, second and the digits of the fraction. -/
  time? : Option (Nat × Nat × Nat × List Char) := none
  /-- Seconds east of universal time. -/
  offset? : Option Int := none

namespace Stamp

def readShort? (cs : List Char) : Option (Nat × List Char) :=
  (Calendar.readDigits? 2 cs).orElse fun _ => Calendar.readDigits? 1 cs

/-- Reads an offset up to the end: `Z`, `+1`, `+01` or `+01:00`, or nothing at all. -/
def readOffset? (cs : List Char) : Option (Option Int) :=
  match cs.dropWhile fun c => c == ' ' || c == '\t' with
  | [] => if cs.isEmpty then some none else none
  | ['Z'] => some (some 0)
  | sign :: rest =>
    if sign == '+' || sign == '-' then do
      let (hours, rest) ← readShort? rest
      let minutes ← match rest with
        | [] => some 0
        | ':' :: rest => do
          let (minutes, rest) ← Calendar.readDigits? 2 rest
          if rest.isEmpty then some minutes else none
        | _ => none
      let seconds : Int := hours * 3600 + minutes * 60
      return some (if sign == '-' then -seconds else seconds)
    else none

/-- Splits off what stands between date and time: a letter or blanks. -/
def splitSeparator? : List Char → Option (List Char)
  | c :: cs =>
    if c == 'T' || c == 't' then some cs
    else if c == ' ' || c == '\t' then some (cs.dropWhile fun c => c == ' ' || c == '\t')
    else none
  | [] => none

/-- Reads a time of day with its offset, up to the end. -/
def readTime? (cs : List Char) : Option ((Nat × Nat × Nat × List Char) × Option Int) := do
  let (hour, cs) ← readShort? cs
  let (minute, cs) ← Calendar.readDigits? 2 (← Calendar.readChar? ':' cs)
  let (second, cs) ← Calendar.readDigits? 2 (← Calendar.readChar? ':' cs)
  let (fraction, cs) := match cs with
    | '.' :: cs => (cs.takeWhile Char.isDigit, cs.dropWhile Char.isDigit)
    | cs => ([], cs)
  return ((hour, minute, second, fraction), ← readOffset? cs)

def ofChars? (cs : List Char) : Option Stamp := do
  let (year, cs) ← Calendar.readDigits? 4 cs
  let (month, cs) ← readShort? (← Calendar.readChar? '-' cs)
  let (day, cs) ← readShort? (← Calendar.readChar? '-' cs)
  if cs.isEmpty then return { year, month, day }
  else
    let (time, offset?) ← readTime? (← splitSeparator? cs)
    return { year, month, day, time? := some time, offset? }

/-- Whether a plain scalar is a timestamp: a date alone has two digits for month and day. -/
def isPlain (cs : List Char) : Bool :=
  match ofChars? cs with
  | some stamp => stamp.time?.isSome || cs.length == 10
  | none => false

end Stamp

/-! ## Numbers -/

namespace Notation

def isDigitOrMark (c : Char) : Bool := c.isDigit || c == '_'

/-- Digits and separators, at least one of either. -/
def isRun (digit : Char → Bool) (cs : List Char) : Bool :=
  !cs.isEmpty && cs.all fun c => digit c || c == '_'

def isOctalDigit (c : Char) : Bool := '0' ≤ c && c ≤ '7'

def isHexDigit (c : Char) : Bool :=
  c.isDigit || ('a' ≤ c && c ≤ 'f') || ('A' ≤ c && c ≤ 'F')

def dropSign : List Char → List Char
  | '-' :: cs => cs
  | '+' :: cs => cs
  | cs => cs

/-- Drops places of base sixty after the first, each a colon with one or two digits. Returns how many
there were. -/
def dropPlaces : Nat → List Char → Nat × List Char
  | 0, cs => (0, cs)
  | fuel + 1, cs =>
    let step (rest : List Char) : Nat × List Char :=
      let (n, rest) := dropPlaces fuel rest
      (n + 1, rest)
    match cs with
    | ':' :: a :: b :: rest =>
      if '0' ≤ a && a ≤ '5' && b.isDigit then step rest
      else if a.isDigit then step (b :: rest)
      else (0, cs)
    | ':' :: [a] => if a.isDigit then (1, []) else (0, cs)
    | _ => (0, cs)

/-- A decimal integer without leading zeros, perhaps with places of base sixty after it. -/
def isDecimalInteger (cs : List Char) : Bool :=
  match cs with
  | ['0'] => true
  | c :: _ =>
    c.isDigit && c != '0' &&
      (dropPlaces cs.length (cs.dropWhile isDigitOrMark)).2.isEmpty
  | [] => false

def isInteger (cs : List Char) : Bool :=
  match dropSign cs with
  | '0' :: 'b' :: digits => isRun (fun c => c == '0' || c == '1') digits
  | '0' :: 'x' :: digits => isRun isHexDigit digits
  | '0' :: c :: digits => isRun isOctalDigit (c :: digits)
  | cs => isDecimalInteger cs

/-- An exponent with a sign, or nothing. -/
def isExponent : List Char → Bool
  | [] => true
  | e :: sign :: digits =>
    (e == 'e' || e == 'E') && (sign == '+' || sign == '-') && !digits.isEmpty &&
      digits.all Char.isDigit
  | _ => false

/-- A double with digits before the point, perhaps in places of base sixty. -/
def isDecimalDouble (cs : List Char) : Bool :=
  match cs with
  | c :: _ =>
    c.isDigit &&
      (match dropPlaces cs.length (cs.dropWhile isDigitOrMark) with
      | (0, '.' :: rest) => isExponent (rest.dropWhile isDigitOrMark)
      | (_, '.' :: rest) => rest.all isDigitOrMark
      | _ => false)
  | [] => false

/-- A double without digits before the point. -/
def isFraction : List Char → Bool
  | '.' :: c :: rest => c.isDigit && isExponent (rest.dropWhile isDigitOrMark)
  | _ => false

def isDouble (cs : List Char) : Bool :=
  isDecimalDouble (dropSign cs) || isFraction cs ||
    [".inf", ".Inf", ".INF"].contains (String.ofList (dropSign cs)) ||
    [".nan", ".NaN", ".NAN"].contains (String.ofList cs)

end Notation

def truthWords : List (String × Bool) :=
  [("yes", true), ("no", false), ("true", true), ("false", false), ("on", true), ("off", false)]

/-- A word in small letters, with a capital first letter or in capitals, and in no other mixture. -/
def isOrdinaryCase (word : String) (s : String) : Bool :=
  s == word || s == word.capitalize || s == word.toUpper

/-- The tag that a plain scalar has by its form. -/
def Tag.ofPlain (s : String) : Tag :=
  let cs := s.toList
  if truthWords.any fun (word, _) => isOrdinaryCase word s then bool
  else if Notation.isDouble cs then float
  else if Notation.isInteger cs then int
  else if s == "<<" then merge
  else if s == "" || s == "~" || isOrdinaryCase "null" s then null
  else if Stamp.isPlain cs then timestamp
  else if s == "=" then value
  else str

end Rollup.Yaml
