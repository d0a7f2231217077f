import Rollup.Json

/-!
# Reading JSON

A reader for JSON text that also takes the names of the doubles that are not finite. Of members with
one key the last value counts, at the place of the first. An error says what was expected and where.
-/

namespace Rollup.Json

inductive Cause
  | expectedValue
  | expectedName
  | expectedColon
  | expectedComma
  | unterminatedString
  | controlCharacter
  | badEscape
  | badUnicodeEscape
  | loneSurrogate
  | tooManyDigits
  | extraData
  | byteOrderMark
  | tooDeep
  deriving DecidableEq, Repr

/-- What is wrong and how many characters are left from there on. -/
structure ReadError where
  cause : Cause
  left : Nat
  deriving DecidableEq, Repr

def Cause.message : Cause → String
  | expectedValue => "Expecting value"
  | expectedName => "Expecting property name enclosed in double quotes"
  | expectedColon => "Expecting ':' delimiter"
  | expectedComma => "Expecting ',' delimiter"
  | unterminatedString => "Unterminated string starting at"
  | controlCharacter => "Invalid control character at"
  | badEscape => "Invalid \\escape"
  | badUnicodeEscape => "Invalid \\uXXXX escape"
  | loneSurrogate => "Lone surrogate"
  | tooManyDigits => "Exceeds the limit (4300 digits) for integer string conversion"
  | extraData => "Extra data"
  | byteOrderMark => "Unexpected UTF-8 BOM (decode using utf-8-sig)"
  | tooDeep => "Too deep"

/-- The message with line, column and offset in the text that was read. -/
def ReadError.message (e : ReadError) (text : String) : String :=
  let cs := text.toList
  let offset := cs.length - e.left
  let before := cs.take offset
  let line := before.count '\n' + 1
  let column := (before.reverse.takeWhile (· != '\n')).length + 1
  let n (k : Nat) := String.ofList (Text.digitChars k)
  e.cause.message ++ ": line " ++ n line ++ " column " ++ n column ++ " (char " ++ n offset ++ ")"

def fail {α : Type} (cause : Cause) (rest : List Char) : Except ReadError α :=
  .error ⟨cause, rest.length⟩

def isSpace (c : Char) : Bool := c == ' ' || c == '\t' || c == '\n' || c == '\r'

def skipSpace (cs : List Char) : List Char := cs.dropWhile isSpace

def hexValue? (c : Char) : Option Nat :=
  if c.isDigit then some (c.toNat - '0'.toNat)
  else if 'a' ≤ c && c ≤ 'f' then some (c.toNat - 'a'.toNat + 10)
  else if 'A' ≤ c && c ≤ 'F' then some (c.toNat - 'A'.toNat + 10)
  else none

def readUnit? : List Char → Option (Nat × List Char)
  | a :: b :: c :: d :: cs => do
    return (((← hexValue? a) * 16 + (← hexValue? b)) * 256 + (← hexValue? c) * 16 + (← hexValue? d),
      cs)
  | _ => none

def simpleEscape? (c : Char) : Option Char :=
  match c with
  | '"' => some '"'
  | '\\' => some '\\'
  | '/' => some '/'
  | 'b' => some '\u0008'
  | 'f' => some '\u000c'
  | 'n' => some '\n'
  | 'r' => some '\r'
  | 't' => some '\t'
  | _ => none

/-- Reads a unicode escape after its mark, with the second half of a surrogate pair. -/
def readUnicode (cs : List Char) : Except ReadError (Char × List Char) :=
  match readUnit? cs with
  | none => fail .badUnicodeEscape cs
  | some (unit, rest) =>
    if 0xD800 ≤ unit && unit < 0xDC00 then
      match rest with
      | '\\' :: 'u' :: more =>
        match readUnit? more with
        | some (low, rest) =>
          if 0xDC00 ≤ low && low < 0xE000 then
            .ok (Char.ofNat (0x10000 + (unit - 0xD800) * 0x400 + (low - 0xDC00)), rest)
          else fail .loneSurrogate cs
        | none => fail .badUnicodeEscape more
      | _ => fail .loneSurrogate cs
    else if 0xDC00 ≤ unit && unit < 0xE000 then fail .loneSurrogate cs
    else .ok (Char.ofNat unit, rest)

/-- Reads the inside of a string after its opening quote, which stood where `opening` characters
were left. The fuel bounds the number of characters. -/
def readStringBody (opening : Nat) : Nat → List Char → Except ReadError (List Char × List Char)
  | 0, cs => fail .tooDeep cs
  | _ + 1, [] => .error ⟨.unterminatedString, opening⟩
  | fuel + 1, c :: cs =>
    if c = '"' then .ok ([], cs)
    else if c = '\\' then
      match cs with
      | [] => .error ⟨.unterminatedString, opening⟩
      | 'u' :: more => do
        let (d, rest) ← readUnicode more
        let (inside, rest) ← readStringBody opening fuel rest
        return (d :: inside, rest)
      | e :: more =>
        match simpleEscape? e with
        | some d => do
          let (inside, rest) ← readStringBody opening fuel more
          return (d :: inside, rest)
        | none => fail .badEscape (c :: cs)
    else if c.toNat < 0x20 then fail .controlCharacter (c :: cs)
    else do
      let (inside, rest) ← readStringBody opening fuel cs
      return (c :: inside, rest)

def readString (cs : List Char) : Except ReadError (String × List Char) := do
  let (inside, rest) ← readStringBody (cs.length + 1) (cs.length + 1) cs
  return (String.ofList inside, rest)

/-- Splits off a fraction: a point and at least one digit. -/
def splitFraction : List Char → List Char × List Char
  | '.' :: cs =>
    let digits := cs.takeWhile Char.isDigit
    if digits.isEmpty then ([], '.' :: cs) else (digits, cs.dropWhile Char.isDigit)
  | cs => ([], cs)

/-- Splits off an exponent: its mark, perhaps a sign, and at least one digit. -/
def splitExponent? : List Char → Option (Int × List Char)
  | c :: cs =>
    if c = 'e' || c = 'E' then
      let (negative, rest) := Numeral.splitSign cs
      let digits := rest.takeWhile Char.isDigit
      if digits.isEmpty then none
      else
        let n := Numeral.digitsValue digits
        some (if negative then -n else n, rest.dropWhile Char.isDigit)
    else none
  | [] => none

/-- Splits off the digits of an integer without leading zeros. -/
def splitWhole (cs : List Char) : List Char × List Char :=
  match cs with
  | '0' :: rest => (['0'], rest)
  | cs => (cs.takeWhile Char.isDigit, cs.dropWhile Char.isDigit)

/-- Reads a number: an integer, or a double where it has a fraction or an exponent. -/
def readNumber (cs : List Char) : Except ReadError (Value × List Char) :=
  let (negative, unsigned) := match cs with
    | '-' :: rest => (true, rest)
    | rest => (false, rest)
  let (whole, rest) := splitWhole unsigned
  if whole.isEmpty then fail .expectedValue cs
  else
    let (fraction, afterFraction) := splitFraction rest
    match fraction, splitExponent? afterFraction with
    | [], none =>
      if Numeral.maxIntegerDigits < whole.length then fail .tooManyDigits cs
      else
        let n := Numeral.digitsValue whole
        .ok (.int (if negative then -n else n), rest)
    | fraction, some (exponent, rest) =>
      .ok (.double (Double.ofScientific negative (Numeral.digitsValue (whole ++ fraction))
        (exponent - fraction.length)), rest)
    | fraction, none =>
      .ok (.double (Double.ofScientific negative (Numeral.digitsValue (whole ++ fraction))
        (-fraction.length)), afterFraction)

def splitWord? (word : String) (cs : List Char) : Option (List Char) :=
  if word.toList.isPrefixOf cs then some (cs.drop word.toList.length) else none

def words : List (String × Value) :=
  [("null", .null), ("true", .bool true), ("false", .bool false), ("NaN", .double .nan),
   ("Infinity", .double (.infinite false)), ("-Infinity", .double (.infinite true))]

/-- Reads a value that is neither a string, a list nor a record. -/
def readScalar (cs : List Char) : Except ReadError (Value × List Char) :=
  match words.findSome? fun (word, v) => (splitWord? word cs).map (v, ·) with
  | some (v, rest) => .ok (v, rest)
  | none => readNumber cs

/-- Puts a member in front of later ones: it keeps its place, and a later one with its key gives the
value. -/
def consMember (key : String) (v : Value) (more : List (String × Value)) :
    List (String × Value) :=
  (key, (lookup? key more).getD v) :: more.filter (·.1 ≠ key)

mutual

/-- Reads a value. The fuel bounds the number of steps. -/
def readValue : Nat → List Char → Except ReadError (Value × List Char)
  | 0, cs => fail .tooDeep cs
  | fuel + 1, cs =>
    match cs with
    | '"' :: rest => do
      let (s, rest) ← readString rest
      return (.text s, rest)
    | '[' :: rest =>
      match skipSpace rest with
      | ']' :: rest => .ok (.list [], rest)
      | rest => do
        let (items, rest) ← readItems fuel rest
        return (.list items, rest)
    | '\x7b' :: rest =>
      match skipSpace rest with
      | '\x7d' :: rest => .ok (.record [], rest)
      | rest => do
        let (members, rest) ← readMembers fuel rest
        return (.record members, rest)
    | cs => readScalar cs

def readItems : Nat → List Char → Except ReadError (List Value × List Char)
  | 0, cs => fail .tooDeep cs
  | fuel + 1, cs => do
    let (v, rest) ← readValue fuel cs
    match skipSpace rest with
    | ']' :: rest => return ([v], rest)
    | ',' :: rest =>
      let (vs, rest) ← readItems fuel (skipSpace rest)
      return (v :: vs, rest)
    | rest => fail .expectedComma rest

def readMembers : Nat → List Char → Except ReadError (List (String × Value) × List Char)
  | 0, cs => fail .tooDeep cs
  | fuel + 1, cs =>
    match cs with
    | '"' :: rest => do
      let (key, rest) ← readString rest
      match skipSpace rest with
      | ':' :: rest =>
        let (v, rest) ← readValue fuel (skipSpace rest)
        match skipSpace rest with
        | '\x7d' :: rest => return ([(key, v)], rest)
        | ',' :: rest =>
          let (more, rest) ← readMembers fuel (skipSpace rest)
          return (consMember key v more, rest)
        | rest => fail .expectedComma rest
      | rest => fail .expectedColon rest
    | cs => fail .expectedName cs

end

/-- Reads a text that is one JSON value with nothing but blanks around it. -/
def parseChars (cs : List Char) : Except ReadError Value :=
  match cs with
  | '\uFEFF' :: _ => .error ⟨.byteOrderMark, cs.length⟩
  | cs => do
    let (v, rest) ← readValue (2 * cs.length + 2) (skipSpace cs)
    match skipSpace rest with
    | [] => return v
    | rest => fail .extraData rest

def parse (s : String) : Except ReadError Value := parseChars s.toList

end Rollup.Json
