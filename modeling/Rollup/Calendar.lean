import Rollup.Text.Digit

/-!
# Dates and timestamps

Calendar dates of the years 1 to 9999 and times of day to the microsecond, with their ISO texts. A
timestamp may carry an offset from universal time.
-/

namespace Rollup

structure Date where
  year : Nat
  month : Nat
  day : Nat
  deriving DecidableEq, Repr

structure Timestamp where
  date : Date
  hour : Nat
  minute : Nat
  second : Nat
  microsecond : Nat
  /-- Seconds east of universal time, when known. -/
  offset? : Option Int
  deriving DecidableEq, Repr

namespace Date

def isLeapYear (year : Nat) : Bool :=
  year % 4 == 0 && (year % 100 != 0 || year % 400 == 0)

def daysInMonth (year month : Nat) : Nat :=
  if month == 2 then (if isLeapYear year then 29 else 28)
  else if [4, 6, 9, 11].contains month then 30
  else 31

def isValid (d : Date) : Bool :=
  1 ≤ d.year && d.year ≤ 9999 && 1 ≤ d.month && d.month ≤ 12 &&
    1 ≤ d.day && d.day ≤ daysInMonth d.year d.month

def ofParts? (year month day : Nat) : Option Date :=
  let d : Date := ⟨year, month, day⟩
  if d.isValid then some d else none

def textChars (d : Date) : List Char :=
  Text.digitCharsPadded 4 d.year ++ '-' :: Text.digitCharsPadded 2 d.month ++
    '-' :: Text.digitCharsPadded 2 d.day

/-- The date as `2024-01-15`. -/
def text (d : Date) : String := String.ofList d.textChars

/-- The number of days from the first of March of the year 0. Years that start in March put the leap
day at their end. -/
def toDays (d : Date) : Int :=
  let year : Int := if d.month ≤ 2 then d.year - 1 else d.year
  let month : Int := if d.month ≤ 2 then d.month + 9 else d.month - 3
  365 * year + year / 4 - year / 100 + year / 400 + (153 * month + 2) / 5 + d.day - 1

/-- The date so many days after the first of March of the year 0. -/
def ofDays (days : Int) : Date :=
  -- All eras of 400 years have as many days.
  let era := days / 146097
  let dayOfEra := days % 146097
  let yearOfEra := (dayOfEra - dayOfEra / 1460 + dayOfEra / 36524 - dayOfEra / 146096) / 365
  let dayOfYear := dayOfEra - (365 * yearOfEra + yearOfEra / 4 - yearOfEra / 100)
  let month := (5 * dayOfYear + 2) / 153
  let day := dayOfYear - (153 * month + 2) / 5 + 1
  let year := yearOfEra + era * 400 + (if month < 10 then 0 else 1)
  ⟨year.toNat, (if month < 10 then month + 3 else month - 9).toNat, day.toNat⟩

end Date

namespace Timestamp

def isValid (t : Timestamp) : Bool :=
  t.date.isValid && t.hour < 24 && t.minute < 60 && t.second < 60 && t.microsecond < 1000000

def ofDate (d : Date) : Timestamp := ⟨d, 0, 0, 0, 0, none⟩

/-- An offset as `+01:00`, with seconds where it has any. -/
def offsetChars (offset : Int) : List Char :=
  let seconds := offset.natAbs
  (if offset < 0 then '-' else '+') :: Text.digitCharsPadded 2 (seconds / 3600) ++
    ':' :: Text.digitCharsPadded 2 (seconds / 60 % 60) ++
    (if seconds % 60 = 0 then [] else ':' :: Text.digitCharsPadded 2 (seconds % 60))

def timeChars (t : Timestamp) : List Char :=
  Text.digitCharsPadded 2 t.hour ++ ':' :: Text.digitCharsPadded 2 t.minute ++
    ':' :: Text.digitCharsPadded 2 t.second

/-- The timestamp with a separator between date and time, microseconds only where there are any. -/
def textChars (separator : Char) (t : Timestamp) : List Char :=
  t.date.textChars ++ separator :: t.timeChars ++
    (if t.microsecond = 0 then [] else '.' :: Text.digitCharsPadded 6 t.microsecond) ++
    ((t.offset?.map offsetChars).getD [])

/-- The timestamp as `2024-01-15T10:20:30`. -/
def isoText (t : Timestamp) : String := String.ofList (t.textChars 'T')

/-- The timestamp as `2024-01-15 10:20:30`. -/
def text (t : Timestamp) : String := String.ofList (t.textChars ' ')

def minuteText (t : Timestamp) : String :=
  String.ofList (t.date.textChars ++ ' ' :: (t.timeChars.take 5))

/-- Microseconds since the first of March of the year 0, without regard to the offset. -/
def toMicroseconds (t : Timestamp) : Int :=
  (((t.date.toDays * 24 + t.hour) * 60 + t.minute) * 60 + t.second) * 1000000 + t.microsecond

/-- The timestamp so many microseconds after the first of March of the year 0. -/
def ofMicroseconds (n : Int) (offset? : Option Int) : Timestamp :=
  let seconds := n / 1000000
  let minutes := seconds / 60
  let hours := minutes / 60
  ⟨Date.ofDays (hours / 24), (hours % 24).toNat, (minutes % 60).toNat, (seconds % 60).toNat,
    (n % 1000000).toNat, offset?⟩

def addMicroseconds (t : Timestamp) (n : Int) : Timestamp :=
  ofMicroseconds (t.toMicroseconds + n) t.offset?

/-- The instant of a timestamp; without an offset it is taken as universal time. -/
def instant (t : Timestamp) : Int := t.toMicroseconds - t.offset?.getD 0 * 1000000

end Timestamp

/-! ## Reading -/

namespace Calendar

/-- Reads exactly `n` ASCII digits. -/
def readDigits? (n : Nat) (cs : List Char) : Option (Nat × List Char) :=
  let digits := cs.take n
  if digits.length == n && digits.all Char.isDigit then
    some (Nat.ofDigitChars 10 digits 0, cs.drop n)
  else none

def readChar? (c : Char) : List Char → Option (List Char)
  | d :: cs => if c == d then some cs else none
  | [] => none

/-- Reads `2024-01-15` and returns the date if it exists. -/
def readDate? (cs : List Char) : Option (Date × List Char) := do
  let (year, cs) ← readDigits? 4 cs
  let cs ← readChar? '-' cs
  let (month, cs) ← readDigits? 2 cs
  let cs ← readChar? '-' cs
  let (day, cs) ← readDigits? 2 cs
  return (← Date.ofParts? year month day, cs)

/-- Reads a fraction of a second after its point, to the microsecond. -/
def readFraction (cs : List Char) : Nat × List Char :=
  let digits := cs.takeWhile Char.isDigit
  let kept := digits.take 6
  (Nat.ofDigitChars 10 (kept ++ List.replicate (6 - kept.length) '0') 0, cs.dropWhile Char.isDigit)

/-- Reads `10:20`, optionally with seconds and a fraction. -/
def readTime? (cs : List Char) : Option ((Nat × Nat × Nat × Nat) × List Char) := do
  let (hour, cs) ← readDigits? 2 cs
  let cs ← readChar? ':' cs
  let (minute, cs) ← readDigits? 2 cs
  match cs with
  | ':' :: cs =>
    let (second, cs) ← readDigits? 2 cs
    match cs with
    | '.' :: d :: cs =>
      if d.isDigit then
        let (fraction, cs) := readFraction (d :: cs)
        return ((hour, minute, second, fraction), cs)
      else none
    | cs => return ((hour, minute, second, 0), cs)
  | cs => return ((hour, minute, 0, 0), cs)

/-- Reads an offset: `Z`, `+01`, `+0100`, `+01:00` or `+01:00:30`. -/
def readOffset? (cs : List Char) : Option (Int × List Char) :=
  match cs with
  | 'Z' :: cs => some (0, cs)
  | 'z' :: cs => some (0, cs)
  | sign :: cs =>
    if sign == '+' || sign == '-' then do
      let (hour, cs) ← readDigits? 2 cs
      let (minute, cs) := ((readChar? ':' cs).bind (readDigits? 2)).getD
        ((readDigits? 2 cs).getD (0, cs))
      let (second, cs) := ((readChar? ':' cs).bind (readDigits? 2)).getD (0, cs)
      if hour < 24 && minute < 60 && second < 60 then
        let seconds : Int := hour * 3600 + minute * 60 + second
        some (if sign == '-' then -seconds else seconds, cs)
      else none
    else none
  | [] => none

/-- Reads a date alone. -/
def dateOfText? (s : String) : Option Date := do
  let (date, rest) ← readDate? s.toList
  if rest.isEmpty then some date else none

/-- Reads a date, one of the separators and a time, optionally with an offset. -/
def timestampOfChars? (separators : List Char) (cs : List Char) : Option Timestamp := do
  let (date, cs) ← readDate? cs
  match cs with
  | c :: cs =>
    if separators.contains c then
      let ((hour, minute, second, micro), cs) ← readTime? cs
      let offset? ← if cs.isEmpty then some none else do
        let (offset, rest) ← readOffset? cs
        if rest.isEmpty then some (some offset) else none
      let t : Timestamp := ⟨date, hour, minute, second, micro, offset?⟩
      if t.isValid then some t else none
    else none
  | [] => none

/-- Reads an ISO timestamp with a `T` or a blank between date and time. -/
def timestampOfText? (s : String) : Option Timestamp := timestampOfChars? ['T', ' '] s.toList

end Calendar

end Rollup
