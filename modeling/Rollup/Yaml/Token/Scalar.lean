import Rollup.Yaml.Token.Cursor
import Rollup.Json.Reader

/-!
# Scalars in YAML text

Reading the text of a scalar in each of its styles: block scalars, which keep or fold their lines,
quoted ones, which have escapes or doubled quotes, and plain ones. Each reader starts at the scalar
and returns the place after it.
-/

namespace Rollup.Yaml

/-! ## Block scalars -/

/-- What becomes of the line breaks at the end of a block scalar. -/
inductive Chomping
  | clip
  | strip
  | keep
  deriving DecidableEq, Repr

def chomping? : Option Char → Option Chomping
  | some '+' => some .keep
  | some '-' => some .strip
  | _ => none

/-- Reads the header of a block scalar after its indicator: how to end it and, perhaps, by how much it
is indented. -/
def readBlockHeader (s : Cursor) : Except Error ((Chomping × Option Nat) × Cursor) := do
  let digit? (s : Cursor) : Except Error (Option Nat × Cursor) :=
    match s.peek with
    | some c =>
      if c == '0' then .error (.malformed .blockScalar)
      else if c.isDigit then .ok (some (c.toNat - '0'.toNat), s.next)
      else .ok (none, s)
    | none => .ok (none, s)
  -- The digit and the mark stand in either order.
  let (header, s) ← match chomping? s.peek with
    | some chomping => do
      let (increment, s) ← digit? s.next
      pure ((chomping, increment), s)
    | none => do
      let (increment, s) ← digit? s
      match increment, chomping? s.peek with
      | some n, some chomping => pure ((chomping, some n), s.next)
      | increment, _ => pure ((Chomping.clip, increment), s)
  if !endsAtBlank s.peek then .error (.malformed .blockScalar)
  else
    let s := s.skipBlanks.skipComment
    if !endsLine s.peek then .error (.malformed .blockScalar)
    else return (header, s.lineBreak.2)

def skipIndent (column : Nat) (s : Cursor) : Cursor :=
  s.advance (min (column - s.column) (s.rest.takeWhile (· == ' ')).length)

/-- Reads empty lines, and the blanks of an indentation after them. -/
def readBreaks (indent : Nat) : Nat → Cursor → List Char × Cursor
  | 0, s => ([], s)
  | fuel + 1, s =>
    let s := skipIndent indent s
    match s.lineBreak with
    | ([], s) => ([], s)
    | (br, s) =>
      let (more, s) := readBreaks indent fuel s
      (br ++ more, s)

/-- Reads empty lines before the first line with content, and returns the deepest indentation. -/
def readLeadingBreaks : Nat → Nat → Cursor → (List Char × Nat) × Cursor
  | 0, deepest, s => (([], deepest), s)
  | fuel + 1, deepest, s =>
    let s := s.skipBlanks
    let deepest := max deepest s.column
    match s.lineBreak with
    | ([], s) => (([], deepest), s)
    | (br, s) =>
      let ((more, deepest), s) := readLeadingBreaks fuel deepest s
      ((br ++ more, deepest), s)

def startsBlank (s : Cursor) : Bool := s.peek == some ' ' || s.peek == some '\t'

/-- Reads the lines of a block scalar, given the empty lines before the next one. Returns the text,
its last line break and the empty lines after it. -/
def readBlockLines (folded : Bool) (indent : Nat) :
    Nat → List Char → Cursor → (List Char × List Char × List Char) × Cursor
  | 0, breaks, s => (([], [], breaks), s)
  | fuel + 1, breaks, s =>
    if s.column == indent && s.peek.isSome then
      let blankStart := startsBlank s
      let (line, s) := s.span (!isBreak ·)
      let (br, s) := s.lineBreak
      let (after, s) := readBreaks indent s.rest.length s
      if s.column == indent && s.peek.isSome then
        -- Lines are folded only where neither starts with a blank.
        let joint :=
          if folded && br == ['\n'] && !blankStart && !startsBlank s then
            if after.isEmpty then [' '] else []
          else br
        let ((text, last, rest), s) := readBlockLines folded indent fuel after s
        ((breaks ++ line ++ joint ++ text, last, rest), s)
      else ((breaks ++ line, br, after), s)
    else (([], [], breaks), s)

/-- Reads a block scalar, from its indicator on, in a block of some indentation. -/
def readBlockScalar (indentation : Int) (folded : Bool) (s : Cursor) :
    Except Error (String × Cursor) := do
  let ((chomping, increment?), s) ← readBlockHeader s.next
  let least := (max (indentation + 1) 1).toNat
  -- Without an increment the lines up to the first one with content tell the indentation.
  let ((breaks, indent), s) := match increment? with
    | some n =>
      let indent := least + n - 1
      let (breaks, s) := readBreaks indent (s.rest.length + 1) s
      ((breaks, indent), s)
    | none =>
      let ((breaks, deepest), s) := readLeadingBreaks (s.rest.length + 1) 0 s
      ((breaks, max least deepest), s)
  let ((text, last, after), s) := readBlockLines folded indent (s.rest.length + 1) breaks s
  let tail := match chomping with
    | .strip => []
    | .clip => last
    | .keep => last ++ after
  return (String.ofList (text ++ tail), s)

/-! ## Quoted scalars -/

/-- Reads empty lines inside a quoted scalar and the blanks at the start of the next line. -/
def readQuotedBreaks : Nat → Cursor → Except Error (List Char × Cursor)
  | 0, s => .ok ([], s)
  | fuel + 1, s =>
    if s.atDocumentMark then .error (.malformed .quoted)
    else
      let s := s.skip fun c => c == ' ' || c == '\t'
      match s.lineBreak with
      | ([], s) => .ok ([], s)
      | (br, s) => do
        let (more, s) ← readQuotedBreaks fuel s
        return (br ++ more, s)

/-- Joins two lines: by the empty lines between them or by a blank. -/
def joinLines (br after : List Char) : List Char :=
  if br != ['\n'] then br ++ after else if after.isEmpty then [' '] else after

/-- Reads blanks inside a quoted scalar, with the line breaks among them. -/
def readQuotedBlanks (s : Cursor) : Except Error (List Char × Cursor) :=
  let (blanks, s) := s.span fun c => c == ' ' || c == '\t'
  match s.peek with
  | none => .error (.malformed .quoted)
  | some c =>
    if isBreak c then do
      let (br, s) := s.lineBreak
      let (after, s) ← readQuotedBreaks (s.rest.length + 1) s
      return (joinLines br after, s)
    else .ok (blanks, s)

/-- The characters that escapes of one letter stand for. -/
def escapedChar? (c : Char) : Option Char :=
  match c with
  | '0' => some '\x00'
  | 'a' => some '\x07'
  | 'b' => some '\x08'
  | 't' => some '\t'
  | '\t' => some '\t'
  | 'n' => some '\n'
  | 'v' => some '\x0b'
  | 'f' => some '\x0c'
  | 'r' => some '\r'
  | 'e' => some '\x1b'
  | ' ' => some ' '
  | '"' => some '"'
  | '\\' => some '\\'
  | '/' => some '/'
  | 'N' => some '\u0085'
  | '_' => some '\u00a0'
  | 'L' => some '\u2028'
  | 'P' => some '\u2029'
  | _ => none

def escapeWidth? (c : Char) : Option Nat :=
  match c with
  | 'x' => some 2
  | 'u' => some 4
  | 'U' => some 8
  | _ => none

def readEscape (s : Cursor) : Except Error (List Char × Cursor) :=
  match s.peek with
  | none => .error (.malformed .doubleQuoted)
  | some c =>
    match escapedChar? c, escapeWidth? c with
    | some d, _ => .ok ([d], s.next)
    | none, some width =>
      let s := s.next
      let digits := (s.rest.take width).filterMap Json.hexValue?
      if digits.length < width then .error (.malformed .doubleQuoted)
      else
        let code := digits.foldl (fun n d => 16 * n + d) 0
        if h : code.isValidChar then .ok ([Char.ofNatAux code h], s.advance width)
        else .error (.noSuchCharacter code)
    | none, none =>
      if isBreak c then readQuotedBreaks (s.rest.length + 1) s.lineBreak.2
      else .error (.malformed .doubleQuoted)

/-- Reads characters of a quoted scalar up to a blank, a line break or the closing quote. -/
def readQuotedWord (double : Bool) : Nat → Cursor → Except Error (List Char × Cursor)
  | 0, s => .ok ([], s)
  | fuel + 1, s =>
    let continue_ (head : List Char) (s : Cursor) : Except Error (List Char × Cursor) := do
      let (more, s) ← readQuotedWord double fuel s
      return (head ++ more, s)
    match s.peek with
    | none => .ok ([], s)
    | some c =>
      if c == ' ' || c == '\t' || isBreak c then .ok ([], s)
      else if double then
        if c == '"' then .ok ([], s)
        else if c == '\\' then do
          let (chars, s) ← readEscape s.next
          continue_ chars s
        else continue_ [c] s.next
      else if c == '\'' then
        -- Between single quotes a quote is doubled.
        if s.peekAt 1 == some '\'' then continue_ [c] (s.advance 2) else .ok ([], s)
      else continue_ [c] s.next

/-- Reads the inside of a quoted scalar up to its closing quote, which is skipped. -/
def readQuotedBody (double : Bool) : Nat → Cursor → Except Error (List Char × Cursor)
  | 0, _ => .error (.malformed .quoted)
  | fuel + 1, s => do
    let (word, s) ← readQuotedWord double (s.rest.length + 1) s
    if s.peek == some (if double then '"' else '\'') then return (word, s.next)
    else
      let (blanks, s) ← readQuotedBlanks s
      let (more, s) ← readQuotedBody double fuel s
      return (word ++ blanks ++ more, s)

def readQuotedScalar (double : Bool) (s : Cursor) : Except Error (String × Cursor) := do
  let (text, s) ← readQuotedBody double (s.rest.length + 1) s.next
  return (String.ofList text, s)

/-! ## Plain scalars -/

/-- The characters of a plain scalar up to a blank, a line break or an indicator that ends it. -/
def plainWord (inFlow : Bool) : List Char → List Char
  | [] => []
  | c :: cs =>
    let next := cs.head?
    if endsWord (some c) then []
    else if c == ':' && (endsWord next ||
        (inFlow && (next.any fun d => [',', '[', ']', '\x7b', '\x7d'].contains d))) then []
    else if inFlow && [',', '?', '[', ']', '\x7b', '\x7d'].contains c then []
    else c :: plainWord inFlow cs

/-- Reads empty lines between two lines of a plain scalar; none when the document ends there. -/
def readPlainBreaks : Nat → Cursor → Option (List Char) × Cursor
  | 0, s => (some [], s)
  | fuel + 1, s =>
    let s := s.skipBlanks
    match s.lineBreak with
    | ([], s) => (some [], s)
    | (br, s) =>
      if s.atDocumentMark then (none, s)
      else
        let (more, s) := readPlainBreaks fuel s
        (more.map (br ++ ·), s)

/-- Reads what stands between two words of a plain scalar. Returns the text that joins them, empty
when the scalar ends, and whether a line break was passed. -/
def readPlainJoint (s : Cursor) : (List Char × Bool) × Cursor :=
  let (blanks, s) := s.span (· == ' ')
  match s.lineBreak with
  | ([], s) => ((blanks, false), s)
  | (br, s) =>
    if s.atDocumentMark then (([], true), s)
    else match readPlainBreaks (s.rest.length + 1) s with
      | (some after, s) => ((joinLines br after, true), s)
      | (none, s) => (([], true), s)

/-- Reads a plain scalar in a block of some indentation. The result tells whether a line break was
passed after its last word. -/
def readPlainScalar (indentation : Int) (inFlow : Bool) :
    Nat → List Char → Cursor → (List Char × Option Bool) × Cursor
  | 0, _, s => (([], none), s)
  | fuel + 1, joint, s =>
    if s.peek == some '#' then (([], none), s)
    else
      match plainWord inFlow s.rest with
      | [] => (([], none), s)
      | word =>
        let ((next, passed), s) := readPlainJoint (s.advance word.length)
        if next.isEmpty || s.peek == some '#' || (!inFlow && (s.column : Int) < indentation + 1) then
          ((joint ++ word, some passed), s)
        else
          let ((more, passedLater), s) := readPlainScalar indentation inFlow fuel next s
          ((joint ++ word ++ more, some (passedLater.getD passed)), s)

end Rollup.Yaml
