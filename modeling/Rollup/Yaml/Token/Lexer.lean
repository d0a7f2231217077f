import Rollup.Yaml.Token.Property
import Rollup.Yaml.Token.Scalar

/-!
# From YAML text to tokens

The lexer keeps the indentations of the open block collections and, for every level of flow
collections, the place where an implicit key may have started. When a colon shows that it was one,
the mark of the key is put there after the fact.
-/

namespace Rollup.Yaml

/-- The place of a token that may turn out to start an implicit key. -/
structure KeyPlace where
  /-- How many tokens stand before it. -/
  position : Nat
  /-- Whether nothing but a key can stand there. -/
  required : Bool
  index : Nat
  line : Nat
  column : Nat

structure Lexer where
  cursor : Cursor
  tokens : Array Token := #[]
  /-- The column of the innermost block collection, before the first one if there is none. -/
  indent : Int := -1
  outerIndents : List Int := []
  /-- How many flow collections are open. -/
  flowLevel : Int := 0
  /-- Whether an implicit key may start here. -/
  keyAllowed : Bool := true
  keyPlaces : List (Int × KeyPlace) := []

namespace Lexer

/-- How far away an implicit key may start from its colon. -/
def longestKey : Nat := 1024

def push (l : Lexer) (t : Token) : Lexer := { l with tokens := l.tokens.push t }

def inFlow (l : Lexer) : Bool := l.flowLevel != 0

def column (l : Lexer) : Int := l.cursor.column

/-- Skips blanks, comments and line breaks in front of a token. -/
def skipToToken : Nat → Lexer → Lexer
  | 0, l => l
  | fuel + 1, l =>
    let s := l.cursor.skipBlanks.skipComment
    match s.lineBreak with
    | ([], s) => { l with cursor := s }
    | (_, s) => skipToToken fuel { l with cursor := s, keyAllowed := l.keyAllowed || !l.inFlow }

/-- Whether the colon of an implicit key cannot come any more. -/
def isStale (l : Lexer) (k : KeyPlace) : Bool :=
  k.line != l.cursor.line || longestKey < l.cursor.index - k.index

def dropStale (l : Lexer) : Except Error Lexer :=
  if l.keyPlaces.any fun (_, k) => l.isStale k && k.required then .error (.malformed .simpleKey)
  else .ok { l with keyPlaces := l.keyPlaces.filter fun (_, k) => !l.isStale k }

def forgetKey (l : Lexer) : Except Error Lexer :=
  if l.keyPlaces.any fun (level, k) => level == l.flowLevel && k.required then
    .error (.malformed .simpleKey)
  else .ok { l with keyPlaces := l.keyPlaces.filter (·.1 != l.flowLevel) }

def noteKey (l : Lexer) : Except Error Lexer :=
  if !l.keyAllowed then .ok l
  else do
    -- At the indentation of an open block collection only another key can stand.
    let required := !l.inFlow && l.indent == l.column
    let l ← l.forgetKey
    return { l with keyPlaces := (l.flowLevel,
      ⟨l.tokens.size, required, l.cursor.index, l.cursor.line, l.cursor.column⟩) :: l.keyPlaces }

/-- Closes the block collections that are indented deeper than a column. -/
def unwind (column : Int) : Nat → Lexer → Lexer
  | 0, l => l
  | fuel + 1, l =>
    if column < l.indent then
      unwind column fuel { l.push .blockEnd with
        indent := l.outerIndents.headD (-1), outerIndents := l.outerIndents.tail }
    else l

def unwindTo (column : Int) (l : Lexer) : Lexer :=
  if l.inFlow then l else l.unwind column (l.outerIndents.length + 1)

/-- Opens a block collection at a column, unless one is open there. -/
def open_ (column : Int) (l : Lexer) : Bool × Lexer :=
  if l.indent < column then
    (true, { l with indent := column, outerIndents := l.indent :: l.outerIndents })
  else (false, l)

/-- Opens a block collection here, unless one is open, with its start as the next token. -/
def openHere (start : Token) (l : Lexer) : Lexer :=
  match l.open_ l.column with
  | (true, l) => l.push start
  | (false, l) => l

def takeChar (t : Token) (l : Lexer) : Lexer := { l.push t with cursor := l.cursor.next }

/-- A mark between documents. -/
def takeDocumentMark (t : Token) (l : Lexer) : Except Error Lexer := do
  let l ← (l.unwindTo (-1)).forgetKey
  return { l.push t with keyAllowed := false, cursor := l.cursor.advance 3 }

def takeDirective (l : Lexer) : Except Error Lexer := do
  let l ← (l.unwindTo (-1)).forgetKey
  let (directive, s) ← readDirective l.cursor
  return { l.push (.directive directive) with keyAllowed := false, cursor := s }

def takeFlowStart (t : Token) (l : Lexer) : Except Error Lexer := do
  let l ← l.noteKey
  return { l.takeChar t with flowLevel := l.flowLevel + 1, keyAllowed := true }

def takeFlowEnd (t : Token) (l : Lexer) : Except Error Lexer := do
  let l ← l.forgetKey
  return { l.takeChar t with flowLevel := l.flowLevel - 1, keyAllowed := false }

def takeFlowEntry (l : Lexer) : Except Error Lexer := do
  let l ← l.forgetKey
  return { l.takeChar .flowEntry with keyAllowed := true }

/-- The dash of an item. -/
def takeBlockEntry (l : Lexer) : Except Error Lexer := do
  if !l.inFlow && !l.keyAllowed then .error (.malformed .sequenceEntryNotAllowed)
  else
    let l ← (if l.inFlow then l else l.openHere .blockSequenceStart).forgetKey
    return { l.takeChar .blockEntry with keyAllowed := true }

/-- The question mark of an explicit key. -/
def takeKey (l : Lexer) : Except Error Lexer := do
  if !l.inFlow && !l.keyAllowed then .error (.malformed .mappingKeyNotAllowed)
  else
    let l ← (if l.inFlow then l else l.openHere .blockMappingStart).forgetKey
    return { l.takeChar .key with keyAllowed := !l.inFlow }

/-- Puts the mark of a key, and the start of its mapping where it is the first one, in front of the
token that has turned out to start a key. -/
def markKey (k : KeyPlace) (l : Lexer) : Lexer :=
  let l := { l with
    keyPlaces := l.keyPlaces.filter (·.1 != l.flowLevel), keyAllowed := false
    tokens := l.tokens.insertIdxIfInBounds k.position .key }
  if l.inFlow then l
  else match l.open_ k.column with
    | (true, l) => { l with tokens := l.tokens.insertIdxIfInBounds k.position .blockMappingStart }
    | (false, l) => l

/-- The colon before a value. -/
def takeValue (l : Lexer) : Except Error Lexer :=
  match l.keyPlaces.find? (·.1 == l.flowLevel) with
  | some (_, k) => .ok ((l.markKey k).takeChar .value)
  | none => do
    if !l.inFlow && !l.keyAllowed then .error (.malformed .mappingValueNotAllowed)
    else
      let l ← (if l.inFlow then l else l.openHere .blockMappingStart).forgetKey
      return { l.takeChar .value with keyAllowed := !l.inFlow }

/-- A node that may be an implicit key: reads it and goes on after it. -/
def takeNode (read : Lexer → Except Error (Token × Cursor)) (l : Lexer) : Except Error Lexer := do
  let l ← l.noteKey
  let (t, s) ← read l
  return { l.push t with keyAllowed := false, cursor := s }

def takeAlias : Lexer → Except Error Lexer := takeNode fun l => do
  let (name, s) ← readName .aliasName l.cursor
  return (.alias name, s)

def takeAnchor : Lexer → Except Error Lexer := takeNode fun l => do
  let (name, s) ← readName .anchorName l.cursor
  return (.anchor name, s)

def takeTag : Lexer → Except Error Lexer := takeNode fun l => do
  let (name, s) ← readTag l.cursor
  return (.tag name, s)

def takeQuoted (double : Bool) : Lexer → Except Error Lexer := takeNode fun l => do
  let (text, s) ← readQuotedScalar double l.cursor
  return (.scalar text false, s)

def takeBlockScalar (folded : Bool) (l : Lexer) : Except Error Lexer := do
  let l ← l.forgetKey
  let (text, s) ← readBlockScalar l.indent folded l.cursor
  return { l.push (.scalar text false) with keyAllowed := true, cursor := s }

def takePlain (l : Lexer) : Except Error Lexer := do
  let l ← l.noteKey
  let ((cs, passed?), s) :=
    readPlainScalar l.indent l.inFlow (l.cursor.rest.length + 1) [] l.cursor
  return { l.push (.scalar (String.ofList cs) true) with
    keyAllowed := passed?.getD false, cursor := s }

/-- Whether a plain scalar can start with a character in front of another. -/
def startsPlain (inFlow : Bool) (c : Char) (next : Option Char) : Bool :=
  !(endsWord (some c) || "-?:,[]\x7b\x7d#&*!|>'\"%@\x60".toList.contains c) ||
    (!endsWord next && (c == '-' || (!inFlow && (c == '?' || c == ':'))))

def takeToken (c : Char) (l : Lexer) : Except Error Lexer :=
  let next := l.cursor.peekAt 1
  let startsLine := l.column == 0
  let ends := endsWord next
  -- A mark of a document comes before the dash of an item, and a plain scalar after all indicators.
  if c == '%' && startsLine then l.takeDirective
  else if c == '-' && startsLine && l.cursor.atDocumentMark then l.takeDocumentMark .documentStart
  else if c == '.' && startsLine && l.cursor.atDocumentMark then l.takeDocumentMark .documentEnd
  else if c == '[' then l.takeFlowStart .flowSequenceStart
  else if c == '\x7b' then l.takeFlowStart .flowMappingStart
  else if c == ']' then l.takeFlowEnd .flowSequenceEnd
  else if c == '\x7d' then l.takeFlowEnd .flowMappingEnd
  else if c == ',' then l.takeFlowEntry
  else if c == '-' && ends then l.takeBlockEntry
  else if c == '?' && (l.inFlow || ends) then l.takeKey
  else if c == ':' && (l.inFlow || ends) then l.takeValue
  else if c == '*' then l.takeAlias
  else if c == '&' then l.takeAnchor
  else if c == '!' then l.takeTag
  else if c == '|' && !l.inFlow then l.takeBlockScalar false
  else if c == '>' && !l.inFlow then l.takeBlockScalar true
  else if c == '\'' then l.takeQuoted false
  else if c == '"' then l.takeQuoted true
  else if startsPlain l.inFlow c next then l.takePlain
  else .error (.malformed .unexpectedCharacter)

/-- The tokens up to the end of the text, or up to where it cannot be read. -/
def run : Nat → Lexer → Array Token
  | 0, l => l.tokens
  | fuel + 1, l =>
    let l := l.skipToToken (l.cursor.rest.length + 1)
    -- A required key without its colon is missed before its block is closed.
    match l.dropStale with
    | .error e => l.tokens.push (.unreadable e)
    | .ok l =>
      let l := l.unwindTo l.column
      match l.cursor.peek with
      | none =>
        match (l.unwindTo (-1)).forgetKey with
        | .error e => l.tokens.push (.unreadable e)
        | .ok l => l.tokens.push .streamEnd
      | some c =>
        match l.takeToken c with
        | .error e => l.tokens.push (.unreadable e)
        | .ok l => run fuel l

end Lexer

def isAllowedChar (c : Char) : Bool :=
  Text.inRanges [(0x09, 0x0A), (0x0D, 0x0D), (0x20, 0x7E), (0x85, 0x85), (0xA0, 0xD7FF),
    (0xE000, 0xFFFD), (0x10000, 0x10FFFF)] c.toNat

def Token.ofChars (cs : List Char) : List Token :=
  if cs.all isAllowedChar then
    let start : Cursor := ⟨cs, 0, 0, 0⟩
    let start := if cs.head? == some '\uFEFF' then start.next else start
    (Lexer.run (cs.length + 2) ⟨start, #[], -1, [], 0, true, []⟩).toList
  else [.unreadable (.malformed .unprintable)]

end Rollup.Yaml
