import Rollup.Yaml.Token.Cursor
import Rollup.Json.Reader

/-!
# Directives, tags and names in YAML text

Reading what is neither content nor structure: directives before a document, the tags of nodes, and
the names of anchors and aliases. Each reader returns the place after what it has read.
-/

namespace Rollup.Yaml

def isNameChar (c : Char) : Bool := c.isAlphanum || c == '-' || c == '_'

/-- The characters of a tag or of its handle's expansion, percent signs included. -/
def isUriChar (c : Char) : Bool := c.isAlphanum || "-;/?:@&=+$,_.!~*'()[]%".toList.contains c

/-- Reads escapes of bytes by two hexadecimal digits each, as many as there are. -/
def readUriBytes : Nat → Cursor → Option (List UInt8 × Cursor)
  | 0, s => some ([], s)
  | fuel + 1, s =>
    match s.rest with
    | '%' :: a :: b :: _ => do
      let byte := (← Json.hexValue? a) * 16 + (← Json.hexValue? b)
      let (more, s) ← readUriBytes fuel (s.advance 3)
      return (byte.toUInt8 :: more, s)
    | '%' :: _ => none
    | _ => some ([], s)

/-- Reads the characters of a tag; runs of escaped bytes are UTF-8. -/
def readUriChars : Nat → Cursor → Option (List Char × Cursor)
  | 0, s => some ([], s)
  | fuel + 1, s =>
    if s.peek == some '%' then do
      let (bytes, s) ← readUriBytes (s.rest.length + 1) s
      let text ← String.fromUTF8? ⟨bytes.toArray⟩
      let (more, s) ← readUriChars fuel s
      return (text.toList ++ more, s)
    else
      match s.span fun c => isUriChar c && c != '%' with
      | ([], s) => some ([], s)
      | (cs, s) => do
        let (more, s) ← readUriChars fuel s
        return (cs ++ more, s)

def readUri (cause : Cause) (s : Cursor) : Except Error (String × Cursor) :=
  match readUriChars (s.rest.length + 1) s with
  | some ([], _) => .error (.malformed cause)
  | some (cs, s) => .ok (String.ofList cs, s)
  | none => .error (.malformed cause)

/-- Reads the handle of a tag: one exclamation mark, or a name between two. -/
def readHandle (cause : Cause) (s : Cursor) : Except Error (String × Cursor) :=
  if s.peek != some '!' then .error (.malformed cause)
  else
    let start := s.next
    if start.peek == some ' ' then .ok ("!", start)
    else
      let (name, after) := start.span isNameChar
      if after.peek == some '!' then .ok (String.ofList ('!' :: (name ++ ['!'])), after.next)
      else .error (.malformed cause)

def readTag (s : Cursor) : Except Error (TagName × Cursor) := do
  let (tag, s) ←
    if s.peekAt 1 == some '<' then do
      let (name, s) ← readUri .tagStart (s.advance 2)
      if s.peek == some '>' then pure ((⟨none, name⟩ : TagName), s.next)
      else .error (.malformed .tagStart)
    else if endsWord (s.peekAt 1) then pure (⟨none, "!"⟩, s.next)
    else do
      let word := s.next.rest.takeWhile fun c => !endsAtBlank (some c)
      let (handle, s) ← if word.contains '!' then readHandle .tag s else pure ("!", s.next)
      let (name, s) ← readUri .tag s
      pure (⟨some handle, name⟩, s)
  if endsAtBlank s.peek then return (tag, s) else .error (.malformed .tag)

/-- Whether the name of an anchor or alias can end before a character. -/
def endsName (c : Option Char) : Bool :=
  endsWord c || c.any fun d => "?:,]\x7d%@\x60".toList.contains d

/-- Reads the name of an anchor or alias after its mark. -/
def readName (cause : Cause) (s : Cursor) : Except Error (String × Cursor) :=
  let (name, s) := s.next.span isNameChar
  if name.isEmpty || !endsName s.peek then .error (.malformed cause)
  else .ok (String.ofList name, s)

def readVersionPart (s : Cursor) : Except Error (Nat × Cursor) :=
  let (digits, s) := s.span Char.isDigit
  if digits.isEmpty then .error (.malformed .directive)
  else .ok (Nat.ofDigitChars 10 digits 0, s)

def readDirectiveValue (name : String) (s : Cursor) : Except Error (Directive × Cursor) := do
  if name == "YAML" then
    let (major, s) ← readVersionPart s.skipBlanks
    if s.peek != some '.' then .error (.malformed .directive)
    else
      let (_, s) ← readVersionPart s.next
      if endsAtBlank s.peek then return (.version major, s) else .error (.malformed .directive)
  else if name == "TAG" then
    let (handle, s) ← readHandle .directive s.skipBlanks
    if s.peek != some ' ' then .error (.malformed .directive)
    else
      let (expansion, s) ← readUri .directive s.skipBlanks
      if endsAtBlank s.peek then return (.tag handle expansion, s)
      else .error (.malformed .directive)
  else return (.other, s.skip (!isBreak ·))

def readDirective (s : Cursor) : Except Error (Directive × Cursor) := do
  let (name, s) := s.next.span isNameChar
  if name.isEmpty || !endsAtBlank s.peek then .error (.malformed .directive)
  else
    let (directive, s) ← readDirectiveValue (String.ofList name) s
    let s := s.skipBlanks.skipComment
    if endsLine s.peek then return (directive, s.lineBreak.2) else .error (.malformed .directive)

end Rollup.Yaml
