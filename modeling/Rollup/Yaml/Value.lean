import Rollup.Yaml.Node
import Rollup.Text.Lowercase

/-!
# From YAML nodes to values

What the nodes of a document stand for. Merge keys bring in the entries of other mappings, and of
entries with one key the last value counts. Keys that are no texts are left out, since no record that
is read from a document has any. Of several faults the one nearest to the root is reported.
-/

namespace Rollup.Yaml

/-! ## Scalars -/

namespace Scalar

/-- Reads digits of a base of at most sixteen. -/
def readBase (base : Nat) (cs : List Char) : Except Error Nat :=
  let digits := cs.filterMap Json.hexValue?
  if cs.isEmpty || digits.length < cs.length || digits.any (base ≤ ·) then .error .badNumber
  else .ok (digits.foldl (fun n d => base * n + d) 0)

def splitColons : List Char → List (List Char)
  | [] => [[]]
  | c :: cs =>
    if c == ':' then [] :: splitColons cs
    else match splitColons cs with
      | [] => [[c]]
      | part :: more => (c :: part) :: more

def readDecimal (cs : List Char) : Except Error Int :=
  match Numeral.readInt? (Text.trimChars cs) with
  | some n => .ok n
  | none => .error .badNumber

/-- Splits off a sign and returns whether it is negative. The text must not be empty. -/
def splitSign : List Char → Except Error (Bool × List Char)
  | [] => .error .emptyNumber
  | c :: cs => .ok (if c == '-' then (true, cs) else if c == '+' then (false, cs) else (false, c :: cs))

def readMagnitude (cs : List Char) : Except Error Int :=
  match cs with
  | [] => .error .emptyNumber
  | ['0'] => .ok 0
  | '0' :: 'b' :: digits => return ((← readBase 2 digits : Nat) : Int)
  | '0' :: 'x' :: digits => return ((← readBase 16 digits : Nat) : Int)
  | '0' :: 'o' :: digits => return ((← readBase 8 digits : Nat) : Int)
  | '0' :: digits => return ((← readBase 8 digits : Nat) : Int)
  | cs =>
    if cs.contains ':' then do
      return ((← (splitColons cs).mapM readDecimal).foldl (fun n d => 60 * n + d) 0)
    else readDecimal cs

/-- Reads an integer in binary, octal, hexadecimal, decimal or base sixty notation. -/
def readInteger (s : String) : Except Error Value := do
  let (negative, cs) ← splitSign (s.toList.filter (· != '_'))
  let n ← readMagnitude cs
  return .int (if negative then -n else n)

def readPlainDouble (cs : List Char) : Except Error Double :=
  match Double.ofChars? (Text.trimChars cs) with
  | some x => .ok x
  | none => .error .badNumber

/-- The sum of places of base sixty, least first, each counted so many times. -/
def sumPlaces (total : Double) (times : Nat) : List Double → Double
  | [] => total
  | x :: xs => sumPlaces (total.add (x.mulNat times)) (times * 60) xs

def readDouble (s : String) : Except Error Value := do
  let (negative, cs) ← splitSign ((s.toList.filter (· != '_')).map Char.toLower)
  let x ←
    if cs = ".inf".toList then pure (.infinite false)
    else if cs = ".nan".toList then pure .nan
    else if cs.contains ':' then do
      pure (sumPlaces .zero 1 (← (splitColons cs).mapM readPlainDouble).reverse)
    else readPlainDouble cs
  return .double (if negative then x.neg else x)

def readTruthValue (s : String) : Except Error Value :=
  match lookup? (Text.lower s) truthWords with
  | some b => .ok (.bool b)
  | none => .error .badTruthValue

def readTimestamp (s : String) : Except Error Value :=
  match Stamp.ofChars? s.toList with
  | none => .error .badTimestamp
  | some stamp =>
    match Date.ofParts? stamp.year stamp.month stamp.day with
    | none => .error .noSuchTime
    | some date =>
      match stamp.time? with
      | none => .ok (.date date)
      | some (hour, minute, second, fraction) =>
        let (micro, _) := Calendar.readFraction fraction
        let t : Timestamp := ⟨date, hour, minute, second, micro, stamp.offset?⟩
        if t.isValid && (stamp.offset?.getD 0).natAbs < 86400 then .ok (.timestamp t)
        else .error .noSuchTime

def sextet? (c : Char) : Option Nat :=
  if 'A' ≤ c && c ≤ 'Z' then some (c.toNat - 'A'.toNat)
  else if 'a' ≤ c && c ≤ 'z' then some (c.toNat - 'a'.toNat + 26)
  else if c.isDigit then some (c.toNat - '0'.toNat + 52)
  else if c == '+' then some 62
  else if c == '/' then some 63
  else none

/-- Decodes base 64. `held` are the sextets of the group that is being read, the last one first, and
`pads` the padding since; characters of other kinds are skipped. -/
def decodeBase64 (held : List Nat) (pads : Nat) : List Char → Option (List Nat)
  | [] => if held.isEmpty then some [] else none
  | c :: cs =>
    if c == '=' then
      if 2 ≤ held.length && 4 ≤ held.length + pads + 1 then some []
      else decodeBase64 held (if 2 ≤ held.length then pads + 1 else pads) cs
    else match sextet? c, held with
      | none, held => decodeBase64 held pads cs
      | some v, [] => decodeBase64 [v] 0 cs
      | some v, [a] => (decodeBase64 [v, a] 0 cs).map ((a * 4 + v / 16) :: ·)
      | some v, [b, a] => (decodeBase64 [v, b, a] 0 cs).map ((b % 16 * 16 + v / 4) :: ·)
      | some v, c :: _ => (decodeBase64 [] 0 cs).map ((c % 4 * 64 + v) :: ·)

/-- Reads bytes in base 64 that are the UTF-8 form of a text. -/
def readBinary (s : String) : Except Error Value :=
  let bytes := if s.toList.all (·.toNat < 0x80) then decodeBase64 [] 0 s.toList else none
  match bytes.bind fun bs => String.fromUTF8? ⟨(bs.map Nat.toUInt8).toArray⟩ with
  | some text => .ok (.text text)
  | none => .error (.malformed .badBinary)

def read (tag : Tag) (s : String) : Except Error Value :=
  match tag with
  | .null => .ok .null
  | .bool => readTruthValue s
  | .int => readInteger s
  | .float => readDouble s
  | .binary => readBinary s
  | .timestamp => readTimestamp s
  | .str => .ok (.text s)
  | .omap | .pairs | .seq => .error (.malformed .notASequence)
  | .set | .map => .error (.malformed .notAMapping)
  | tag => .error (.malformed (.unknownTag tag.name))

end Scalar

/-! ## Merge keys -/

mutual

/-- The entries of a mapping: those merged in, then its own. -/
def Node.mergedEntries : Node → Except Error (List (Node × Node))
  | .mapping _ entries => do
    let (merged, own) ← splitMerged entries
    return merged ++ own
  | _ => .error (.malformed .badMerge)

/-- Separates entries that are merged in from the others. The key `=` is a text. -/
def splitMerged : List (Node × Node) →
    Except Error (List (Node × Node) × List (Node × Node))
  | [] => .ok ([], [])
  | (key, v) :: more => do
    if key.tag = .merge then
      -- Later entries win, so the first of several mappings comes last.
      let here ← match v with
        | .sequence _ items => do pure (← mergedItems items).reverse.flatten
        | v => v.mergedEntries
      let (merged, own) ← splitMerged more
      return (here ++ merged, own)
    else
      let key := match key with
        | .scalar .value text => .scalar .str text
        | key => key
      let (merged, own) ← splitMerged more
      return (merged, (key, v) :: own)

def mergedItems : List Node → Except Error (List (List (Node × Node)))
  | [] => .ok []
  | node :: more => do return (← node.mergedEntries) :: (← mergedItems more)

end

/-! ## Values -/

/-- A fault and how far from the root it is. -/
abbrev Fault := Nat × Error

/-- Two parts; of two faults the nearer one counts, and the first of equally near ones. -/
def bothParts {α β : Type} : Except Fault α → Except Fault β → Except Fault (α × β)
  | .ok a, .ok b => .ok (a, b)
  | .error e, .ok _ => .error e
  | .ok _, .error e => .error e
  | .error e, .error f => .error (if f.1 < e.1 then f else e)

/-- A fault at some depth. -/
def atDepth {α : Type} (depth : Nat) : Except Error α → Except Fault α
  | .ok a => .ok a
  | .error e => .error (depth, e)

/-- Whether a node can be a key: collections cannot. -/
def Node.isHashable : Node → Bool
  | .scalar tag _ => !([Tag.seq, .map, .set, .omap, .pairs].contains tag)
  | .sequence .. => false
  | .mapping .. => false

/-- The record of entries, without those whose key is no text. -/
def recordOf (entries : List (Value × Value)) : List (String × Value) :=
  entries.foldl (fun fields (key, v) => match key with
    | .text s => putEntry s v fields
    | _ => fields) []

def allParts {α β : Type} (f : α → Except Fault β) : List α → Except Fault (List β)
  | [] => .ok []
  | a :: as => (bothParts (f a) (allParts f as)).map fun (b, bs) => b :: bs

def pairNodes : List Node → Except Error (List (Node × Node))
  | [] => .ok []
  | .mapping _ [entry] :: more => do return entry :: (← pairNodes more)
  | _ => .error (.malformed .badPairs)

/-- The value of a node. The fuel bounds the depth of the tree. -/
def Node.toValue : Nat → Nat → Node → Except Fault Value
  | 0, depth, _ => .error (depth, .malformed .unhashableKey)
  | fuel + 1, depth, node =>
    let pair (entry : Node × Node) : Except Fault (Value × Value) :=
      if !entry.1.isHashable then .error (depth, .malformed .unhashableKey)
      else bothParts (entry.1.toValue fuel (depth + 1)) (entry.2.toValue fuel (depth + 1))
    match node with
    | .scalar tag text => atDepth (depth - 1) (Scalar.read tag text)
    | .sequence .seq items => (allParts (toValue fuel (depth + 1)) items).map .list
    | .sequence .omap items | .sequence .pairs items => do
      let entries ← atDepth depth (pairNodes items)
      return .list ((← allParts pair entries).map fun (k, v) => .list [k, v])
    | .mapping .map _ => do
      let entries ← atDepth depth node.mergedEntries
      return .record (recordOf (← allParts pair entries))
    | .mapping .set _ => do
      let entries ← atDepth depth node.mergedEntries
      return .list ((← allParts pair entries).map (·.1))
    | .sequence tag _ => .error (depth - 1, .malformed (match tag with
      | .unknown name => .unknownTag name
      | .set | .map => .notAMapping
      | _ => .notAScalar))
    | .mapping tag _ => .error (depth - 1, .malformed (match tag with
      | .unknown name => .unknownTag name
      | .seq | .omap | .pairs => .notASequence
      | _ => .notAScalar))

mutual

def Node.height : Node → Nat
  | .scalar .. => 1
  | .sequence _ items => heightOfItems items + 1
  | .mapping _ entries => heightOfEntries entries + 1

def heightOfItems : List Node → Nat
  | [] => 0
  | node :: more => max node.height (heightOfItems more)

def heightOfEntries : List (Node × Node) → Nat
  | [] => 0
  | (key, v) :: more => max (max key.height v.height) (heightOfEntries more)

end

/-- Reads the one document of a text; without any it is nothing. -/
def parse (s : String) : Except Error Value := do
  match ← Node.ofTokens? (Token.ofChars s.toList) with
  | none => return .null
  | some node =>
    match node.toValue (node.height + 1) 0 with
    | .ok v => return v
    | .error (_, e) => throw e

end Rollup.Yaml
