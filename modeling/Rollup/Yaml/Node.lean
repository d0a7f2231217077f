import Rollup.Yaml.Tag
import Rollup.Yaml.Token.Lexer

/-!
# YAML nodes

The tree that the tokens of a document spell. Aliases are replaced by the nodes that they stand for,
and every node has its tag.
-/

namespace Rollup.Yaml

inductive Node
  | scalar (tag : Tag) (text : String)
  | sequence (tag : Tag) (items : List Node)
  | mapping (tag : Tag) (entries : List (Node × Node))

namespace Node

def tag : Node → Tag
  | scalar t _ => t
  | sequence t _ => t
  | mapping t _ => t

/-- The node where nothing is written. -/
def empty : Node := scalar .null ""

end Node

/-- What is left of the tokens, and the nodes that have been named so far. -/
structure Reading where
  tokens : List Token
  anchors : List (String × Node) := []

abbrev NodeReader := StateT Reading (Except Error)

namespace NodeReader

def fail {α : Type} (cause : Cause) : NodeReader α := throw (.malformed cause)

def peek : NodeReader Token := do
  match (← get).tokens with
  | [] => return .streamEnd
  | .unreadable e :: _ => throw e
  | t :: _ => return t

def skip : NodeReader Unit := modify fun r => { r with tokens := r.tokens.tail }

def take? (t : Token) : NodeReader Bool := do
  if (← peek) = t then
    skip
    return true
  else return false

def sees (ts : List Token) : NodeReader Bool := return ts.contains (← peek)

def takeAnchor? : NodeReader (Option String) := do
  match ← peek with
  | .anchor name => skip; return some name
  | _ => return none

def takeTag? : NodeReader (Option TagName) := do
  match ← peek with
  | .tag name => skip; return some name
  | _ => return none

/-- Takes the anchor and the tag of a node, in either order. -/
def takeProperties : NodeReader (Option String × Option TagName) := do
  match ← takeAnchor? with
  | some name => return (some name, ← takeTag?)
  | none =>
    match ← takeTag? with
    | some tag => return (← takeAnchor?, some tag)
    | none => return (none, none)

/-- The full name of a tag, its handle expanded. -/
def expandTag (handles : List (String × String)) : TagName → NodeReader String
  | ⟨none, suffix⟩ => return suffix
  | ⟨some handle, suffix⟩ =>
    match lookup? handle handles with
    | some expansion => return expansion ++ suffix
    | none => fail .undefinedHandle

/-- Refuses a name that is taken. -/
def checkAnchor : Option String → NodeReader Unit
  | none => return ()
  | some name => do
    if (lookup? name (← get).anchors).isSome then fail (.repeatedAnchor name) else return ()

/-- Gives a node its name. -/
def nameNode (anchor? : Option String) (node : Node) : NodeReader Unit :=
  match anchor? with
  | none => return ()
  | some name => modify fun r => { r with anchors := (name, node) :: r.anchors }

/-- The tag of a collection: the usual one where none is written. -/
def collectionTag (usual : Tag) : Option String → Tag
  | none => usual
  | some name => if name = "!" then usual else .ofName name

/-- The tag of a scalar: by its form where it is plain and none is written. -/
def scalarTag (plain : Bool) (text : String) : Option String → Tag
  | none => if plain then .ofPlain text else .str
  | some name => if name = "!" then .ofPlain text else .ofName name

/-- Reads the contents of a collection. While it is open, its name stands for nothing. -/
def readCollection {α : Type} (anchor? : Option String) (make : α → Node)
    (contents : NodeReader α) : NodeReader Node := do
  checkAnchor anchor?
  nameNode anchor? .empty
  let node := make (← contents)
  nameNode anchor? node
  return node

mutual

/-- Reads a node. Block collections are read where `block` says so, and items without indentation
where `indentless` does. The fuel bounds the number of steps. -/
def readNode (handles : List (String × String)) (block indentless : Bool) : Nat → NodeReader Node
  | 0 => fail .noBlockNode
  | fuel + 1 => do
    match ← peek with
    | .alias name =>
      skip
      match lookup? name (← get).anchors with
      | some node => return node
      | none => fail (.undefinedAlias name)
    | _ =>
      let (anchor?, written?) ← takeProperties
      let tag? ← written?.mapM (expandTag handles)
      let t ← peek
      if indentless && t = .blockEntry then
        readCollection anchor? (.sequence (collectionTag .seq tag?))
          (readIndentless handles fuel)
      else
        match t with
        | .scalar text plain =>
          skip
          checkAnchor anchor?
          let node := Node.scalar (scalarTag plain text tag?) text
          nameNode anchor? node
          return node
        | .flowSequenceStart =>
          skip
          readCollection anchor? (.sequence (collectionTag .seq tag?))
            (readFlowItems handles true fuel)
        | .flowMappingStart =>
          skip
          readCollection anchor? (.mapping (collectionTag .map tag?))
            (readFlowEntries handles true fuel)
        | t =>
          if block && t = .blockSequenceStart then
            skip
            readCollection anchor? (.sequence (collectionTag .seq tag?))
              (readBlockItems handles fuel)
          else if block && t = .blockMappingStart then
            skip
            readCollection anchor? (.mapping (collectionTag .map tag?))
              (readBlockEntries handles fuel)
          -- An anchor or a tag with nothing behind it is that of an empty scalar.
          else if anchor?.isSome || tag?.isSome then
            checkAnchor anchor?
            let node := Node.scalar (scalarTag true "" tag?) ""
            nameNode anchor? node
            return node
          else fail (if block then .noBlockNode else .noFlowNode)

/-- Reads a node unless one of the given tokens shows that there is none. -/
def readUnless (handles : List (String × String)) (ends : List Token) (block indentless : Bool) :
    Nat → NodeReader Node
  | 0 => fail .noBlockNode
  | fuel + 1 => do
    if ← sees ends then return .empty else readNode handles block indentless fuel

def readBlockItems (handles : List (String × String)) : Nat → NodeReader (List Node)
  | 0 => fail .blockSequence
  | fuel + 1 => do
    if ← take? .blockEntry then
      let item ← readUnless handles [.blockEntry, .blockEnd] true false fuel
      return item :: (← readBlockItems handles fuel)
    else if ← take? .blockEnd then return []
    else fail .blockSequence

/-- Reads the items of a block sequence that is not indented, as far as they go. -/
def readIndentless (handles : List (String × String)) : Nat → NodeReader (List Node)
  | 0 => fail .blockSequence
  | fuel + 1 => do
    if ← take? .blockEntry then
      let item ← readUnless handles [.blockEntry, .key, .value, .blockEnd] true false fuel
      return item :: (← readIndentless handles fuel)
    else return []

def readBlockEntries (handles : List (String × String)) : Nat → NodeReader (List (Node × Node))
  | 0 => fail .blockMapping
  | fuel + 1 => do
    if ← take? .key then
      let key ← readUnless handles [.key, .value, .blockEnd] true true fuel
      let value ← readBlockValue handles fuel
      return (key, value) :: (← readBlockEntries handles fuel)
    else if ← take? .blockEnd then return []
    else fail .blockMapping

/-- Reads the value after a key of a block mapping, if there is one. -/
def readBlockValue (handles : List (String × String)) : Nat → NodeReader Node
  | 0 => fail .blockMapping
  | fuel + 1 => do
    if ← take? .value then readUnless handles [.key, .value, .blockEnd] true true fuel
    else return .empty

/-- Reads the items of a flow sequence and its end. An item may be a single pair of a mapping. -/
def readFlowItems (handles : List (String × String)) (first : Bool) : Nat → NodeReader (List Node)
  | 0 => fail .flowSequence
  | fuel + 1 => do
    if ← take? .flowSequenceEnd then return []
    else if !first && !(← take? .flowEntry) then fail .flowSequence
    else if ← take? .key then
      let key ← readUnless handles [.value, .flowEntry, .flowSequenceEnd] false false fuel
      let value ← readFlowValue handles .flowSequenceEnd fuel
      return .mapping .map [(key, value)] :: (← readFlowItems handles false fuel)
    else if ← take? .flowSequenceEnd then return []
    else
      let item ← readNode handles false false fuel
      return item :: (← readFlowItems handles false fuel)

/-- Reads the value after a key in a flow collection, if there is one. -/
def readFlowValue (handles : List (String × String)) (close : Token) : Nat → NodeReader Node
  | 0 => fail .flowMapping
  | fuel + 1 => do
    if ← take? .value then readUnless handles [.flowEntry, close] false false fuel
    else return .empty

def readFlowEntries (handles : List (String × String)) (first : Bool) :
    Nat → NodeReader (List (Node × Node))
  | 0 => fail .flowMapping
  | fuel + 1 => do
    if ← take? .flowMappingEnd then return []
    else if !first && !(← take? .flowEntry) then fail .flowMapping
    else if ← take? .key then
      let key ← readUnless handles [.value, .flowEntry, .flowMappingEnd] false false fuel
      let value ← readFlowValue handles .flowMappingEnd fuel
      return (key, value) :: (← readFlowEntries handles false fuel)
    else if ← take? .flowMappingEnd then return []
    else
      let key ← readNode handles false false fuel
      return (key, .empty) :: (← readFlowEntries handles false fuel)

end

/-! ## Documents -/

def usualHandles : List (String × String) := [("!", "!"), ("!!", Tag.base)]

def skipDocumentEnds : Nat → NodeReader Unit
  | 0 => return ()
  | fuel + 1 => do if ← take? .documentEnd then skipDocumentEnds fuel

/-- Reads the directives in front of a document, and returns the handles that they define. -/
def readDirectives (versioned : Bool) (handles : List (String × String)) :
    Nat → NodeReader (List (String × String))
  | 0 => return handles
  | fuel + 1 => do
    match ← peek with
    | .directive d =>
      skip
      match d with
      | .version major =>
        if versioned then fail .repeatedDirective
        else if major ≠ 1 then fail .unsupportedVersion
        else readDirectives true handles fuel
      | .tag handle expansion =>
        if (lookup? handle handles).isSome then fail .repeatedHandle
        else readDirectives versioned (handles ++ [(handle, expansion)]) fuel
      | .other => readDirectives versioned handles fuel
    | _ => return handles

/-- Whether the content of a document ends before it has begun. -/
def seesNoContent : NodeReader Bool := do
  match ← peek with
  | .directive _ | .documentStart | .documentEnd | .streamEnd => return true
  | _ => return false

/-- Reads the start of a document with its directives; none at the end of the text. -/
def readDocumentStart? (fuel : Nat) : NodeReader (Option (List (String × String))) := do
  skipDocumentEnds fuel
  if ← sees [.streamEnd] then return none
  else
    let handles ← readDirectives false [] fuel
    if ← take? .documentStart then return some (handles ++ usualHandles)
    else fail .noDocumentStart

def readFirst? (fuel : Nat) : NodeReader (Option Node) := do
  if !(← seesNoContent) || (← sees [.documentEnd]) then
    return some (← readNode usualHandles true false fuel)
  else
    match ← readDocumentStart? fuel with
    | none => return none
    | some handles =>
      if ← seesNoContent then return some .empty
      else return some (← readNode handles true false fuel)

def readOnly? (fuel : Nat) : NodeReader (Option Node) := do
  match ← readFirst? fuel with
  | none => return none
  | some node =>
    discard <| take? .documentEnd
    -- A second document is read up to its start only; that it is there is the error.
    match ← readDocumentStart? fuel with
    | none => return some node
    | some _ => fail .secondDocument

end NodeReader

/-- The root of the only document that tokens spell; none where there is no document. -/
def Node.ofTokens? (tokens : List Token) : Except Error (Option Node) :=
  (NodeReader.readOnly? (4 * tokens.length + 8)).run' ⟨tokens, []⟩

end Rollup.Yaml
