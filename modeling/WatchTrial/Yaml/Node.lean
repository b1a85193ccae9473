import WatchTrial.Yaml.Tag
import WatchTrial.Yaml.Token

set_option autoImplicit false

/- The graph of nodes of a YAML document, read from its tokens. An alias stands for the node with
its anchor, which may be one that the alias is inside of. -/

namespace WatchTrial.Yaml

/-- What a node holds. Other nodes are given by their places in the graph. -/
inductive Content where
  | scalar (text : List Char)
  | sequence (items : List Nat)
  | mapping (entries : List (Nat × Nat))
  deriving DecidableEq, Repr

structure Node where
  tag : Tag
  content : Content
  deriving DecidableEq, Repr

/-- All nodes of a document. -/
abbrev Graph := Array Node

namespace Graph

/-- What is known while the nodes of a document are read. -/
structure Reading where
  tokens : List Token
  /-- What is met where the tokens end. -/
  stop : Refused
  graph : Graph := #[]
  anchors : List (List Char × Nat) := []
  handles : List (List Char × List Char) := []
  version : Bool := false
  /-- How many collections are open. -/
  depth : Nat := 0

abbrev Reader (α : Type) := StateT Reading (Except Refused) α

def defaultHandles : List (List Char × List Char) :=
  [(['!'], ['!']), (['!', '!'], Tag.standard.toList)]

def fail {α : Type} (r : Refused) : Reader α := fun _ => .error r

def peek : Reader Token := fun s =>
  match s.tokens with
  | t :: _ => .ok (t, s)
  | [] => .error s.stop

def advance : Reader Unit := modify fun s => { s with tokens := s.tokens.tail }

def next : Reader Token := do
  let t ← peek
  advance
  return t

/-- Takes the token if it is the given one. -/
def takeIf (t : Token) : Reader Bool := do
  if (← peek) == t then
    advance
    return true
  else return false

def expect (t : Token) (what : String) : Reader Unit := do
  if !(← takeIf t) then fail (.malformed what)

def nextIsOneOf (ts : List Token) : Reader Bool := do return ts.contains (← peek)

/-- Adds a node to the graph. -/
def add (n : Node) : Reader Nat := fun s =>
  .ok (s.graph.size, { s with graph := s.graph.push n })

/-- A node that is not written. -/
def absent : Reader Nat := add ⟨.null, .scalar []⟩

def bind (anchor : Option (List Char)) (id : Nat) : Reader Unit :=
  match anchor with
  | some name => modify fun s => { s with anchors := (name, id) :: s.anchors }
  | none => return ()

def lookUp (name : List Char) : Reader Nat := do
  match (← get).anchors.lookup name with
  | some id => return id
  | none => fail (.malformed "found undefined alias")

structure Properties where
  anchor : Option (List Char) := none
  tag : Option (Option (List Char) × List Char) := none

/-- An anchor and a tag, in either order. -/
def properties : Reader Properties := do
  match ← peek with
  | .anchor name =>
      advance
      match ← peek with
      | .tag handle suffix =>
          advance
          return ⟨some name, some (handle, suffix)⟩
      | _ => return ⟨some name, none⟩
  | .tag handle suffix =>
      advance
      match ← peek with
      | .anchor name =>
          advance
          return ⟨some name, some (handle, suffix)⟩
      | _ => return ⟨none, some (handle, suffix)⟩
  | _ => return {}

/-- The full name of a tag. -/
def expand : Option (List Char) × List Char → Reader (List Char)
  | (none, suffix) => return suffix
  | (some handle, suffix) => do
      match (← get).handles.lookup handle with
      | some lead => return lead ++ suffix
      | none => fail (.malformed "found undefined tag handle")

/-- The tag `!`, which leaves the choice to the text of the node. -/
def open_ : List Char := ['!']

/-- The tag of a scalar from its written tag, if any, and the way its text is written. -/
def scalarTag (written : Option (List Char)) (plain : Bool) (text : List Char) : Tag :=
  match written with
  | none => if plain then Tag.resolve text else .str
  | some uri => if uri == open_ then Tag.resolve text else Tag.ofUri uri

def collectionTag (written : Option (List Char)) (usual : Tag) : Tag :=
  match written with
  | none => usual
  | some uri => if uri == open_ then usual else Tag.ofUri uri

/-- The most collections that may be open at once. -/
def maxDepth : Nat := 485

/-- Reads a collection. Its anchor stands for it from its start on. -/
def collection (anchor : Option (List Char)) (tag : Tag) (start : Content)
    (read : Reader Content) : Reader Nat := do
  let id ← add ⟨tag, start⟩
  bind anchor id
  if maxDepth ≤ (← get).depth then fail (.fault .tooDeep)
  modify fun s => { s with depth := s.depth + 1 }
  let content ← read
  modify fun s =>
    { s with graph := s.graph.setIfInBounds id ⟨tag, content⟩, depth := s.depth - 1 }
  return id

mutual

/-- A node. Outside of flow collections it may be a block; as a value of a block mapping it may be
a sequence without an indentation of its own. -/
def node : Nat → Bool → Bool → Reader Nat
  | 0, _, _ => fail (.malformed "no node can be read")
  | n + 1, block, indentless => do
      if let .reference name ← peek then
        advance
        return ← lookUp name
      let found ← properties
      let written ← found.tag.mapM expand
      let known := (← get).anchors
      -- An anchor is given once.
      let start ← peek
      let claim : Reader Unit := do
        if let some name := found.anchor then
          if (known.lookup name).isSome then fail (.malformed "found duplicate anchor")
      let sequence (read : Reader (List Nat)) : Reader Nat :=
        collection found.anchor (collectionTag written .seq) (.sequence [])
          (do return .sequence (← read))
      let mapping (read : Reader (List (Nat × Nat))) : Reader Nat :=
        collection found.anchor (collectionTag written .map) (.mapping [])
          (do return .mapping (← read))
      let scalar (tag : Tag) (text : List Char) : Reader Nat := do
        let id ← add ⟨tag, .scalar text⟩
        bind found.anchor id
        return id
      if indentless && start == .blockEntry then
        claim
        sequence (indentlessItems n)
      else
        match start with
        | .scalar text plain =>
            advance
            claim
            scalar (scalarTag written plain text) text
        | .flowSequenceStart =>
            advance
            claim
            sequence (flowItems n true)
        | .flowMappingStart =>
            advance
            claim
            mapping (flowEntries n true)
        | .blockSequenceStart =>
            if !block then fail (.malformed "expected the node content")
            advance
            claim
            sequence (blockItems n)
        | .blockMappingStart =>
            if !block then fail (.malformed "expected the node content")
            advance
            claim
            mapping (blockEntries n)
        | _ =>
            if found.anchor.isNone && found.tag.isNone then
              fail (.malformed "expected the node content")
            claim
            let tag :=
              match written with
              | none => Tag.null
              | some uri => if uri == open_ then .null else Tag.ofUri uri
            scalar tag []

/-- The items of a block sequence up to its end. -/
def blockItems : Nat → Reader (List Nat)
  | 0 => fail (.malformed "no item can be read")
  | n + 1 => do
      if ← takeIf .blockEntry then
        let item ←
          if ← nextIsOneOf [.blockEntry, .blockEnd] then absent else node n true false
        return item :: (← blockItems n)
      else
        expect .blockEnd "expected the end of a block sequence"
        return []

/-- The items of a sequence at the indentation of the mapping around it. -/
def indentlessItems : Nat → Reader (List Nat)
  | 0 => fail (.malformed "no item can be read")
  | n + 1 => do
      if ← takeIf .blockEntry then
        let item ←
          if ← nextIsOneOf [.blockEntry, .key, .value, .blockEnd] then absent
          else node n true false
        return item :: (← indentlessItems n)
      else return []

/-- The entries of a block mapping up to its end. -/
def blockEntries : Nat → Reader (List (Nat × Nat))
  | 0 => fail (.malformed "no entry can be read")
  | n + 1 => do
      if (← peek) == .key then
        advance
        let key ←
          if ← nextIsOneOf [.key, .value, .blockEnd] then absent else node n true true
        let value ← blockValue n
        return (key, value) :: (← blockEntries n)
      else
        expect .blockEnd "expected the end of a block mapping"
        return []

/-- The value of an entry of a block mapping. -/
def blockValue : Nat → Reader Nat
  | 0 => fail (.malformed "no value can be read")
  | n + 1 => do
      if ← takeIf .value then
        if ← nextIsOneOf [.key, .value, .blockEnd] then absent
        else node n true true
      else absent

/-- The items of a flow sequence up to its end; a key among them makes a mapping of one entry. -/
def flowItems : Nat → Bool → Reader (List Nat)
  | 0, _ => fail (.malformed "no item can be read")
  | n + 1, first => do
      if ← takeIf .flowSequenceEnd then return []
      if !first then expect .flowEntry "expected ',' or ']'"
      if ← takeIf .key then
        let key ←
          if ← nextIsOneOf [.value, .flowEntry, .flowSequenceEnd] then absent
          else node n false false
        let value ← flowValue n .flowSequenceEnd
        let item ← add ⟨.map, .mapping [(key, value)]⟩
        return item :: (← flowItems n false)
      if ← takeIf .flowSequenceEnd then return []
      let item ← node n false false
      return item :: (← flowItems n false)

/-- The entries of a flow mapping up to its end. -/
def flowEntries : Nat → Bool → Reader (List (Nat × Nat))
  | 0, _ => fail (.malformed "no entry can be read")
  | n + 1, first => do
      if ← takeIf .flowMappingEnd then return []
      if !first then expect .flowEntry "expected ',' or a closing brace"
      if ← takeIf .key then
        let key ←
          if ← nextIsOneOf [.value, .flowEntry, .flowMappingEnd] then absent
          else node n false false
        let value ← flowValue n .flowMappingEnd
        return (key, value) :: (← flowEntries n false)
      if ← takeIf .flowMappingEnd then return []
      let key ← node n false false
      let value ← absent
      return (key, value) :: (← flowEntries n false)

/-- The value of an entry of a flow collection with the given end. -/
def flowValue : Nat → Token → Reader Nat
  | 0, _ => fail (.malformed "no value can be read")
  | n + 1, ending => do
      if ← takeIf .value then
        if ← nextIsOneOf [.flowEntry, ending] then absent
        else node n false false
      else absent

end

/-- The directives before a document. -/
def directives : Nat → Reader Unit
  | 0 => fail (.malformed "no directive can be read")
  | n + 1 => do
      if let .directive d ← peek then
        advance
        let s ← get
        match d with
        | .version major =>
            if s.version then fail (.malformed "found duplicate YAML directive")
            if major ≠ 1 then fail (.malformed "found incompatible YAML document")
            set { s with version := true }
        | .tag handle lead =>
            if (s.handles.lookup handle).isSome then fail (.malformed "found duplicate tag handle")
            set { s with handles := (handle, lead) :: s.handles }
        | .other => pure ()
        directives n

/-- Past document end markers, to the end of the text. -/
def atEnd : Nat → Reader Bool
  | 0 => fail (.malformed "no document end can be read")
  | n + 1 => do
      if ← takeIf .documentEnd then atEnd n
      else return (← peek) == .streamEnd

/-- The root of the only document, if there is one. -/
def document (size : Nat) : Reader (Option Nat) := do
  let start ← peek
  if start == .streamEnd then return none
  let explicit := start == .documentStart || (match start with | .directive _ => true | _ => false)
  let root ←
    if explicit then do
      directives (size + 1)
      expect .documentStart "expected a document start"
      modify fun s => { s with handles := s.handles ++ defaultHandles }
      let empty ←
        match ← peek with
        | .directive _ | .documentStart | .documentEnd | .streamEnd => pure true
        | _ => pure false
      if empty then absent else node (2 * size + 2) true false
    else do
      modify fun s => { s with handles := defaultHandles }
      node (2 * size + 2) true false
  if ← atEnd (size + 1) then return some root
  directives (size + 1)
  fail (.malformed "expected a single document")

/-- The graph of a text, and its root if it is not empty. -/
def ofText (text : List Char) : Except Refused (Option Nat × Graph) := do
  let (found, stop) := tokens text
  let start : Reading :=
    { tokens := found, stop := stop.getD (.malformed "nothing follows the end") }
  let (root, after) ← document found.length start
  return (root, after.graph)

end Graph

end WatchTrial.Yaml
