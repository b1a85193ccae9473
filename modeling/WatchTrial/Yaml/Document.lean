import WatchTrial.Yaml.Literal
import WatchTrial.Yaml.Node

set_option autoImplicit false

/- The values of a document, made from the graph of its nodes. Each node is made once. A collection
is made empty and filled when all that stands around it has been filled, so that what is wrong near
the root is met before what is wrong further down. -/

namespace WatchTrial.Yaml

/-- The value of a node, the collections in it given by their places in the graph. -/
inductive Part where
  | scalar (d : Datum)
  | list (items : List Nat)
  | pairs (items : List (Nat × Nat))
  | map (entries : List (Datum × Nat))
  | set (items : List Datum)

/-- How many entries of a graph stand under `<<`. -/
def mergeCount (g : Graph) : Nat :=
  g.foldl (fun count n => count + entryCount n.content) 0
where
  entryCount : Content → Nat
    | .mapping entries =>
        entries.countP fun entry => (g[entry.1]?).any fun n => n.tag == .merge
    | _ => 0

/-- What is known while values are made. -/
structure Making where
  graph : Graph
  parts : Array (Option Part)
  /-- No more entries than this stand under `<<`. -/
  merges : Nat
  /-- The collections that are still to be filled, the last one first. -/
  waiting : List Nat := []

namespace Making

abbrev Maker (α : Type) := StateT Making (Except Refused) α

def ofGraph (g : Graph) : Making :=
  { graph := g, parts := Array.replicate g.size none, merges := mergeCount g }

def fail {α : Type} (r : Refused) : Maker α := fun _ => .error r

def malformed {α : Type} (what : String) : Maker α := fail (.malformed what)

def nodeAt (id : Nat) : Maker Node := do
  match (← get).graph[id]? with
  | some n => return n
  | none => malformed "found no node"

def tagAt (id : Nat) : Maker Tag := do return (← nodeAt id).tag

def setPart (id : Nat) (p : Part) : Maker Unit :=
  modify fun s => { s with parts := s.parts.setIfInBounds id (some p) }

def setNode (id : Nat) (n : Node) : Maker Unit :=
  modify fun s => { s with graph := s.graph.setIfInBounds id n }

/- Taking over the entries of other mappings -/

/-- The entries before and after the first one under the key `<<`, and its value. -/
def splitMerge (g : Graph) :
    List (Nat × Nat) → Option (List (Nat × Nat) × Nat × List (Nat × Nat))
  | [] => none
  | entry :: rest =>
      if (g[entry.1]?).any fun n => n.tag == .merge then some ([], entry.2, rest)
      else (splitMerge g rest).map fun (before, value, after) => (entry :: before, value, after)

/-- Makes the key `=` a text like any other. -/
def plainKey (id : Nat) : Maker Unit := do
  let n ← nodeAt id
  if n.tag == .default then setNode id { n with tag := .str }

/-- The entries of the mapping at a place, without those under `<<` and with the entries these name
in front: those of a mapping, or of all mappings in a sequence, the last one first. -/
def flatten : Nat → Nat → List (Nat × Nat) → Maker (List (Nat × Nat))
  | 0, _, _ => malformed "too many mappings to merge"
  | n + 1, id, merged => do
      match ← nodeAt id with
      | ⟨tag, .mapping entries⟩ =>
          match splitMerge (← get).graph entries with
          | none =>
              entries.forM fun entry => plainKey entry.1
              let all := merged ++ entries
              setNode id ⟨tag, .mapping all⟩
              return all
          | some (before, value, after) =>
              setNode id ⟨tag, .mapping (before ++ after)⟩
              match (← nodeAt value).content with
              | .mapping _ => flatten n id (merged ++ (← flatten n value []))
              | .sequence items =>
                  let parts ← items.mapM fun item => flatten n item []
                  flatten n id (merged ++ parts.reverse.flatten)
              | .scalar _ => malformed "expected a mapping or list of mappings for merging"
      | _ => malformed "expected a mapping for merging"

/- Making and filling -/

/-- The text of a node with a scalar's tag: its own, or that of the value of the key `=`. -/
def textAt : Nat → Nat → Maker (List Char)
  | 0, _ => fail (.fault .tooDeep)
  | n + 1, id => do
      match (← nodeAt id).content with
      | .scalar text => return text
      | .mapping entries =>
          let graph := (← get).graph
          match entries.find? fun entry => (graph[entry.1]?).any fun k => k.tag == .default with
          | some entry => textAt n entry.2
          | none => malformed "expected a scalar node"
      | .sequence _ => malformed "expected a scalar node"

/-- The empty collection of a tag, if it is one of a collection. -/
def emptyPart? : Tag → Option Part
  | .seq => some (.list [])
  | .map => some (.map [])
  | .set => some (.set [])
  | .omap | .pairs => some (.pairs [])
  | _ => none

/-- Makes the value at a place, unless it is made. A collection is left to be filled. -/
def make (id : Nat) : Maker Unit := do
  let s ← get
  if ((s.parts[id]?).getD none).isSome then return
  let n ← nodeAt id
  match emptyPart? n.tag, n with
  | some part, _ =>
      setPart id part
      modify fun s => { s with waiting := id :: s.waiting }
  | none, ⟨.timestamp, .mapping _⟩ =>
      let _ ← textAt (s.graph.size + 1) id
      fail (.fault .mappingAsStamp)
  | none, _ =>
      let text ← textAt (s.graph.size + 1) id
      match Literal.read n.tag text with
      | .ok d => setPart id (.scalar d)
      | .error r => fail r

/-- Makes the value of a key, which is no collection. -/
def makeKey (id : Nat) : Maker Datum := do
  make id
  match ((← get).parts[id]?).getD none with
  | some (.scalar d) => return d
  | _ => malformed "found unhashable key"

/-- The entries of a mapping with those it takes over. Of entries with one key the last counts. -/
def makeEntries (id : Nat) : Maker (List (Datum × Nat)) := do
  match (← nodeAt id).content with
  | .mapping _ =>
      let entries ← flatten ((← get).merges + 1) id []
      let made ← entries.mapM fun (key, value) => do
        let d ← makeKey key
        make value
        return (d, value)
      return Datum.lastOfEach made
  | _ => malformed "expected a mapping node"

/-- The entries of a sequence of mappings with one entry each. -/
def makePairs (id : Nat) : Maker (List (Nat × Nat)) := do
  match (← nodeAt id).content with
  | .sequence items =>
      items.mapM fun item => do
        match (← nodeAt item).content with
        | .mapping [(key, value)] =>
            make key
            make value
            return (key, value)
        | _ => malformed "expected a single mapping item"
  | _ => malformed "expected a sequence"

/-- Fills the collection at a place. -/
def fill (id : Nat) : Maker Unit := do
  match ← tagAt id with
  | .seq =>
      match (← nodeAt id).content with
      | .sequence items =>
          items.forM make
          setPart id (.list items)
      | _ => malformed "expected a sequence node"
  | .omap | .pairs => setPart id (.pairs (← makePairs id))
  | .set => setPart id (.set ((← makeEntries id).map Prod.fst))
  | _ => setPart id (.map (← makeEntries id))

/-- Fills all collections, those that are met while others are filled after these. -/
def fillAll : Nat → Maker Unit
  | 0 => return ()
  | n + 1 => do
      let ids := (← get).waiting.reverse
      if ids.isEmpty then return
      modify fun s => { s with waiting := [] }
      ids.forM fill
      fillAll n

/-- The value at a place, with so many levels of collections in it told. -/
def datum (parts : Array (Option Part)) : Nat → Nat → Datum
  | levels, id =>
      match (parts[id]?).getD none, levels with
      | some (.scalar d), _ => d
      | some (.set items), _ => .set items
      | some (.list items), n + 1 => .list (items.map (datum parts n))
      | some (.pairs items), n + 1 =>
          .pairs (items.map fun (key, value) => (datum parts n key, datum parts n value))
      | some (.map entries), n + 1 =>
          .map (entries.map fun (key, value) => (key, datum parts n value))
      | _, _ => .collection

end Making

open Making in
/-- The value of a document, with so many levels of collections told; nothing is the value of an
empty one. -/
def Datum.ofText (levels : Nat) (text : List Char) : Except Refused Datum := do
  match ← Graph.ofText text with
  | (none, _) => return .null
  | (some root, graph) =>
      let filled : Maker Unit := do
        make root
        fillAll (graph.size + 1)
      let ((), s) ← filled (ofGraph graph)
      return datum s.parts levels root

end WatchTrial.Yaml
