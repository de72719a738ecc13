import Rehearsal.Yaml.Tag
import Rehearsal.Yaml.Token

namespace Rehearsal.Yaml

inductive Content
  | scalar (points : List Nat)
  | sequence (items : List Nat)
  | mapping (entries : List (Nat × Nat))
  deriving DecidableEq, Repr

structure Node where
  tag : Tag
  content : Content
  deriving DecidableEq, Repr

abbrev Nodes := Array Node

namespace Nodes

def node (ns : Nodes) (n : Nat) : Node := ns[n]?.getD ⟨.null, .scalar []⟩

def tag (ns : Nodes) (n : Nat) : Tag := (ns.node n).tag

def content (ns : Nodes) (n : Nat) : Content := (ns.node n).content

def entries (ns : Nodes) (n : Nat) : List (Nat × Nat) :=
  match ns.content n with
  | .mapping entries => entries
  | _ => []

def change (ns : Nodes) (n : Nat) (f : Node → Node) : Nodes := ns.modify n f

def fill (ns : Nodes) (n : Nat) (c : Content) : Nodes :=
  ns.change n fun node => { node with content := c }

end Nodes

structure Document where
  nodes : Nodes
  root : Nat

/-- A parser: the tokens that are left, why there are no more, the tag handles, the nodes so far,
and those that have names. -/
structure Parser where
  tokens : List Token
  stop : Option Problem
  handles : List (String × String) := []
  nodes : Nodes := #[]
  anchors : List (String × Nat) := []

abbrev Parsing (α : Type) := StateT Parser (Except Problem) α

namespace Parsing

def refuse {α : Type} : Parsing α := throw .malformed

def peek : Parsing Token := do
  let p ← get
  match p.tokens with
  | t :: _ => return t
  | [] => throw (p.stop.getD .malformed)

def skip : Parsing Unit := modify fun p => { p with tokens := p.tokens.drop 1 }

def accept (t : Token) : Parsing Bool := do
  if (← peek) = t then
    skip
    return true
  else return false

def expect (t : Token) : Parsing Unit := do
  if !(← accept t) then refuse

def nextIsAnyOf (ts : List Token) : Parsing Bool := return ts.contains (← peek)

def standardHandles : List (String × String) := [("!", "!"), ("!!", Tag.standard)]

def directives : Nat → Bool → List (String × String) → Parsing (List (String × String))
  | 0, _, _ => refuse
  | fuel + 1, hasVersion, handles => do
    match ← peek with
    | .directive d =>
      skip
      match d with
      | .version major =>
        if hasVersion || major != 1 then refuse
        directives fuel true handles
      | .tag handle start =>
        if (handles.lookup handle).isSome then refuse
        directives fuel hasVersion ((handle, start) :: handles)
      | .other => directives fuel hasVersion handles
    | _ => return handles

def properties : Parsing (Option String × Option (Option String × String)) := do
  match ← peek with
  | .anchor name =>
    skip
    match ← peek with
    | .tag handle suffix =>
      skip
      return (some name, some (handle, suffix))
    | _ => return (some name, none)
  | .tag handle suffix =>
    skip
    match ← peek with
    | .anchor name =>
      skip
      return (some name, some (handle, suffix))
    | _ => return (none, some (handle, suffix))
  | _ => return (none, none)

def tagName : Option String × String → Parsing String
  | (none, suffix) => return suffix
  | (some handle, suffix) => do
    match (← get).handles.lookup handle with
    | none => refuse
    | some start => return start ++ suffix

def create (name : Option String) (tag : Tag) (content : Content) : Parsing Nat := do
  let n := (← get).nodes.size
  modify fun p => { p with
    nodes := p.nodes.push ⟨tag, content⟩
    anchors := (name.map fun name => (name, n)).toList ++ p.anchors }
  return n

def absent : Parsing Nat := create none .null (.scalar [])

def sequence (name : Option String) (tag : Tag) (items : Parsing (List Nat)) : Parsing Nat := do
  let n ← create name tag (.sequence [])
  let items ← items
  modify fun p => { p with nodes := p.nodes.fill n (.sequence items) }
  return n

def mapping (name : Option String) (tag : Tag) (entries : Parsing (List (Nat × Nat))) :
    Parsing Nat := do
  let n ← create name tag (.mapping [])
  let entries ← entries
  modify fun p => { p with nodes := p.nodes.fill n (.mapping entries) }
  return n

def collectionTag (name : Option String) (default : Tag) : Tag :=
  match name with
  | none => default
  | some name => if name == "!" then default else .ofName name

/-- The tag of a scalar: one without a tag is looked at if it is plain, one with the tag that stands
for none is looked at in any case. -/
def scalarTag (name : Option String) (isPlain : Bool) (points : List Nat) : Tag :=
  let byLooks : Tag :=
    if points.all (fun n => n.isValidChar) then .ofPlain (points.map Char.ofNat) else .str
  match name with
  | none => if isPlain then byLooks else .str
  | some name => if name == "!" then byLooks else .ofName name

mutual

/-- A node. Block collections can only begin in block context, and a sequence without indentation
only as the key or the value of a block mapping. -/
def node (inBlock unindented : Bool) : Nat → Parsing Nat
  | 0 => refuse
  | fuel + 1 => do
    match ← peek with
    | .alias name =>
      skip
      match (← get).anchors.lookup name with
      | none => refuse
      | some n => return n
    | _ =>
      let (name, written) ← properties
      let tag ← written.mapM tagName
      if let some name := name then
        if ((← get).anchors.lookup name).isSome then refuse
      match ← peek with
      | .scalar points isPlain =>
        skip
        create name (scalarTag tag isPlain points) (.scalar points)
      | .flowSequenceStart =>
        skip
        sequence name (collectionTag tag .seq) (flowItems true fuel)
      | .flowMappingStart =>
        skip
        mapping name (collectionTag tag .map) (flowEntries true fuel)
      | .blockEntry =>
        if inBlock && unindented then
          sequence name (collectionTag tag .seq) (unindentedItems fuel)
        else empty name tag
      | .blockSequenceStart =>
        if inBlock then
          skip
          sequence name (collectionTag tag .seq) (blockItems fuel)
        else empty name tag
      | .blockMappingStart =>
        if inBlock then
          skip
          mapping name (collectionTag tag .map) (blockEntries fuel)
        else empty name tag
      | _ => empty name tag
where
  /-- A node without content, which must have a name or a tag. -/
  empty (name tag : Option String) : Parsing Nat := do
    if name.isNone && tag.isNone then refuse
    create name (scalarTag tag true []) (.scalar [])

def blockItems : Nat → Parsing (List Nat)
  | 0 => refuse
  | fuel + 1 => do
    if ← accept .blockEntry then
      let n ← if ← nextIsAnyOf [.blockEntry, .blockEnd] then absent else node true false fuel
      return n :: (← blockItems fuel)
    else
      expect .blockEnd
      return []

def unindentedItems : Nat → Parsing (List Nat)
  | 0 => refuse
  | fuel + 1 => do
    if ← accept .blockEntry then
      let n ← if ← nextIsAnyOf [.blockEntry, .key, .value, .blockEnd] then absent
        else node true false fuel
      return n :: (← unindentedItems fuel)
    else return []

def blockEntries : Nat → Parsing (List (Nat × Nat))
  | 0 => refuse
  | fuel + 1 => do
    if ← accept .key then
      let k ← blockPart fuel
      let v ← if ← accept .value then blockPart fuel else absent
      return (k, v) :: (← blockEntries fuel)
    else
      expect .blockEnd
      return []

def blockPart : Nat → Parsing Nat
  | 0 => refuse
  | fuel + 1 => do
    if ← nextIsAnyOf [.key, .value, .blockEnd] then absent else node true true fuel

def flowItems (isFirst : Bool) : Nat → Parsing (List Nat)
  | 0 => refuse
  | fuel + 1 => do
    if ← accept .flowSequenceEnd then return []
    if !isFirst then expect .flowEntry
    if ← accept .key then
      let k ← flowPart [.value, .flowEntry, .flowSequenceEnd] fuel
      let v ← if ← accept .value then flowPart [.flowEntry, .flowSequenceEnd] fuel
        else absent
      let n ← create none .map (.mapping [(k, v)])
      return n :: (← flowItems false fuel)
    else if ← accept .flowSequenceEnd then return []
    else
      let n ← node false false fuel
      return n :: (← flowItems false fuel)

def flowEntries (isFirst : Bool) : Nat → Parsing (List (Nat × Nat))
  | 0 => refuse
  | fuel + 1 => do
    if ← accept .flowMappingEnd then return []
    if !isFirst then expect .flowEntry
    if ← accept .key then
      let k ← flowPart [.value, .flowEntry, .flowMappingEnd] fuel
      let v ← if ← accept .value then flowPart [.flowEntry, .flowMappingEnd] fuel
        else absent
      return (k, v) :: (← flowEntries false fuel)
    else if ← accept .flowMappingEnd then return []
    else
      let k ← node false false fuel
      let v ← absent
      return (k, v) :: (← flowEntries false fuel)

/-- A key or a value in brackets or braces, which is absent before one of the given tokens. -/
def flowPart (ends : List Token) : Nat → Parsing Nat
  | 0 => refuse
  | fuel + 1 => do
    if ← nextIsAnyOf ends then absent else node false false fuel

end

def documentEnds : Nat → Parsing Unit
  | 0 => refuse
  | fuel + 1 => do
    if ← accept .documentEnd then documentEnds fuel

def explicitDocument (fuel : Nat) : Parsing (Option Nat) := do
  documentEnds fuel
  if (← peek) = .streamEnd then return none
  let handles ← directives fuel false []
  expect .documentStart
  modify fun p => { p with handles := handles ++ standardHandles }
  match ← peek with
  | .directive _ | .documentStart | .documentEnd | .streamEnd => return some (← absent)
  | _ => return some (← node true false fuel)

def document (fuel : Nat) : Parsing (Option Nat) := do
  let root ← match ← peek with
    | .directive _ | .documentStart | .streamEnd => explicitDocument fuel
    | _ => do
      modify fun p => { p with handles := standardHandles }
      let n ← node true false fuel
      pure (some n)
  if root.isSome then
    let _ ← accept .documentEnd
    documentEnds fuel
  expect .streamEnd
  return root

end Parsing

def Document.ofText? (text : List Char) : Except Problem (Option Document) :=
  let tokens := Tokens.ofText text
  let fuel := 4 * tokens.list.length + 16
  ((Parsing.document fuel).run { tokens := tokens.list, stop := tokens.stop }).map
    fun (root, p) => root.map fun root => ⟨p.nodes, root⟩

end Rehearsal.Yaml
