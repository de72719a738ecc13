import Rehearsal.Yaml.Merge
import Rehearsal.Yaml.Slots
import Rehearsal.Yaml.Value

namespace Rehearsal.Yaml

namespace Nodes

/-- The text of a node where a scalar is called for: a mapping may stand in for one by an entry that
says so. The fuel bounds how often it does. -/
def scalarPoints? (ns : Nodes) : Nat → Nat → Option (List Nat)
  | 0, _ => none
  | fuel + 1, n =>
    match ns.content n with
    | .scalar points => some points
    | .sequence _ => none
    | .mapping entries =>
      match entries.find? fun (k, _) => ns.tag k = .value with
      | some (_, v) => scalarPoints? ns fuel v
      | none => none

def isMapping (ns : Nodes) (n : Nat) : Bool :=
  match ns.content n with
  | .mapping _ => true
  | _ => false

def scalar (ns : Nodes) (n : Nat) : Except Problem Datum :=
  match ns.scalarPoints? (ns.size + 1) n with
  | none => .error .malformed
  | some points =>
    if ns.tag n = .timestamp && ns.isMapping n then .error (.value .mappedMoment)
    else Value.ofScalar n (ns.tag n) points

end Nodes

/-- What a node is read as. The parts of collections are known by their nodes. -/
inductive Cell
  | datum (d : Datum)
  | list (items : List Nat)
  | pairs (items : List (Nat × Nat))
  | set (keys : List Datum)
  | map (entries : List (Datum × Nat))

def Cell.ofTag? : Tag → Option Cell
  | .seq => some (.list [])
  | .omap | .pairs => some (.pairs [])
  | .set => some (.set [])
  | .map => some (.map [])
  | _ => none

/-- A document that is being read. Scalars are read as they are met, and what a collection holds when its
turn comes; so of several faults the one on the outermost level counts, and on one level the first. -/
structure Cells where
  nodes : Nodes
  cells : Array (Option Cell)
  met : Array Nat := #[]

abbrev Working (α : Type) := StateT Cells (Except Problem) α

namespace Working

def refuse {α : Type} : Working α := throw .malformed

def note (n : Nat) (c : Cell) : Working Unit :=
  modify fun s => { s with cells := s.cells.setIfInBounds n (some c) }

def meet (n : Nat) : Working Cell := do
  let s ← get
  match s.cells[n]?.join with
  | some c => return c
  | none =>
    match Cell.ofTag? (s.nodes.tag n) with
    | some c =>
      note n c
      modify fun s => { s with met := s.met.push n }
      return c
    | none =>
      let d ← (s.nodes.scalar n : Except Problem Datum)
      note n (.datum d)
      return .datum d

def entries (n : Nat) : Working (List (Datum × Nat)) := do
  let nodes ← ((← get).nodes.merge n : Except Problem Nodes)
  modify fun s => { s with nodes }
  (nodes.entries n).foldlM (fun seen (k, v) => do
    match ← meet k with
    | .datum key =>
      let _ ← meet v
      return Datum.putEntry key v seen
    | _ => refuse) []

def pair (n : Nat) : Working (Nat × Nat) := do
  match (← get).nodes.content n with
  | .mapping [(k, v)] =>
    let _ ← meet k
    let _ ← meet v
    return (k, v)
  | _ => refuse

def fill (n : Nat) : Working Unit := do
  let node := (← get).nodes.node n
  match node.tag, node.content with
  | .seq, .sequence items =>
    items.forM fun item => do let _ ← meet item
    note n (.list items)
  | .omap, .sequence items | .pairs, .sequence items => note n (.pairs (← items.mapM pair))
  | .set, .mapping _ => note n (.set (Slots.ordered ((← entries n).map Prod.fst)))
  | .map, .mapping _ => note n (.map (← entries n))
  | _, _ => refuse

def fillFrom : Nat → Nat → Working Unit
  | 0, _ => return
  | fuel + 1, place => do
    match (← get).met[place]? with
    | none => return
    | some n =>
      fill n
      fillFrom fuel (place + 1)

end Working

namespace Cells

/-- A node as a datum, if nothing holds itself; `done` are the data of nodes made before. The fuel
bounds how deep nodes hold each other. -/
def tree? (s : Cells) : Nat → Nat → StateT (Array (Option Datum)) Option Datum
  | 0, _ => failure
  | fuel + 1, n => do
    match (← get)[n]?.join with
    | some d => return d
    | none =>
      let d ← match s.cells[n]?.join with
        | none => failure
        | some (.datum d) => pure d
        | some (.set keys) => pure (.set keys)
        | some (.list items) => .list <$> items.mapM (tree? s fuel)
        | some (.pairs items) => .list <$> items.mapM fun (a, b) =>
            return Datum.pair (← tree? s fuel a) (← tree? s fuel b)
        | some (.map entries) => .map <$> entries.mapM fun (key, v) =>
            return (key, ← tree? s fuel v)
      modify fun done => done.setIfInBounds n (some d)
      return d

/-- A node as a datum in which collections have their nodes as names; `above` are those around
it. -/
def knot (s : Cells) : Nat → List Nat → Nat → Datum
  | 0, _, _ => .null
  | fuel + 1, above, n =>
    let inner := knot s fuel (n :: above)
    match s.cells[n]?.join with
    | none => .null
    | some (.datum d) => d
    | some (.set keys) => .set keys
    | some (.list items) =>
      if above.contains n then .again n false else .named n (.list (items.map inner))
    | some (.pairs items) =>
      if above.contains n then .again n false
      else .named n (.list (items.map fun (a, b) => .pair (inner a) (inner b)))
    | some (.map entries) =>
      if above.contains n then .again n true
      else .named n (.map (entries.map fun (key, v) => (key, inner v)))

def datum (s : Cells) (n : Nat) : Datum :=
  let fuel := s.cells.size + 1
  match (s.tree? fuel n).run (s.cells.map fun _ => none) with
  | some (d, _) => d
  | none => s.knot fuel [] n

end Cells

def Document.read (d : Document) : Except Problem Datum :=
  let reading : Working Unit := do
    let _ ← Working.meet d.root
    Working.fillFrom (d.nodes.size + 1) 0
  (reading.run { nodes := d.nodes, cells := d.nodes.map fun _ => none }).map
    fun (_, s) => s.datum d.root

def read (s : String) : Except Problem Datum :=
  match Document.ofText? s.toList with
  | .error p => .error p
  | .ok none => .ok .null
  | .ok (some d) => d.read

end Rehearsal.Yaml
