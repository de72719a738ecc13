import Rehearsal.Yaml.Node

namespace Rehearsal.Yaml.Nodes

def takeMerge? (ns : Nodes) : List (Nat × Nat) → Option (Nat × List (Nat × Nat))
  | [] => none
  | (k, v) :: rest =>
    if ns.tag k = .merge then some (v, rest)
    else (takeMerge? ns rest).map fun (value, left) => (value, (k, v) :: left)

def settleKeys (ns : Nodes) (n : Nat) : Nodes :=
  (ns.entries n).foldl (fun ns (k, _) =>
    if ns.tag k = .value then ns.change k fun node => { node with tag := .str } else ns) ns

def mergeCount (ns : Nodes) : Nat :=
  (List.range ns.size).foldl (fun count n =>
    count + (ns.entries n).countP fun (k, _) => ns.tag k = .merge) 0

abbrev Merged := List (Nat × Nat) × Nodes

/-- Puts the entries of several mappings together, those of the last one first, when each has been
merged by a given function. -/
def gather (merge : Nat → Nodes → Except Problem Nodes) :
    Merged → List Nat → Except Problem Merged
  | found, [] => .ok found
  | (entries, ns), n :: rest =>
    match ns.content n with
    | .mapping _ =>
      match merge n ns with
      | .error p => .error p
      | .ok ns => gather merge (ns.entries n ++ entries, ns) rest
    | _ => .error .malformed

/-- Merges into a mapping what its merge keys stand for; `merged` are the entries of those taken
out before. A merge key is taken out before the mappings behind it are merged themselves: this is why
merging ends also where mappings merge each other. The fuel bounds the number of merge keys that are left. -/
def mergeWith : Nat → List (Nat × Nat) → Nat → Nodes → Except Problem Nodes
  | 0, _, _, _ => .error .malformed
  | fuel + 1, merged, n, ns =>
    match ns.takeMerge? (ns.entries n) with
    | none =>
      let ns := ns.settleKeys n
      .ok (if merged.isEmpty then ns else ns.fill n (.mapping (merged ++ ns.entries n)))
    | some (value, left) =>
      let sources : Option (List Nat) := match ns.content value with
        | .scalar _ => none
        | .mapping _ => some [value]
        | .sequence items => some items
      match sources with
      | none => .error .malformed
      | some sources =>
        match gather (mergeWith fuel []) ([], ns.fill n (.mapping left)) sources with
        | .error p => .error p
        | .ok (more, ns) => mergeWith fuel (merged ++ more) n ns

def merge (ns : Nodes) (n : Nat) : Except Problem Nodes :=
  match ns.takeMerge? (ns.entries n) with
  | none => .ok (ns.settleKeys n)
  | some _ => mergeWith (ns.mergeCount + 1) [] n ns

end Rehearsal.Yaml.Nodes
