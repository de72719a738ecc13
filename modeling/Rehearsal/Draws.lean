import Rehearsal.Identifier
import Rehearsal.Store

namespace Rehearsal

/-- A stream of random blocks, and how many of them are used up. Behind the supplied ones, draw number `n`
is the block of `n + 1`, so that a stream always gets to blocks that it has not held before. -/
structure Draws where
  supplied : List Block := []
  taken : Nat := 0
  deriving DecidableEq

namespace Draws

def block (d : Draws) (n : Nat) : Block := d.supplied[n]?.getD (Block.ofNat (n + 1))

def next (d : Draws) : Block × Draws := (d.block d.taken, { d with taken := d.taken + 1 })

def remaining (d : Draws) : Nat := d.supplied.length - d.taken

/-- The first block of a stream from a place on that names no program of a store, and its place.
`fuel` bounds how many blocks are looked at. -/
def firstFresh? (stream : Nat → Block) (s : Store) : Nat → Nat → Option (Block × Nat)
  | 0, _ => none
  | fuel + 1, n =>
    if s.contains (Store.programKey (stream n).bytes) then firstFresh? stream s fuel (n + 1)
    else some (stream n, n)

/-- Draws until a block names no program of the store. Behind the supplied blocks each draw is new,
so one more draw than the store has entries finds one. -/
def nextFresh? (d : Draws) (s : Store) : Option (Block × Draws) :=
  (firstFresh? d.block s (d.remaining + s.size + 1) d.taken).map fun (id, n) =>
    (id, { d with taken := n + 1 })

end Draws

end Rehearsal
