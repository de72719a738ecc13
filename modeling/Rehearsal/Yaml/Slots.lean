import Rehearsal.Datum

namespace Rehearsal.Yaml.Slots

def modulus : Nat := 2 ^ (61 : Nat) - 1

def infiniteResidue : Int := 314159

/-- The residue of a number with its sign; minus one is none. As a power of two repeats after 61
places, that of a fraction is one of a whole number. -/
def residue? (d : Datum) : Option Int :=
  let signed (isNegative : Bool) (n : Nat) : Int :=
    if !isNegative then n else if n == 1 then -2 else -n
  match d with
  | .bool b => some b.toNat
  | .int i => some (signed (i < 0) (i.natAbs % modulus))
  | .float x =>
    let isNegative := Decimal.isNegative x
    match Decimal.Binary.ofBits? x.toBits with
    | some b => some (signed isNegative (b.mantissa * 2 ^ (b.exponent % 61).toNat % modulus))
    | none =>
      if x == 0.0 then some 0 else some (if isNegative then -infiniteResidue else infiniteResidue)
  | _ => none

def count (size : Nat) : Nat :=
  if size < 5 then 8 else max 8 (2 ^ ((2 * size).log2 + 1))

def stride : Nat := 10

/-- The free slot for a residue. The search goes on from a slot to one that depends on what is left
of the residue, `rest`. -/
def free (slots : Array (Option Datum)) : Nat → Nat → Nat → Option Nat
  | 0, _, _ => none
  | fuel + 1, slot, rest =>
    let near := if slot + stride ≤ slots.size then stride else 1
    match (List.range' slot near).find? fun n => (slots[n]?.join).isNone with
    | some n => some n
    | none =>
      let rest := rest / 32
      free slots fuel ((5 * slot + 1 + rest) % slots.size) rest

def put (slots : Array (Option Datum)) (entry : Datum × Int) : Array (Option Datum) :=
  let rest := (entry.2 % 2 ^ (64 : Nat)).toNat
  match free slots (slots.size + 64) (rest % slots.size) rest with
  | some n => slots.setIfInBounds n (some entry.1)
  | none => slots

/-- The members of a set in the order in which it is read. Of others than numbers the order is that
in which they are written. -/
def ordered (items : List Datum) : List Datum :=
  match items.mapM fun d => (residue? d).map (d, ·) with
  | none => items
  | some entries =>
    (entries.foldl put (Array.replicate (count items.length) none)).toList.filterMap id

end Rehearsal.Yaml.Slots
