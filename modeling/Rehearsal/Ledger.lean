import Rehearsal.Identifier

namespace Rehearsal

structure Ledger where
  entries : List (Int × Block) := []
  step : Nat := 0
  deriving DecidableEq

namespace Ledger

inductive Refusal
  | badLength (index : Int) (length : Nat)
  | taken (index : Int)
  deriving DecidableEq, Repr

def Refusal.message : Refusal → String
  | .badLength index length =>
    s!"identifier for step {index} must be {blockLength} bytes, got {length}"
  | .taken index => s!"step {index} already has an identifier recorded"

def find? (index : Int) : List (Int × Block) → Option Block
  | [] => none
  | (i, id) :: rest => if i = index then some id else find? index rest

def lookup (l : Ledger) (index : Int) : Option Block := find? index l.entries

def contains (l : Ledger) (index : Int) : Bool := (l.lookup index).isSome

def size (l : Ledger) : Nat := l.entries.length

def indexes (l : Ledger) : List Int := l.entries.map Prod.fst

def texts (l : Ledger) : List (Int × String) := l.entries.map fun (i, id) => (i, id.text)

def advance (l : Ledger) : Ledger := { l with step := l.step + 1 }

def place (index : Int) (id : Block) : List (Int × Block) → List (Int × Block)
  | [] => [(index, id)]
  | (i, x) :: rest => if index < i then (index, id) :: (i, x) :: rest else (i, x) :: place index id rest

def record (l : Ledger) (index : Int) (bytes : Bytes) : Except Refusal Ledger :=
  match Block.ofBytes? bytes with
  | none => .error (.badLength index bytes.length)
  | some id =>
    if l.contains index then .error (.taken index)
    else .ok { l with entries := place index id l.entries }

end Ledger

end Rehearsal
