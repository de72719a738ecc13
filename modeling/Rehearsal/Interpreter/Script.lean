import Rehearsal.Collaborator

namespace Rehearsal.Interpreter

structure Memory where
  calls : Nat := 0
  loads : Nat := 0
  deriving DecidableEq, Repr

structure Entry where
  writes : List (Bytes × Bytes) := []
  erases : List Bytes := []
  failure : Option Failure := none
  callId : Option Bytes := none
  results : List (Option Bytes) := [some [0x2a]]
  balance : Int := 1000

namespace Entry

def apply (e : Entry) (s : Store) : Store :=
  e.erases.foldl Store.erase (e.writes.foldl (fun s (key, value) => s.insert key value) s)

def answer (e : Entry) (n : Nat) : Except Failure CallResult :=
  match e.failure with
  | some f => .error f
  | none =>
    .ok ⟨e.callId.getD (List.replicate blockLength (UInt8.ofNat n)), e.results, e.balance⟩

end Entry

def follow (script : List Entry) (_ : Call) (s : State Memory) :
    Except Failure CallResult × State Memory :=
  let entry := script[s.memory.calls]?.getD {}
  let n := s.memory.calls + 1
  (entry.answer n, { s with store := entry.apply s.store, memory := { s.memory with calls := n } })

def loadListed (ids : List Bytes) (_ : Files) (_ : String) (s : State Memory) :
    Except Failure Bytes × State Memory :=
  match ids[s.memory.loads]? with
  | some id => (.ok id, { s with memory := { s.memory with loads := s.memory.loads + 1 } })
  | none => (.error (.fault (.raised "IndexError" "pop from empty list")), s)

end Rehearsal.Interpreter
