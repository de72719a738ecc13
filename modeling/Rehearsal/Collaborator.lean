import Rehearsal.Draws
import Rehearsal.Failure

namespace Rehearsal

structure Surroundings where
  files : Files := {}
  clock : Int := 0

namespace Surroundings

/-- The current second, with fractions cut off toward zero. The clock is read in seconds as the
nearest float, so that far from 1970 it is only nearly exact. -/
def second (w : Surroundings) : Int :=
  let magnitude := Decimal.truncated (Decimal.ofQuotient w.clock.natAbs 1000000)
  if w.clock < 0 then -magnitude else magnitude

end Surroundings

structure State (σ : Type) where
  store : Store := {}
  draws : Draws := {}
  memory : σ
  deriving DecidableEq

structure Call where
  programId : Bytes
  params : List Parameter
  method : Text
  maxUnits : Int
  deriving DecidableEq, Repr

structure Collaborators (σ : Type) where
  /-- the public key of a named key, if there is one -/
  publicKey : State σ → String → Except Failure (Option Bytes)
  /-- creates a named key and gives its public key -/
  createKey : String → State σ → Except Failure Bytes × State σ
  /-- creates a program from the module at a path and gives its identifier -/
  createProgram : Files → String → State σ → Except Failure Bytes × State σ
  /-- calls a program -/
  invoke : Call → State σ → Except Failure CallResult × State σ

namespace Program

def readModule (files : Files) (path : String) : Except Failure Bytes :=
  if path.contains '\x00' then .error (.fault .nullInPath)
  else
    match files.read path with
    | .error p => .error (.broken (.unreadableProgram path (p.message (Path.normal path))))
    | .ok [] => .error (.broken (.emptyProgram path))
    | .ok code => .ok code

def create {σ : Type} (files : Files) (path : String) (s : State σ) :
    Except Failure Bytes × State σ :=
  match readModule files path with
  | .error f => (.error f, s)
  | .ok code =>
    match s.draws.nextFresh? s.store with
    | none => (.error (.fault .drawsExhausted), s)
    | some (id, draws) =>
      (.ok id.bytes, { s with store := s.store.insert (Store.programKey id.bytes) code, draws })

def find (s : Store) (id : Bytes) : Option Bytes := s.get? (Store.programKey id)

end Program

end Rehearsal
