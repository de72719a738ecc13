import Rehearsal.Failure

namespace Rehearsal.Contract

def refuse {α : Type} (index : Int) (cause : Rejection.Cause) : Except Failure α :=
  .error (.rejected ⟨cause, some index⟩)

def refuseKind {α : Type} (index : Int) (kind : Kind) (cause : String → Rejection.Cause) :
    Except Failure α :=
  if kind.isChecked then refuse index (cause kind.label) else .error (.fault .uncheckedLabel)

def demand (index : Int) (first kind : Kind) (requirement : Requirement) : Except Failure Unit :=
  if first.settled = kind then .ok ()
  else refuseKind index first (.wrongFirst · requirement)

/-- Checks the first parameter of a step against its endpoint: a key step begins with a key, a
readonly step with an identifier, and an execute step with the path of the program that it creates
or the identifier of the program that it calls. -/
def check (index : Int) (s : Step) : Except Failure Unit :=
  match s.params with
  | [] => refuse index .noParams
  | first :: _ =>
    match s.endpoint.settled with
    | .key =>
      if first.kind.settled = .ed25519 ∨ first.kind.settled = .secp256k1 then .ok ()
      else refuseKind index first.kind .notKey
    | .readonly => demand index first.kind .id .id
    | .execute =>
      if s.method = programCreate then demand index first.kind .string .string
      else demand index first.kind .id .id
    | .unchecked label => refuse index (.unknownEndpoint label)

end Rehearsal.Contract
