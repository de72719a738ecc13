import Rehearsal.Key.Ring
import Rehearsal.Reference

namespace Rehearsal.Resolve

structure Scope (σ : Type) where
  ledger : Ledger
  state : State σ
  files : Files
  endpoint : Endpoint
  index : Option Int

variable {σ : Type}

def Scope.refuse {α : Type} (w : Scope σ) (cause : Rejection.Cause) : Except Failure α :=
  .error (.rejected ⟨cause, w.index⟩)

def Scope.text (w : Scope σ) (p : Parameter) : Except Failure String :=
  match Utf8.decode? p.value with
  | some s => .ok s
  | none =>
    if p.kind.isChecked then w.refuse (.undecodable p.kind.label p.value)
    else .error (.fault .uncheckedLabel)

def exists? (files : Files) (path : String) : Except Failure Bool :=
  if path.contains '\x00' then .ok false
  else
    match files.find path with
    | .ok _ => .ok true
    | .error p => if p.isAbsence then .ok false else .error (.fault (.file p (Path.normal path)))

/-- The parameter with the value that an identifier gives it; its kind is checked from here on. -/
def withValue (p : Parameter) (value : Bytes) : Parameter := ⟨p.kind.settled, value⟩

def reference (w : Scope σ) (p : Parameter) : Except Failure Parameter :=
  match Reference.read p.value with
  | .malformed => w.refuse (.badReference (Reference.shown p.value))
  | .oversized digits => .error (.fault (.tooManyDigits digits))
  | .index i =>
    match w.ledger.lookup i with
    | some id => .ok (withValue p id.bytes)
    | none => w.refuse (.unmapped (Reference.shown p.value))

def identifier (w : Scope σ) (p : Parameter) : Except Failure Parameter :=
  if Reference.isClaimed p.value then reference w p
  else
    match Identifier.ofValue? p.value with
    | some id => .ok (withValue p id)
    | none => do
      let path ← w.text p
      if ← exists? w.files path then return p else w.refuse (.noPath path)

/-- Resolves the name of a key to its address. A key step may name a key that there is not. -/
def namedKey (c : Collaborators σ) (w : Scope σ) (p : Parameter) : Except Failure Parameter := do
  let name ← w.text p
  match ← c.publicKey w.state name with
  | some publicKey => return withValue p (← Key.address publicKey)
  | none => if w.endpoint.settled = .key then return p else w.refuse (.noKey name)

/-- Resolves the parameter at a position. The first parameter of a key step names the key to be
created and stays as it is. -/
def parameter (c : Collaborators σ) (w : Scope σ) (position : Nat) (p : Parameter) :
    Except Failure Parameter :=
  match p.kind.settled with
  | .string | .id => identifier w p
  | .ed25519 =>
    if w.endpoint.settled = .key ∧ position = 0 then (w.text p).map fun _ => p
    else namedKey c w p
  | .secp256k1 => w.refuse .secp256k1
  | .u64 | .bool => .ok p
  | .unchecked label => w.refuse (.unknownKind label)

def parametersFrom (c : Collaborators σ) (w : Scope σ) : Nat → List Parameter → Except Failure (List Parameter)
  | _, [] => .ok []
  | position, p :: rest =>
    match parameter c w position p with
    | .error f => .error f
    | .ok p =>
      match parametersFrom c w (position + 1) rest with
      | .error f => .error f
      | .ok ps => .ok (p :: ps)

def all (c : Collaborators σ) (w : Scope σ) (params : List Parameter) :
    Except Failure (List Parameter) :=
  parametersFrom c w 0 params

end Rehearsal.Resolve
