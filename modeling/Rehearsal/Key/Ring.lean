import Rehearsal.Collaborator
import Rehearsal.Key.Ed25519

namespace Rehearsal.Key

def ed25519Mark : Int := 0

def address (publicKey : Bytes) (mark : Int := ed25519Mark) : Except Failure Bytes :=
  if publicKey.length ≠ blockLength then .error (.broken (.publicKeyLength publicKey.length))
  else if mark < 0 ∨ 255 < mark then .error (.fault .byteOutOfRange)
  else .ok (UInt8.ofNat mark.toNat :: publicKey)

def find (s : Store) (name : String) : Except Failure (Option Bytes) :=
  match s.get? (Store.seedKey name) with
  | none => .ok none
  | some seed =>
    match Block.ofBytes? seed with
    | none => .error (.broken (.corruptKey name))
    | some seed => .ok (some (Ed25519.publicKey seed).bytes)

def create {σ : Type} (name : String) (s : State σ) : Except Failure Bytes × State σ :=
  match find s.store name with
  | .error f => (.error f, s)
  | .ok (some publicKey) => (.error (.broken (.duplicateKey name publicKey)), s)
  | .ok none =>
    let (seed, draws) := s.draws.next
    let store := s.store.insert (Store.seedKey name) seed.bytes
    (.ok (Ed25519.publicKey seed).bytes, { s with store, draws })

end Rehearsal.Key
