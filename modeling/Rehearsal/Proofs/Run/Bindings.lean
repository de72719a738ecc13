import Rehearsal.Proofs.Run.Effects
import Rehearsal.Proofs.Run.Lasting
import Rehearsal.Proofs.Store.Namespaces

namespace Rehearsal

variable {σ : Type}

structure Collaborators.Preserves (c : Collaborators σ) (mark : UInt8) : Prop where
  keys : ∀ name (s : State σ), s.KeptUnder mark (c.createKey name s).2
  programs : ∀ files path (s : State σ), s.KeptUnder mark (c.createProgram files path s).2
  calls : ∀ call (s : State σ), s.KeptUnder mark (c.invoke call s).2

def Run.Turn.Spares (mark : UInt8) : Run.Turn σ → Prop
  | .call _ _ => True
  | .edit change => ∀ s : State σ, s.SameUnder mark (change s)

theorem Run.Turn.spares_call (mark : UInt8) (w : Surroundings) (request : Run.Request) :
    ∀ turn ∈ [(Run.Turn.call w request : Run.Turn σ)], turn.Spares mark := by
  intro turn member
  rw [List.mem_singleton.mp member]
  trivial

theorem Dispatch.Effect.kept {c : Collaborators σ} {mark : UInt8} {files : Files} {endpoint : Endpoint}
    {maxUnits : Int} {method : Text} {params : List Parameter} {s t : State σ}
    (effect : Effect c files endpoint maxUnits method params s t) (preserves : c.Preserves mark) :
    s.KeptUnder mark t := by
  cases effect with
  | nothing => exact fun _ _ bound => bound
  | key name _ _ => exact preserves.keys name s
  | program path _ _ _ => exact preserves.programs files path s
  | call call _ => exact preserves.calls call s

namespace Run

theorem binding_lasts {c : Collaborators σ} {mark : UInt8} {turns : List (Turn σ)}
    (preserves : c.Preserves mark) (spares : ∀ turn ∈ turns, turn.Spares mark) (rest value : Bytes) :
    Lasts c turns fun s => s.machine.store.get? (mark :: rest) = some value := by
  constructor
  · intro d genuine bound
    exact genuine.effect.kept preserves rest value bound
  · intro change member s bound
    have same : s.machine.toState.SameUnder mark (change s.machine.toState) :=
      spares (.edit change) member s.machine.toState
    exact same.kept rest value bound

end Run

end Rehearsal
