import Rehearsal.Plan
import Rehearsal.Proofs.Reference.Grammar

namespace Rehearsal.Plan

def assemble (p : Plan) : List Step → List Reference × Plan
  | [] => ([], p)
  | step :: rest =>
    let added := p.addStep step
    let later := assemble added.2 rest
    (added.1 :: later.1, later.2)

theorem adopt_addStep (p : Plan) (step other : Step) : (p.addStep step).2.adopt other = p.adopt other := rfl

theorem adopt_isChecked (p : Plan) (step : Step) : (p.adopt step).isChecked = step.isChecked := by
  unfold adopt
  split <;> rfl

theorem assemble_steps (p : Plan) (steps : List Step) :
    (p.assemble steps).2.steps = p.steps ++ steps.map p.adopt := by
  induction steps generalizing p with
  | nil => simp [assemble]
  | cons step rest ih =>
    have same : (p.addStep step).2.adopt = p.adopt := funext (adopt_addStep p step)
    simp only [assemble, ih, same]
    simp [addStep]

theorem eq_of_fields {p q : Plan} (key : p.callerKey = q.callerKey) (steps : p.steps = q.steps) :
    p = q := by
  cases p
  cases q
  simp_all

theorem assemble_callerKey (p : Plan) (steps : List Step) :
    (p.assemble steps).2.callerKey = p.callerKey := by
  induction steps generalizing p with
  | nil => rfl
  | cons step rest ih => exact ih (p.addStep step).2

theorem adopt_adopt (p : Plan) (step : Step) : p.adopt (p.adopt step) = p.adopt step := by
  unfold adopt
  split <;> simp_all

theorem assemble_again (callerKey : Text) (steps : List Step) :
    let p := (assemble { callerKey } steps).2
    (assemble { callerKey := p.callerKey } p.steps).2 = p := by
  intro p
  have key : p.callerKey = callerKey := assemble_callerKey _ steps
  have listed : p.steps = steps.map (adopt { callerKey }) := by
    simp [p, assemble_steps]
  have same : (assemble { callerKey } p.steps).2.steps = p.steps := by
    rw [assemble_steps, listed, List.map_map]
    simp [Function.comp_def, adopt_adopt]
  have kept := assemble_callerKey { callerKey } p.steps
  rw [key]
  exact eq_of_fields (kept.trans key.symm) same

theorem assemble_isChecked {callerKey : Text} {steps : List Step}
    (checked : ∀ step ∈ steps, step.isChecked = true) :
    ∀ step ∈ (assemble { callerKey } steps).2.steps, step.isChecked = true := by
  intro step member
  rw [assemble_steps] at member
  obtain ⟨given, among, rfl⟩ := List.mem_map.mp member
  rw [adopt_isChecked]
  exact checked given among

theorem assemble_length (p : Plan) (steps : List Step) :
    (p.assemble steps).1.length = steps.length := by
  induction steps generalizing p with
  | nil => rfl
  | cons step rest ih => simp only [assemble, List.length_cons, ih]

theorem assemble_reference (p : Plan) (steps : List Step) {i : Nat} {r : Reference}
    (at_i : (p.assemble steps).1[i]? = some r) : r = ⟨(p.steps.length + i : Nat)⟩ := by
  induction steps generalizing p i with
  | nil => cases at_i
  | cons step rest ih =>
    cases i with
    | zero =>
      cases at_i
      rfl
    | succ i =>
      have later := ih (p.addStep step).2 at_i
      simp only [addStep, List.length_append, List.length_singleton] at later
      rw [later]
      congr 2
      omega

end Rehearsal.Plan
