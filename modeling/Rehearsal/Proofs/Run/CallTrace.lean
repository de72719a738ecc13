import Rehearsal.Proofs.Loading.CheckedSteps
import Rehearsal.Proofs.Run.Effects
import Rehearsal.Proofs.Run.Indifference

namespace Rehearsal

variable {σ : Type} {c : Collaborators σ}

namespace Dispatch

variable {files : Files} {endpoint : Endpoint} {maxUnits : Int} {method : Text}
  {params : List Parameter}

theorem invoke_called {m : Machine σ} {call : Call} (made : callWith? method maxUnits params = some call) :
    invoke c method maxUnits params m =
      ((c.invoke call m.toState).1, ⟨(c.invoke call m.toState).2, m.calls ++ [call]⟩) := by
  unfold callWith? at made
  unfold invoke
  cases first : firstId params <;> simp only [first] at made ⊢ <;> cases made
  rfl

theorem invoke_uncalled {m : Machine σ} (none : callWith? method maxUnits params = none)
    (invoke' : Call → State σ → Except Failure CallResult × State σ) :
    invoke { c with invoke := invoke' } method maxUnits params m = invoke c method maxUnits params m := by
  unfold callWith? at none
  unfold invoke
  cases first : firstId params <;> simp only [first] at none ⊢
  cases none

theorem perform_called {m : Machine σ} {call : Call}
    (made : call? endpoint maxUnits method params = some call) :
    (perform c files endpoint maxUnits method params m).2.toState = (c.invoke call m.toState).2 := by
  unfold call? at made
  unfold perform
  cases settled : endpoint.settled <;> simp only [settled] at made ⊢
  case key => cases made
  case readonly => rw [invoke_called made]
  case execute =>
    split at made
    · cases made
    · rename_i calls
      simp only [calls, ↓reduceIte, invoke_called made]
  case unchecked => cases made

theorem perform_uncalled {m : Machine σ} (none : call? endpoint maxUnits method params = none)
    (invoke' : Call → State σ → Except Failure CallResult × State σ) :
    perform { c with invoke := invoke' } files endpoint maxUnits method params m =
      perform c files endpoint maxUnits method params m := by
  unfold call? at none
  unfold perform
  cases settled : endpoint.settled <;> simp only [settled] at none ⊢
  case key => rfl
  case readonly => rw [invoke_uncalled none]
  case execute =>
    split at none
    · rename_i creates
      simp only [creates, ↓reduceIte]
      rfl
    · rename_i calls
      simp only [calls, ↓reduceIte, invoke_uncalled none]

end Dispatch

namespace Run

variable {turns : List (Turn σ)} {s : Session σ}

theorem carryOut_uncalled {w : Surroundings} {step : Step} {params : List Parameter}
    (none : callOf step params = none)
    (invoke' : Call → State σ → Except Failure CallResult × State σ) :
    carryOut { c with invoke := invoke' } w step params s = carryOut c w step params s := by
  unfold carryOut Dispatch.into
  rw [Dispatch.perform_uncalled none]

def Request.IsChecked : Request → Prop
  | .one step => step.isChecked = true
  | .loaded _ _ => True
  | .all plan => ∀ step ∈ plan.steps, step.isChecked = true

def Turn.IsChecked : Turn σ → Prop
  | .call _ request => request.IsChecked
  | .edit _ => True

theorem Request.IsChecked.steps {files : Files} {request : Request} (checked : request.IsChecked) :
    ∀ step ∈ request.steps files, step.isChecked = true := by
  intro step member
  cases request with
  | one other =>
    rw [List.mem_singleton.mp member]
    exact checked
  | loaded text file =>
    unfold Request.steps at member
    cases loaded : Load.step files text file <;> simp only [loaded] at member
    · cases member
    · rw [List.mem_singleton.mp member]
      exact Load.step_isChecked loaded
  | all plan => exact checked step member

theorem deeds_isChecked (opened : s.ledger.IsOpen) (checked : ∀ turn ∈ turns, turn.IsChecked) :
    ∀ d ∈ deeds c turns s, d.step.isChecked = true := by
  induction turns generalizing s with
  | nil =>
    intro d member
    cases member
  | cons turn rest ih =>
    intro d member
    rcases List.mem_append.mp member with here | later
    · cases turn with
      | edit change => cases here
      | call w request =>
        obtain ⟨n, at_n⟩ := List.mem_iff_getElem?.mp here
        obtain ⟨_, _, given, _⟩ := deedsOf_getElem (request.steps w.files) opened at_n
        have asked : request.IsChecked := checked (.call w request) List.mem_cons_self
        exact asked.steps d.step (List.mem_of_getElem? given)
    · have openedNext : (turn.play c s).ledger.IsOpen := play_isOpen [turn] opened
      exact ih openedNext (fun turn member => checked turn (List.mem_cons_of_mem _ member)) d later

theorem Deed.Genuine.calls {d : Deed σ} (genuine : d.Genuine c) :
    d.after.machine.calls = d.before.machine.calls ++ (callOf d.step d.params).toList := by
  rw [genuine.machine, carryOut_calls]

theorem play_calls (turns : List (Turn σ)) (opened : s.ledger.IsOpen) :
    (play c turns s).machine.calls =
      s.machine.calls ++ (deeds c turns s).flatMap fun d => (callOf d.step d.params).toList := by
  have kept := (history_induction (c := c)
    (motive := fun t ds => t.machine.calls =
      s.machine.calls ++ ds.flatMap fun d => (callOf d.step d.params).toList)
    (fun ds d genuine before => by
      rw [genuine.calls, before, List.flatMap_append, List.append_assoc]
      simp)
    turns [] opened (fun _ _ _ _ before => before) (by simp)).2
  simpa using kept

/-- The program calls of a run of checked steps are exactly those of the steps that are carried out, in
their order. Such a step makes one call if it is readonly, or an execute step that creates no program,
and if its first parameter as resolved has 32 bytes: of the program that these bytes name, with all other
parameters, its method and, as the budget, its own if it is charged and else the largest. Any other step
makes none and does the same whatever the interpreter is. And a run whose steps differ only in budgets
that are not used and in caller keys answers the same and leaves the same. -/
theorem calls_are_those_of_the_steps (c : Collaborators σ) (m : Machine σ)
    (checked : ∀ turn ∈ turns, turn.IsChecked) :
    let s := play c turns ⟨m, {}⟩
    let ds := deeds c turns ⟨m, {}⟩
    s.machine.calls = m.calls ++ ds.flatMap (fun d => (callOf d.step d.params).toList) ∧
    (∀ d ∈ ds,
      (∀ call, callOf d.step d.params = some call ↔
        ∃ p rest budget, d.params = p :: rest ∧ p.value.length = 32 ∧
          call = ⟨p.value, rest, d.step.method, budget⟩ ∧
          (d.step.endpoint = .readonly ∧ budget = 2 ^ (64 : Nat) - 1 ∨
            d.step.endpoint = .execute ∧ d.step.method ≠ "program_create" ∧
              budget = d.step.maxUnits)) ∧
      0 ≤ d.step.maxUnits ∧ d.step.maxUnits ≤ 2 ^ (64 : Nat) - 1 ∧
      d.after.machine.calls = d.before.machine.calls ++ (callOf d.step d.params).toList ∧
      (∀ call, callOf d.step d.params = some call →
        d.after.machine.toState = (c.invoke call d.before.machine.toState).2) ∧
      (callOf d.step d.params = none → ∀ invoke,
        carryOut { c with invoke } d.surroundings d.step d.params d.before =
          (d.answer, d.after.machine))) ∧
    ∀ turns', List.Forall₂ Turn.Alike turns turns' →
      play c turns' ⟨m, {}⟩ = s ∧ answers c turns' ⟨m, {}⟩ = answers c turns ⟨m, {}⟩ ∧
        (deeds c turns' ⟨m, {}⟩).map Deed.record = ds.map Deed.record := by
  intro s ds
  refine ⟨play_calls turns Ledger.isOpen_fresh, ?_, fun turns' alike => play_alike alike⟩
  intro d member
  have genuine := deeds_genuine turns Ledger.isOpen_fresh d member
  have known := deeds_isChecked Ledger.isOpen_fresh checked d member
  obtain ⟨nonneg, bound⟩ := Step.budget_bounds known
  refine ⟨?_, nonneg, bound, genuine.calls, ?_, ?_⟩
  · intro call
    have settled := Endpoint.settled_of_isChecked (Step.endpoint_isChecked known)
    unfold callOf
    rw [Dispatch.call_some, settled]
    rfl
  · intro call made
    rw [genuine.left]
    exact Dispatch.perform_called made
  · intro none invoke
    rw [carryOut_uncalled none, genuine.answer, genuine.machine]

theorem readonly_call_has_the_largest_budget :
    let c := collaborators sevens
    let cheap : Step := { callZeros .readonly with maxUnits := 5, callerKey := some "alice" }
    let turns := [.call {} (.one (callZeros .readonly))]
    let s := play c turns ⟨blank, {}⟩
    (∀ turn ∈ turns, turn.IsChecked) ∧
      s.machine.calls = [⟨List.replicate 32 0, [], "m", 2 ^ (64 : Nat) - 1⟩] ∧
      play c [.call {} (.one cheap)] ⟨blank, {}⟩ = s := by
  intro c cheap turns s
  have checked : ∀ turn ∈ turns, turn.IsChecked := by
    intro turn member
    rw [List.mem_singleton.mp member]
    exact rfl
  have alike : (callZeros .readonly).Alike cheap := ⟨rfl, rfl, rfl, fun other => by cases other⟩
  obtain ⟨trace, _, same⟩ := calls_are_those_of_the_steps c blank checked
  have carried := callZeros_carriesOut c (.inr rfl)
  obtain ⟨r, answered⟩ := carryOut_recorded sevens_failRecordably {} (callZeros .readonly)
    [⟨.id, List.replicate 32 0⟩] ⟨blank, {}⟩
  refine ⟨checked, ?_, (same _ (.cons (.call {} (.one alike)) .nil)).1⟩
  rw [trace]
  simp only [turns, deeds, Turn.deeds, Request.deeds, Request.steps, deedsOf_recorded [] carried answered]
  rfl

end Run

end Rehearsal
