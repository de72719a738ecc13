import Rehearsal.Run

namespace Rehearsal

variable {σ : Type} {c : Collaborators σ}

namespace Dispatch

def callWith? (method : Text) (maxUnits : Int) (params : List Parameter) : Option Call :=
  match firstId params with
  | .ok programId => some ⟨programId, params.drop 1, method, maxUnits⟩
  | .error _ => none

def call? (endpoint : Endpoint) (maxUnits : Int) (method : Text) (params : List Parameter) :
    Option Call :=
  match endpoint.settled with
  | .execute => if method = programCreate then none else callWith? method maxUnits params
  | .readonly => callWith? method maxBudget params
  | .key | .unchecked _ => none

theorem firstId_ok {params : List Parameter} {id : Bytes} :
    firstId params = .ok id ↔
      ∃ p rest, params = p :: rest ∧ p.value = id ∧ p.value.length = blockLength := by
  cases params with
  | nil => simp [firstId, first, bind, Except.bind]
  | cons p rest =>
    by_cases length : p.value.length = blockLength
    · simp [firstId, first, bind, Except.bind, pure, Except.pure, length]
    · simp [firstId, first, bind, Except.bind, length]

theorem callWith_some {method : Text} {maxUnits : Int} {params : List Parameter} {call : Call} :
    callWith? method maxUnits params = some call ↔
      ∃ p rest, params = p :: rest ∧ p.value.length = blockLength ∧
        call = ⟨p.value, rest, method, maxUnits⟩ := by
  unfold callWith?
  cases read : firstId params with
  | error f =>
    simp only [reduceCtorEq, false_iff]
    rintro ⟨p, rest, rfl, length, _⟩
    rw [firstId_ok.mpr ⟨p, rest, rfl, rfl, length⟩] at read
    cases read
  | ok id =>
    obtain ⟨p, rest, rfl, rfl, length⟩ := firstId_ok.mp read
    constructor
    · intro made
      cases made
      exact ⟨p, rest, rfl, length, rfl⟩
    · rintro ⟨q, others, same, _, rfl⟩
      cases same
      rfl

theorem call_some {endpoint : Endpoint} {maxUnits : Int} {method : Text} {params : List Parameter}
    {call : Call} :
    call? endpoint maxUnits method params = some call ↔
      ∃ p rest budget, params = p :: rest ∧ p.value.length = blockLength ∧
        call = ⟨p.value, rest, method, budget⟩ ∧
        (endpoint.settled = .readonly ∧ budget = maxBudget ∨
          endpoint.settled = .execute ∧ method ≠ programCreate ∧ budget = maxUnits) := by
  unfold call?
  cases settled : endpoint.settled with
  | key | unchecked label => simp
  | readonly =>
    rw [callWith_some]
    constructor
    · rintro ⟨p, rest, params, length, made⟩
      exact ⟨p, rest, maxBudget, params, length, made, .inl ⟨rfl, rfl⟩⟩
    · rintro ⟨p, rest, budget, params, length, rfl, ⟨_, rfl⟩ | ⟨other, _⟩⟩
      · exact ⟨p, rest, params, length, rfl⟩
      · cases other
  | execute =>
    by_cases creates : method = programCreate
    · simp [creates]
    · rw [if_neg creates, callWith_some]
      constructor
      · rintro ⟨p, rest, params, length, made⟩
        exact ⟨p, rest, maxUnits, params, length, made, .inr ⟨rfl, creates, rfl⟩⟩
      · rintro ⟨p, rest, budget, params, length, rfl, ⟨other, _⟩ | ⟨_, _, rfl⟩⟩
        · cases other
        · exact ⟨p, rest, params, length, rfl⟩

theorem invoke_calls (method : Text) (maxUnits : Int) (params : List Parameter) (m : Machine σ) :
    (invoke c method maxUnits params m).2.calls =
      m.calls ++ (callWith? method maxUnits params).toList := by
  unfold invoke callWith?
  cases firstId params <;> simp

theorem perform_calls (files : Files) (endpoint : Endpoint) (maxUnits : Int) (method : Text)
    (params : List Parameter) (m : Machine σ) :
    (perform c files endpoint maxUnits method params m).2.calls =
      m.calls ++ (call? endpoint maxUnits method params).toList := by
  unfold perform call?
  cases endpoint.settled with
  | key | unchecked label => simp
  | readonly => exact invoke_calls method maxBudget params m
  | execute =>
    by_cases creates : method = programCreate
    · simp [creates]
    · simp only [creates, ↓reduceIte]
      exact invoke_calls method maxUnits params m

end Dispatch

namespace Run

def callOf (step : Step) (params : List Parameter) : Option Call :=
  Dispatch.call? step.endpoint step.maxUnits step.method params

theorem carryOut_calls (w : Surroundings) (step : Step) (params : List Parameter) (s : Session σ) :
    (carryOut c w step params s).2.calls = s.machine.calls ++ (callOf step params).toList := by
  have performed := Dispatch.perform_calls (c := c) w.files step.endpoint step.maxUnits step.method
    params s.machine
  unfold carryOut Dispatch.into callOf
  cases done : Dispatch.perform c w.files step.endpoint step.maxUnits step.method params s.machine with
  | mk result m =>
    rw [done] at performed
    cases result <;> exact performed

theorem callOf_some {step : Step} {params : List Parameter} {call : Call}
    (made : callOf step params = some call) :
    ∃ p rest, params = p :: rest ∧ p.value.length = blockLength ∧ call.programId = p.value ∧
      call.params = rest := by
  obtain ⟨p, rest, budget, rfl, length, rfl, _⟩ := Dispatch.call_some.mp made
  exact ⟨p, rest, rfl, length, rfl, rfl⟩

end Run

end Rehearsal
