import Rehearsal.Proofs.Run.LedgerProjection

namespace Rehearsal

def Event.isStart : Event → Bool
  | started .. => true
  | _ => false

namespace Run

variable {σ : Type} {c : Collaborators σ} {w : Surroundings} {step : Step} {s : Session σ}

/-- A step that a run takes up: it is carried out, or a failure stops it in a session that stays. -/
inductive Attempt (σ : Type)
  | done (d : Deed σ)
  | stopped (s : Session σ) (f : Failure)

namespace Attempt

/-- The events of an attempt. One that loses its record starts and does not end, and of one that is
stopped by anything but a rejection there are none. -/
def trace : Attempt σ → List Event
  | done d =>
    .started d.before.ledger.step d.step.endpoint.label d.step.method d.step.maxUnits d.params.length ::
      match d.answer with
      | .error _ => []
      | .ok r =>
        match r.error with
        | none => [.completed d.before.ledger.step d.step.endpoint.label d.step.method r.result.id]
        | some error => [.failed d.before.ledger.step error r.errorKind]
  | stopped s (.rejected r) => [.rejected s.ledger.step r.message r.family.code]
  | stopped _ _ => []

def deed? : Attempt σ → Option (Deed σ)
  | done d => some d
  | stopped .. => none

theorem countP_trace (as : List (Attempt σ)) :
    (as.flatMap trace).countP Event.isStart = (as.filterMap deed?).length := by
  induction as with
  | nil => rfl
  | cons a rest ih =>
    rw [List.flatMap_cons, List.countP_append, ih]
    cases a with
    | done d =>
      have one : (Attempt.done d).trace.countP Event.isStart = 1 := by
        simp only [trace]
        split
        · rfl
        · split <;> rfl
      rw [one, Nat.add_comm]
      rfl
    | stopped s f =>
      have none : (Attempt.stopped s f).trace.countP Event.isStart = 0 := by cases f <;> rfl
      rw [none, Nat.zero_add]
      rfl

def index : Attempt σ → Nat
  | done d => d.before.ledger.step
  | stopped s _ => s.ledger.step

/-- How an attempt comes about: the step is run, or it is stopped while it is run or loaded. -/
inductive Genuine (c : Collaborators σ) : Attempt σ → Prop
  | done {d : Deed σ} (genuine : d.Genuine c) : Genuine c (.done d)
  | run {w : Surroundings} {step : Step} {s : Session σ} {f : Failure}
      (fails : Run.run c w step s = Run.stopped s f) : Genuine c (.stopped s f)
  | load {w : Surroundings} {text file : Option Text} {f : Failure}
      (fails : Load.step w.files text file = .error f) (s : Session σ) : Genuine c (.stopped s f)

end Attempt

def attemptsOf (c : Collaborators σ) (w : Surroundings) : List Step → Session σ → List (Attempt σ)
  | [], _ => []
  | step :: rest, s =>
    match deed? c w step s, (run c w step s).result with
    | some d, .ok _ => .done d :: attemptsOf c w rest d.after
    | some d, .error _ => [.done d]
    | none, .error f => [.stopped s f]
    | none, .ok _ => []

section

variable {params : List Parameter} (rest : List Step)

theorem attemptsOf_stopped {f : Failure} (opened : s.ledger.IsOpen) (stop : run c w step s = stopped s f) :
    attemptsOf c w (step :: rest) s = [.stopped s f] := by
  have result : (run c w step s).result = .error f := by rw [stop, stopped_result]
  simp only [attemptsOf, deed_of_stopped opened stop, result]

theorem attemptsOf_recorded {r : Response} (carried : CarriesOut c w step s params)
    (answered : (carryOut c w step params s).1 = .ok r) :
    attemptsOf c w (step :: rest) s = .done ⟨w, s, step, params, .ok r, (run c w step s).session⟩ ::
      attemptsOf c w rest (run c w step s).session := by
  simp only [attemptsOf, deed_of_carriesOut carried, carried.result, answered]

theorem attemptsOf_lost {f : Failure} (carried : CarriesOut c w step s params)
    (lost : (carryOut c w step params s).1 = .error f) :
    attemptsOf c w (step :: rest) s =
      [.done ⟨w, s, step, params, .error f, (run c w step s).session⟩] := by
  simp only [attemptsOf, deed_of_carriesOut carried, carried.result, lost]

end

theorem stopped_events {α : Type} (s : Session σ) (f : Failure) :
    (stopped s f : Ran σ α).events = (Attempt.stopped s f).trace := by
  cases f <;> rfl

theorem CarriesOut.trace {params : List Parameter} (carried : CarriesOut c w step s params)
    (after : Session σ) :
    (run c w step s).events =
      (Attempt.done ⟨w, s, step, params, (carryOut c w step params s).1, after⟩).trace := by
  rw [carried.events, Attempt.trace]
  cases answered : (carryOut c w step params s).1 with
  | error f => rfl
  | ok r =>
    have id := carryOut_id answered
    simp only [endings, ending]
    cases error : r.error with
    | none =>
      have ok : r.isOk = true := by rw [Response.isOk, error]; rfl
      simp only [id, producedId, ok, ↓reduceIte]
      rfl
    | some text =>
      simp only [id]
      rfl

theorem runRest_events (total : Nat) (steps : List Step) (responses : List Response)
    (opened : s.ledger.IsOpen) :
    (runRest c w total responses steps s).events = (attemptsOf c w steps s).flatMap Attempt.trace := by
  induction steps generalizing s responses with
  | nil => rfl
  | cons step rest ih =>
    rcases run_cases c w step opened with ⟨f, stop⟩ | ⟨params, carried⟩
    · rw [attemptsOf_stopped rest opened stop, List.flatMap_singleton, ← stopped_events (α := Response),
        ← stop]
      simp only [runRest_cons, stop, stopped_result]
    · have told := carried.trace (run c w step s).session
      cases answered : (carryOut c w step params s).1 with
      | error f =>
        rw [answered] at told
        rw [attemptsOf_lost rest carried answered, List.flatMap_singleton, ← told]
        simp only [runRest_cons, carried.result, answered]
      | ok r =>
        rw [answered] at told
        rw [attemptsOf_recorded rest carried answered, List.flatMap_cons, ← told]
        simp only [runRest_cons, carried.result, answered]
        rw [ih _ (carried.ledger.isOpen opened)]

theorem attemptsOf_deeds (steps : List Step) (opened : s.ledger.IsOpen) :
    (attemptsOf c w steps s).filterMap Attempt.deed? = deedsOf c w steps s := by
  induction steps generalizing s with
  | nil => rfl
  | cons step rest ih =>
    rcases run_cases c w step opened with ⟨f, stop⟩ | ⟨params, carried⟩
    · rw [attemptsOf_stopped rest opened stop, deedsOf_stopped rest opened stop]
      rfl
    · cases answered : (carryOut c w step params s).1 with
      | error f =>
        rw [attemptsOf_lost rest carried answered, deedsOf_lost rest carried answered]
        rfl
      | ok r =>
        rw [attemptsOf_recorded rest carried answered, deedsOf_recorded rest carried answered]
        exact congrArg (_ :: ·) (ih (carried.ledger.isOpen opened))

theorem attemptsOf_genuine (steps : List Step) (opened : s.ledger.IsOpen) :
    ∀ a ∈ attemptsOf c w steps s, a.Genuine c := by
  induction steps generalizing s with
  | nil => simp [attemptsOf]
  | cons step rest ih =>
    intro a member
    rcases run_cases c w step opened with ⟨f, stop⟩ | ⟨params, carried⟩
    · rw [attemptsOf_stopped rest opened stop] at member
      rw [List.mem_singleton.mp member]
      exact .run stop
    · have genuine := (deed_genuine opened (deed_of_carriesOut carried)).1
      cases answered : (carryOut c w step params s).1 with
      | error f =>
        rw [attemptsOf_lost rest carried answered] at member
        rw [answered] at genuine
        rw [List.mem_singleton.mp member]
        exact .done genuine
      | ok r =>
        rw [attemptsOf_recorded rest carried answered] at member
        rw [answered] at genuine
        rcases List.mem_cons.mp member with rfl | later
        · exact .done genuine
        · exact ih (carried.ledger.isOpen opened) a later

def recorded (as : List (Attempt σ)) : List Response := responses (as.filterMap Attempt.deed?)

theorem recorded_cons (a : Attempt σ) (rest : List (Attempt σ)) :
    recorded (a :: rest) = recorded [a] ++ recorded rest := by
  rw [recorded, recorded, recorded, ← responses_append, ← List.filterMap_append]
  rfl

/-- Attempts whose counter goes up by one with each that gets a response, from a number on. -/
def Numbered : Nat → List (Attempt σ) → Prop
  | _, [] => True
  | n, a :: rest => a.index = n ∧ Numbered (n + (recorded [a]).length) rest

theorem Numbered.append {xs ys : List (Attempt σ)} {n : Nat} (first : Numbered n xs)
    (later : Numbered (n + (recorded xs).length) ys) : Numbered n (xs ++ ys) := by
  induction xs generalizing n with
  | nil => exact later
  | cons a rest ih =>
    obtain ⟨here, others⟩ := first
    rw [recorded_cons, List.length_append, ← Nat.add_assoc] at later
    exact ⟨here, ih others later⟩

theorem Numbered.index {xs ys : List (Attempt σ)} {a : Attempt σ} {n : Nat}
    (numbered : Numbered n (xs ++ a :: ys)) : a.index = n + (recorded xs).length := by
  induction xs generalizing n with
  | nil => exact numbered.1
  | cons x rest ih =>
    rw [recorded_cons, List.length_append, ← Nat.add_assoc]
    exact ih numbered.2

theorem attemptsOf_numbered (steps : List Step) (opened : s.ledger.IsOpen) :
    Numbered s.ledger.step (attemptsOf c w steps s) := by
  induction steps generalizing s with
  | nil => trivial
  | cons step rest ih =>
    rcases run_cases c w step opened with ⟨f, stop⟩ | ⟨params, carried⟩
    · rw [attemptsOf_stopped rest opened stop]
      exact ⟨rfl, trivial⟩
    · cases answered : (carryOut c w step params s).1 with
      | error f =>
        rw [attemptsOf_lost rest carried answered]
        exact ⟨rfl, trivial⟩
      | ok r =>
        have later := ih (carried.ledger.isOpen opened)
        rw [(carried.ledger.recorded r answered).step] at later
        rw [attemptsOf_recorded rest carried answered]
        exact ⟨rfl, later⟩

theorem deedsOf_step (steps : List Step) (opened : s.ledger.IsOpen) :
    (ended s (deedsOf c w steps s)).ledger.step =
      s.ledger.step + (responses (deedsOf c w steps s)).length := by
  have counted := (deedsOf_induction (c := c) (w := w)
    (motive := fun t ds => t.ledger.step = s.ledger.step + (responses ds).length)
    (fun ds d genuine before => by
      rw [responses_append, List.length_append, ← Nat.add_assoc, ← before, responses_cons]
      cases answered : d.answer with
      | error f =>
        rw [Deed.response?, answered, (genuine.lost answered).2]
        rfl
      | ok r =>
        rw [Deed.response_some.mpr answered, (genuine.next answered).step]
        rfl)
    steps [] opened rfl).2
  rwa [List.nil_append] at counted

namespace Request

def attempts (c : Collaborators σ) (w : Surroundings) (s : Session σ) : Request → List (Attempt σ)
  | .one step => attemptsOf c w [step] s
  | .loaded text file =>
    match Load.step w.files text file with
    | .ok step => attemptsOf c w [step] s
    | .error f => [.stopped s f]
  | .all plan => attemptsOf c w plan.steps s

/-- The attempts of a request are those of its steps, or it cannot be loaded. -/
theorem attempts_cases (request : Request) :
    request.attempts c w s = attemptsOf c w (request.steps w.files) s ∨
      ∃ text file f, request = .loaded text file ∧ Load.step w.files text file = .error f ∧
        request.attempts c w s = [.stopped s f] ∧ request.steps w.files = [] := by
  cases request with
  | one step => exact .inl rfl
  | all plan => exact .inl rfl
  | loaded text file =>
    cases loaded : Load.step w.files text file with
    | ok step =>
      left
      simp only [attempts, steps, loaded]
    | error f =>
      right
      exact ⟨text, file, f, rfl, loaded, by simp only [attempts, loaded], by simp only [steps, loaded]⟩

theorem runAlone_events (step : Step) (opened : s.ledger.IsOpen) :
    (run c w step s).alone.events = (attemptsOf c w [step] s).flatMap Attempt.trace := by
  rcases run_cases c w step opened with ⟨f, stop⟩ | ⟨params, carried⟩
  · rw [attemptsOf_stopped [] opened stop, List.flatMap_singleton, ← stopped_events (α := Response), ← stop]
    rfl
  · have told := carried.trace (run c w step s).session
    cases answered : (carryOut c w step params s).1 with
    | error f =>
      rw [answered] at told
      rw [attemptsOf_lost [] carried answered, List.flatMap_singleton, ← told]
      rfl
    | ok r =>
      rw [answered] at told
      rw [attemptsOf_recorded [] carried answered, attemptsOf, List.flatMap_singleton, ← told]
      rfl

theorem serve_events (request : Request) (opened : s.ledger.IsOpen) :
    (request.serve c w s).events = (request.attempts c w s).flatMap Attempt.trace := by
  cases request with
  | one step => exact runAlone_events step opened
  | all plan => exact runRest_events plan.steps.length plan.steps [] opened
  | loaded text file =>
    simp only [serve, Ran.alone, runLoaded_eq, attempts]
    cases Load.step w.files text file with
    | ok step => exact runAlone_events step opened
    | error f =>
      rw [List.flatMap_singleton]
      exact stopped_events s f

theorem attempts_deeds (request : Request) (opened : s.ledger.IsOpen) :
    (request.attempts c w s).filterMap Attempt.deed? = request.deeds c w s := by
  rcases request.attempts_cases (c := c) (w := w) (s := s) with same | ⟨_, _, _, _, _, single, nothing⟩
  · rw [same]
    exact attemptsOf_deeds _ opened
  · rw [single, deeds, nothing]
    rfl

theorem attempts_genuine (request : Request) (opened : s.ledger.IsOpen) :
    ∀ a ∈ request.attempts c w s, a.Genuine c := by
  rcases request.attempts_cases (c := c) (w := w) (s := s) with same | ⟨_, _, _, _, fails, single, _⟩
  · rw [same]
    exact attemptsOf_genuine _ opened
  · rw [single]
    exact List.forall_mem_singleton.mpr (.load fails s)

theorem attempts_numbered (request : Request) (opened : s.ledger.IsOpen) :
    Numbered s.ledger.step (request.attempts c w s) := by
  rcases request.attempts_cases (c := c) (w := w) (s := s) with same | ⟨_, _, _, _, _, single, _⟩
  · rw [same]
    exact attemptsOf_numbered _ opened
  · rw [single]
    exact ⟨rfl, trivial⟩

end Request

namespace Turn

def attempts (c : Collaborators σ) (s : Session σ) : Turn σ → List (Attempt σ)
  | .call w request => request.attempts c w s
  | .edit _ => []

theorem play_isOpen (turn : Turn σ) (opened : s.ledger.IsOpen) : (turn.play c s).ledger.IsOpen :=
  Run.play_isOpen (c := c) [turn] opened

end Turn

def attempts (c : Collaborators σ) : List (Turn σ) → Session σ → List (Attempt σ)
  | [], _ => []
  | turn :: rest, s => turn.attempts c s ++ attempts c rest (turn.play c s)

theorem attempts_deeds (turns : List (Turn σ)) (opened : s.ledger.IsOpen) :
    (attempts c turns s).filterMap Attempt.deed? = deeds c turns s := by
  induction turns generalizing s with
  | nil => rfl
  | cons turn rest ih =>
    rw [attempts, deeds, List.filterMap_append, ih (turn.play_isOpen opened)]
    cases turn with
    | call w request => exact congrArg (· ++ _) (request.attempts_deeds opened)
    | edit change => rfl

theorem attempts_genuine (turns : List (Turn σ)) (opened : s.ledger.IsOpen) :
    ∀ a ∈ attempts c turns s, a.Genuine c := by
  induction turns generalizing s with
  | nil => simp [attempts]
  | cons turn rest ih =>
    intro a member
    rcases List.mem_append.mp member with now | later
    · cases turn with
      | call w request => exact request.attempts_genuine opened a now
      | edit change => cases now
    · exact ih (turn.play_isOpen opened) a later

theorem attempts_numbered (turns : List (Turn σ)) (opened : s.ledger.IsOpen) :
    Numbered s.ledger.step (attempts c turns s) := by
  induction turns generalizing s with
  | nil => trivial
  | cons turn rest ih =>
    have later := ih (turn.play_isOpen (c := c) opened)
    cases turn with
    | edit change => exact later
    | call w request =>
      have counted : (request.serve c w s).session.ledger.step =
          s.ledger.step + (responses (request.deeds c w s)).length := by
        rw [request.serve_session opened]
        exact deedsOf_step _ opened
      apply Numbered.append (request.attempts_numbered opened)
      rw [recorded, request.attempts_deeds opened, ← counted]
      exact later

end Run

end Rehearsal
