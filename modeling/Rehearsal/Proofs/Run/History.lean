import Rehearsal.Proofs.Run.Deeds

namespace Rehearsal

variable {σ : Type}

def Ran.alone (ran : Ran σ Response) : Ran σ (List Response) :=
  ⟨ran.result.map fun r => [r], ran.session, ran.events⟩

def Session.edited (s : Session σ) (change : State σ → State σ) : Session σ :=
  { s with machine := { s.machine with toState := change s.machine.toState } }

namespace Run

variable {c : Collaborators σ} {w : Surroundings} {s : Session σ}

/-- What a caller asks a run for: a step, a step that is loaded first, or a plan. -/
inductive Request
  | one (step : Step)
  | loaded (text file : Option Text)
  | all (plan : Plan)

namespace Request

def serve (c : Collaborators σ) (w : Surroundings) (s : Session σ) : Request → Ran σ (List Response)
  | .one step => (run c w step s).alone
  | .loaded text file => (runLoaded c w text file s).alone
  | .all plan => runPlan c w plan s

def steps (files : Files) : Request → List Step
  | .one step => [step]
  | .loaded text file =>
    match Load.step files text file with
    | .ok step => [step]
    | .error _ => []
  | .all plan => plan.steps

def deeds (c : Collaborators σ) (w : Surroundings) (s : Session σ) (request : Request) :
    List (Deed σ) :=
  deedsOf c w (request.steps w.files) s

theorem runAlone_session (step : Step) (opened : s.ledger.IsOpen) :
    (run c w step s).session = ended s (deedsOf c w [step] s) := by
  rcases run_cases c w step opened with ⟨f, stop⟩ | ⟨params, carried⟩
  · simp only [deedsOf_stopped [] opened stop, ended, stop, stopped_session]
  · cases answered : (carryOut c w step params s).1 with
    | error f => simp only [deedsOf_lost [] carried answered, ended]
    | ok r =>
      rw [deedsOf_recorded [] carried answered]
      rfl

theorem serve_session (request : Request) (opened : s.ledger.IsOpen) :
    (request.serve c w s).session = ended s (request.deeds c w s) := by
  cases request with
  | one step => exact runAlone_session step opened
  | loaded text file =>
    simp only [serve, Ran.alone, runLoaded_eq, deeds, steps]
    cases Load.step w.files text file with
    | error f => exact stopped_session s f
    | ok step => exact runAlone_session step opened
  | all plan => exact runRest_session plan.steps.length plan.steps [] opened

theorem runAlone_ok {step : Step} {rs : List Response} (opened : s.ledger.IsOpen)
    (returned : (run c w step s).alone.result = .ok rs) : rs = responses (deedsOf c w [step] s) := by
  obtain ⟨r, single, same⟩ := Outcome.map_ok.mp returned
  obtain ⟨params, carried, answered⟩ := run_ok opened single
  subst same
  rw [deedsOf_recorded [] carried answered]
  rfl

theorem serve_ok {request : Request} {rs : List Response} (opened : s.ledger.IsOpen)
    (returned : (request.serve c w s).result = .ok rs) :
    rs = responses (request.deeds c w s) := by
  cases request with
  | one step => exact runAlone_ok opened returned
  | loaded text file =>
    simp only [serve, runLoaded_eq] at returned
    simp only [deeds, steps]
    cases found : Load.step w.files text file <;> simp only [found] at returned ⊢
    · obtain ⟨r, single, _⟩ := Outcome.map_ok.mp returned
      rw [stopped_result] at single
      cases single
    · exact runAlone_ok opened returned
  | all plan =>
    obtain ⟨outcome, _, result⟩ :=
      runRest_ends (c := c) (w := w) plan.steps.length plan.steps [] opened
    cases outcome with
    | ok => exact Except.ok.inj (returned.symm.trans result)
    | error f => cases returned.symm.trans result

end Request

/-- One turn of a history: a request, or a change that the caller makes to the shared state. -/
inductive Turn (σ : Type)
  | call (w : Surroundings) (request : Request)
  | edit (change : State σ → State σ)

namespace Turn

def play (c : Collaborators σ) (s : Session σ) : Turn σ → Session σ
  | .call w request => (request.serve c w s).session
  | .edit change => s.edited change

def deeds (c : Collaborators σ) (s : Session σ) : Turn σ → List (Deed σ)
  | .call w request => request.deeds c w s
  | .edit _ => []

end Turn

def play (c : Collaborators σ) : List (Turn σ) → Session σ → Session σ
  | [], s => s
  | turn :: rest, s => play c rest (turn.play c s)

def deeds (c : Collaborators σ) : List (Turn σ) → Session σ → List (Deed σ)
  | [], _ => []
  | turn :: rest, s => turn.deeds c s ++ deeds c rest (turn.play c s)

/-- What a deed and a caller's change keep, a history keeps; and its ledger stays open. -/
theorem history_induction {motive : Session σ → List (Deed σ) → Prop}
    (carry : ∀ ds (d : Deed σ), d.Genuine c → motive d.before ds → motive d.after (ds ++ [d]))
    (turns : List (Turn σ)) {s : Session σ} (ds : List (Deed σ)) (opened : s.ledger.IsOpen)
    (edit : ∀ change, .edit change ∈ turns → ∀ s ds, motive s ds → motive (s.edited change) ds)
    (start : motive s ds) :
    (play c turns s).ledger.IsOpen ∧ motive (play c turns s) (ds ++ deeds c turns s) := by
  induction turns generalizing s ds with
  | nil => exact ⟨opened, by simpa [deeds, play] using start⟩
  | cons turn rest ih =>
    have editRest := fun change member => edit change (List.mem_cons_of_mem turn member)
    simp only [play, deeds, ← List.append_assoc]
    cases turn with
    | edit change =>
      refine ih (s := s.edited change) (ds ++ []) opened editRest ?_
      simpa using edit change List.mem_cons_self s ds start
    | call w request =>
      obtain ⟨openedNow, kept⟩ := deedsOf_induction carry (request.steps w.files) ds opened start
      have left := request.serve_session (c := c) (w := w) opened
      simp only [Turn.play, Turn.deeds, left]
      exact ih (ds ++ request.deeds c w s) openedNow editRest kept

theorem play_isOpen (turns : List (Turn σ)) (opened : s.ledger.IsOpen) :
    (play c turns s).ledger.IsOpen :=
  (history_induction (motive := fun _ _ => True) (fun _ _ _ _ => trivial) turns [] opened
    (fun _ _ _ _ _ => trivial) trivial).1

theorem play_append (xs ys : List (Turn σ)) (s : Session σ) :
    play c (xs ++ ys) s = play c ys (play c xs s) ∧
      deeds c (xs ++ ys) s = deeds c xs s ++ deeds c ys (play c xs s) := by
  induction xs generalizing s with
  | nil => exact ⟨rfl, rfl⟩
  | cons turn rest ih =>
    obtain ⟨left, done⟩ := ih (turn.play c s)
    simp only [List.cons_append, play, deeds, left, done, List.append_assoc, and_self]

/-- What a step of a plan meets is what a plan of the steps before it leaves. -/
theorem play_begun (turns : List (Turn σ)) (w : Surroundings) (begun : List Step)
    (opened : s.ledger.IsOpen) :
    let turns' := turns ++ [.call w (.all ⟨"", begun⟩)]
    play c turns' s = ended (play c turns s) (deedsOf c w begun (play c turns s)) ∧
      deeds c turns' s = deeds c turns s ++ deedsOf c w begun (play c turns s) := by
  intro turns'
  obtain ⟨left, done⟩ := play_append (c := c) turns [.call w (.all ⟨"", begun⟩)] s
  refine ⟨left.trans ?_, done.trans ?_⟩
  · exact Request.serve_session (.all ⟨"", begun⟩) (play_isOpen turns opened)
  · exact congrArg (deeds c turns s ++ ·) (List.append_nil _)

def blank : Machine Unit := ⟨⟨{}, {}, ()⟩, []⟩

def callZeros (endpoint : Endpoint) : Step :=
  { endpoint, method := "m", params := [⟨.id, List.replicate 32 0⟩] }

theorem callZeros_carriesOut_in (c : Collaborators σ) (w : Surroundings) {s : Session σ}
    (opened : s.ledger.IsOpen) {e : Endpoint} (calls : e = .execute ∨ e = .readonly) :
    CarriesOut c w (callZeros e) s [⟨.id, List.replicate 32 0⟩] := by
  rcases calls with rfl | rfl <;> exact run_prepared opened rfl rfl

theorem callZeros_carriesOut (c : Collaborators Unit) {e : Endpoint}
    (calls : e = .execute ∨ e = .readonly) :
    CarriesOut c {} (callZeros e) ⟨blank, {}⟩ [⟨.id, List.replicate 32 0⟩] :=
  callZeros_carriesOut_in c {} Ledger.isOpen_fresh calls

end Run

end Rehearsal
