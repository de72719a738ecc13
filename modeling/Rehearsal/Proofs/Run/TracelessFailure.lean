import Rehearsal.Proofs.Loading.CheckedSteps
import Rehearsal.Proofs.Run.LedgerProjection
import Rehearsal.Proofs.Run.PlanSequence
import Rehearsal.Proofs.Run.Preparation

namespace Rehearsal

/-- A call that either fails and leaves the session as it was or returns and moves its counter on. -/
structure Ran.AllOrNothing {σ : Type} (ran : Ran σ Response) (s : Session σ) : Prop where
  unchanged : ∀ f, ran.result = .error f → ran.session = s
  advanced : ∀ r, ran.result = .ok r → ran.session.ledger.step = s.ledger.step + 1

namespace Run

variable {σ : Type} {c : Collaborators σ} {w : Surroundings} {step : Step} {s : Session σ}

def Runnable (c : Collaborators σ) (w : Surroundings) (s : Session σ) (step : Step) : Prop :=
  Contract.check s.ledger.step step = .ok () ∧
    ∃ params, Resolve.all c (scope w step s) step.params = .ok params

/-- A failing call that leaves the session as it was, unless the record of its step is lost. -/
def FailsTraceless (c : Collaborators σ) (w : Surroundings) (s : Session σ) (step : Step)
    (ran : Ran σ Response) : Prop :=
  ran.session = s ∨ LosesRecord c w s step ∧ ran.session.ledger = s.ledger

theorem run_failsTraceless {f : Failure} (opened : s.ledger.IsOpen)
    (failed : (run c w step s).result = .error f) : FailsTraceless c w s step (run c w step s) := by
  rcases run_error opened failed with stop | ⟨params, carried, lost⟩
  · left
    rw [stop, stopped_session]
  · exact .inr ⟨losesRecord_iff.mpr ⟨params, f, carried.prepared, lost⟩, carried.ledger.lost f lost⟩

theorem runLoaded_failsTraceless {text file : Option Text} {f : Failure} (opened : s.ledger.IsOpen)
    (failed : (runLoaded c w text file s).result = .error f) :
    (runLoaded c w text file s).session = s ∨ ∃ step, Load.step w.files text file = .ok step ∧
      FailsTraceless c w s step (runLoaded c w text file s) := by
  rw [runLoaded_eq] at failed ⊢
  cases loaded : Load.step w.files text file with
  | error g => exact .inl (stopped_session s g)
  | ok step =>
    rw [loaded] at failed
    exact .inr ⟨step, rfl, run_failsTraceless opened failed⟩

theorem run_stopped_of_error {f : Failure} (tells : c.FailRecordably) (opened : s.ledger.IsOpen)
    (failed : (run c w step s).result = .error f) : run c w step s = stopped s f := by
  rcases run_error opened failed with stop | ⟨params, _, lost⟩
  · exact stop
  · obtain ⟨r, answered⟩ := carryOut_recorded tells w step params s
    cases lost.symm.trans answered

theorem run_allOrNothing (tells : c.FailRecordably) (w : Surroundings) (step : Step)
    (opened : s.ledger.IsOpen) : (run c w step s).AllOrNothing s := by
  constructor
  · intro f failed
    rw [run_stopped_of_error tells opened failed, stopped_session]
  · intro r returned
    obtain ⟨params, carried, answered⟩ := run_ok opened returned
    exact (carried.ledger.recorded r answered).step

theorem runLoaded_allOrNothing (tells : c.FailRecordably) (w : Surroundings) (text file : Option Text)
    (opened : s.ledger.IsOpen) : (runLoaded c w text file s).AllOrNothing s := by
  rw [runLoaded_eq]
  cases Load.step w.files text file with
  | ok step => exact run_allOrNothing tells w step opened
  | error f =>
    constructor
    · intro g _
      exact stopped_session s f
    · intro r returned
      rw [stopped_result] at returned
      cases returned

theorem run_returns_iff (tells : c.FailRecordably) (opened : s.ledger.IsOpen)
    (checked : step.endpoint.isChecked = true) :
    (∃ r, (run c w step s).result = .ok r) ↔ Runnable c w s step := by
  constructor
  · rintro ⟨r, returned⟩
    obtain ⟨params, carried, _⟩ := run_ok opened returned
    obtain ⟨met, resolved⟩ := prepare_ok.mp carried.prepared
    exact ⟨met, params, resolved⟩
  · rintro ⟨met, params, resolved⟩
    have carried := run_prepared opened checked (prepare_ok.mpr ⟨met, resolved⟩)
    rw [carried.result]
    exact carryOut_recorded tells w step params s

theorem runLoaded_returns_iff {text file : Option Text} (tells : c.FailRecordably)
    (opened : s.ledger.IsOpen) :
    (∃ r, (runLoaded c w text file s).result = .ok r) ↔
      ∃ step, Load.step w.files text file = .ok step ∧ Runnable c w s step := by
  rw [runLoaded_eq]
  cases loaded : Load.step w.files text file with
  | error f => simp
  | ok step =>
    have checked := Step.endpoint_isChecked (Load.step_isChecked loaded)
    simp only [run_returns_iff tells opened checked, Except.ok.injEq, exists_eq_left']

theorem deedsOf_single_error {f : Failure} (tells : c.FailRecordably) (opened : s.ledger.IsOpen)
    (failed : (run c w step s).result = .error f) : deedsOf c w [step] s = [] :=
  deedsOf_stopped [] opened (run_stopped_of_error tells opened failed)

/-- A request without what fails in it: a call for one step is left out if it fails, and a plan is cut
to the steps that it gets carried out. -/
def Request.kept (c : Collaborators σ) (w : Surroundings) (s : Session σ) (request : Request) :
    Option Request :=
  match request with
  | .one step =>
    match (run c w step s).result with
    | .ok _ => some request
    | .error _ => none
  | .loaded text file =>
    match (runLoaded c w text file s).result with
    | .ok _ => some request
    | .error _ => none
  | .all plan => some (.all { plan with steps := plan.steps.take (request.deeds c w s).length })

def Turn.kept (c : Collaborators σ) (s : Session σ) : Turn σ → Option (Turn σ)
  | .call w request => (request.kept c w s).map (.call w)
  | .edit change => some (.edit change)

/-- A history without the calls that fail in it. -/
def survivors (c : Collaborators σ) : List (Turn σ) → Session σ → List (Turn σ)
  | [], _ => []
  | turn :: rest, s => (turn.kept c s).toList ++ survivors c rest (turn.play c s)

theorem Request.kept_none {request : Request} (tells : c.FailRecordably) (opened : s.ledger.IsOpen)
    (dropped : request.kept c w s = none) : request.deeds c w s = [] := by
  cases request with
  | one step =>
    cases result : (run c w step s).result <;> simp only [kept, result] at dropped
    · exact deedsOf_single_error tells opened result
    · cases dropped
  | loaded text file =>
    cases result : (runLoaded c w text file s).result <;> simp only [kept, result] at dropped
    · rw [runLoaded_eq] at result
      unfold deeds steps
      cases loaded : Load.step w.files text file <;> simp only [loaded] at result ⊢
      · rfl
      · exact deedsOf_single_error tells opened result
    · cases dropped
  | all plan => cases dropped

theorem Request.kept_some {request left : Request} (kept : request.kept c w s = some left) :
    left.deeds c w s = request.deeds c w s := by
  cases request with
  | one step =>
    cases result : (run c w step s).result <;> simp only [Request.kept, result] at kept <;> cases kept
    rfl
  | loaded text file =>
    cases result : (runLoaded c w text file s).result <;> simp only [Request.kept, result] at kept <;>
      cases kept
    rfl
  | all plan =>
    cases kept
    simp only [deeds, steps, deedsOf_take, List.take_length]

theorem Turn.kept_none {turn : Turn σ} (tells : c.FailRecordably) (opened : s.ledger.IsOpen) (dropped : turn.kept c s = none) :
    turn.play c s = s ∧ turn.deeds c s = [] := by
  cases turn with
  | edit change => cases dropped
  | call w request =>
    have nothing := Request.kept_none tells opened (Option.map_eq_none_iff.mp dropped)
    refine ⟨?_, nothing⟩
    simp only [Turn.play, request.serve_session opened, nothing, ended]

theorem Turn.kept_some {turn left : Turn σ} (opened : s.ledger.IsOpen)
    (kept : turn.kept c s = some left) :
    left.play c s = turn.play c s ∧ left.deeds c s = turn.deeds c s := by
  cases turn with
  | edit change =>
    cases kept
    exact ⟨rfl, rfl⟩
  | call w request =>
    obtain ⟨part, keptPart, rfl⟩ := Option.map_eq_some_iff.mp kept
    have same := Request.kept_some keptPart
    refine ⟨?_, same⟩
    simp only [Turn.play, Request.serve_session _ opened, same]

theorem survivors_play (tells : c.FailRecordably) (turns : List (Turn σ)) (opened : s.ledger.IsOpen) :
    play c (survivors c turns s) s = play c turns s ∧
      deeds c (survivors c turns s) s = deeds c turns s := by
  induction turns generalizing s with
  | nil => exact ⟨rfl, rfl⟩
  | cons turn rest ih =>
    have openedNext : (turn.play c s).ledger.IsOpen := play_isOpen [turn] opened
    obtain ⟨restPlay, restDeeds⟩ := ih openedNext
    cases left : turn.kept c s with
    | none =>
      obtain ⟨same, nothing⟩ := Turn.kept_none tells opened left
      rw [same] at restPlay restDeeds
      simp only [survivors, left, Option.toList_none, List.nil_append, play, deeds, nothing, same]
      exact ⟨restPlay, restDeeds⟩
    | some part =>
      obtain ⟨samePlay, sameDeeds⟩ := Turn.kept_some opened left
      simp only [survivors, left, Option.toList_some, List.singleton_append, play, deeds, samePlay,
        sameDeeds, restPlay, restDeeds, and_self]

end Run

end Rehearsal
