import Rehearsal.Audit
import Rehearsal.Proofs.Run.PlanSequence
import Rehearsal.Proofs.Run.Preparation
import Rehearsal.Proofs.Run.Records

namespace Rehearsal

/-- A call for a step that is turned away: the rejection names the index that the counter is at, it
is the one event of the call, which all observers are told of once, and the session stays. -/
structure Ran.TurnedAway {σ : Type} (ran : Ran σ Response) (s : Session σ) (r : Rejection) : Prop where
  result : ran.result = .error (.rejected r)
  index : r.index = some (s.ledger.step : Int)
  session : ran.session = s
  events : ran.events = [Run.rejection s r]
  gathered : ∀ observers clock, Journal.ofEvents observers clock ran.events =
    Journal.gathered observers clock (Run.rejection s r).notice

namespace Run

variable {σ : Type} {c : Collaborators σ} {w : Surroundings} {step : Step} {s : Session σ}

/-- A step that meets its contract and whose first parameter that cannot be resolved gets derailed. -/
def Derailed (c : Collaborators σ) (w : Surroundings) (s : Session σ) (step : Step) (f : Failure) : Prop :=
  Contract.check s.ledger.step step = .ok () ∧
    ∃ k p, Resolve.FirstFailure c (scope w step s) 0 step.params k p f ∧
      Resolve.Derails (scope w step s) k p f

theorem turnedAway_of_stopped {r : Rejection} (stop : run c w step s = stopped s (.rejected r))
    (index : r.index = some (s.ledger.step : Int)) : (run c w step s).TurnedAway s r := by
  rw [stop]
  exact ⟨rfl, index, rfl, rfl, fun observers clock => Journal.ofEvents_single observers clock _⟩

theorem Derailed.not_rejected {f : Failure} (derailed : Derailed c w s step f) (r : Rejection) :
    f ≠ .rejected r := by
  obtain ⟨_, k, p, _, derails⟩ := derailed
  cases derails <;> exact fun rejected => Failure.noConfusion rejected

theorem Derailed.run_stopped {f : Failure} (checked : step.isChecked = true)
    (derailed : Derailed c w s step f) : run c w step s = stopped s f := by
  obtain ⟨met, k, p, first, _⟩ := derailed
  have refused : prepare c w step s = .error f := prepare_error.mpr (.inr ⟨met, k, p, first⟩)
  exact run_unprepared (Step.endpoint_isChecked checked) refused

theorem Derailed.run_eq {f : Failure} (checked : step.isChecked = true)
    (derailed : Derailed c w s step f) : run c w step s = ⟨.error f, s, []⟩ := by
  rw [derailed.run_stopped checked]
  cases f with
  | rejected r => exact absurd rfl (derailed.not_rejected r)
  | _ => rfl

/-- A checked step that cannot be prepared is turned away or derailed. -/
theorem turnedAway_or_derailed {f : Failure} (checked : step.isChecked = true)
    (refused : prepare c.storedKeys w step s = .error f) :
    (∃ r, f = .rejected r ∧ (run c.storedKeys w step s).TurnedAway s r) ∨
      Derailed c.storedKeys w s step f := by
  have stop := run_unprepared (Step.endpoint_isChecked checked) refused
  rcases prepare_error.mp refused with unmet | ⟨met, k, p, first⟩
  · obtain ⟨r, rfl, index, _⟩ := Contract.check_error checked unmet
    exact .inl ⟨r, rfl, turnedAway_of_stopped stop index⟩
  · have known : p.kind.isChecked = true := Step.param_isChecked checked (List.mem_of_getElem? first.here)
    have fails := first.fails
    rw [Nat.zero_add] at fails
    rcases Resolve.parameter_error known fails with ⟨r, rfl, index, _⟩ | derails
    · exact .inl ⟨r, rfl, turnedAway_of_stopped stop index⟩
    · exact .inr ⟨met, k, p, first, derails⟩

theorem rejected_isWhole {r : Rejection} (checked : step.isChecked = true)
    (rejected : (run c.storedKeys w step s).result = .error (.rejected r)) : r.message.isWhole = true := by
  obtain ⟨_, refused, _⟩ := run_rejected rejected
  rcases prepare_error.mp refused with unmet | ⟨met, k, p, first⟩
  · obtain ⟨_, ⟨⟩, _, worded⟩ := Contract.check_error checked unmet
    exact worded
  · have known : p.kind.isChecked = true := Step.param_isChecked checked (List.mem_of_getElem? first.here)
    have fails := first.fails
    rw [Nat.zero_add] at fails
    rcases Resolve.parameter_error known fails with ⟨_, ⟨⟩, _, worded⟩ | derails
    · exact worded
    · exact absurd rfl (Derailed.not_rejected ⟨met, k, p, first, derails⟩ r)

/-- A checked step that fails is turned away, is derailed or loses its record. -/
theorem run_error_cases {f : Failure} (opened : s.ledger.IsOpen) (checked : step.isChecked = true)
    (failed : (run c.storedKeys w step s).result = .error f) :
    (∃ r, f = .rejected r ∧ (run c.storedKeys w step s).TurnedAway s r) ∨
      Derailed c.storedKeys w s step f ∨
      LosesRecord c.storedKeys w s step ∧ ∀ r, f ≠ .rejected r := by
  have known := Step.endpoint_isChecked checked
  cases prepared : prepare c.storedKeys w step s with
  | error g =>
    rw [run_unprepared known prepared, stopped_result] at failed
    cases failed
    exact (turnedAway_or_derailed checked prepared).imp_right .inl
  | ok params =>
    have lost := (run_prepared opened known prepared).result.symm.trans failed
    exact .inr (.inr ⟨losesRecord_iff.mpr ⟨params, f, prepared, lost⟩, carryOut_not_rejected lost⟩)

theorem runPlan_stops {plan : Plan} {k : Nat} {rs : List Response} {t : Session σ} {f : Failure}
    (opened : s.ledger.IsOpen) (checked : ∀ step ∈ plan.steps, step.isChecked = true)
    (stops : StopsAt c.storedKeys w s plan.steps k rs t f) :
    ∃ step, plan.steps[k]? = some step ∧
      ((∃ r, f = .rejected r ∧ (run c.storedKeys w step t).TurnedAway t r ∧
          (runPlan c.storedKeys w plan s).result = .error (abortion t rs plan.steps.length r)) ∨
        (Derailed c.storedKeys w t step f ∨
            LosesRecord c.storedKeys w t step ∧ ∀ r, f ≠ .rejected r) ∧
          (runPlan c.storedKeys w plan s).result = .error f) := by
  obtain ⟨aborts, escapes⟩ := runRest_stops plan.steps.length stops []
  obtain ⟨step, here, fails⟩ := stops.fails
  refine ⟨step, here, ?_⟩
  rcases run_error_cases (stops.ran.ledger opened).1 (checked step (List.mem_of_getElem? here)) fails with
    ⟨r, rfl, away⟩ | derailed | lost
  · exact .inl ⟨r, rfl, away, (aborts r rfl).1⟩
  · exact .inr ⟨.inl derailed, escapes derailed.not_rejected⟩
  · exact .inr ⟨.inr lost, escapes lost.2⟩

def callAt (digits : List Char) : Step :=
  { endpoint := .readonly, method := "m", params := [⟨.id, Reference.written digits⟩] }

theorem callAt_isChecked (digits : List Char) : (callAt digits).isChecked = true := rfl

theorem callAt_derailed (c : Collaborators σ) (w : Surroundings) (s : Session σ) {n : Nat}
    (long : Decimal.maxDigits < n) :
    Derailed c.storedKeys w s (callAt (List.replicate n '0')) (.fault (.tooManyDigits n)) := by
  have spells : Reference.Spells (List.replicate n '0') false (List.replicate n '0') := by
    refine ⟨.inl ⟨rfl, rfl⟩, ?_, ?_⟩
    · intro empty
      rw [List.replicate_eq_nil_iff] at empty
      omega
    · intro d member
      rw [List.eq_of_mem_replicate member]
      decide
  have derails : Resolve.Derails (scope w (callAt (List.replicate n '0')) s) 0
      ⟨.id, Reference.written (List.replicate n '0')⟩
      (.fault (.tooManyDigits (List.replicate n '0').length)) :=
    .numeral _ false _ (.inr rfl) spells rfl (by rwa [List.length_replicate])
  rw [List.length_replicate] at derails
  exact ⟨rfl, 0, _, .head derails.fails, derails⟩

/-- Whatever has happened before and whatever the store holds, a checked step fails with a rejection
that names the index that the counter is at and that each observer is told of once, or it is derailed,
fails with no rejection and nobody is told, or it is carried out and loses its record, which also gives no
rejection and does not happen where collaborators fail recordably. So a plan of checked steps returns one
response a step, or it comes to a step that fails: if that is turned away, the plan is broken off with the
responses of all steps before, and otherwise it loses them. -/
theorem rejections_escape_unless_derailed (c : Collaborators σ) (m : Machine σ) (turns : List (Turn σ))
    (w : Surroundings) :
    let s := play c.storedKeys turns ⟨m, {}⟩
    (∀ step, step.isChecked = true →
      (∀ f, (run c.storedKeys w step s).result = .error f →
        (∃ r, f = .rejected r ∧ (run c.storedKeys w step s).TurnedAway s r) ∨
          Derailed c.storedKeys w s step f ∨
          LosesRecord c.storedKeys w s step ∧ ∀ r, f ≠ .rejected r) ∧
      (∀ f, Derailed c.storedKeys w s step f →
        run c.storedKeys w step s = ⟨.error f, s, []⟩ ∧ ∀ r, f ≠ .rejected r) ∧
      (LosesRecord c.storedKeys w s step → ∃ params f m, prepare c.storedKeys w step s = .ok params ∧
        run c.storedKeys w step s = ⟨.error f, ⟨m, s.ledger⟩, [started step params s]⟩ ∧
          ∀ r, f ≠ .rejected r) ∧
      (c.storedKeys.FailRecordably → ¬ LosesRecord c.storedKeys w s step)) ∧
    ∀ plan : Plan, (∀ step ∈ plan.steps, step.isChecked = true) →
      let result := (runPlan c.storedKeys w plan s).result
      ((∃ rs t, Runs c.storedKeys w s plan.steps rs t) ∨
        ∃ k rs t f, StopsAt c.storedKeys w s plan.steps k rs t f) ∧
      (∀ rs t, Runs c.storedKeys w s plan.steps rs t →
        result = .ok rs ∧ rs.length = plan.steps.length) ∧
      ∀ k rs t f, StopsAt c.storedKeys w s plan.steps k rs t f →
        ∃ step, plan.steps[k]? = some step ∧
          ((∃ r, f = .rejected r ∧ (run c.storedKeys w step t).TurnedAway t r ∧
              result = .error (abortion t rs plan.steps.length r)) ∨
            (Derailed c.storedKeys w t step f ∨
                LosesRecord c.storedKeys w t step ∧ ∀ r, f ≠ .rejected r) ∧
              result = .error f) := by
  intro s
  have opened : s.ledger.IsOpen := play_isOpen turns Ledger.isOpen_fresh
  constructor
  · intro step checked
    refine ⟨fun _ => run_error_cases opened checked, ?_, ?_, fun tells => keepsRecord tells w s step⟩
    · intro f derailed
      exact ⟨derailed.run_eq checked, derailed.not_rejected⟩
    · intro loses
      exact loses.run_eq (Step.endpoint_isChecked checked)
  · intro plan checked
    refine ⟨runs_or_stops _ w s plan.steps, ?_, ?_⟩
    · intro rs t went
      exact ⟨(runRest_runs plan.steps.length went []).1, went.length⟩
    · intro k rs t f stops
      exact runPlan_stops opened checked stops

theorem callZeros_callAt_isChecked (digits : List Char) :
    ∀ step ∈ [callZeros .readonly, callAt digits], step.isChecked = true := by
  intro step member
  rcases List.mem_cons.mp member with rfl | member
  · rfl
  · rw [List.mem_singleton.mp member]
    exact callAt_isChecked digits

theorem callZeros_stops_at_callAt {n : Nat} (long : Decimal.maxDigits < n) :
    ∃ r t, StopsAt (collaborators noInterpreter).storedKeys {} ⟨blank, {}⟩
      [callZeros .readonly, callAt (List.replicate n '0')] 1 [r] t (.fault (.tooManyDigits n)) := by
  let c : Collaborators Unit := (collaborators noInterpreter).storedKeys
  have carried := callZeros_carriesOut c (e := .readonly) (.inr rfl)
  have failed : (performed c {} (callZeros .readonly) [⟨.id, List.replicate 32 0⟩] ⟨blank, {}⟩).1 =
      .error (.broken (.noInterpreter "m")) := rfl
  have answered := (carryOut_failed_ok failed).mpr ⟨_, _, ⟨fun _ => nofun, rfl, rfl⟩, rfl⟩
  refine ⟨_, _, .next (carried.result.trans answered) (.done _), callAt (List.replicate n '0'), rfl, ?_⟩
  rw [(callAt_derailed _ _ _ long).run_stopped rfl, stopped_result]

theorem rejections_escape_unless_overlong :
    let c := collaborators noInterpreter
    let step := callAt (List.replicate 4301 '0')
    step.isChecked = true ∧
      run c.storedKeys {} step ⟨blank, {}⟩ = ⟨.error (.fault (.tooManyDigits 4301)), ⟨blank, {}⟩, []⟩ ∧
      (runPlan c.storedKeys {} ⟨"", [callZeros .readonly, step]⟩ ⟨blank, {}⟩).result =
        .error (.fault (.tooManyDigits 4301)) := by
  intro c step
  have long : Decimal.maxDigits < 4301 := by decide
  have main := rejections_escape_unless_derailed c blank [] {}
  have alone := (main.1 step (callAt_isChecked _)).2.1 _ (callAt_derailed c {} ⟨blank, {}⟩ long)
  obtain ⟨r, t, stops⟩ := callZeros_stops_at_callAt long
  obtain ⟨_, _, ends⟩ := main.2 ⟨"", [callZeros .readonly, step]⟩ (callZeros_callAt_isChecked _)
  obtain ⟨_, _, ⟨_, rejected, _⟩ | ⟨_, result⟩⟩ := ends 1 [r] t _ stops
  · cases rejected
  · exact ⟨callAt_isChecked _, alone.1, result⟩

/-- Not every checked step that fails is turned away, nor does every plan that fails keep its
responses. -/
theorem overlong_call_is_not_turned_away :
    (¬ ∀ (c : Collaborators Unit) (w : Surroundings) (step : Step) (f : Failure),
      step.isChecked = true → (run c.storedKeys w step ⟨blank, {}⟩).result = .error f →
        ∃ r, f = .rejected r) ∧
    ¬ ∀ (c : Collaborators Unit) (w : Surroundings) (plan : Plan) (f : Failure),
      (∀ step ∈ plan.steps, step.isChecked = true) →
        (runPlan c.storedKeys w plan ⟨blank, {}⟩).result = .error f →
        ∃ message responses completed total cause,
          f = .aborted message responses completed total cause := by
  have long : Decimal.maxDigits < 4301 := by decide
  constructor
  · intro typed
    have derailed := callAt_derailed (collaborators noInterpreter) {} ⟨blank, {}⟩ long
    have run := derailed.run_eq (callAt_isChecked _)
    obtain ⟨r, rejected⟩ := typed _ {} _ _ (callAt_isChecked _) (congrArg Ran.result run)
    exact derailed.not_rejected r rejected
  · intro kept
    have checked := callZeros_callAt_isChecked (List.replicate 4301 '0')
    obtain ⟨r, t, stops⟩ := callZeros_stops_at_callAt long
    have failed := (runRest_stops 2 stops []).2 fun _ => nofun
    obtain ⟨_, _, _, _, _, aborted⟩ := kept _ {} ⟨"", _⟩ _ checked failed
    cases aborted

end Run

end Rehearsal
