import Rehearsal.Command.Words
import Rehearsal.Proofs.Loading.PlanReadBack
import Rehearsal.Proofs.Run.Rejections

namespace Rehearsal

variable {f : Failure}

theorem Failure.exitCode_known (known : f.isKnown = true) : f.exitCode = 1 := by
  unfold isKnown at known
  rw [exitCode, beq_iff_eq.mp known]

namespace Load

theorem refuse_known {α : Type} {cause : Rejection.Cause}
    (fails : (refuse cause : Except Failure α) = .error f) : ∃ r, f = .rejected r := by
  cases fails
  exact ⟨_, rfl⟩

theorem readText_known {files : Files} {path : Text} (fails : readText files path = .error f)
    (known : f.isKnown = true) : ∃ r, f = .rejected r := by
  unfold readText at fails
  simp only at fails
  split at fails
  · cases fails
    cases known
  · split at fails
    · cases fails
      cases known
    · split at fails
      · exact refuse_known fails
      · split at fails
        · exact refuse_known fails
        · cases fails

theorem parseJson_known {t : Text} (fails : parseJson t = .error f) (known : f.isKnown = true) :
    ∃ r, f = .rejected r := by
  unfold parseJson at fails
  split at fails
  · cases fails
  · cases fails
    cases known
  · exact refuse_known fails

theorem parse_known {yaml : Bool} {s : String} (fails : parse yaml s = .error f)
    (known : f.isKnown = true) : ∃ r, f = .rejected r := by
  unfold parse at fails
  split at fails
  · split at fails
    · cases fails
    · exact refuse_known fails
    · cases fails
      cases known
  · exact parseJson_known fails known

theorem stepOfData_known {d : Datum} (fails : stepOfData d = .error f) (known : f.isKnown = true) :
    ∃ r, f = .rejected r := by
  unfold stepOfData at fails
  split at fails
  · split at fails
    · cases fails
    · split at fails
      · rcases Outcome.bind_error.mp fails with unshown | ⟨_, _, fails⟩
        · unfold shown at unshown
          split at unshown <;> cases unshown
          cases known
        · exact refuse_known fails
      · exact refuse_known fails
  · exact refuse_known fails

theorem step_known {files : Files} {text file : Option Text} (fails : step files text file = .error f)
    (known : f.isKnown = true) : ∃ r, f = .rejected r := by
  unfold step at fails
  split at fails
  · rcases Outcome.bind_error.mp fails with unparsed | ⟨_, _, fails⟩
    · exact parseJson_known unparsed known
    · exact stepOfData_known fails known
  · rcases Outcome.bind_error.mp fails with unread | ⟨_, _, fails⟩
    · exact readText_known unread known
    rcases Outcome.bind_error.mp fails with unparsed | ⟨_, _, fails⟩
    · exact parse_known unparsed known
    · exact stepOfData_known fails known
  · exact refuse_known fails

end Load

namespace Command

theorem refuse_malformed {α : Type} {cause : Rejection.Cause} (family : cause.family = .malformedPlan)
    (fails : (Load.refuse cause : Except Failure α) = .error f) :
    ∃ cause, f = .rejected ⟨cause, none⟩ ∧ cause.family = .malformedPlan := by
  cases fails
  exact ⟨cause, rfl, family⟩

theorem flags_fails {source : Source} {words : List String} (fails : flags source words = .error f) :
    ∃ cause, f = .rejected ⟨cause, none⟩ ∧ cause.family = .malformedPlan := by
  fun_induction flags source words with
  | case1 => cases fails
  | case2 | case5 => exact refuse_malformed rfl fails
  | case3 _ _ _ _ _ ih | case4 _ _ _ _ _ _ ih => exact ih fails

theorem read_fails {line : String} (fails : read line = .error f) :
    ∃ cause, f = .rejected ⟨cause, none⟩ ∧ cause.family = .malformedPlan := by
  unfold read at fails
  split at fails
  · cases fails
  · split at fails
    · exact refuse_malformed rfl fails
    · exact flags_fails fails
    · exact refuse_malformed rfl fails

theorem read_known {line : String} (fails : read line = .error f) : ∃ r, f = .rejected r := by
  obtain ⟨cause, rejected, _⟩ := read_fails fails
  exact ⟨_, rejected⟩

end Command

namespace Run

variable {σ : Type} {c : Collaborators σ} {w : Surroundings} {step : Step} {s : Session σ}

theorem Derailed.known (derailed : Derailed c w s step f) (known : f.isKnown = true) :
    ∃ name, f = .broken (.corruptKey name) := by
  obtain ⟨_, _, _, _, derails⟩ := derailed
  cases derails with
  | numeral | path => cases known
  | seed name => exact ⟨name, rfl⟩

/-- A checked step fails with a failure of this library only if it is turned away, or a named key that it
needs is damaged. -/
theorem run_known (opened : s.ledger.IsOpen) (checked : step.isChecked = true)
    (fails : (run c.storedKeys w step s).result = .error f) (known : f.isKnown = true) :
    (∃ r, f = .rejected r) ∨ ∃ name, f = .broken (.corruptKey name) := by
  have endpoint := Step.endpoint_isChecked checked
  cases prepared : prepare c.storedKeys w step s with
  | error g =>
    rw [run_unprepared endpoint prepared, stopped_result] at fails
    cases fails
    exact (turnedAway_or_derailed checked prepared).imp (fun ⟨r, rejected, _⟩ => ⟨r, rejected⟩)
      fun derailed => derailed.known known
  | ok params =>
    have lost := (run_prepared opened endpoint prepared).result.symm.trans fails
    rw [carryOut_unknown lost] at known
    cases known

theorem runLoaded_known {text file : Option Text} (opened : s.ledger.IsOpen)
    (fails : (runLoaded c.storedKeys w text file s).result = .error f) (known : f.isKnown = true) :
    (∃ r, f = .rejected r) ∨ ∃ name, f = .broken (.corruptKey name) := by
  rw [runLoaded_eq] at fails
  cases loaded : Load.step w.files text file with
  | error g =>
    simp only [loaded, stopped_result] at fails
    cases fails
    exact .inl (Load.step_known loaded known)
  | ok step =>
    simp only [loaded] at fails
    exact run_known opened (Load.step_isChecked loaded) fails known

theorem runPlan_known {plan : Plan} (opened : s.ledger.IsOpen)
    (checked : ∀ step ∈ plan.steps, step.isChecked = true)
    (fails : (runPlan c.storedKeys w plan s).result = .error f) (known : f.isKnown = true) :
    (∃ text rs k total cause, f = .aborted text rs k total cause) ∨
      ∃ name, f = .broken (.corruptKey name) := by
  rcases runs_or_stops c.storedKeys w s plan.steps with ⟨rs, t, ran⟩ | ⟨k, rs, t, g, stops⟩
  · have returned : (runPlan c.storedKeys w plan s).result = .ok ([] ++ rs) :=
      (runRest_runs plan.steps.length ran []).1
    cases fails.symm.trans returned
  · obtain ⟨step, here, failed⟩ := stops.fails
    obtain ⟨aborts, escapes⟩ := runRest_stops plan.steps.length stops []
    by_cases rejected : ∃ r, g = .rejected r
    · obtain ⟨r, rfl⟩ := rejected
      cases fails.symm.trans (aborts r rfl).1
      exact .inl ⟨_, _, _, _, _, rfl⟩
    · cases fails.symm.trans (escapes (not_exists.mp rejected))
      have stopped := run_known (stops.ran.ledger opened).1 (checked step (List.mem_of_getElem? here))
        failed known
      exact .inr (stopped.resolve_left rejected)

end Run

end Rehearsal
