import Rehearsal.Proofs.Loading.CheckedSteps
import Rehearsal.Proofs.Resolve.Derailment
import Rehearsal.Proofs.Resolve.Pointwise
import Rehearsal.Proofs.Run.StepOutcome

namespace Rehearsal

namespace Contract

variable {index : Int} {f : Failure}

theorem refuseKind_error {α : Type} {kind : Kind} {cause : String → Rejection.Cause}
    (checked : kind.isChecked = true) (worded : ∀ label, (cause label).text.isWhole = true)
    (failed : (refuseKind index kind cause : Except Failure α) = .error f) :
    f.Rejects (some index) := by
  rw [refuseKind, if_pos checked] at failed
  cases failed
  exact ⟨_, rfl, rfl, Rejection.message_isWhole (worded _)⟩

theorem demand_error {first kind : Kind} {requirement : Requirement} (checked : first.isChecked = true)
    (failed : demand index first kind requirement = .error f) :
    f.Rejects (some index) := by
  unfold demand at failed
  split at failed
  · cases failed
  · exact refuseKind_error checked (fun _ => rfl) failed

theorem check_error {step : Step} (checked : step.isChecked = true)
    (failed : check index step = .error f) : f.Rejects (some index) := by
  unfold check at failed
  split at failed
  · cases failed
    exact ⟨_, rfl, rfl, Rejection.message_isWhole rfl⟩
  · rename_i first rest params
    have known : first.kind.isChecked = true :=
      Step.param_isChecked checked (by rw [params]; exact List.mem_cons_self)
    split at failed
    · split at failed
      · cases failed
      · exact refuseKind_error known (fun _ => rfl) failed
    · exact demand_error known failed
    · split at failed <;> exact demand_error known failed
    · cases failed
      exact ⟨_, rfl, rfl, Rejection.message_isWhole rfl⟩

end Contract

namespace Run

variable {σ : Type} {c : Collaborators σ} {w : Surroundings} {step : Step} {s : Session σ}

def scope (w : Surroundings) (step : Step) (s : Session σ) : Resolve.Scope σ :=
  ⟨s.ledger, s.machine.toState, w.files, step.endpoint, some s.ledger.step⟩

theorem prepare_ok {params : List Parameter} :
    prepare c w step s = .ok params ↔
      Contract.check s.ledger.step step = .ok () ∧
        Resolve.all c (scope w step s) step.params = .ok params := by
  unfold prepare scope
  cases Contract.check s.ledger.step step <;> simp

theorem prepare_error {f : Failure} :
    prepare c w step s = .error f ↔
      Contract.check s.ledger.step step = .error f ∨
        Contract.check s.ledger.step step = .ok () ∧
          ∃ k p, Resolve.FirstFailure c (scope w step s) 0 step.params k p f := by
  rw [← Resolve.all_error]
  unfold prepare scope
  cases Contract.check s.ledger.step step <;> simp

theorem run_single {p q : Parameter} (opened : s.ledger.IsOpen)
    (checked : step.endpoint.isChecked = true) (params : step.params = [p])
    (met : Contract.check s.ledger.step step = .ok ())
    (resolved : Resolve.parameter c (scope w step s) 0 p = .ok q) : CarriesOut c w step s [q] := by
  have all : Resolve.all c (scope w step s) step.params = .ok [q] := by
    rw [params]
    refine Resolve.all_ok.mpr ⟨rfl, ?_⟩
    intro k r at_k
    cases k with
    | zero =>
      cases at_k
      exact ⟨q, rfl, resolved⟩
    | succ k => cases at_k
  exact run_prepared opened checked (prepare_ok.mpr ⟨met, all⟩)

theorem run_refused_at {k : Nat} {p : Parameter} {f : Failure} (checked : step.endpoint.isChecked = true)
    (met : Contract.check s.ledger.step step = .ok ()) (here : step.params[k]? = some p)
    (before : ∀ n < k, ∀ p, step.params[n]? = some p →
      ∃ q, Resolve.parameter c (scope w step s) n p = .ok q)
    (fails : Resolve.parameter c (scope w step s) k p = .error f) : run c w step s = stopped s f := by
  have first : Resolve.FirstFailure c (scope w step s) 0 step.params k p f :=
    ⟨here, by rwa [Nat.zero_add], by simpa only [Nat.zero_add] using before⟩
  exact run_unprepared checked (prepare_error.mpr (.inr ⟨met, k, p, first⟩))

end Run

end Rehearsal
