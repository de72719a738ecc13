import Rehearsal.Proofs.PlanAssembly
import Rehearsal.Proofs.Run.Calls
import Rehearsal.Proofs.Run.LedgerProjection
import Rehearsal.Proofs.Run.Preparation

namespace Rehearsal

variable {σ : Type} {c : Collaborators σ}

namespace Resolve

theorem parameter_ofReference (w : Scope σ) (position : Nat) {i : Nat}
    (short : i < 10 ^ Decimal.maxDigits) :
    parameter c w position (.ofReference ⟨i⟩) =
      match w.ledger.lookup i with
      | some b => .ok ⟨.id, b.bytes⟩
      | none => w.refuse (.unmapped (Reference.text ⟨i⟩)) := by
  have claimed : Reference.isClaimed (Utf8.encode (Reference.text ⟨i⟩)) = true :=
    Reference.isClaimed_written (Nat.toDigits 10 i)
  have resolved : parameter c w position (.ofReference ⟨i⟩) = identifier w (.ofReference ⟨i⟩) := rfl
  rw [resolved, identifier, Parameter.ofReference, Parameter.ofIdText, if_pos claimed, reference,
    Reference.read_text short]
  simp only [Reference.shown_text]
  rfl

theorem parameter_ofReference_ok {w : Scope σ} {position i : Nat} {q : Parameter}
    (short : i < 10 ^ Decimal.maxDigits) :
    parameter c w position (.ofReference ⟨i⟩) = .ok q ↔
      ∃ b, w.ledger.lookup i = some b ∧ q = ⟨.id, b.bytes⟩ := by
  rw [parameter_ofReference w position short]
  cases w.ledger.lookup i with
  | none => simp [Scope.refuse]
  | some b => simp [eq_comm]

end Resolve

theorem Contract.check_id_first {index : Int} {step : Step} {p : Parameter} {rest : List Parameter}
    (met : check index step = .ok ()) (params : step.params = p :: rest) (kind : p.kind = .id) :
    step.endpoint.settled = .readonly ∨
      step.endpoint.settled = .execute ∧ step.method ≠ programCreate := by
  simp only [check, params, kind] at met
  cases settled : step.endpoint.settled <;> simp only [settled] at met
  case key => cases met
  case readonly => exact .inl rfl
  case execute =>
    right
    by_cases creates : step.method = programCreate
    · rw [if_pos creates] at met
      cases met
    · exact ⟨rfl, creates⟩
  case unchecked => cases met

namespace Run

variable {w : Surroundings} {s : Session σ}

theorem callOf_of_first {step : Step} {p : Parameter} {rest : List Parameter}
    (calls : step.endpoint.settled = .readonly ∨
      step.endpoint.settled = .execute ∧ step.method ≠ programCreate)
    (length : p.value.length = blockLength) :
    ∃ call, callOf step (p :: rest) = some call ∧ call.programId = p.value := by
  rcases calls with settled | ⟨settled, others⟩
  · exact ⟨_, Dispatch.call_some.mpr ⟨p, rest, _, rfl, length, rfl, .inl ⟨settled, rfl⟩⟩, rfl⟩
  · exact ⟨_, Dispatch.call_some.mpr ⟨p, rest, _, rfl, length, rfl, .inr ⟨settled, others, rfl⟩⟩, rfl⟩

/-- A step that passes a parameter on, as it was resolved: the step was carried out with it, and it goes
into the call that the step makes, as the program if it is the first. -/
structure Deed.Passes (c : Collaborators σ) (d : Deed σ) (k : Nat) (q : Parameter) : Prop where
  param : d.params[k]? = some q
  handed : (d.answer, d.after.machine) = carryOut c d.surroundings d.step d.params d.before
  calls : d.after.machine.calls = d.before.machine.calls ++ (callOf d.step d.params).toList
  program : k = 0 → d.step.endpoint.settled = .readonly ∨
      d.step.endpoint.settled = .execute ∧ d.step.method ≠ programCreate →
    ∃ call, callOf d.step d.params = some call ∧ call.programId = q.value
  argument : ∀ n call, k = n + 1 → callOf d.step d.params = some call → call.params[n]? = some q

theorem Deed.Genuine.passes {d : Deed σ} {k : Nat} {q : Parameter} (genuine : d.Genuine c)
    (param : d.params[k]? = some q) (length : q.value.length = blockLength) : d.Passes c k q := by
  have machine := genuine.machine
  refine ⟨param, ?_, ?_, ?_, ?_⟩
  · rw [genuine.answer, machine]
  · rw [machine, carryOut_calls]
  · rintro rfl calls
    obtain ⟨rest, params⟩ := List.head?_eq_some_iff.mp (List.head?_eq_getElem?.trans param)
    rw [params]
    exact callOf_of_first calls length
  · rintro n call rfl made
    obtain ⟨p, rest, params, _, _, arguments⟩ := callOf_some made
    rw [params] at param
    rw [arguments]
    exact param

/-- A step that gets an identifier for its parameter at a position: that is how its parameters were
resolved with which it was carried out, and it goes into the call that it makes, as the program if the
position is the first. -/
structure Deed.Receives (c : Collaborators σ) (d : Deed σ) (k : Nat) (b : Block) : Prop where
  param : d.params[k]? = some ⟨.id, b.bytes⟩
  handed : (d.answer, d.after.machine) = carryOut c d.surroundings d.step d.params d.before
  calls : d.after.machine.calls = d.before.machine.calls ++ (callOf d.step d.params).toList
  program : k = 0 → ∃ call, callOf d.step d.params = some call ∧ call.programId = b.bytes
  argument : ∀ n call, k = n + 1 → callOf d.step d.params = some call →
    call.params[n]? = some ⟨.id, b.bytes⟩

section

variable {past : List Response} (mirrors : s.ledger.Mirrors past) (steps : List Step)

include mirrors

/-- The ledger that a step of a plan meets holds what the steps before it have produced, those of the plan
and those that the run had done before. -/
theorem lookup_taken {i j : Nat} {b : Block} :
    let ds := deedsOf c w steps s
    (ended s (ds.take j)).ledger.lookup i = some b ↔
      i < past.length + j ∧
        ∃ r, (past ++ responses ds)[i]? = some r ∧ producedId r = some (.whole b.text) := by
  intro ds
  have taken := deedsOf_mirrors (c := c) mirrors w (steps.take j)
  rw [deedsOf_take, responses_take, ← List.take_length_add_append] at taken
  rw [taken.lookup_iff]
  constructor
  · rintro ⟨n, r, same, at_n, produced⟩
    have index : n = i := by omega
    subst index
    rw [List.getElem?_take] at at_n
    split at at_n
    · rename_i before
      exact ⟨before, r, at_n, produced⟩
    · cases at_n
  · rintro ⟨before, r, earlier, produced⟩
    refine ⟨i, r, rfl, ?_, produced⟩
    rw [List.getElem?_take, if_pos before, earlier]

theorem lookup_unproduced {i j : Nat}
    (unproduced : ∀ r, i < past.length + j → (past ++ responses (deedsOf c w steps s))[i]? = some r →
      producedId r = none) :
    (ended s ((deedsOf c w steps s).take j)).ledger.lookup i = none := by
  cases found : (ended s ((deedsOf c w steps s).take j)).ledger.lookup i with
  | none => rfl
  | some b =>
    obtain ⟨before, r, earlier, produced⟩ := (lookup_taken mirrors steps).mp found
    rw [unproduced r before earlier] at produced
    cases produced

theorem step_taken {j : Nat} (bound : j ≤ (responses (deedsOf c w steps s)).length) :
    (ended s ((deedsOf c w steps s).take j)).ledger.step = (past.length + j : Nat) := by
  have taken := deedsOf_mirrors (c := c) mirrors w (steps.take j)
  rw [deedsOf_take, responses_take] at taken
  rw [taken.step, List.length_append, List.length_take]
  omega

end

theorem Deed.Genuine.receives {d : Deed σ} {k i : Nat} (genuine : d.Genuine c)
    (short : i < 10 ^ Decimal.maxDigits) (param : d.step.params[k]? = some (.ofReference ⟨i⟩)) :
    ∃ b, d.before.ledger.lookup i = some b ∧ d.Receives c k b := by
  obtain ⟨met, resolved⟩ := prepare_ok.mp genuine.carried.prepared
  obtain ⟨length, each⟩ := Resolve.all_ok.mp resolved
  obtain ⟨q, at_k, value⟩ := each k _ param
  obtain ⟨b, found, rfl⟩ := (Resolve.parameter_ofReference_ok short).mp value
  have passes := genuine.passes at_k b.length_bytes
  refine ⟨b, found, passes.param, passes.handed, passes.calls, ?_, passes.argument⟩
  rintro rfl
  obtain ⟨raws, raw⟩ := List.head?_eq_some_iff.mp (List.head?_eq_getElem?.trans param)
  exact passes.program rfl (Contract.check_id_first met raw rfl)

def unmappedAt (i : Nat) (s : Session σ) : Rejection := ⟨.unmapped s!"step_{i}", some s.ledger.step⟩

theorem run_unmapped {step : Step} {k i : Nat} (checked : step.endpoint.isChecked = true)
    (met : Contract.check s.ledger.step step = .ok ())
    (param : step.params[k]? = some (.ofReference ⟨i⟩))
    (before : ∀ n < k, ∀ p, step.params[n]? = some p →
      ∃ q, Resolve.parameter c (scope w step s) n p = .ok q)
    (short : i < 10 ^ Decimal.maxDigits) (absent : s.ledger.lookup i = none) :
    run c w step s = stopped s (.rejected (unmappedAt i s)) := by
  have fails : Resolve.parameter c (scope w step s) k (.ofReference ⟨i⟩) =
      .error (.rejected (unmappedAt i s)) := by
    rw [Resolve.parameter_ofReference (scope w step s) k short]
    simp only [scope, absent]
    rfl
  exact run_refused_at checked met param before fails

theorem play_lookup_kept (turns : List (Turn σ)) (opened : s.ledger.IsOpen) {i : Int} {b : Block}
    (found : s.ledger.lookup i = some b) : (play c turns s).ledger.lookup i = some b :=
  (history_induction (c := c) (motive := fun t _ => t.ledger.lookup i = some b)
    (fun _ _ genuine kept => genuine.ledger.lookup_kept genuine.opened kept)
    turns [] opened (fun _ _ _ _ kept => kept) found).2

theorem runPlan_of_stopped {plan : Plan} {step : Step} {r : Rejection} {j : Nat}
    (opened : s.ledger.IsOpen) (here : plan.steps[j]? = some step)
    (reached : j ≤ (responses (deedsOf c w plan.steps s)).length)
    (stop : run c w step (ended s ((deedsOf c w plan.steps s).take j)) =
      stopped (ended s ((deedsOf c w plan.steps s).take j)) (.rejected r)) :
    (deedsOf c w plan.steps s).length = j ∧
      (runPlan c w plan s).result = .error (abortion (ended s (deedsOf c w plan.steps s))
        (responses (deedsOf c w plan.steps s)) plan.steps.length r) := by
  have bound : (responses (deedsOf c w plan.steps s)).length ≤ (deedsOf c w plan.steps s).length :=
    List.length_filterMap_le _ _
  have last : (deedsOf c w plan.steps s).length = j := by
    apply Nat.le_antisymm _ (Nat.le_trans reached bound)
    apply Nat.le_of_not_lt
    intro earlier
    obtain ⟨genuine, around, there, met⟩ :=
      deedsOf_getElem plan.steps opened (List.getElem?_eq_getElem earlier)
    rw [here] at there
    -- A step that was carried out starts, which one that is stopped does not.
    have events := genuine.carried.events
    rw [around, met, ← Option.some.inj there, stop] at events
    cases events
  refine ⟨last, ?_⟩
  rw [← last, List.take_length] at stop
  obtain ⟨outcome, ends, result⟩ :=
    runRest_ends (c := c) (w := w) plan.steps.length plan.steps [] opened
  cases ends with
  | through length =>
    have behind : plan.steps[j]? = none := List.getElem?_eq_none (by omega)
    cases behind.symm.trans here
  | lost _ _ others => omega
  | stopped other there _ stopOther =>
    rw [← last] at here
    cases here.symm.trans there
    have same := congrArg Ran.result (stopOther.symm.trans stop)
    rw [stopped_result, stopped_result] at same
    cases same
    exact result

/-- A deed of a plan gets for a reference the identifier that the response of that number in the whole run
reports. -/
theorem deed_receives_after {past : List Response} (mirrors : s.ledger.Mirrors past) (steps : List Step)
    {i j k : Nat} {d : Deed σ} (short : i < 10 ^ Decimal.maxDigits)
    (at_j : (deedsOf c w steps s)[j]? = some d)
    (param : d.step.params[k]? = some (.ofReference ⟨i⟩)) :
    ∃ r b, i < past.length + j ∧ (past ++ responses (deedsOf c w steps s))[i]? = some r ∧
      r.isOk = true ∧ r.result.id = some (.whole (Hex.encode b.bytes)) ∧ d.Receives c k b := by
  obtain ⟨genuine, _, _, met⟩ := deedsOf_getElem steps mirrors.opened at_j
  obtain ⟨b, found, receives⟩ := genuine.receives short param
  rw [met] at found
  obtain ⟨before, r, earlier, produced⟩ := (lookup_taken mirrors steps).mp found
  obtain ⟨ok, id⟩ := producedId_eq_some.mp produced
  exact ⟨r, b, before, earlier, ok, id, receives⟩

theorem runPlan_unmapped_after {past : List Response} (mirrors : s.ledger.Mirrors past) (plan : Plan)
    {i j k : Nat} {step : Step} (short : i < 10 ^ Decimal.maxDigits) (here : plan.steps[j]? = some step)
    (checked : step.endpoint.isChecked = true)
    (met : Contract.check (past.length + j : Nat) step = .ok ())
    (param : step.params[k]? = some (.ofReference ⟨i⟩)) :
    let ds := deedsOf c w plan.steps s
    let t := ended s (ds.take j)
    j ≤ (responses ds).length →
    (∀ n < k, ∀ p, step.params[n]? = some p →
      ∃ q, Resolve.parameter c (scope w step t) n p = .ok q) →
    (∀ r, i < past.length + j → (past ++ responses ds)[i]? = some r → producedId r = none) →
    t.ledger.step = (past.length + j : Nat) ∧ run c w step t = stopped t (.rejected (unmappedAt i t)) ∧
      (runPlan c w plan s).result =
        .error (abortion t (responses (ds.take j)) plan.steps.length (unmappedAt i t)) := by
  intro ds t reached before unproduced
  have counter : t.ledger.step = (past.length + j : Nat) := step_taken mirrors plan.steps reached
  have absent : t.ledger.lookup i = none := lookup_unproduced mirrors plan.steps unproduced
  have stop := run_unmapped checked (by rw [counter]; exact met) param before short absent
  obtain ⟨last, result⟩ := runPlan_of_stopped mirrors.opened here reached stop
  refine ⟨counter, stop, ?_⟩
  rw [result]
  simp only [t, ds, ← last, List.take_length]

end Run

end Rehearsal
