import Rehearsal.Proofs.PlanAssembly
import Rehearsal.Proofs.Run.StepReferences

namespace Rehearsal.Run

variable {σ : Type} {c : Collaborators σ} {s : Session σ}

theorem deed_receives (w : Surroundings) (steps : List Step) (m : Machine σ) {i j k : Nat} {d : Deed σ}
    (short : i < 10 ^ Decimal.maxDigits) (at_j : (deedsOf c w steps ⟨m, {}⟩)[j]? = some d)
    (param : d.step.params[k]? = some (.ofReference ⟨i⟩)) :
    ∃ e r b, i < j ∧ (deedsOf c w steps ⟨m, {}⟩)[i]? = some e ∧ e.answer = .ok r ∧ r.isOk = true ∧
      r.result.id = some (.whole (Hex.encode b.bytes)) ∧ d.Receives c k b := by
  obtain ⟨r, b, before, at_i, ok, id, receives⟩ :=
    deed_receives_after (s := ⟨m, {}⟩) Ledger.Mirrors.fresh steps short at_j param
  obtain ⟨e, there, answered⟩ := (responses_getElem steps ⟨m, {}⟩).mp at_i
  exact ⟨e, r, b, by simpa using before, there, answered, ok, id, receives⟩

theorem runPlan_unmapped (w : Surroundings) (plan : Plan) (m : Machine σ) {i j k : Nat} {step : Step}
    (short : i < 10 ^ Decimal.maxDigits) (here : plan.steps[j]? = some step)
    (checked : step.endpoint.isChecked = true) (met : Contract.check j step = .ok ())
    (param : step.params[k]? = some (.ofReference ⟨i⟩)) :
    let ds := deedsOf c w plan.steps ⟨m, {}⟩
    let t := ended ⟨m, {}⟩ (ds.take j)
    j ≤ (responses ds).length →
    (∀ n < k, ∀ p, step.params[n]? = some p →
      ∃ q, Resolve.parameter c (scope w step t) n p = .ok q) →
    (∀ e r, i < j → ds[i]? = some e → e.answer = .ok r → producedId r = none) →
    t.ledger.step = j ∧ run c w step t = stopped t (.rejected (unmappedAt i t)) ∧
      (runPlan c w plan ⟨m, {}⟩).result =
        .error (abortion t (responses (ds.take j)) plan.steps.length (unmappedAt i t)) := by
  intro ds t reached before unproduced
  have nothing : ∀ r, i < 0 + j → ([] ++ responses ds)[i]? = some r → producedId r = none := by
    intro r earlier at_i
    obtain ⟨e, there, answered⟩ := (responses_getElem plan.steps ⟨m, {}⟩).mp at_i
    exact unproduced e r (by omega) there answered
  have aborted := runPlan_unmapped_after (c := c) (w := w) (s := ⟨m, {}⟩) (j := j) Ledger.Mirrors.fresh
    plan short here checked (by simpa using met) param reached before nothing
  simpa using aborted

theorem resolved_kept (w : Surroundings) (steps : List Step) (m : Machine σ) {i n k : Nat} {step : Step}
    {q : Parameter} (short : i < 10 ^ Decimal.maxDigits) :
    let reached n := ended ⟨m, {}⟩ ((deedsOf c w steps ⟨m, {}⟩).take n)
    Resolve.parameter c (scope w step (reached n)) k (.ofReference ⟨i⟩) = .ok q →
    ∀ n', n ≤ n' → ∀ step' k',
      Resolve.parameter c (scope w step' (reached n')) k' (.ofReference ⟨i⟩) = .ok q := by
  intro reached resolved n' later step' k'
  obtain ⟨b, found, rfl⟩ := (Resolve.parameter_ofReference_ok short).mp resolved
  obtain ⟨before, e, at_i, produced⟩ := (lookup_taken Ledger.Mirrors.fresh steps).mp found
  have kept := (lookup_taken (c := c) (w := w) (s := ⟨m, {}⟩) (j := n') Ledger.Mirrors.fresh steps).mpr
    ⟨by omega, e, at_i, produced⟩
  exact (Resolve.parameter_ofReference_ok short).mpr ⟨b, kept, rfl⟩

/-- What a reference is resolved to it is resolved to whatever happens then. -/
theorem play_resolved_kept (turns : List (Turn σ)) (opened : s.ledger.IsOpen) {i k k' : Nat}
    {w' : Surroundings} {step step' : Step} {q : Parameter} (short : i < 10 ^ Decimal.maxDigits)
    (resolved : Resolve.parameter c (scope w step s) k (.ofReference ⟨i⟩) = .ok q) :
    Resolve.parameter c (scope w' step' (play c turns s)) k' (.ofReference ⟨i⟩) = .ok q := by
  obtain ⟨b, found, rfl⟩ := (Resolve.parameter_ofReference_ok short).mp resolved
  have kept := play_lookup_kept (c := c) turns opened found
  exact (Resolve.parameter_ofReference_ok short).mpr ⟨b, kept, rfl⟩

/-- The references of a plan reach the steps that they were given for, in its run with a fresh ledger.
A step that is carried out gets for a reference exactly the identifier that the response of an earlier
step reports. A step that the run gets to, that meets its contract and whose earlier parameters can be
resolved is turned away if the step it refers to comes later or has produced no identifier. And what a
reference is resolved to it is resolved to ever after. -/
theorem references_reach_their_steps (c : Collaborators σ) (w : Surroundings) (m : Machine σ)
    (callerKey : Text) {steps : List Step} (checked : ∀ step ∈ steps, step.isChecked = true)
    (short : steps.length ≤ 10 ^ Decimal.maxDigits) :
    let built := Plan.assemble { callerKey } steps
    let s : Session σ := ⟨m, {}⟩
    let ds := deedsOf c w built.2.steps s
    let reached n := ended s (ds.take n)
    built.2.steps = steps.map (Plan.adopt { callerKey }) ∧
    built.1.length = steps.length ∧
    (∀ rs, (runPlan c w built.2 s).result = .ok rs → ds.map Deed.answer = rs.map .ok) ∧
    ∀ (i : Nat) r, built.1[i]? = some r →
      r.text = s!"step_{i}" ∧
      (∀ (j k : Nat) d, ds[j]? = some d → d.step.params[k]? = some (.ofReference r) →
        ∃ e x b, i < j ∧ ds[i]? = some e ∧ e.answer = .ok x ∧ x.isOk = true ∧
          x.result.id = some (.whole (Hex.encode b.bytes)) ∧ d.Receives c k b) ∧
      (∀ (j k : Nat) step, built.2.steps[j]? = some step → j ≤ (responses ds).length →
        Contract.check j step = .ok () → step.params[k]? = some (.ofReference r) →
        (∀ n < k, ∀ p, step.params[n]? = some p →
          ∃ q, Resolve.parameter c (scope w step (reached j)) n p = .ok q) →
        (∀ e x, i < j → ds[i]? = some e → e.answer = .ok x → producedId x = none) →
        ∃ x : Rejection, x.family = .unresolvedStepReference ∧ x.cause.subject = s!"step_{i}" ∧
          x.index = some (j : Int) ∧ run c w step (reached j) = stopped (reached j) (.rejected x) ∧
          (runPlan c w built.2 s).result =
            .error (abortion (reached j) (responses (ds.take j)) built.2.steps.length x)) ∧
      ∀ n step k q, Resolve.parameter c (scope w step (reached n)) k (.ofReference r) = .ok q →
        (∀ n', n ≤ n' → ∀ step' k',
          Resolve.parameter c (scope w step' (reached n')) k' (.ofReference r) = .ok q) ∧
        ∀ turns w' step' k',
          Resolve.parameter c (scope w' step' (play c turns (reached n))) k' (.ofReference r) = .ok q := by
  intro built s ds reached
  have openedAt : ∀ n, (reached n).ledger.IsOpen := by
    intro n
    have opened := deedsOf_isOpen (c := c) (w := w) (s := s) (built.2.steps.take n) Ledger.isOpen_fresh
    rwa [deedsOf_take] at opened
  have stepsBuilt : built.2.steps = steps.map (Plan.adopt { callerKey }) := by
    rw [Plan.assemble_steps]
    rfl
  have refsBuilt : built.1.length = steps.length := Plan.assemble_length _ steps
  refine ⟨stepsBuilt, refsBuilt, ?_, ?_⟩
  · intro rs returned
    obtain ⟨outcome, ends, result⟩ := runRest_ends (c := c) (w := w) (s := s) built.2.steps.length
      built.2.steps [] Ledger.isOpen_fresh
    cases ends with
    | through length =>
      have answered : responses ds = rs := Except.ok.inj (result.symm.trans returned)
      rw [← answered]
      exact answers_of_responses (deedsOf_answered Ledger.isOpen_fresh length)
    | stopped | lost => cases result.symm.trans returned
  intro i r at_i
  have within : i < steps.length := by
    rw [← refsBuilt]
    exact (List.getElem?_eq_some_iff.mp at_i).1
  have fits : i < 10 ^ Decimal.maxDigits := by omega
  have same : r = ⟨(i : Nat)⟩ := by
    have named := Plan.assemble_reference _ steps at_i
    rwa [List.length_nil, Nat.zero_add] at named
  subst same
  refine ⟨Reference.text_natCast i, ?_, ?_, ?_⟩
  · intro j k d at_j param
    exact deed_receives w built.2.steps m fits at_j param
  · intro j k step here bound met param before unproduced
    have known : step.isChecked = true := Plan.assemble_isChecked checked step (List.mem_of_getElem? here)
    obtain ⟨counter, stop, result⟩ := runPlan_unmapped w built.2 m fits here
      (Step.endpoint_isChecked known) met param bound before unproduced
    exact ⟨unmappedAt i (reached j), rfl, rfl, by rw [unmappedAt, counter], stop, result⟩
  · intro n step k q resolved
    constructor
    · exact resolved_kept w built.2.steps m fits resolved
    · intro turns w' step' k'
      exact play_resolved_kept turns (openedAt n) fits resolved

def callFirst : Step := { endpoint := .readonly, method := "m", params := [.ofReference ⟨0⟩] }

theorem callFirst_carriesOut (c : Collaborators σ) (w : Surroundings) {s : Session σ} {b : Block}
    (opened : s.ledger.IsOpen) (found : s.ledger.lookup (0 : Nat) = some b) :
    CarriesOut c w callFirst s [⟨.id, b.bytes⟩] := by
  have resolved : Resolve.parameter c (scope w callFirst s) 0 (.ofReference ⟨(0 : Nat)⟩) =
      .ok ⟨.id, b.bytes⟩ :=
    (Resolve.parameter_ofReference_ok (Nat.pow_pos (by decide))).mpr ⟨b, found, rfl⟩
  exact run_single opened rfl rfl rfl resolved

theorem deedsOf_callFirst :
    ∃ d e, deedsOf (collaborators sevens) {} [callZeros .execute, callFirst] ⟨blank, {}⟩ = [d, e] ∧
      e.step = callFirst := by
  obtain ⟨r, answered, produced⟩ := callZeros_sevens
  have carried := callZeros_carriesOut (collaborators sevens) (.inl rfl)
  have next := carried.ledger.recorded r answered
  obtain ⟨b, found, _⟩ := Option.map_eq_some_iff.mp (next.here.trans produced)
  have second := callFirst_carriesOut (collaborators sevens) {} (next.isOpen Ledger.isOpen_fresh) found
  obtain ⟨r', answered'⟩ := carryOut_recorded sevens_failRecordably {} callFirst [⟨.id, b.bytes⟩]
    (run (collaborators sevens) {} (callZeros .execute) ⟨blank, {}⟩).session
  rw [deedsOf_recorded _ carried answered, deedsOf_recorded [] second answered']
  exact ⟨_, _, rfl, rfl⟩

theorem references_reach_sevens :
    let steps := [callZeros .execute, callFirst]
    let ds := deedsOf (collaborators sevens) {} (Plan.assemble {} steps).2.steps ⟨blank, {}⟩
    (∀ step ∈ steps, step.isChecked = true) ∧ steps.length ≤ 10 ^ Decimal.maxDigits ∧
      ∃ d b, ds[1]? = some d ∧ d.Receives (collaborators sevens) 0 b := by
  intro steps ds
  have checked : ∀ step ∈ steps, step.isChecked = true := by
    intro step member
    rcases List.mem_cons.mp member with rfl | member
    · rfl
    · rw [List.mem_singleton.mp member]
      rfl
  have short : steps.length ≤ 10 ^ Decimal.maxDigits :=
    Nat.le_of_lt (Nat.lt_of_le_of_lt (by decide : 2 ≤ Decimal.maxDigits) (Nat.lt_pow_self (by decide)))
  obtain ⟨d, e, both, step⟩ := deedsOf_callFirst
  have main := references_reach_their_steps (collaborators sevens) {} blank "" checked short
  obtain ⟨_, _, _, reach⟩ := main
  obtain ⟨_, _, b, _, _, _, _, _, receives⟩ :=
    (reach 0 ⟨0⟩ rfl).2.1 1 0 e (congrArg (·[1]?) both) (by rw [step]; rfl)
  exact ⟨checked, short, e, b, congrArg (·[1]?) both, receives⟩

def misplaced : Step := { endpoint := .key, method := "key_create", params := [.ofReference ⟨0⟩] }

/-- A reference to a step that has not run does not always stop a step as an unresolved one: where a
key has to stand, it is of the wrong kind. -/
theorem misplaced_reference_is_not_unresolved :
    ¬ ∀ (c : Collaborators Unit) (w : Surroundings) (steps : List Step) (i j k : Nat) (r : Reference)
      (step : Step),
      let built := Plan.assemble {} steps
      let ds := deedsOf c w built.2.steps ⟨blank, {}⟩
      let reached := ended ⟨blank, {}⟩ (ds.take j)
      (∀ step ∈ steps, step.isChecked = true) → built.1[i]? = some r → built.2.steps[j]? = some step →
        step.params[k]? = some (.ofReference r) → j ≤ i →
        (∀ n < k, ∀ p, step.params[n]? = some p →
          ∃ q, Resolve.parameter c (scope w step reached) n p = .ok q) →
        ∃ x : Rejection, (run c w step reached).result = .error (.rejected x) ∧
          x.family = .unresolvedStepReference := by
  intro unresolved
  have checked : ∀ step ∈ [misplaced], step.isChecked = true := by
    intro step member
    rw [List.mem_singleton.mp member]
    rfl
  obtain ⟨x, failed, family⟩ := unresolved (collaborators noInterpreter) {} [misplaced] 0 0 0 ⟨0⟩
    misplaced checked rfl rfl rfl (Nat.le_refl 0) (fun n none => absurd none (Nat.not_lt_zero n))
  have wrongKind : run (collaborators noInterpreter) {} misplaced ⟨blank, {}⟩ =
      stopped ⟨blank, {}⟩ (.rejected ⟨.notKey "id", some 0⟩) := rfl
  have result : (run (collaborators noInterpreter) {} misplaced ⟨blank, {}⟩).result =
      .error (.rejected x) := failed
  rw [wrongKind] at result
  cases result
  cases family

end Rehearsal.Run
