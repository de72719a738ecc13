import Rehearsal.Interpreter.Script
import Rehearsal.Proofs.Run.PlanReferences

namespace Rehearsal.Run

variable {σ : Type}

/-- The references of a plan number the steps of the whole run, whatever the run has done before. A step of
the plan that is carried out gets for a reference exactly the identifier that the response of that number
reports: that of a step from before the plan if the number is less than how many there were, and else that
of an earlier step of the plan, which is the one that the reference was given for only if there were none.
A step that the run gets to, that meets its contract and whose earlier parameters can be resolved is turned
away if there is no response of that number yet or it reports no identifier. -/
theorem references_number_all_steps (c : Collaborators σ) (m : Machine σ) (turns : List (Turn σ))
    (w : Surroundings) (callerKey : Text) {steps : List Step}
    (checked : ∀ step ∈ steps, step.isChecked = true)
    (short : steps.length ≤ 10 ^ Decimal.maxDigits) :
    let past := responses (deeds c turns ⟨m, {}⟩)
    let s := play c turns ⟨m, {}⟩
    let built := Plan.assemble { callerKey } steps
    let ds := deedsOf c w built.2.steps s
    let own := responses ds
    let reached n := ended s (ds.take n)
    s.ledger.step = past.length ∧
    (∀ (n : Nat) x, own[n]? = some x ↔ ∃ d, ds[n]? = some d ∧ d.answer = .ok x) ∧
    ∀ (i : Nat) r, built.1[i]? = some r →
      r.text = s!"step_{i}" ∧
      (∀ (j k : Nat) d, ds[j]? = some d → d.step.params[k]? = some (.ofReference r) →
        ∃ x b, (i < past.length ∧ past[i]? = some x ∨
            past.length ≤ i ∧ i - past.length < j ∧ own[i - past.length]? = some x) ∧
          x.isOk = true ∧ x.result.id = some (.whole (Hex.encode b.bytes)) ∧ d.Receives c k b) ∧
      ∀ (j k : Nat) step, built.2.steps[j]? = some step → j ≤ own.length →
        Contract.check (past.length + j : Nat) step = .ok () →
        step.params[k]? = some (.ofReference r) →
        (∀ n < k, ∀ p, step.params[n]? = some p →
          ∃ q, Resolve.parameter c (scope w step (reached j)) n p = .ok q) →
        (∀ x, i < past.length + j → (past ++ own)[i]? = some x → producedId x = none) →
        ∃ x : Rejection, x.family = .unresolvedStepReference ∧ x.cause.subject = s!"step_{i}" ∧
          x.index = some ((past.length + j : Nat) : Int) ∧
          run c w step (reached j) = stopped (reached j) (.rejected x) ∧
          (runPlan c w built.2 s).result =
            .error (abortion (reached j) (responses (ds.take j)) built.2.steps.length x) := by
  intro past s built ds own reached
  have mirrors : s.ledger.Mirrors past := play_mirrors turns m
  refine ⟨mirrors.step, fun n x => responses_getElem built.2.steps s, ?_⟩
  intro i r at_i
  have within : i < steps.length := by
    rw [← Plan.assemble_length { callerKey } steps]
    exact (List.getElem?_eq_some_iff.mp at_i).1
  have fits : i < 10 ^ Decimal.maxDigits := by omega
  have same : r = ⟨(i : Nat)⟩ := by
    have named := Plan.assemble_reference _ steps at_i
    rwa [List.length_nil, Nat.zero_add] at named
  subst same
  refine ⟨Reference.text_natCast i, ?_, ?_⟩
  · intro j k d at_j param
    obtain ⟨x, b, before, earlier, ok, id, receives⟩ :=
      deed_receives_after mirrors built.2.steps fits at_j param
    refine ⟨x, b, ?_, ok, id, receives⟩
    rw [List.getElem?_append] at earlier
    split at earlier
    · rename_i outside
      exact .inl ⟨outside, earlier⟩
    · exact .inr ⟨by omega, by omega, earlier⟩
  · intro j k step here bound met param before unproduced
    have known : step.isChecked = true := Plan.assemble_isChecked checked step (List.mem_of_getElem? here)
    obtain ⟨counter, stop, result⟩ := runPlan_unmapped_after mirrors built.2 fits here
      (Step.endpoint_isChecked known) met param bound before unproduced
    exact ⟨unmappedAt i (reached j), rfl, rfl, by rw [unmappedAt, counter], stop, result⟩

def counting : Collaborators Interpreter.Memory := collaborators (Interpreter.follow [])

def uncounted : Machine Interpreter.Memory := ⟨⟨{}, {}, {}⟩, []⟩

def nth (n : Nat) : Bytes := List.replicate 32 (UInt8.ofNat n)

theorem counting_failRecordably : counting.FailRecordably := collaborators_failRecordably fun _ _ _ => nofun

theorem callZeros_counting (s : Session Interpreter.Memory) :
    let made := carryOut counting {} (callZeros .execute) [⟨.id, List.replicate 32 0⟩] s
    ∃ r, made.1 = .ok r ∧ producedId r = some (.whole (Hex.encode (nth (s.machine.memory.calls + 1)))) ∧
      made.2.memory.calls = s.machine.memory.calls + 1 := by
  intro made
  have done : (performed counting {} (callZeros .execute) [⟨.id, List.replicate 32 0⟩] s).1 =
      .ok (.call (nth (s.machine.memory.calls + 1)) (some [0x2a]) 1000) := rfl
  exact ⟨_, carryOut_succeeded done, rfl, rfl⟩

theorem deeds_counting :
    let turns := [.call {} (.one (callZeros .execute))]
    ∃ p x d e, deeds counting turns ⟨uncounted, {}⟩ = [p] ∧ p.answer = .ok x ∧
      deedsOf counting {} [callZeros .execute, callFirst] (play counting turns ⟨uncounted, {}⟩) = [d, e] ∧
      (∃ y, d.answer = .ok y ∧ y.result.id = some (.whole (Hex.encode (nth 2)))) ∧
      e.step = callFirst ∧ e.params = [⟨.id, nth 1⟩] := by
  intro turns
  have first := callZeros_carriesOut_in counting {} (s := ⟨uncounted, {}⟩) Ledger.isOpen_fresh (.inl rfl)
  obtain ⟨x, answered, one, count⟩ := callZeros_counting ⟨uncounted, {}⟩
  have next := first.ledger.recorded x answered
  have opened := next.isOpen Ledger.isOpen_fresh
  have second := callZeros_carriesOut_in counting {} opened (.inl rfl)
  obtain ⟨y, answered', two, _⟩ :=
    callZeros_counting (run counting {} (callZeros .execute) ⟨uncounted, {}⟩).session
  rw [first.machine, count] at two
  have later := second.ledger.recorded y answered'
  obtain ⟨b, found, text⟩ := Option.map_eq_some_iff.mp (next.here.trans one)
  have ones : b.bytes = nth 1 := Hex.encode_injective (Text.whole.inj text)
  have third := callFirst_carriesOut counting {} (later.isOpen opened) (later.lookup_kept opened found)
  obtain ⟨z, answered''⟩ := carryOut_recorded counting_failRecordably {} callFirst [⟨.id, b.bytes⟩]
    (run counting {} (callZeros .execute)
      (run counting {} (callZeros .execute) ⟨uncounted, {}⟩).session).session
  simp only [turns, play, deeds, Turn.play, Turn.deeds, Request.serve, Request.deeds, Request.steps,
    Ran.alone, deedsOf_recorded _ first answered, deedsOf_recorded _ second answered',
    deedsOf_recorded _ third answered'']
  exact ⟨_, x, _, _, rfl, rfl, rfl, ⟨y, rfl, (producedId_eq_some.mp two).2⟩, rfl, by rw [ones]⟩

theorem callZeros_callFirst_isChecked :
    ∀ step ∈ [callZeros .execute, callFirst], step.isChecked = true := by decide

theorem later_plan_gets_identifier_of_earlier_call :
    let steps := [callZeros .execute, callFirst]
    let turns := [.call {} (.one (callZeros .execute))]
    let past := responses (deeds counting turns ⟨uncounted, {}⟩)
    let ds := deedsOf counting {} (Plan.assemble {} steps).2.steps (play counting turns ⟨uncounted, {}⟩)
    (∀ step ∈ steps, step.isChecked = true) ∧ steps.length ≤ 10 ^ Decimal.maxDigits ∧
      ∃ x e b, past[0]? = some x ∧ ds[1]? = some e ∧
        x.result.id = some (.whole (Hex.encode b.bytes)) ∧ e.Receives counting 0 b := by
  intro steps turns past ds
  have short : steps.length ≤ 10 ^ Decimal.maxDigits :=
    Nat.le_of_lt (Nat.lt_of_le_of_lt (by decide : 2 ≤ Decimal.maxDigits) (Nat.lt_pow_self (by decide)))
  obtain ⟨p, q, d, e, before, answered, both, _, step, _⟩ := deeds_counting
  have one : past = [q] := by
    simp only [past, turns, before, responses_cons, Deed.response_some.mpr answered]
    rfl
  have main := references_number_all_steps counting uncounted turns {} "" callZeros_callFirst_isChecked
    short
  obtain ⟨_, _, reach⟩ := main
  obtain ⟨x, b, place, _, id, receives⟩ :=
    (reach 0 ⟨0⟩ rfl).2.1 1 0 e (congrArg (·[1]?) both) (by rw [step]; rfl)
  rcases place with ⟨_, outside⟩ | ⟨none_before, _⟩
  · exact ⟨callZeros_callFirst_isChecked, short, x, e, b, outside, congrArg (·[1]?) both, id, receives⟩
  · have count : past.length = 1 := congrArg List.length one
    change past.length ≤ 0 at none_before
    omega

/-- A plan that is not the first thing a run does may be given an identifier that none of its own steps has
produced. -/
theorem references_are_not_scoped_to_their_plan :
    ¬ ∀ (c : Collaborators Interpreter.Memory) (m : Machine Interpreter.Memory)
      (turns : List (Turn Interpreter.Memory)) (w : Surroundings) (steps : List Step) (i j k : Nat)
      (r : Reference) (d : Deed Interpreter.Memory),
      let built := Plan.assemble {} steps
      let ds := deedsOf c w built.2.steps (play c turns ⟨m, {}⟩)
      (∀ step ∈ steps, step.isChecked = true) → i < j → built.1[i]? = some r → ds[j]? = some d →
        d.step.params[k]? = some (.ofReference r) →
        ∃ e x b, ds[i]? = some e ∧ e.answer = .ok x ∧
          x.result.id = some (.whole (Hex.encode b.bytes)) ∧ d.Receives c k b := by
  intro own
  obtain ⟨p, _, d, e, _, _, both, ⟨y, answered, two⟩, step, params⟩ := deeds_counting
  have second := congrArg (·[1]?) both
  have param : e.step.params[0]? = some (.ofReference ⟨0⟩) := by
    rw [step]
    rfl
  obtain ⟨x, z, b, first, gave, given, receives⟩ := own counting uncounted _ {}
    [callZeros .execute, callFirst] 0 1 0 ⟨0⟩ e callZeros_callFirst_isChecked Nat.zero_lt_one rfl second
    param
  cases (congrArg (·[0]?) both).symm.trans first
  cases answered.symm.trans gave
  rw [two] at given
  have twos : nth 2 = b.bytes := Hex.encode_injective (Text.whole.inj (Option.some.inj given))
  have ones := receives.param
  rw [params, ← twos] at ones
  have same : nth 1 = nth 2 := congrArg Parameter.value (Option.some.inj ones)
  exact absurd same (by decide)

end Rehearsal.Run
