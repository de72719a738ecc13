import Rehearsal.Proofs.Run.History

namespace Rehearsal.Run

variable {σ : Type} {c : Collaborators σ} {w : Surroundings} {step : Step} {s t : Session σ}

/-- Steps run one by one, all of which return: where they start, what they answer, where they end. -/
inductive Runs (c : Collaborators σ) (w : Surroundings) :
    Session σ → List Step → List Response → Session σ → Prop
  | done (s : Session σ) : Runs c w s [] [] s
  | next {s t : Session σ} {step : Step} {rest : List Step} {r : Response} {rs : List Response}
      (returned : (run c w step s).result = .ok r)
      (later : Runs c w (run c w step s).session rest rs t) : Runs c w s (step :: rest) (r :: rs) t

/-- Steps run one by one, of which the one at a position is the first that does not return; before it
the others have given their responses and have led to a session. -/
structure StopsAt (c : Collaborators σ) (w : Surroundings) (s : Session σ) (steps : List Step) (k : Nat)
    (rs : List Response) (t : Session σ) (f : Failure) : Prop where
  ran : Runs c w s (steps.take k) rs t
  fails : ∃ step, steps[k]? = some step ∧ (run c w step t).result = .error f

theorem Runs.length {steps : List Step} {rs : List Response} (ran : Runs c w s steps rs t) :
    rs.length = steps.length := by
  induction ran with
  | done => rfl
  | next _ _ ih => simp only [List.length_cons, ih]

theorem Runs.ledger {steps : List Step} {rs : List Response} (ran : Runs c w s steps rs t)
    (opened : s.ledger.IsOpen) : t.ledger.IsOpen ∧ t.ledger.step = s.ledger.step + steps.length := by
  induction ran with
  | done => exact ⟨opened, rfl⟩
  | next returned _ ih =>
    obtain ⟨params, carried, answered⟩ := run_ok opened returned
    obtain ⟨kept, count⟩ := ih (carried.ledger.isOpen opened)
    rw [(carried.ledger.recorded _ answered).step] at count
    refine ⟨kept, ?_⟩
    rw [count, List.length_cons]
    omega

theorem Runs.mem {steps : List Step} {rs : List Response} (ran : Runs c w s steps rs t)
    (opened : s.ledger.IsOpen) :
    ∀ r ∈ rs, ∃ step ∈ steps, ∃ s, s.ledger.IsOpen ∧ (run c w step s).result = .ok r := by
  induction ran with
  | done => simp
  | @next s t step rest r rs returned _ ih =>
    obtain ⟨params, carried, _⟩ := run_ok opened returned
    have later := ih (carried.ledger.isOpen opened)
    refine List.forall_mem_cons.mpr ⟨⟨step, List.mem_cons_self, s, opened, returned⟩, ?_⟩
    intro r member
    obtain ⟨step, among, ran⟩ := later r member
    exact ⟨step, .tail _ among, ran⟩

theorem Runs.append {xs ys : List Step} {rs qs : List Response} {u : Session σ}
    (first : Runs c w s xs rs t) (second : Runs c w t ys qs u) :
    Runs c w s (xs ++ ys) (rs ++ qs) u := by
  induction first with
  | done => exact second
  | next returned _ ih => exact .next returned (ih second)

theorem StopsAt.append {xs ys : List Step} {rs qs : List Response} {u : Session σ} {k : Nat} {f : Failure}
    (first : Runs c w s xs rs t) (second : StopsAt c w t ys k qs u f) :
    StopsAt c w s (xs ++ ys) (xs.length + k) (rs ++ qs) u f := by
  constructor
  · rw [List.take_length_add_append]
    exact first.append second.ran
  · obtain ⟨step, at_k, fails⟩ := second.fails
    refine ⟨step, ?_, fails⟩
    rw [List.getElem?_append_right (Nat.le_add_right _ _), Nat.add_sub_cancel_left, at_k]

theorem StopsAt.position_lt {steps : List Step} {rs : List Response} {k : Nat} {f : Failure}
    (stops : StopsAt c w s steps k rs t f) : k < steps.length := by
  obtain ⟨step, at_k, _⟩ := stops.fails
  exact (List.getElem?_eq_some_iff.mp at_k).1

theorem StopsAt.length {steps : List Step} {rs : List Response} {k : Nat} {f : Failure}
    (stops : StopsAt c w s steps k rs t f) : rs.length = k := by
  have bound := stops.position_lt
  rw [stops.ran.length, List.length_take]
  omega

theorem runs_or_stops (c : Collaborators σ) (w : Surroundings) (s : Session σ) (steps : List Step) :
    (∃ rs t, Runs c w s steps rs t) ∨ ∃ k rs t f, StopsAt c w s steps k rs t f := by
  induction steps generalizing s with
  | nil => exact .inl ⟨[], s, .done s⟩
  | cons step rest ih =>
    cases result : (run c w step s).result with
    | error f => exact .inr ⟨0, [], s, f, .done s, step, rfl, result⟩
    | ok r =>
      rcases ih (run c w step s).session with ⟨rs, t, later⟩ | ⟨k, rs, t, f, later⟩
      · exact .inl ⟨r :: rs, t, .next result later⟩
      · exact .inr ⟨k + 1, r :: rs, t, f, .next result later.ran, later.fails⟩

theorem run_rejected {r : Rejection} (rejected : (run c w step s).result = .error (.rejected r)) :
    step.endpoint.isChecked = true ∧ prepare c w step s = .error (.rejected r) ∧
      run c w step s = stopped s (.rejected r) := by
  cases checked : step.endpoint.isChecked with
  | false =>
    rw [run_unchecked checked, stopped_result] at rejected
    cases rejected
  | true =>
    cases prepared : prepare c w step s with
    | error f =>
      have stop := run_unprepared checked prepared
      rw [stop, stopped_result] at rejected
      cases rejected
      exact ⟨rfl, rfl, stop⟩
    | ok params =>
      exfalso
      cases answered : (carryOut c w step params s).1 with
      | error f =>
        rw [run_lost checked prepared answered] at rejected
        exact carryOut_not_rejected answered r (Except.error.inj rejected)
      | ok x =>
        cases recorded : record s.ledger x with
        | error refusal =>
          rw [run_refused checked prepared answered recorded] at rejected
          cases rejected
        | ok l =>
          rw [run_recorded checked prepared answered recorded] at rejected
          cases rejected

theorem run_rejected_iff {r : Rejection} :
    (run c w step s).result = .error (.rejected r) ↔
      step.endpoint.isChecked = true ∧ prepare c w step s = .error (.rejected r) := by
  constructor
  · intro rejected
    obtain ⟨checked, refused, _⟩ := run_rejected rejected
    exact ⟨checked, refused⟩
  · rintro ⟨checked, refused⟩
    rw [run_unprepared checked refused, stopped_result]

theorem run_failed {params : List Parameter} {r : Response} (checked : step.endpoint.isChecked = true)
    (prepared : prepare c w step s = .ok params) (answered : (carryOut c w step params s).1 = .ok r)
    (failed : r.isOk = false) : (run c w step s).result = .ok r := by
  have nothing : producedId r = none := by
    simp only [producedId, failed, Bool.false_eq_true, ↓reduceIte]
  have recorded : record s.ledger r = .ok s.ledger := by
    simp only [record, nothing, Option.filter_none]
  rw [run_recorded checked prepared answered recorded]

/-- Behind steps that return, the rest of a plan goes on from where they end. -/
theorem runRest_append (total : Nat) {xs : List Step} {rs : List Response} (ran : Runs c w s xs rs t)
    (past : List Response) (ys : List Step) :
    runRest c w total past (xs ++ ys) s =
      { runRest c w total (past ++ rs) ys t with
        events := (runRest c w total past xs s).events ++
          (runRest c w total (past ++ rs) ys t).events } := by
  induction ran generalizing past with
  | done s => simp [runRest_nil]
  | next returned later ih =>
    simp only [List.cons_append, runRest_cons, returned, ih, List.append_assoc, List.nil_append]

theorem runRest_runs (total : Nat) {steps : List Step} {rs : List Response} (ran : Runs c w s steps rs t)
    (past : List Response) :
    (runRest c w total past steps s).result = .ok (past ++ rs) ∧
      (runRest c w total past steps s).session = t := by
  have whole := runRest_append total ran past []
  rw [List.append_nil] at whole
  rw [whole]
  exact ⟨rfl, rfl⟩

theorem runRest_stops (total : Nat) {steps : List Step} {k : Nat} {rs : List Response} {f : Failure}
    (stops : StopsAt c w s steps k rs t f) (past : List Response) :
    (∀ r, f = .rejected r →
      (runRest c w total past steps s).result = .error (abortion t (past ++ rs) total r) ∧
        (runRest c w total past steps s).session = t) ∧
    ((∀ r, f ≠ .rejected r) → (runRest c w total past steps s).result = .error f) := by
  obtain ⟨step, at_k, fails⟩ := stops.fails
  obtain ⟨bound, here⟩ := List.getElem?_eq_some_iff.mp at_k
  have split : steps = steps.take k ++ step :: steps.drop (k + 1) := by
    rw [← here, List.getElem_cons_drop, List.take_append_drop]
  rw [split, runRest_append total stops.ran]
  constructor
  · rintro r rfl
    obtain ⟨_, _, stop⟩ := run_rejected fails
    simp only [runRest_cons, stop, stopped_result, stopped_session, broken, and_self]
  · intro other
    simp only [runRest_cons, fails, broken_of_other other]

/-- What a plan leaves and tells of does not depend on how it counts its steps. -/
theorem runRest_counting (total total' : Nat) (past past' : List Response) (steps : List Step)
    (s : Session σ) :
    (runRest c w total past steps s).session = (runRest c w total' past' steps s).session ∧
      (runRest c w total past steps s).events = (runRest c w total' past' steps s).events := by
  induction steps generalizing past past' s with
  | nil => exact ⟨rfl, rfl⟩
  | cons step rest ih =>
    cases result : (run c w step s).result with
    | ok r =>
      obtain ⟨session, events⟩ := ih (past ++ [r]) (past' ++ [r]) (run c w step s).session
      simp only [runRest_cons, result, session, events, and_self]
    | error f => simp only [runRest_cons, result, and_self]

theorem runPlan_ok {p : Plan} {rs : List Response} (returned : (runPlan c w p s).result = .ok rs) :
    Runs c w s p.steps rs (runPlan c w p s).session := by
  rcases runs_or_stops c w s p.steps with ⟨qs, t, ran⟩ | ⟨k, qs, t, f, stops⟩
  · obtain ⟨result, session⟩ := runRest_runs p.steps.length ran []
    have same : qs = rs := Except.ok.inj (result.symm.trans returned)
    rwa [← same, runPlan, session]
  · obtain ⟨aborts, escapes⟩ := runRest_stops p.steps.length stops []
    have failed : ∃ g, (runPlan c w p s).result = .error g := by
      cases f with
      | rejected r => exact ⟨_, (aborts r rfl).1⟩
      | _ => exact ⟨_, escapes fun r other => Failure.noConfusion other⟩
    obtain ⟨g, failed⟩ := failed
    cases returned.symm.trans failed

/-- Whatever the session, a plan does what its steps do that are given to `run` one by one: they all
return, and so does the plan, or there is a first one that does not. If that is rejected, the plan is
broken off with the responses before it and its rejection, and the session is the one that the steps
before it left. A step is never rejected for what happens when it is carried out. So a plan behind one
that returns is the same as both in one. -/
theorem plans_run_step_by_step (c : Collaborators σ) (w : Surroundings) (p : Plan) (s : Session σ) :
    let ran := runPlan c w p s
    ((∃ rs t, Runs c w s p.steps rs t) ∨ ∃ k rs t f, StopsAt c w s p.steps k rs t f) ∧
    (∀ rs t, Runs c w s p.steps rs t →
      ran.result = .ok rs ∧ ran.session = t ∧ rs.length = p.steps.length) ∧
    (∀ k rs t r, StopsAt c w s p.steps k rs t (.rejected r) →
      ran.result = .error (.aborted (s!"plan aborted at step {t.ledger.step}: " ++ r.message) rs k
        p.steps.length (some (.rejected r))) ∧
      ran.session = t ∧ rs.length = k ∧ k < p.steps.length) ∧
    (∀ k rs t f, StopsAt c w s p.steps k rs t f → (∀ r, f ≠ .rejected r) → ran.result = .error f) ∧
    (∀ step t params, step.endpoint.isChecked = true → prepare c w step t = .ok params →
      (∀ r, (run c w step t).result ≠ .error (.rejected r)) ∧
      ∀ r, (carryOut c w step params t).1 = .ok r → r.isOk = false →
        (run c w step t).result = .ok r) ∧
    ∀ (q : Plan) (key : Text) (rs : List Response), ran.result = .ok rs →
      let rest := runPlan c w q ran.session
      let whole := runPlan c w ⟨key, p.steps ++ q.steps⟩ s
      whole.session = rest.session ∧ whole.events = ran.events ++ rest.events ∧
      (∀ qs, rest.result = .ok qs → whole.result = .ok (rs ++ qs)) ∧
      (∀ k qs t r, StopsAt c w ran.session q.steps k qs t (.rejected r) →
        rest.result = .error (abortion t qs q.steps.length r) ∧
        whole.result = .error (abortion t (rs ++ qs) (p.steps.length + q.steps.length) r)) ∧
      (∀ k qs t f, StopsAt c w ran.session q.steps k qs t f → (∀ r, f ≠ .rejected r) →
        rest.result = .error f ∧ whole.result = .error f) := by
  intro ran
  refine ⟨runs_or_stops c w s p.steps, ?_, ?_, ?_, ?_, ?_⟩
  · intro rs t went
    obtain ⟨result, session⟩ := runRest_runs p.steps.length went []
    exact ⟨result, session, went.length⟩
  · intro k rs t r stops
    obtain ⟨result, session⟩ := (runRest_stops p.steps.length stops []).1 r rfl
    have counted := stops.length
    refine ⟨?_, session, counted, stops.position_lt⟩
    rw [← counted]
    exact result
  · intro k rs t f stops other
    exact (runRest_stops p.steps.length stops []).2 other
  · intro step t params checked prepared
    refine ⟨?_, fun _ answered failed => run_failed checked prepared answered failed⟩
    intro r rejected
    have refused := (run_rejected_iff.mp rejected).2
    rw [prepared] at refused
    cases refused
  · intro q key rs returned rest whole
    have went : Runs c w s p.steps rs ran.session := runPlan_ok returned
    have total : (p.steps ++ q.steps).length = p.steps.length + q.steps.length := List.length_append
    have joined := runRest_append (p.steps ++ q.steps).length went [] q.steps
    rw [List.nil_append] at joined
    obtain ⟨left, told⟩ := runRest_counting (c := c) (w := w) (p.steps ++ q.steps).length
      q.steps.length rs [] q.steps ran.session
    have before := (runRest_counting (c := c) (w := w) (p.steps ++ q.steps).length p.steps.length [] []
      p.steps s).2
    refine ⟨?_, ?_, ?_, ?_, ?_⟩
    · exact (congrArg Ran.session joined).trans left
    · refine (congrArg Ran.events joined).trans ?_
      rw [before, told]
      rfl
    · intro qs returned
      exact (runRest_runs _ (went.append (runPlan_ok returned)) []).1
    · intro k qs t r stops
      refine ⟨((runRest_stops _ stops []).1 r rfl).1, ?_⟩
      rw [← total]
      exact ((runRest_stops _ (StopsAt.append went stops) []).1 r rfl).1
    · intro k qs t f stops other
      exact ⟨(runRest_stops _ stops []).2 other, (runRest_stops _ (StopsAt.append went stops) []).2 other⟩

def empty : Step := { endpoint := .key }

theorem empty_rejected (c : Collaborators σ) (w : Surroundings) (s : Session σ) :
    (run c w empty s).result = .error (.rejected ⟨.noParams, some s.ledger.step⟩) :=
  run_rejected_iff.mpr ⟨rfl, rfl⟩

theorem plan_breaks_off_behind_a_failed_call :
    let c := collaborators noInterpreter
    let p : Plan := ⟨"", [callZeros .readonly, empty, callZeros .readonly]⟩
    ∃ r : Response, r.isOk = false ∧
      (runPlan c {} p ⟨blank, {}⟩).result =
        .error (.aborted "plan aborted at step 1: step 1: no params found" [r] 1 3
          (some (.rejected ⟨.noParams, some 1⟩))) := by
  intro c p
  have carried := callZeros_carriesOut c (.inr rfl)
  let b : Breakdown := .noInterpreter "m"
  let r := (blankResponse {} (callZeros .readonly) ⟨blank, {}⟩).marked b.message (some b.name)
  have answered : (carryOut c {} (callZeros .readonly) [⟨.id, List.replicate 32 0⟩] ⟨blank, {}⟩).1 = .ok r :=
    rfl
  have first : Runs c {} ⟨blank, {}⟩ [callZeros .readonly] [r] _ :=
    .next (carried.result.trans answered) (.done _)
  have stops : StopsAt c {} ⟨blank, {}⟩ p.steps 1 [r] _ _ :=
    ⟨first, empty, rfl, empty_rejected c {} _⟩
  have main := (plans_run_step_by_step c {} p ⟨blank, {}⟩).2.2.1 1 _ _ _ stops
  refine ⟨r, rfl, main.1.trans ?_⟩
  rw [(carried.ledger.recorded r answered).step]
  rfl

end Rehearsal.Run
