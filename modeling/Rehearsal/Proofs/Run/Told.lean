import Rehearsal.Run

namespace Rehearsal

universe u

variable {σ α : Type} {μ : Type u}

def Ran.behind (events : List Event) (ran : Ran σ α) : Told σ (List Event) α :=
  ⟨ran.result, ran.session, events ++ ran.events⟩

namespace Run

def stopped (s : Session σ) (f : Failure) : Ran σ α :=
  match f with
  | .rejected r => ⟨.error f, s, [rejection s r]⟩
  | f => ⟨.error f, s, []⟩

@[simp] theorem stopped_session (s : Session σ) (f : Failure) :
    (stopped s f : Ran σ α).session = s := by cases f <;> rfl

@[simp] theorem stopped_result (s : Session σ) (f : Failure) :
    (stopped s f : Ran σ α).result = .error f := by cases f <;> rfl

theorem stoppedTold_keep (s : Session σ) (f : Failure) (events : List Event) :
    (stoppedTold keep s f events : Told σ _ α) = (stopped s f).behind events := by
  cases f <;> simp [stoppedTold, stopped, keep, Ran.behind]

section

variable {c : Collaborators σ} {w : Surroundings} {step : Step} {s : Session σ}
  {params : List Parameter}

theorem run_unchecked (unchecked : step.endpoint.isChecked = false) :
    run c w step s = stopped s (.fault .uncheckedLabel) := by
  simp only [run, runTold, unchecked, Bool.false_eq_true, ↓reduceIte]
  rfl

theorem run_unprepared {f : Failure} (checked : step.endpoint.isChecked = true)
    (refused : prepare c w step s = .error f) : run c w step s = stopped s f := by
  simp only [run, runTold, checked, ↓reduceIte, refused, stoppedTold_keep]
  rfl

theorem run_lost {f : Failure} (checked : step.endpoint.isChecked = true)
    (prepared : prepare c w step s = .ok params) (lost : (carryOut c w step params s).1 = .error f) :
    run c w step s =
      ⟨.error f, ⟨(carryOut c w step params s).2, s.ledger⟩, [started step params s]⟩ := by
  simp only [run, runTold, checked, ↓reduceIte, prepared, keep, finishTold, lost]
  rfl

theorem run_refused {r : Response} {refusal : Ledger.Refusal} (checked : step.endpoint.isChecked = true)
    (prepared : prepare c w step s = .ok params) (answered : (carryOut c w step params s).1 = .ok r)
    (refused : record s.ledger r = .error refusal) :
    run c w step s = ⟨.error (.fault (.ledger refusal)), ⟨(carryOut c w step params s).2, s.ledger⟩,
      [started step params s]⟩ := by
  simp only [run, runTold, checked, ↓reduceIte, prepared, keep, finishTold, answered, refused]
  rfl

theorem run_recorded {r : Response} {l : Ledger} (checked : step.endpoint.isChecked = true)
    (prepared : prepare c w step s = .ok params) (answered : (carryOut c w step params s).1 = .ok r)
    (recorded : record s.ledger r = .ok l) :
    run c w step s = ⟨.ok r, ⟨(carryOut c w step params s).2, l.advance⟩,
      [started step params s, ending step r]⟩ := by
  simp only [run, runTold, checked, ↓reduceIte, prepared, keep, finishTold, answered, recorded]
  rfl

theorem runTold_keep (c : Collaborators σ) (w : Surroundings) (step : Step) (s : Session σ)
    (events : List Event) : runTold keep c w step s events = (run c w step s).behind events := by
  cases checked : step.endpoint.isChecked with
  | false =>
    simp only [run, runTold, checked, Bool.false_eq_true, ↓reduceIte, Ran.behind, List.append_nil]
  | true =>
    cases prepared : prepare c w step s with
    | error f =>
      rw [run_unprepared checked prepared]
      simp only [runTold, checked, ↓reduceIte, prepared, stoppedTold_keep]
    | ok params =>
      simp only [runTold, checked, ↓reduceIte, prepared, finishTold]
      cases answered : (carryOut c w step params s).1 with
      | error f =>
        rw [run_lost checked prepared answered]
        rfl
      | ok r =>
        cases recorded : record s.ledger r with
        | error refusal =>
          rw [run_refused checked prepared answered recorded]
          simp only [recorded]
          rfl
        | ok l =>
          rw [run_recorded checked prepared answered recorded]
          simp only [recorded, keep, Ran.behind, List.append_assoc]
          rfl

theorem runLoaded_eq (c : Collaborators σ) (w : Surroundings) (text file : Option Text)
    (s : Session σ) :
    runLoaded c w text file s =
      match Load.step w.files text file with
      | .error f => stopped s f
      | .ok step => run c w step s := by
  unfold runLoaded runLoadedTold
  cases Load.step w.files text file with
  | error f =>
    simp only [stoppedTold_keep]
    rfl
  | ok step => rfl

def broken (s : Session σ) (past : List Response) (total : Nat) : Failure → Failure
  | .rejected r => abortion s past total r
  | f => f

theorem broken_of_other {f : Failure} (other : ∀ r, f ≠ .rejected r) (s : Session σ)
    (past : List Response) (total : Nat) : broken s past total f = f := by
  cases f
  case rejected r => exact absurd rfl (other r)
  all_goals rfl

theorem runRestTold_keep (total : Nat) (past : List Response) (steps : List Step) (s : Session σ)
    (events : List Event) :
    runRestTold keep c w total past steps s events = (runRest c w total past steps s).behind events := by
  induction steps generalizing past s events with
  | nil => simp [runRest, runRestTold, Ran.behind]
  | cons step rest ih =>
    unfold runRest
    simp only [runRestTold, runTold_keep, Ran.behind]
    cases (run c w step s).result with
    | error f => cases f <;> simp
    | ok r => simp [ih, Ran.behind]

theorem runRest_nil (total : Nat) (past : List Response) (s : Session σ) :
    runRest c w total past [] s = ⟨.ok past, s, []⟩ := rfl

theorem runRest_cons (total : Nat) (past : List Response) (step : Step) (rest : List Step)
    (s : Session σ) :
    runRest c w total past (step :: rest) s =
      let ran := run c w step s
      match ran.result with
      | .error f => ⟨.error (broken ran.session past total f), ran.session, ran.events⟩
      | .ok response =>
        let later := runRest c w total (past ++ [response]) rest ran.session
        { later with events := ran.events ++ later.events } := by
  show (let told := runRestTold keep c w total past (step :: rest) s []; (⟨told.result, told.session,
    told.audience⟩ : Ran σ (List Response))) = _
  simp only [runRestTold, runTold_keep, runRestTold_keep, Ran.behind, List.nil_append]
  cases (run c w step s).result with
  | error f => cases f <;> rfl
  | ok r => rfl

end

def tellAll (tell : Tell μ) : List Event → μ → Except Failure Unit × μ
  | [], m => (.ok (), m)
  | e :: rest, m =>
    match tell e m with
    | (.ok (), m) => tellAll tell rest m
    | (.error escaped, m) => (.error escaped, m)

theorem tellAll_append (tell : Tell μ) (xs ys : List Event) (m : μ) :
    tellAll tell (xs ++ ys) m =
      match tellAll tell xs m with
      | (.ok (), m) => tellAll tell ys m
      | (.error escaped, m) => (.error escaped, m) := by
  induction xs generalizing m with
  | nil => rfl
  | cons e rest ih =>
    simp only [List.cons_append, tellAll]
    rcases tell e m with ⟨_ | _, m⟩
    · rfl
    · exact ih m

end Run

/-- How an operation goes before an audience: as it goes anyway, with its events told in order, until
one is told that the audience fails with. -/
structure Told.Follows (told : Told σ μ α) (tell : Tell μ) (m : μ) (ran : Ran σ α) : Prop where
  audience : told.audience = (Run.tellAll tell ran.events m).2
  heard : (Run.tellAll tell ran.events m).1 = .ok () →
    told.result = ran.result ∧ told.session = ran.session
  escaped : ∀ f, (Run.tellAll tell ran.events m).1 = .error f → told.result = .error f

namespace Run

variable {tell : Tell μ} {m : μ} {c : Collaborators σ} {w : Surroundings} {s : Session σ}

theorem stoppedTold_follows (s : Session σ) (f : Failure) :
    (stoppedTold tell s f m : Told σ μ α).Follows tell m (stopped s f) := by
  cases f
  case rejected r =>
    simp only [stoppedTold, stopped]
    rcases told : tell (rejection s r) m with ⟨_ | _, m'⟩ <;> constructor <;> simp [tellAll, told]
  all_goals constructor <;> simp [stoppedTold, stopped, tellAll]

theorem runTold_follows (step : Step) : (runTold tell c w step s m).Follows tell m (run c w step s) := by
  cases checked : step.endpoint.isChecked with
  | false =>
    rw [run_unchecked checked]
    constructor <;> simp [runTold, checked, stopped, tellAll]
  | true =>
    cases prepared : prepare c w step s with
    | error f =>
      rw [run_unprepared checked prepared]
      simp only [runTold, checked, ↓reduceIte, prepared]
      exact stoppedTold_follows s f
    | ok params =>
      simp only [runTold, checked, ↓reduceIte, prepared, finishTold]
      rcases begun : tell (started step params s) m with ⟨_ | _, m'⟩ <;>
        cases answered : (carryOut c w step params s).1 with
        | error f =>
          rw [run_lost checked prepared answered]
          constructor <;> simp [tellAll, begun]
        | ok r =>
          cases recorded : record s.ledger r with
          | error refusal =>
            rw [run_refused checked prepared answered recorded]
            constructor <;> simp [tellAll, begun, recorded]
          | ok l =>
            rw [run_recorded checked prepared answered recorded]
            rcases closed : tell (ending step r) m' with ⟨_ | _, m''⟩ <;>
              constructor <;> simp [tellAll, begun, recorded, closed]

theorem runLoadedTold_follows (text file : Option Text) :
    (runLoadedTold tell c w text file s m).Follows tell m (runLoaded c w text file s) := by
  rw [runLoaded_eq]
  unfold runLoadedTold
  cases Load.step w.files text file with
  | error f => exact stoppedTold_follows s f
  | ok step => exact runTold_follows step

theorem tellAll_calm (calm : ∀ e m r, (tell e m).1 ≠ .error (.rejected r)) (events : List Event) (m : μ)
    (r : Rejection) : (tellAll tell events m).1 ≠ .error (.rejected r) := by
  induction events generalizing m with
  | nil => exact fun failed => nomatch failed
  | cons e rest ih =>
    have now := calm e m r
    unfold tellAll
    rcases told : tell e m with ⟨_ | _, m'⟩
    · rw [told] at now
      exact now
    · exact ih m'

theorem runRestTold_cons (total : Nat) (past : List Response) (step : Step) (rest : List Step) (m : μ) :
    runRestTold tell c w total past (step :: rest) s m =
      let told := runTold tell c w step s m
      match told.result with
      | .error f => ⟨.error (broken told.session past total f), told.session, told.audience⟩
      | .ok response =>
        runRestTold tell c w total (past ++ [response]) rest told.session told.audience := by
  simp only [runRestTold]
  cases (runTold tell c w step s m).result with
  | error f => cases f <;> rfl
  | ok r => rfl

/-- A plan goes on before an audience as its steps do, if the audience never fails as a step that is
turned away does. -/
theorem runRestTold_follows (calm : ∀ e m r, (tell e m).1 ≠ .error (.rejected r)) (total : Nat)
    (past : List Response) (steps : List Step) :
    (runRestTold tell c w total past steps s m).Follows tell m (runRest c w total past steps s) := by
  induction steps generalizing past s m with
  | nil => constructor <;> simp [runRestTold, runRest_nil, tellAll]
  | cons step rest ih =>
    obtain ⟨audience, heard, escaped⟩ : (runTold tell c w step s m).Follows tell m (run c w step s) :=
      runTold_follows step
    rw [runRestTold_cons, runRest_cons]
    rcases told : tellAll tell (run c w step s).events m with ⟨f | _, m'⟩ <;>
      rw [told] at audience heard escaped
    · have stops : (runTold tell c w step s m).result = .error f := escaped f rfl
      have other : ∀ r, f ≠ .rejected r := by
        rintro r rfl
        exact tellAll_calm calm _ m r (congrArg Prod.fst told)
      -- Whatever comes behind these events, it is not told any more.
      have cut : ∀ later, tellAll tell ((run c w step s).events ++ later) m = (.error f, m') := by
        intro later
        rw [tellAll_append, told]
      simp only [stops, broken_of_other other]
      cases (run c w step s).result <;> constructor <;> simp [told, cut, audience]
    · obtain ⟨result, session⟩ := heard rfl
      simp only [result, session, audience]
      cases (run c w step s).result with
      | error f => constructor <;> simp [told]
      | ok r =>
        obtain ⟨audience, heard, escaped⟩ := ih (m := m') (s := (run c w step s).session) (past ++ [r])
        constructor <;> simpa only [tellAll_append, told]

end Run

end Rehearsal
