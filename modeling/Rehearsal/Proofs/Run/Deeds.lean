import Rehearsal.Proofs.Run.StepOutcome

namespace Rehearsal.Run

variable {σ : Type} {c : Collaborators σ} {w : Surroundings} {step : Step} {s : Session σ}

theorem getElem_snoc {α : Type} {xs : List α} {x y : α} {n : Nat} (at_n : (xs ++ [x])[n]? = some y) :
    n < xs.length ∧ xs[n]? = some y ∨ n = xs.length ∧ y = x := by
  by_cases earlier : n < xs.length
  · rw [List.getElem?_append_left earlier] at at_n
    exact .inl ⟨earlier, at_n⟩
  · rw [List.getElem?_append_right (by omega)] at at_n
    obtain ⟨bound, last⟩ := List.getElem?_eq_some_iff.mp at_n
    rw [List.length_singleton] at bound
    rw [List.getElem_singleton] at last
    exact .inr ⟨by omega, last.symm⟩

/-- A step that was carried out: what surrounded it, the session that it met, its parameters as
resolved, its response or what came instead of one, and the session that it left. -/
structure Deed (σ : Type) where
  surroundings : Surroundings
  before : Session σ
  step : Step
  params : List Parameter
  answer : Except Failure Response
  after : Session σ

def Deed.response? (d : Deed σ) : Option Response := d.answer.toOption

theorem Deed.response_some {d : Deed σ} {r : Response} : d.response? = some r ↔ d.answer = .ok r := by
  unfold response?
  cases d.answer <;> simp [Except.toOption]

def responses (ds : List (Deed σ)) : List Response := ds.filterMap Deed.response?

theorem responses_append (xs ys : List (Deed σ)) :
    responses (xs ++ ys) = responses xs ++ responses ys := List.filterMap_append

theorem responses_cons (d : Deed σ) (rest : List (Deed σ)) :
    responses (d :: rest) = d.response?.toList ++ responses rest := by
  unfold responses
  cases found : d.response? <;> simp [found]

theorem answers_of_responses {ds : List (Deed σ)} (all : ∀ d ∈ ds, ∃ r, d.answer = .ok r) :
    ds.map Deed.answer = (responses ds).map .ok := by
  induction ds with
  | nil => rfl
  | cons d rest ih =>
    obtain ⟨r, answered⟩ := all d List.mem_cons_self
    have later := ih fun e member => all e (List.mem_cons_of_mem d member)
    rw [List.map_cons, responses_cons, Deed.response_some.mpr answered, later, answered]
    rfl

theorem responses_length {ds : List (Deed σ)} :
    (responses ds).length = ds.length ↔ ∀ d ∈ ds, ∃ r, d.answer = .ok r := by
  simp only [responses, List.filterMap_length_eq_length, Option.isSome_iff_exists, Deed.response_some]

def deed? (c : Collaborators σ) (w : Surroundings) (step : Step) (s : Session σ) : Option (Deed σ) :=
  if step.endpoint.isChecked then
    match prepare c w step s with
    | .ok params => some ⟨w, s, step, params, (run c w step s).result, (run c w step s).session⟩
    | .error _ => none
  else none

/-- The deeds of steps one after another, up to the first that is stopped or loses its record. -/
def deedsOf (c : Collaborators σ) (w : Surroundings) : List Step → Session σ → List (Deed σ)
  | [], _ => []
  | step :: rest, s =>
    match deed? c w step s with
    | none => []
    | some d =>
      match d.answer with
      | .ok _ => d :: deedsOf c w rest d.after
      | .error _ => [d]

def ended (s : Session σ) : List (Deed σ) → Session σ
  | [] => s
  | d :: rest => ended d.after rest

structure Deed.Genuine (c : Collaborators σ) (d : Deed σ) : Prop where
  opened : d.before.ledger.IsOpen
  carried : CarriesOut c d.surroundings d.step d.before d.params
  answer : d.answer = (carryOut c d.surroundings d.step d.params d.before).1
  after : d.after = (run c d.surroundings d.step d.before).session

theorem Deed.Genuine.ledger {d : Deed σ} (genuine : d.Genuine c) :
    d.before.ledger.After d.after.ledger d.answer := by
  rw [genuine.after, genuine.answer]
  exact genuine.carried.ledger

theorem Deed.Genuine.next {d : Deed σ} {r : Response} (genuine : d.Genuine c)
    (answered : d.answer = .ok r) : d.before.ledger.Next d.after.ledger r :=
  genuine.ledger.recorded r answered

theorem Deed.Genuine.isOpen {d : Deed σ} (genuine : d.Genuine c) : d.after.ledger.IsOpen :=
  genuine.ledger.isOpen genuine.opened

theorem Deed.Genuine.response_id {d : Deed σ} {r : Response} (genuine : d.Genuine c)
    (answered : d.answer = .ok r) : r.id = d.before.ledger.step :=
  carryOut_id (genuine.answer.symm.trans answered)

theorem Deed.Genuine.machine {d : Deed σ} (genuine : d.Genuine c) :
    d.after.machine = (carryOut c d.surroundings d.step d.params d.before).2 := by
  rw [genuine.after]
  exact genuine.carried.machine

theorem deed_of_stopped {f : Failure} (opened : s.ledger.IsOpen) (stop : run c w step s = stopped s f) :
    deed? c w step s = none := by
  unfold deed?
  split
  · rename_i checked
    cases prepared : prepare c w step s with
    | error f => rfl
    | ok params =>
      -- A step that was prepared starts, which one that is stopped does not.
      have events := (run_prepared opened checked prepared).events
      rw [stop] at events
      cases f <;> cases events
  · rfl

theorem deed_of_carriesOut {params : List Parameter} (carried : CarriesOut c w step s params) :
    deed? c w step s =
      some ⟨w, s, step, params, (carryOut c w step params s).1, (run c w step s).session⟩ := by
  simp only [deed?, carried.checked, ↓reduceIte, carried.prepared, carried.result]

theorem deed_genuine {d : Deed σ} (opened : s.ledger.IsOpen) (done : deed? c w step s = some d) :
    d.Genuine c ∧ d.surroundings = w ∧ d.before = s ∧ d.step = step := by
  rcases run_cases c w step opened with ⟨f, stop⟩ | ⟨params, carried⟩
  · rw [deed_of_stopped opened stop] at done
    cases done
  · rw [deed_of_carriesOut carried] at done
    cases done
    exact ⟨⟨opened, carried, rfl, rfl⟩, rfl, rfl, rfl⟩

section

variable {params : List Parameter} (rest : List Step)

theorem deedsOf_stopped {f : Failure} (opened : s.ledger.IsOpen) (stop : run c w step s = stopped s f) :
    deedsOf c w (step :: rest) s = [] := by
  simp only [deedsOf, deed_of_stopped opened stop]

theorem deedsOf_recorded {r : Response} (carried : CarriesOut c w step s params)
    (answered : (carryOut c w step params s).1 = .ok r) :
    deedsOf c w (step :: rest) s = ⟨w, s, step, params, .ok r, (run c w step s).session⟩ ::
      deedsOf c w rest (run c w step s).session := by
  simp only [deedsOf, deed_of_carriesOut carried, answered]

theorem deedsOf_lost {f : Failure} (carried : CarriesOut c w step s params)
    (lost : (carryOut c w step params s).1 = .error f) :
    deedsOf c w (step :: rest) s = [⟨w, s, step, params, .error f, (run c w step s).session⟩] := by
  simp only [deedsOf, deed_of_carriesOut carried, lost]

end

/-- What one deed keeps, a list of steps keeps. -/
theorem deedsOf_induction {motive : Session σ → List (Deed σ) → Prop}
    (carry : ∀ ds (d : Deed σ), d.Genuine c → motive d.before ds → motive d.after (ds ++ [d]))
    (steps : List Step) {s : Session σ} (ds : List (Deed σ)) (opened : s.ledger.IsOpen)
    (start : motive s ds) :
    (ended s (deedsOf c w steps s)).ledger.IsOpen ∧
      motive (ended s (deedsOf c w steps s)) (ds ++ deedsOf c w steps s) := by
  induction steps generalizing s ds with
  | nil => exact ⟨opened, by simpa [deedsOf, ended] using start⟩
  | cons step rest ih =>
    cases done : deed? c w step s with
    | none =>
      constructor
      · simpa [deedsOf, done, ended] using opened
      · simpa [deedsOf, done, ended] using start
    | some d =>
      obtain ⟨genuine, _, met, _⟩ := deed_genuine opened done
      have carried := carry ds d genuine (by rw [met]; exact start)
      cases answered : d.answer with
      | error f =>
        constructor
        · simpa [deedsOf, done, answered, ended] using genuine.isOpen
        · simpa [deedsOf, done, answered, ended] using carried
      | ok r =>
        have later := ih (ds ++ [d]) genuine.isOpen carried
        simpa [deedsOf, done, answered, ended] using later

theorem deedsOf_isOpen (steps : List Step) (opened : s.ledger.IsOpen) :
    (ended s (deedsOf c w steps s)).ledger.IsOpen :=
  (deedsOf_induction (motive := fun _ _ => True) (fun _ _ _ _ => trivial) steps [] opened trivial).1

theorem deedsOf_getElem (steps : List Step) (opened : s.ledger.IsOpen) {n : Nat} {d : Deed σ}
    (at_n : (deedsOf c w steps s)[n]? = some d) :
    d.Genuine c ∧ d.surroundings = w ∧ steps[n]? = some d.step ∧
      d.before = ended s ((deedsOf c w steps s).take n) := by
  induction steps generalizing s n with
  | nil => simp [deedsOf] at at_n
  | cons step rest ih =>
    cases done : deed? c w step s with
    | none => simp [deedsOf, done] at at_n
    | some e =>
      obtain ⟨genuine, around, met, same⟩ := deed_genuine opened done
      have first : e.Genuine c ∧ e.surroundings = w ∧ (step :: rest)[0]? = some e.step ∧ e.before = s :=
        ⟨genuine, around, by rw [same]; rfl, met⟩
      cases answered : e.answer with
      | error f =>
        simp only [deedsOf, done, answered] at at_n ⊢
        cases n with
        | zero =>
          cases at_n
          exact first
        | succ n => cases at_n
      | ok r =>
        simp only [deedsOf, done, answered] at at_n ⊢
        cases n with
        | zero =>
          cases at_n
          exact first
        | succ n => exact ih genuine.isOpen at_n

theorem deedsOf_take (steps : List Step) (s : Session σ) (n : Nat) :
    deedsOf c w (steps.take n) s = (deedsOf c w steps s).take n := by
  induction steps generalizing s n with
  | nil => simp [deedsOf]
  | cons step rest ih =>
    cases n with
    | zero => simp [deedsOf]
    | succ n =>
      cases done : deed? c w step s with
      | none => simp [deedsOf, done]
      | some d => cases answered : d.answer <;> simp [deedsOf, done, answered, ih]

/-- Only the last deed of a list of steps can have lost its record. -/
theorem responses_getElem (steps : List Step) (s : Session σ) {n : Nat} {r : Response} :
    (responses (deedsOf c w steps s))[n]? = some r ↔
      ∃ d, (deedsOf c w steps s)[n]? = some d ∧ d.answer = .ok r := by
  induction steps generalizing s n with
  | nil => simp [deedsOf, responses]
  | cons step rest ih =>
    cases done : deed? c w step s with
    | none => simp [deedsOf, done, responses]
    | some d =>
      cases answered : d.answer with
      | error f =>
        have none : d.response? = none := by rw [Deed.response?, answered]; rfl
        cases n <;> simp [deedsOf, done, answered, responses, none]
      | ok x =>
        simp only [deedsOf, done, answered, responses_cons, Deed.response_some.mpr answered,
          Option.toList_some, List.singleton_append]
        cases n with
        | zero => simp [answered]
        | succ n => simpa only [List.getElem?_cons_succ] using ih d.after

theorem deedsOf_answered {steps : List Step} (opened : s.ledger.IsOpen)
    (through : (responses (deedsOf c w steps s)).length = steps.length) :
    ∀ d ∈ deedsOf c w steps s, ∃ r, d.answer = .ok r := by
  intro d member
  obtain ⟨n, at_n⟩ := List.mem_iff_getElem?.mp member
  obtain ⟨_, _, given, _⟩ := deedsOf_getElem steps opened at_n
  have bound := (List.getElem?_eq_some_iff.mp given).1
  rw [← through] at bound
  obtain ⟨e, same, answered⟩ := (responses_getElem steps s).mp (List.getElem?_eq_getElem bound)
  cases at_n.symm.trans same
  exact ⟨_, answered⟩

theorem responses_take (steps : List Step) (s : Session σ) (n : Nat) :
    responses ((deedsOf c w steps s).take n) = (responses (deedsOf c w steps s)).take n := by
  apply List.ext_getElem?
  intro i
  rw [← deedsOf_take]
  apply Option.ext
  intro r
  rw [responses_getElem, deedsOf_take, List.getElem?_take, List.getElem?_take]
  split
  · exact (responses_getElem steps s).symm
  · simp

theorem runRest_session (total : Nat) (steps : List Step) (past : List Response)
    (opened : s.ledger.IsOpen) :
    (runRest c w total past steps s).session = ended s (deedsOf c w steps s) := by
  induction steps generalizing s past with
  | nil => rfl
  | cons step rest ih =>
    rcases run_cases c w step opened with ⟨f, stop⟩ | ⟨params, carried⟩
    · simp only [runRest_cons, stop, stopped_result, stopped_session, deedsOf_stopped rest opened stop,
        ended]
    · cases answered : (carryOut c w step params s).1 with
      | error f =>
        simp only [runRest_cons, carried.result, answered, deedsOf_lost rest carried answered, ended]
      | ok r =>
        simp only [runRest_cons, carried.result, answered, deedsOf_recorded rest carried answered, ended]
        exact ih _ (carried.ledger.isOpen opened)

/-- How a list of steps ends: all of them have their responses, or one is stopped behind those that have
theirs, or the last deed has lost its record. -/
inductive Ends (c : Collaborators σ) (w : Surroundings) (steps : List Step) (s : Session σ) :
    Except Failure Unit → Prop
  | through (length : (responses (deedsOf c w steps s)).length = steps.length) : Ends c w steps s (.ok ())
  | stopped (step : Step) {f : Failure}
      (here : steps[(deedsOf c w steps s).length]? = some step)
      (all : (responses (deedsOf c w steps s)).length = (deedsOf c w steps s).length)
      (stop : run c w step (ended s (deedsOf c w steps s)) =
        Run.stopped (ended s (deedsOf c w steps s)) f) : Ends c w steps s (.error f)
  | lost {d : Deed σ} {f : Failure} (last : (deedsOf c w steps s).getLast? = some d)
      (lost : d.answer = .error f)
      (others : (responses (deedsOf c w steps s)).length + 1 = (deedsOf c w steps s).length) :
      Ends c w steps s (.error f)

theorem responses_recorded {r : Response} (rest : List Step) (carried : CarriesOut c w step s params)
    (answered : (carryOut c w step params s).1 = .ok r) :
    responses (deedsOf c w (step :: rest) s) = r :: responses (deedsOf c w rest (run c w step s).session) := by
  rw [deedsOf_recorded rest carried answered, responses_cons]
  rfl

theorem Ends.next {r : Response} {rest : List Step} {outcome : Except Failure Unit}
    (carried : CarriesOut c w step s params) (answered : (carryOut c w step params s).1 = .ok r)
    (ends : Ends c w rest (run c w step s).session outcome) : Ends c w (step :: rest) s outcome := by
  have first := responses_recorded rest carried answered
  have more := deedsOf_recorded rest carried answered
  cases ends with
  | through length => exact .through (by rw [first, List.length_cons, length, List.length_cons])
  | stopped last here all stop =>
    refine .stopped last ?_ ?_ ?_
    · rw [more, List.length_cons, List.getElem?_cons_succ]
      exact here
    · rw [first, more, List.length_cons, List.length_cons, all]
    · rw [more]
      exact stop
  | lost last lost others =>
    refine .lost ?_ lost ?_
    · rw [more, List.getLast?_cons, last, Option.getD_some]
    · rw [first, more, List.length_cons, List.length_cons, others]

/-- A plan answers with one response a step, or it ends at the first step that has none. -/
theorem runRest_ends (total : Nat) (steps : List Step) (past : List Response)
    (opened : s.ledger.IsOpen) :
    let ds := deedsOf c w steps s
    ∃ outcome, Ends c w steps s outcome ∧
      (runRest c w total past steps s).result =
        match outcome with
        | .ok () => .ok (past ++ responses ds)
        | .error f => .error (broken (ended s ds) (past ++ responses ds) total f) := by
  induction steps generalizing s past with
  | nil => exact ⟨.ok (), .through rfl, by simp [runRest_nil, deedsOf, responses]⟩
  | cons step rest ih =>
    rcases run_cases c w step opened with ⟨f, stop⟩ | ⟨params, carried⟩
    · have nothing := deedsOf_stopped rest opened stop
      refine ⟨.error f, .stopped step (by rw [nothing]; rfl) (by rw [nothing]; rfl)
        (by rw [nothing]; exact stop), ?_⟩
      simp only [runRest_cons, stop, stopped_result, stopped_session, nothing, ended, responses,
        List.filterMap_nil, List.append_nil]
    · cases answered : (carryOut c w step params s).1 with
      | error f =>
        have single := deedsOf_lost rest carried answered
        refine ⟨.error f, .lost (by rw [single]; rfl) rfl (by rw [single]; rfl), ?_⟩
        have none : responses (deedsOf c w (step :: rest) s) = [] := by
          rw [single]
          rfl
        simp only [runRest_cons, carried.result, answered, none, List.append_nil]
        rw [single]
        rfl
      | ok r =>
        obtain ⟨outcome, ends, result⟩ := ih (past ++ [r]) (carried.ledger.isOpen opened)
        refine ⟨outcome, ends.next carried answered, ?_⟩
        simp only [runRest_cons, carried.result, answered, responses_recorded rest carried answered]
        rw [result, deedsOf_recorded rest carried answered]
        cases outcome <;> simp [ended]

end Rehearsal.Run
