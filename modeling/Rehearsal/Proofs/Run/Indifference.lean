import Mathlib.Data.List.Forall2
import Rehearsal.Proofs.Run.LedgerProjection

namespace Rehearsal

variable {σ : Type} {c : Collaborators σ}

/-- Steps that differ at most in their caller keys and in a budget that is not used. -/
structure Step.Alike (a b : Step) : Prop where
  endpoint : b.endpoint = a.endpoint
  method : b.method = a.method
  params : b.params = a.params
  maxUnits : a.endpoint = .execute → a.method ≠ programCreate → b.maxUnits = a.maxUnits

theorem Step.Alike.refl (a : Step) : a.Alike a := ⟨rfl, rfl, rfl, fun _ _ => rfl⟩

structure Ran.Agrees {α : Type} (a b : Ran σ α) : Prop where
  result : b.result = a.result
  session : b.session = a.session

theorem Ran.Agrees.alone {x y : Ran σ Response} (agrees : x.Agrees y) : x.alone.Agrees y.alone := by
  constructor
  · rw [Ran.alone, agrees.result, Ran.alone]
  · exact agrees.session

theorem Dispatch.perform_unused {files : Files} {endpoint : Endpoint} {method : Text}
    {params : List Parameter} {m : Machine σ} (maxUnits other : Int)
    (unused : endpoint.settled = .execute → method = programCreate) :
    perform c files endpoint other method params m = perform c files endpoint maxUnits method params m := by
  unfold perform
  cases settled : endpoint.settled with
  | execute => simp only [unused settled, ↓reduceIte]
  | key | readonly | unchecked label => rfl

namespace Run

variable {w : Surroundings} {s : Session σ} {a b : Step}

theorem prepare_alike (alike : a.Alike b) : prepare c w b s = prepare c w a s := by
  unfold prepare Contract.check
  rw [alike.endpoint, alike.method, alike.params]

theorem carryOut_alike {params : List Parameter} (alike : a.Alike b)
    (checked : a.endpoint.isChecked = true) : carryOut c w b params s = carryOut c w a params s := by
  have performed : Dispatch.perform c w.files a.endpoint b.maxUnits a.method params s.machine =
      Dispatch.perform c w.files a.endpoint a.maxUnits a.method params s.machine := by
    by_cases used : a.endpoint = .execute ∧ a.method ≠ programCreate
    · rw [alike.maxUnits used.1 used.2]
    · apply Dispatch.perform_unused
      intro settled
      rw [Endpoint.settled_of_isChecked checked] at settled
      by_contra calls
      exact used ⟨settled, calls⟩
  unfold carryOut Dispatch.into
  rw [alike.endpoint, alike.method, performed]

theorem run_alike (alike : a.Alike b) : (run c w a s).Agrees (run c w b s) := by
  have same : b.endpoint.isChecked = a.endpoint.isChecked := by rw [alike.endpoint]
  cases checked : a.endpoint.isChecked with
  | false =>
    rw [run_unchecked checked, run_unchecked (same.trans checked)]
    exact ⟨rfl, rfl⟩
  | true =>
    have checked' := same.trans checked
    cases prepared : prepare c w a s with
    | error f =>
      rw [run_unprepared checked prepared, run_unprepared checked' ((prepare_alike alike).trans prepared)]
      exact ⟨rfl, rfl⟩
    | ok params =>
      have prepared' := (prepare_alike alike).trans prepared
      have carried : carryOut c w b params s = carryOut c w a params s := carryOut_alike alike checked
      cases answered : (carryOut c w a params s).1 with
      | error f =>
        rw [run_lost checked prepared answered, run_lost checked' prepared' (by rw [carried, answered]),
          carried]
        exact ⟨rfl, rfl⟩
      | ok r =>
        have answered' := (congrArg Prod.fst carried).trans answered
        cases recorded : record s.ledger r with
        | error refusal =>
          rw [run_refused checked prepared answered recorded,
            run_refused checked' prepared' answered' recorded, carried]
          exact ⟨rfl, rfl⟩
        | ok l =>
          rw [run_recorded checked prepared answered recorded,
            run_recorded checked' prepared' answered' recorded, carried]
          exact ⟨rfl, rfl⟩

theorem deed_alike (alike : a.Alike b) :
    deed? c w b s = (deed? c w a s).map fun d => { d with step := b } := by
  have ran := run_alike (c := c) (w := w) (s := s) alike
  unfold deed?
  rw [alike.endpoint, prepare_alike alike, ran.result, ran.session]
  cases a.endpoint.isChecked <;> cases prepare c w a s <;> rfl

theorem runRest_alike {total : Nat} {xs ys : List Step} {past : List Response}
    (alike : List.Forall₂ Step.Alike xs ys) :
    (runRest c w total past xs s).Agrees (runRest c w total past ys s) := by
  induction alike generalizing s past with
  | nil => exact ⟨rfl, rfl⟩
  | @cons x y xs ys first _ ih =>
    have ran := run_alike (c := c) (w := w) (s := s) first
    simp only [runRest_cons, ran.result, ran.session]
    cases (run c w x s).result with
    | ok response => exact ⟨ih.result, ih.session⟩
    | error f => exact ⟨rfl, rfl⟩

def Deed.record (d : Deed σ) : List Parameter × Except Failure Response := (d.params, d.answer)

theorem deedsOf_alike {xs ys : List Step} (alike : List.Forall₂ Step.Alike xs ys) :
    (deedsOf c w ys s).map Deed.record = (deedsOf c w xs s).map Deed.record := by
  induction alike generalizing s with
  | nil => rfl
  | @cons x y xs ys first _ ih =>
    simp only [deedsOf, deed_alike first]
    cases deed? c w x s with
    | none => rfl
    | some d =>
      cases answered : d.answer with
      | error f => simp only [Option.map_some, answered, List.map_cons, List.map_nil, Deed.record]
      | ok r =>
        simp only [Option.map_some, answered, List.map_cons, ih, Deed.record]

inductive Request.Alike (files : Files) : Request → Request → Prop
  | same (request : Request) : Alike files request request
  | one {a b : Step} (alike : a.Alike b) : Alike files (.one a) (.one b)
  | loaded {a b : Step} {text file text' file' : Option Text}
      (first : Load.step files text file = .ok a) (second : Load.step files text' file' = .ok b)
      (alike : a.Alike b) : Alike files (.loaded text file) (.loaded text' file')
  | all {p q : Plan} (alike : List.Forall₂ Step.Alike p.steps q.steps) : Alike files (.all p) (.all q)

theorem Request.serve_alike {p q : Request} (alike : p.Alike w.files q) :
    (p.serve c w s).Agrees (q.serve c w s) := by
  cases alike with
  | same => exact ⟨rfl, rfl⟩
  | one alike => exact (run_alike alike).alone
  | loaded first second alike =>
    simp only [serve, runLoaded_eq, first, second]
    exact (run_alike alike).alone
  | all alike =>
    simp only [serve, runPlan, alike.length_eq]
    exact runRest_alike alike

theorem Request.steps_alike {files : Files} {p q : Request} (alike : p.Alike files q) :
    List.Forall₂ Step.Alike (p.steps files) (q.steps files) := by
  cases alike with
  | same => exact List.forall₂_same.mpr fun _ _ => Step.Alike.refl _
  | one alike => exact .cons alike .nil
  | loaded first second alike =>
    simp only [steps, first, second]
    exact .cons alike .nil
  | all alike => exact alike

inductive Turn.Alike : Turn σ → Turn σ → Prop
  | call (w : Surroundings) {p q : Request} (alike : p.Alike w.files q) : Alike (.call w p) (.call w q)
  | edit (change : State σ → State σ) : Alike (.edit change) (.edit change)

def Turn.answer (c : Collaborators σ) (s : Session σ) : Turn σ → Option (Except Failure (List Response))
  | .call w request => some (request.serve c w s).result
  | .edit _ => none

def answers (c : Collaborators σ) : List (Turn σ) → Session σ → List (Except Failure (List Response))
  | [], _ => []
  | turn :: rest, s => (turn.answer c s).toList ++ answers c rest (turn.play c s)

theorem Turn.play_alike {x y : Turn σ} (alike : x.Alike y) :
    y.play c s = x.play c s ∧ y.answer c s = x.answer c s ∧
      (y.deeds c s).map Deed.record = (x.deeds c s).map Deed.record := by
  cases alike with
  | edit => exact ⟨rfl, rfl, rfl⟩
  | call w alike =>
    have served := Request.serve_alike (c := c) (s := s) alike
    exact ⟨served.session, congrArg some served.result, deedsOf_alike (Request.steps_alike alike)⟩

/-- Histories of alike turns leave the same session, give the same answers and carry out as many steps,
with the same parameters and responses. -/
theorem play_alike {xs ys : List (Turn σ)} (alike : List.Forall₂ Turn.Alike xs ys) :
    play c ys s = play c xs s ∧ answers c ys s = answers c xs s ∧
      (deeds c ys s).map Deed.record = (deeds c xs s).map Deed.record := by
  induction alike generalizing s with
  | nil => exact ⟨rfl, rfl, rfl⟩
  | @cons x y xs ys first _ ih =>
    obtain ⟨left, answer, done⟩ := Turn.play_alike (c := c) (s := s) first
    obtain ⟨leftRest, answerRest, doneRest⟩ := ih (s := x.play c s)
    refine ⟨?_, ?_, ?_⟩
    · rw [play, left, leftRest, play]
    · rw [answers, answer, left, answerRest, answers]
    · rw [deeds, List.map_append, done, left, doneRest, deeds, List.map_append]

end Run

end Rehearsal
