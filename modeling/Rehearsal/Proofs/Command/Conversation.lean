import Rehearsal.Proofs.Command.StepLines
import Rehearsal.Proofs.Run.ResponseForm

namespace Rehearsal

namespace Run

variable {σ : Type} {c : Collaborators σ} {w : Surroundings} {step : Step} {s : Session σ} {r : Response}

theorem CarriesOut.response_isChecked {params : List Parameter} (carried : CarriesOut c w step s params)
    (answered : (carryOut c w step params s).1 = .ok r) : r.isChecked = true := by
  obtain ⟨_, endpoint, _⟩ := carryOut_heading answered
  rw [Response.isChecked, endpoint]
  exact carried.checked

theorem runLoaded_carriesOut {text file : Option Text} (opened : s.ledger.IsOpen)
    (returned : (runLoaded c w text file s).result = .ok r) :
    ∃ step params, runLoaded c w text file s = run c w step s ∧ CarriesOut c w step s params ∧
      (carryOut c w step params s).1 = .ok r := by
  rw [runLoaded_eq] at returned ⊢
  cases loaded : Load.step w.files text file with
  | error f =>
    simp only [loaded, stopped_result] at returned
    cases returned
  | ok step =>
    simp only [loaded] at returned ⊢
    obtain ⟨params, carried, answered⟩ := run_ok opened returned
    exact ⟨step, params, rfl, carried, answered⟩

theorem runLoaded_ok {text file : Option Text} (opened : s.ledger.IsOpen)
    (returned : (runLoaded c w text file s).result = .ok r) :
    r.isChecked = true ∧ (runLoaded c w text file s).session.ledger.IsOpen := by
  obtain ⟨step, params, ran, carried, answered⟩ := runLoaded_carriesOut opened returned
  rw [ran]
  exact ⟨carried.response_isChecked answered, carried.ledger.isOpen opened⟩

end Run

namespace Command

/-- A line that is neither blank nor a farewell. -/
def IsRequest (line : String) : Prop := Text.trimmed line ≠ "" ∧ Text.trimmed line ∉ farewells

/-- What lines come to: the responses to those that are carried out, and the failure that ends the
conversation with the number of the step that it is at, if one does. -/
inductive Talks {σ : Type} (c : Collaborators σ) (w : Surroundings) :
    Session σ → List String → List Response → Option (Nat × Failure) → Prop
  | finished (s : Session σ) : Talks c w s [] [] none
  | farewell {line : String} (word : Text.trimmed line ∈ farewells) (s : Session σ)
      (rest : List String) : Talks c w s (line :: rest) [] none
  | blank {line : String} {s rest rs e} (empty : Text.trimmed line = "") (later : Talks c w s rest rs e) :
      Talks c w s (line :: rest) rs e
  | misread {line : String} {f : Failure} (request : IsRequest line)
      (fails : read (Text.trimmed line) = .error f) (s : Session σ) (rest : List String) :
      Talks c w s (line :: rest) [] (some (s.ledger.step, f))
  | stopped {line : String} {source : Source} {f : Failure} {s : Session σ} (request : IsRequest line)
      (reads : read (Text.trimmed line) = .ok source)
      (fails : (Run.runLoaded c w source.text source.file s).result = .error f) (rest : List String) :
      Talks c w s (line :: rest) []
        (some ((Run.runLoaded c w source.text source.file s).session.ledger.step, f))
  | unwritten {line : String} {source : Source} {r : Response} {tear : Text.Tear} {s : Session σ}
      (request : IsRequest line) (reads : read (Text.trimmed line) = .ok source)
      (returns : (Run.runLoaded c w source.text source.file s).result = .ok r)
      (torn : r.wire = .error tear) (rest : List String) :
      Talks c w s (line :: rest) []
        (some ((Run.runLoaded c w source.text source.file s).session.ledger.step,
          .fault (.unwritable tear)))
  | answered {line wire : String} {source : Source} {r : Response} {s rest rs e} (request : IsRequest line)
      (reads : read (Text.trimmed line) = .ok source)
      (returns : (Run.runLoaded c w source.text source.file s).result = .ok r)
      (told : r.wire = .ok wire)
      (later : Talks c w (Run.runLoaded c w source.text source.file s).session rest rs e) :
      Talks c w s (line :: rest) (r :: rs) e

variable {σ : Type}

section

variable {c : Collaborators σ} {w : Surroundings} {s : Session σ}

theorem talks_total (c : Collaborators σ) (w : Surroundings) (s : Session σ) (lines : List String) :
    ∃ rs e, Talks c w s lines rs e := by
  induction lines generalizing s with
  | nil => exact ⟨[], none, .finished s⟩
  | cons line rest ih =>
    by_cases empty : Text.trimmed line = ""
    · obtain ⟨rs, e, later⟩ := ih s
      exact ⟨rs, e, .blank empty later⟩
    by_cases word : Text.trimmed line ∈ farewells
    · exact ⟨[], none, .farewell word s rest⟩
    have request : IsRequest line := ⟨empty, word⟩
    cases reads : read (Text.trimmed line) with
    | error f => exact ⟨[], _, .misread request reads s rest⟩
    | ok source =>
      cases ran : (Run.runLoaded c w source.text source.file s).result with
      | error f => exact ⟨[], _, .stopped request reads ran rest⟩
      | ok r =>
        cases told : r.wire with
        | error tear => exact ⟨[], _, .unwritten request reads ran told rest⟩
        | ok wire =>
          obtain ⟨rs, e, later⟩ := ih (Run.runLoaded c w source.text source.file s).session
          exact ⟨r :: rs, e, .answered request reads ran told later⟩

theorem Talks.isChecked {lines : List String} {rs : List Response} {e : Option (Nat × Failure)}
    (talks : Talks c w s lines rs e) (opened : s.ledger.IsOpen) : ∀ r ∈ rs, r.isChecked = true := by
  induction talks with
  | finished | farewell | misread | stopped | unwritten => simp
  | blank empty later ih => exact ih opened
  | answered request reads returns told later ih =>
    obtain ⟨checked, openedNow⟩ := Run.runLoaded_ok opened returns
    exact List.forall_mem_cons.mpr ⟨checked, ih openedNow⟩

end

def refusals : Option (Nat × Failure) → List Response
  | some (k, .rejected r) => if (refuse k r).IsWhole then [refuse k r] else []
  | _ => []

def closing : Option (Nat × Failure) → Report
  | none => {}
  | some (k, .rejected r) => emit (refuse k r) { exitCode := 1 }
  | some (_, f) => .crash f

theorem emit_error {r : Response} {tear : Text.Tear} (torn : r.wire = .error tear) (next : Report) :
    emit r next = .crash (.fault (.unwritable tear)) := by
  rw [emit, jsonLine, torn]

theorem emit_last (r : Response) {next : Report} (silent : next.output = "") :
    ∃ lines, Writes (if r.IsWhole then [r] else []) lines ∧ (emit r next).output = terminated lines := by
  cases told : r.wire with
  | ok line =>
    rw [if_pos (Response.wire_ok_iff.mp ⟨line, told⟩), emit_ok told]
    refine ⟨[line], .cons told .nil, ?_⟩
    rw [terminated_cons, terminated_nil, ← silent]
    rfl
  | error tear =>
    have torn : ¬ r.IsWhole := by
      intro whole
      obtain ⟨line, told'⟩ := Response.wire_ok_iff.mpr whole
      cases told.symm.trans told'
    rw [if_neg torn, emit_error told]
    exact ⟨[], .nil, rfl⟩

theorem closing_output (e : Option (Nat × Failure)) :
    ∃ lines, Writes (refusals e) lines ∧ (closing e).output = terminated lines := by
  cases e with
  | none => exact ⟨[], .nil, rfl⟩
  | some ending =>
    obtain ⟨k, f⟩ := ending
    cases f with
    | rejected r => exact emit_last (refuse k r) rfl
    | broken | aborted | reported | misshapen | fault | foreign => exact ⟨[], .nil, rfl⟩

structure Report.Ends (r : Report) (output : String) (last : Report) : Prop where
  output : r.output = output ++ last.output
  exitCode : r.exitCode = last.exitCode
  failure : r.failure = last.failure

section

variable {c : Collaborators σ} {w : Workplace σ} {s : Session σ}

theorem answer_request {line : String} (request : IsRequest line) :
    answer c w.surroundings s line = match read (Text.trimmed line) with
      | .error f => ⟨.ofFailure s.ledger.step f, s, []⟩
      | .ok source =>
        let ran := Run.runLoaded c w.surroundings source.text source.file s
        match ran.result with
        | .ok r => ⟨.answer r, ran.session, ran.events⟩
        | .error f => ⟨.ofFailure ran.session.ledger.step f, ran.session, ran.events⟩ := by
  have solid : (Text.trimmed line).isEmpty = false := by
    simpa using request.1
  have going : farewells.contains (Text.trimmed line) = false := by
    simpa using request.2
  cases reads : read (Text.trimmed line) with
  | error f => simp only [answer, solid, going, reads, Bool.false_eq_true, ↓reduceIte]
  | ok source =>
    cases ran : (Run.runLoaded c w.surroundings source.text source.file s).result <;>
      simp only [answer, solid, going, reads, ran, Bool.false_eq_true, ↓reduceIte]

theorem converse_failure {line : String} {rest : List String} {k : Nat} {f : Failure}
    {events : List Event} {t : Session σ}
    (turn : answer c w.surroundings s line = ⟨.ofFailure k f, t, events⟩) :
    (converse c w s (line :: rest)).Ends "" (closing (some (k, f))) := by
  rw [converse, turn]
  cases f <;> exact ⟨(String.empty_append).symm, rfl, rfl⟩

/-- The line protocol writes the responses of the conversation and ends as it ends. -/
theorem converse_talks {input : List String} {rs : List Response} {e : Option (Nat × Failure)}
    (talks : Talks c w.surroundings s input rs e) :
    ∃ lines, Writes rs lines ∧ (converse c w s input).Ends (terminated lines) (closing e) := by
  induction talks with
  | finished s => exact ⟨[], .nil, rfl, rfl, rfl⟩
  | @farewell line word s rest =>
    have solid : (Text.trimmed line).isEmpty = false := by
      simp only [farewells, List.mem_cons, List.not_mem_nil, or_false] at word
      rcases word with same | same <;> rw [same] <;> rfl
    have going : farewells.contains (Text.trimmed line) = true := by
      simpa using word
    simp only [converse, answer, solid, going]
    exact ⟨[], .nil, rfl, rfl, rfl⟩
  | @blank line s rest rs e empty later ih =>
    have turn : answer c w.surroundings s line = ⟨.silence, s, []⟩ := by
      simp only [answer, empty]
      rfl
    obtain ⟨lines, writes, ends⟩ := ih
    rw [converse, turn]
    exact ⟨lines, writes, ends.output, ends.exitCode, ends.failure⟩
  | misread request fails s rest =>
    have turn := answer_request (c := c) (w := w) (s := s) request
    simp only [fails] at turn
    exact ⟨[], .nil, converse_failure turn⟩
  | @stopped line source f s request reads fails rest =>
    have turn := answer_request (c := c) (w := w) (s := s) request
    simp only [reads, fails] at turn
    exact ⟨[], .nil, converse_failure turn⟩
  | @unwritten line source r tear s request reads returns torn rest =>
    have turn := answer_request (c := c) (w := w) (s := s) request
    simp only [reads, returns] at turn
    simp only [converse, turn, emit_error torn]
    exact ⟨[], .nil, (String.empty_append).symm, rfl, rfl⟩
  | @answered line wire source r s rest rs e request reads returns told later ih =>
    have turn := answer_request (c := c) (w := w) (s := s) request
    simp only [reads, returns] at turn
    obtain ⟨lines, writes, ends⟩ := ih
    simp only [converse, turn, emit_ok told]
    refine ⟨wire :: lines, .cons told writes, ?_, ends.exitCode, ends.failure⟩
    rw [terminated_cons, String.append_assoc]
    exact congrArg (wire ++ "\n" ++ ·) ends.output

theorem converse_output {input : List String} {rs : List Response} {e : Option (Nat × Failure)}
    (talks : Talks c w.surroundings s input rs e) :
    ∃ lines, Writes (rs ++ refusals e) lines ∧ (converse c w s input).output = terminated lines := by
  obtain ⟨lines, writes, ends⟩ := converse_talks talks
  obtain ⟨last, writesLast, output⟩ := closing_output e
  refine ⟨lines ++ last, List.rel_append writes writesLast, ?_⟩
  rw [ends.output, output, terminated_append]

end

end Command

end Rehearsal
