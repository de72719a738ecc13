import Rehearsal.Proofs.Run.CallTrace

namespace Rehearsal

variable {σ : Type} {c : Collaborators σ}

def IsIdentifierText (text : String) : Prop :=
  text.toList.length = 64 ∧ ∀ digit ∈ text.toList, digit ∈ "0123456789abcdef".toList

theorem Block.text_isIdentifierText (b : Block) : IsIdentifierText b.text :=
  ⟨by rw [text, Hex.length_encode, b.length_bytes]; rfl, Hex.encode_lower b.bytes⟩

/-- A response that tells of a failure: its wording and its kind, and of the result only the time. -/
structure Response.TellsOf (r : Response) (f : Failure) : Prop where
  error : ∃ text, f.message = .ok text ∧ r.error = some text
  errorKind : f.kind = .ok r.errorKind
  bare : r.result = { timestamp := r.result.timestamp }

structure Response.IsFailure (r : Response) : Prop where
  error : r.error.isSome = true
  errorKind : r.errorKind.isSome = true
  bare : r.result = { timestamp := r.result.timestamp }

theorem Response.TellsOf.isFailure {r : Response} {f : Failure} (tells : r.TellsOf f)
    (recordable : f.IsRecordable) : r.IsFailure := by
  obtain ⟨_, _, error⟩ := tells.error
  obtain ⟨_, kind, recorded⟩ := recordable
  have kinds : r.errorKind = some kind := Except.ok.inj (tells.errorKind.symm.trans recorded.kind)
  exact ⟨by rw [error]; rfl, by rw [kinds]; rfl, tells.bare⟩

/-- The results of steps that succeed, by the kind of step: each with the fields that are reported and
no others. `answer` is what the interpreter gave, if the step called a program. -/
inductive StepResult.Reports (step : Step) (answer : Option CallResult) : StepResult → Prop
  | key (endpoint : step.endpoint = .key) (msg : String) (timestamp : Int) :
      Reports step answer { msg := some (.whole msg), timestamp }
  | program (endpoint : step.endpoint = .execute) (creates : step.method = programCreate) (id : String)
      (form : IsIdentifierText id) (timestamp : Int) : Reports step answer { id := some (.whole id), timestamp }
  | call (endpoint : step.endpoint = .execute) (calls : step.method ≠ programCreate) (id : String)
      (form : IsIdentifierText id) (balance timestamp : Int) (response : Option Bytes)
      (single : ∀ b, response = some b ↔ ∃ a, answer = some a ∧ a.results = [some b] ∧ b ≠ []) :
      Reports step answer { id := some (.whole id), balance := some balance, response, timestamp }
  | reading (endpoint : step.endpoint = .readonly) (timestamp : Int) (response : Option Bytes)
      (single : ∀ b, response = some b ↔ ∃ a, answer = some a ∧ a.results = [some b] ∧ b ≠ []) :
      Reports step answer { response, timestamp }

theorem CallResult.payload_ok {r : CallResult} {payload : Option Bytes} (single : r.payload = .ok payload)
    (b : Bytes) : payload = some b ↔ r.results = [some b] ∧ b ≠ [] := by
  obtain ⟨_, results, _⟩ := r
  match results with
  | [] =>
    cases single
    simp
  | [none] =>
    cases single
    simp
  | [some a] =>
    cases single
    simp only [Option.filter_some, List.cons.injEq, Option.some.injEq, and_true]
    by_cases empty : a = []
    · simp only [empty, ne_eq, not_true_eq_false, decide_false, Bool.false_eq_true, ↓reduceIte,
        reduceCtorEq, false_iff, not_and, Decidable.not_not]
      exact Eq.symm
    · simp only [ne_eq, empty, not_false_eq_true, decide_true, ↓reduceIte, Option.some.injEq]
      constructor
      · rintro rfl
        exact ⟨rfl, empty⟩
      · exact And.left
  | _ :: _ :: _ => cases single

theorem CallResult.payload_many {r : CallResult} (many : 2 ≤ r.results.length) :
    r.payload = .error (.rejected ⟨.manyResults r.results.length, none⟩) := by
  obtain ⟨_, results, _⟩ := r
  match results with
  | [] => cases many
  | [_] =>
    change 2 ≤ 1 at many
    omega
  | _ :: _ :: _ => rfl

namespace Dispatch

variable {files : Files} {endpoint : Endpoint} {maxUnits : Int} {method : Text}
  {params : List Parameter} {m : Machine σ}

inductive Gives (c : Collaborators σ) (endpoint : Endpoint) (maxUnits : Int) (method : Text)
    (params : List Parameter) (s : State σ) : Success → Prop
  | key (settled : endpoint.settled = .key) (msg : String) :
      Gives c endpoint maxUnits method params s (.key msg)
  | program (settled : endpoint.settled = .execute) (creates : method = programCreate) (id : Block) :
      Gives c endpoint maxUnits method params s (.program id.bytes)
  | call (settled : endpoint.settled = .execute) (calls : method ≠ programCreate) {call : Call}
      (made : call? endpoint maxUnits method params = some call) {answer : CallResult}
      (answered : (c.invoke call s).1 = .ok answer) (payload : Option Bytes)
      (single : answer.payload = .ok payload) (id : Block) (same : answer.callId = id.bytes) :
      Gives c endpoint maxUnits method params s (.call id.bytes payload answer.balance)
  | reading (settled : endpoint.settled = .readonly) {call : Call}
      (made : call? endpoint maxUnits method params = some call) {answer : CallResult}
      (answered : (c.invoke call s).1 = .ok answer) (payload : Option Bytes)
      (single : answer.payload = .ok payload) :
      Gives c endpoint maxUnits method params s (.reading payload)

theorem invoke_answered {answer : CallResult}
    (answered : (invoke c method maxUnits params m).1 = .ok answer) :
    ∃ call, callWith? method maxUnits params = some call ∧
      (c.invoke call m.toState).1 = .ok answer := by
  cases made : callWith? method maxUnits params with
  | some call =>
    rw [invoke_called made] at answered
    exact ⟨call, rfl, answered⟩
  | none =>
    unfold callWith? at made
    unfold invoke at answered
    cases first : firstId params <;> simp only [first] at made answered
    · cases answered
    · cases made

theorem perform_gives {success : Success}
    (done : (perform c files endpoint maxUnits method params m).1 = .ok success) :
    Gives c endpoint maxUnits method params m.toState success := by
  unfold perform at done
  cases settled : endpoint.settled with
  | key =>
    simp only [settled] at done
    obtain ⟨msg, rfl⟩ := createKey_success done
    exact .key settled msg
  | execute =>
    by_cases creates : method = programCreate
    · simp only [settled, creates, ↓reduceIte] at done
      obtain ⟨id, rfl⟩ := createProgram_success done
      exact .program settled creates id
    · simp only [settled, creates, ↓reduceIte] at done
      obtain ⟨answer, answered, paid⟩ := Outcome.bind_ok.mp done
      obtain ⟨call, made, gave⟩ := invoke_answered answered
      obtain ⟨payload, id, single, same, rfl⟩ := charged_success paid
      exact .call settled creates (by simp only [call?, settled, creates, ↓reduceIte, made]) gave
        payload single id same
  | readonly =>
    simp only [settled] at done
    obtain ⟨answer, answered, paid⟩ := Outcome.bind_ok.mp done
    obtain ⟨call, made, gave⟩ := invoke_answered answered
    obtain ⟨payload, single, rfl⟩ := Outcome.map_ok.mp paid
    exact .reading settled (by simp only [call?, settled, made]) gave payload single
  | unchecked label =>
    simp only [settled] at done
    cases done

theorem perform_many {call : Call} {answer : CallResult}
    (made : call? endpoint maxUnits method params = some call)
    (answered : (c.invoke call m.toState).1 = .ok answer) (many : 2 ≤ answer.results.length)
    (success : Success) : (perform c files endpoint maxUnits method params m).1 ≠ .ok success := by
  intro done
  have refused := CallResult.payload_many many
  cases perform_gives done with
  | key settled => simp only [call?, settled, reduceCtorEq] at made
  | program settled creates => simp only [call?, settled, creates, ↓reduceIte, reduceCtorEq] at made
  | call _ _ made' answered' _ single | reading _ made' answered' _ single =>
    cases made.symm.trans made'
    cases answered.symm.trans answered'
    cases refused.symm.trans single

end Dispatch

namespace Run

variable {w : Surroundings} {step : Step} {s : Session σ} {params : List Parameter}

/-- What the interpreter gives when a step with resolved parameters calls it, if the step does and the
interpreter gives anything. -/
def answerTo (c : Collaborators σ) (step : Step) (params : List Parameter) (s : Session σ) :
    Option CallResult :=
  (callOf step params).bind fun call => (c.invoke call s.machine.toState).1.toOption

theorem answerTo_some {answer : CallResult} :
    answerTo c step params s = some answer ↔
      ∃ call, callOf step params = some call ∧ (c.invoke call s.machine.toState).1 = .ok answer := by
  have given (result : Except Failure CallResult) :
      result.toOption = some answer ↔ result = .ok answer := by
    cases result <;> simp [Except.toOption]
  simp only [answerTo, Option.bind_eq_some_iff, given]

theorem run_ok_prepared {r : Response} (returned : (run c w step s).result = .ok r) :
    ∃ params, prepare c w step s = .ok params ∧ (carryOut c w step params s).1 = .ok r := by
  cases checked : step.endpoint.isChecked with
  | false =>
    rw [run_unchecked checked, stopped_result] at returned
    cases returned
  | true =>
    cases prepared : prepare c w step s with
    | error f =>
      rw [run_unprepared checked prepared, stopped_result] at returned
      cases returned
    | ok params =>
      refine ⟨params, rfl, ?_⟩
      cases answered : (carryOut c w step params s).1 with
      | error f =>
        rw [run_lost checked prepared answered] at returned
        cases returned
      | ok x =>
        cases recorded : record s.ledger x with
        | error refusal =>
          rw [run_refused checked prepared answered recorded] at returned
          cases returned
        | ok l =>
          rw [run_recorded checked prepared answered recorded] at returned
          exact returned

theorem carryOut_heading {r : Response} (answered : (carryOut c w step params s).1 = .ok r) :
    r.id = s.ledger.step ∧ r.endpoint = some step.endpoint ∧ r.method = step.method ∧
      r.result.timestamp = w.second := by
  rcases carryOut_ok answered with ⟨_, _, rfl⟩ | ⟨_, _, _, _, _, rfl⟩ <;> exact ⟨rfl, rfl, rfl, rfl⟩

theorem reports_of_gives {success : Success} (checked : step.endpoint.isChecked = true)
    (gives : Dispatch.Gives c step.endpoint step.maxUnits step.method params s.machine.toState success)
    (time : Int) :
    StepResult.Reports step (answerTo c step params s) { success.fill {} with timestamp := time } := by
  have settled := Endpoint.settled_of_isChecked checked
  cases gives with
  | key endpoint msg => exact .key (settled ▸ endpoint) msg time
  | program endpoint creates id =>
    exact .program (settled ▸ endpoint) creates id.text id.text_isIdentifierText time
  | call endpoint calls made answered payload single id =>
    have filled : (payload <|> none) = payload := by cases payload <;> rfl
    simp only [Success.fill, filled]
    refine .call (settled ▸ endpoint) calls id.text id.text_isIdentifierText _ time payload ?_
    intro b
    rw [answerTo_some.mpr ⟨_, made, answered⟩, CallResult.payload_ok single b]
    simp
  | reading endpoint made answered payload single =>
    have filled : (payload <|> none) = payload := by cases payload <;> rfl
    simp only [Success.fill, filled]
    refine .reading (settled ▸ endpoint) time payload ?_
    intro b
    rw [answerTo_some.mpr ⟨_, made, answered⟩, CallResult.payload_ok single b]
    simp

theorem carryOut_form {r : Response} (checked : step.endpoint.isChecked = true)
    (answered : (carryOut c w step params s).1 = .ok r) :
    (∃ f, (performed c w step params s).1 = .error f ∧ r.TellsOf f) ∨
      r.error = none ∧ r.errorKind = none ∧ r.result.Reports step (answerTo c step params s) := by
  rcases carryOut_ok answered with ⟨success, done, rfl⟩ | ⟨f, text, kind, failed, recorded, rfl⟩
  · exact .inr ⟨rfl, rfl, reports_of_gives checked (Dispatch.perform_gives done) w.second⟩
  · exact .inl ⟨f, failed, ⟨text, recorded.text, rfl⟩, recorded.kind, rfl⟩

def timeouts (_ : Call) (s : State Unit) : Except Failure CallResult × State Unit :=
  (.error (.foreign { name := "Timeout", wording := .ok "too slow", mark := .bare "str" }), s)

end Run

end Rehearsal
