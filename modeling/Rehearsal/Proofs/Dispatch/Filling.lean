import Rehearsal.Proofs.Run.ResponseForm

namespace Rehearsal

variable {σ : Type} {c : Collaborators σ}

namespace Dispatch

/-- How far a step has got that is carried out step by step: its response as it is by now, and the
machine. -/
structure Progress (σ : Type) where
  response : Response
  machine : Machine σ

abbrev Handler (σ : Type) := EStateM Failure (Progress σ)

namespace Handler

/-- Goes on with a value, or stops. -/
def settle {α : Type} : Except Failure α → Handler σ α
  | .ok a => pure a
  | .error f => throw f

def demand (met : Bool) (f : Failure) : Handler σ Unit := if met then pure () else throw f

def put (change : StepResult → StepResult) : Handler σ Unit :=
  modify fun p => { p with response := { p.response with result := change p.response.result } }

def collaborate {α : Type} (work : State σ → Except Failure α × State σ) : Handler σ α := do
  let p ← get
  let (result, s) := work p.machine.toState
  modify fun p => { p with machine := { p.machine with toState := s } }
  settle result

def note (call : Call) : Handler σ Unit :=
  modify fun p => { p with machine := { p.machine with calls := p.machine.calls ++ [call] } }

def existing : Failure → Handler σ Bytes
  | .broken b =>
    match b.existingKey? with
    | some publicKey => pure publicKey
    | none => throw (.broken b)
  | f => throw f

def createKey (c : Collaborators σ) (params : List Parameter) : Handler σ Unit := do
  let name ← settle (firstText params)
  let publicKey ← tryCatch (collaborate (c.createKey name)) existing
  let address ← settle (Key.address publicKey)
  put fun r => { r with msg := some (keyMessage address) }

def createProgram (c : Collaborators σ) (files : Files) (params : List Parameter) : Handler σ Unit := do
  let path ← settle (firstText params)
  let id ← collaborate (c.createProgram files path)
  demand (id.length = blockLength) (.broken (.loadedIdLength path id.length))
  put fun r => { r with id := some (Hex.encode id) }

def invoke (c : Collaborators σ) (method : String) (maxUnits : Int) (params : List Parameter) :
    Handler σ CallResult := do
  let programId ← settle (firstId params)
  let call : Call := ⟨programId, params.drop 1, method, maxUnits⟩
  note call
  collaborate (c.invoke call)

def setPayload : Option Bytes → Handler σ Unit
  | some payload => put fun r => { r with response := some payload }
  | none => pure ()

def call (c : Collaborators σ) (method : String) (maxUnits : Int) (params : List Parameter) :
    Handler σ Unit := do
  let answer ← invoke c method maxUnits params
  let payload ← settle answer.payload
  demand (answer.callId.length = blockLength) (.broken (.callIdLength method answer.callId.length))
  setPayload payload
  put fun r => { r with id := some (Hex.encode answer.callId) }
  put fun r => { r with balance := some answer.balance }

def read (c : Collaborators σ) (method : String) (params : List Parameter) : Handler σ Unit := do
  let answer ← invoke c method maxBudget params
  let payload ← settle answer.payload
  setPayload payload

def handle (c : Collaborators σ) (files : Files) (endpoint : Endpoint) (maxUnits : Int)
    (method : String) (params : List Parameter) : Handler σ Unit :=
  match endpoint.settled with
  | .key => createKey c params
  | .execute =>
    if method = programCreate then createProgram c files params else call c method maxUnits params
  | .readonly => read c method params
  | .unchecked label => throw (.rejected ⟨.unknownEndpoint label, none⟩)

end Handler

/-- Carries out a step step by step. The time is set at the end, whether it failed or not. -/
def handled (c : Collaborators σ) (w : Surroundings) (endpoint : Endpoint) (maxUnits : Int)
    (method : String) (params : List Parameter) (r : Response) (m : Machine σ) : Outcome σ :=
  match Handler.handle c w.files endpoint maxUnits method params ⟨r, m⟩ with
  | .ok _ p => ⟨none, p.response.stamped w.second, p.machine⟩
  | .error f p => ⟨some f, p.response.stamped w.second, p.machine⟩

def landed (r : Response) : Except Failure Success × Machine σ → EStateM.Result Failure (Progress σ) Unit
  | (.ok success, m) => .ok () ⟨{ r with result := success.fill r.result }, m⟩
  | (.error f, m) => .error f ⟨r, m⟩

namespace Handler

variable {α β : Type}

theorem bind_apply (x : Handler σ α) (next : α → Handler σ β) (p : Progress σ) :
    (x >>= next) p =
      match x p with
      | .ok a p => next a p
      | .error f p => .error f p := by
  show EStateM.bind x next p = _
  unfold EStateM.bind
  cases x p <;> rfl

theorem tryCatch_apply (x : Handler σ α) (rescue : Failure → Handler σ α) (p : Progress σ) :
    tryCatch x rescue p =
      match x p with
      | .ok a p => .ok a p
      | .error f p => rescue f p := by
  show EStateM.tryCatch x rescue p = _
  unfold EStateM.tryCatch
  cases x p <;> rfl

theorem settle_apply (x : Except Failure α) (p : Progress σ) :
    settle x p =
      match x with
      | .ok a => .ok a p
      | .error f => .error f p := by
  cases x <;> rfl

theorem demand_apply (met : Bool) (f : Failure) (p : Progress σ) :
    demand met f p = if met then .ok () p else .error f p := by
  cases met <;> rfl

theorem collaborate_apply (work : State σ → Except Failure α × State σ) (r : Response) (m : Machine σ) :
    collaborate work ⟨r, m⟩ =
      settle (work m.toState).1 ⟨r, ⟨(work m.toState).2, m.calls⟩⟩ := by
  rfl

theorem setPayload_apply (payload : Option Bytes) (r : Response) (m : Machine σ) :
    setPayload payload ⟨r, m⟩ =
      .ok () ⟨{ r with result := { r.result with response := payload <|> r.result.response } }, m⟩ := by
  cases payload <;> rfl

theorem createKey_landed (params : List Parameter) (r : Response) (m : Machine σ) :
    createKey c params ⟨r, m⟩ =
      landed r ((Dispatch.createKey c params m.toState).1,
        ⟨(Dispatch.createKey c params m.toState).2, m.calls⟩) := by
  unfold createKey Dispatch.createKey
  cases firstText params with
  | error f => rfl
  | ok name =>
    simp only [bind_apply, settle_apply, tryCatch_apply, collaborate_apply]
    cases (c.createKey name m.toState).1 with
    | ok publicKey =>
      simp only [Except.bind]
      cases Key.address publicKey <;> rfl
    | error f =>
      cases f with
      | broken b =>
        simp only [existing]
        cases b.existingKey? with
        | none => rfl
        | some publicKey =>
          simp only [Except.bind, pure, EStateM.pure]
          cases Key.address publicKey <;> rfl
      | _ => rfl

theorem createProgram_landed (files : Files) (params : List Parameter) (r : Response) (m : Machine σ) :
    createProgram c files params ⟨r, m⟩ =
      landed r ((Dispatch.createProgram c files params m.toState).1,
        ⟨(Dispatch.createProgram c files params m.toState).2, m.calls⟩) := by
  unfold createProgram Dispatch.createProgram
  cases firstText params with
  | error f => rfl
  | ok path =>
    simp only [bind_apply, settle_apply, collaborate_apply]
    cases (c.createProgram files path m.toState).1 with
    | error f => rfl
    | ok id =>
      by_cases length : id.length = blockLength
      · simp only [demand_apply, length, decide_true, ↓reduceIte, Except.bind]
        rfl
      · simp only [demand_apply, length, decide_false, Bool.false_eq_true, ↓reduceIte, Except.bind]
        rfl

theorem invoke_apply (method : String) (maxUnits : Int) (params : List Parameter) (r : Response)
    (m : Machine σ) :
    invoke c method maxUnits params ⟨r, m⟩ =
      settle (Dispatch.invoke c method maxUnits params m).1
        ⟨r, (Dispatch.invoke c method maxUnits params m).2⟩ := by
  unfold invoke Dispatch.invoke
  cases firstId params <;> rfl

theorem call_landed (method : String) (maxUnits : Int) (params : List Parameter) (r : Response)
    (m : Machine σ) :
    call c method maxUnits params ⟨r, m⟩ =
      landed r ((Dispatch.invoke c method maxUnits params m).1.bind (charged method),
        (Dispatch.invoke c method maxUnits params m).2) := by
  unfold call
  simp only [bind_apply, invoke_apply, settle_apply]
  cases (Dispatch.invoke c method maxUnits params m).1 with
  | error f => rfl
  | ok answer =>
    simp only [Except.bind, charged, bind]
    cases answer.payload with
    | error f => rfl
    | ok payload =>
      by_cases length : answer.callId.length = blockLength
      · simp only [demand_apply, length, decide_true, ↓reduceIte, setPayload_apply]
        rfl
      · simp only [demand_apply, length, decide_false, Bool.false_eq_true, ↓reduceIte]
        rfl

theorem read_landed (method : String) (params : List Parameter) (r : Response) (m : Machine σ) :
    read c method params ⟨r, m⟩ =
      landed r ((Dispatch.invoke c method maxBudget params m).1.bind fun r => r.payload.map .reading,
        (Dispatch.invoke c method maxBudget params m).2) := by
  unfold read
  simp only [bind_apply, invoke_apply, settle_apply]
  cases (Dispatch.invoke c method maxBudget params m).1 with
  | error f => rfl
  | ok answer =>
    simp only [Except.bind]
    cases answer.payload with
    | error f => rfl
    | ok payload => exact setPayload_apply payload r _

theorem handle_landed (files : Files) (endpoint : Endpoint) (maxUnits : Int) (method : String)
    (params : List Parameter) (r : Response) (m : Machine σ) :
    handle c files endpoint maxUnits method params ⟨r, m⟩ =
      landed r (perform c files endpoint maxUnits method params m) := by
  unfold handle perform
  cases endpoint.settled with
  | key => exact createKey_landed params r m
  | execute =>
    by_cases creates : method = programCreate
    · simp only [creates, ↓reduceIte]
      exact createProgram_landed files params r m
    · simp only [creates, ↓reduceIte]
      exact call_landed method maxUnits params r m
  | readonly => exact read_landed method params r m
  | unchecked label => rfl

end Handler

variable {w : Surroundings} {endpoint : Endpoint} {maxUnits : Int} {method : String}
  {params : List Parameter} {r : Response} {m : Machine σ}

theorem into_error {f : Failure}
    (failed : (perform c w.files endpoint maxUnits method params m).1 = .error f) :
    into c w endpoint maxUnits method params r m =
      ⟨some f, r.stamped w.second, (perform c w.files endpoint maxUnits method params m).2⟩ := by
  unfold into
  cases both : perform c w.files endpoint maxUnits method params m with
  | mk result left =>
    rw [both] at failed
    cases failed
    rfl

theorem into_ok {success : Success}
    (done : (perform c w.files endpoint maxUnits method params m).1 = .ok success) :
    into c w endpoint maxUnits method params r m =
      ⟨none, { r with result := { success.fill r.result with timestamp := w.second } },
        (perform c w.files endpoint maxUnits method params m).2⟩ := by
  unfold into
  cases both : perform c w.files endpoint maxUnits method params m with
  | mk result left =>
    rw [both] at done
    cases done
    rfl

/-- Step by step or at once, carrying out a step comes to the same. -/
theorem handled_eq_into :
    handled c w endpoint maxUnits method params r m = into c w endpoint maxUnits method params r m := by
  unfold handled into
  rw [Handler.handle_landed]
  cases perform c w.files endpoint maxUnits method params m with
  | mk result left => cases result <;> rfl

end Dispatch

/-- The results that a step can make of one that is given to it, when it succeeds: only the time and the
fields that its endpoint reports are other than before. -/
inductive StepResult.Filled (c : Collaborators σ) (endpoint : Endpoint) (maxUnits : Int) (method : String)
    (params : List Parameter) (s : State σ) (second : Int) (r : StepResult) : StepResult → Prop
  | key (settled : endpoint.settled = .key) (msg : String) :
      Filled c endpoint maxUnits method params s second r { r with msg := some msg, timestamp := second }
  | program (settled : endpoint.settled = .execute) (creates : method = programCreate) (id : Block) :
      Filled c endpoint maxUnits method params s second r { r with id := some id.text, timestamp := second }
  | call (settled : endpoint.settled = .execute) (calls : method ≠ programCreate) {call : Call}
      (made : Dispatch.call? endpoint maxUnits method params = some call) {answer : CallResult}
      (answered : (c.invoke call s).1 = .ok answer) (id : Block) (same : answer.callId = id.bytes)
      (payload : Option Bytes) (single : ∀ b, payload = some b ↔ answer.results = [some b] ∧ b ≠ []) :
      Filled c endpoint maxUnits method params s second r
        { r with
          id := some id.text
          response := payload <|> r.response
          balance := some answer.balance
          timestamp := second }
  | reading (settled : endpoint.settled = .readonly) {call : Call}
      (made : Dispatch.call? endpoint maxUnits method params = some call) {answer : CallResult}
      (answered : (c.invoke call s).1 = .ok answer) (payload : Option Bytes)
      (single : ∀ b, payload = some b ↔ answer.results = [some b] ∧ b ≠ []) :
      Filled c endpoint maxUnits method params s second r
        { r with response := payload <|> r.response, timestamp := second }

namespace Dispatch

theorem Gives.filled {endpoint : Endpoint} {maxUnits : Int} {method : String} {params : List Parameter}
    {s : State σ} {success : Success} (gives : Gives c endpoint maxUnits method params s success)
    (second : Int) (r : StepResult) :
    r.Filled c endpoint maxUnits method params s second
      { success.fill r with timestamp := second } := by
  cases gives with
  | key settled msg => exact .key settled msg
  | program settled creates id => exact .program settled creates id
  | call settled calls made answered payload single id same =>
    exact .call settled calls made answered id same payload (CallResult.payload_ok single)
  | reading settled made answered payload single =>
    exact .reading settled made answered payload (CallResult.payload_ok single)

/-- A step that is carried out step by step, with any collaborators, on any state and with a response in
which anything may stand, comes to the same as at once. If it fails, the response is the one that was given
but for the time, which is the current second. If it succeeds, nothing but the result of the response is
other than before, and of that only the time and the fields that the endpoint reports. -/
theorem failing_steps_leave_their_response (c : Collaborators σ) (w : Surroundings) (endpoint : Endpoint)
    (maxUnits : Int) (method : String) (params : List Parameter) (r : Response) (m : Machine σ) :
    let outcome := handled c w endpoint maxUnits method params r m
    outcome = into c w endpoint maxUnits method params r m ∧
    (∀ f, outcome.failure = some f →
      outcome.response = { r with result := { r.result with timestamp := w.second } }) ∧
    (outcome.failure = none →
      ∃ result, outcome.response = { r with result } ∧
        r.result.Filled c endpoint maxUnits method params m.toState w.second result) := by
  intro outcome
  have same : outcome = into c w endpoint maxUnits method params r m := handled_eq_into
  refine ⟨same, ?_, ?_⟩
  · intro f failed
    cases performed : (perform c w.files endpoint maxUnits method params m).1 with
    | error g =>
      rw [same, into_error performed]
      rfl
    | ok success =>
      rw [same, into_ok performed] at failed
      cases failed
  · intro succeeded
    cases performed : (perform c w.files endpoint maxUnits method params m).1 with
    | error g =>
      rw [same, into_error performed] at succeeded
      cases succeeded
    | ok success =>
      rw [same, into_ok performed]
      exact ⟨_, rfl, (perform_gives performed).filled w.second r.result⟩

def chatty (call : Call) (s : State Unit) : Except Failure CallResult × State Unit :=
  (.ok { callId := List.replicate 32 7, results := if call.method = "chat" then [some [1], some [2]] else [] },
    s)

def used : Response :=
  { id := 5, endpoint := some .key, method := "k", error := some "e", errorKind := some "ValueError",
    result := { id := some "i", msg := some "m", timestamp := 3, response := some [4], balance := some 2 } }

theorem chat_leaves_used_response_and_call_fills_it :
    let c := Run.collaborators chatty
    let zeros : List Parameter := [⟨.id, List.replicate 32 0⟩]
    let w : Surroundings := {}
    let chat := handled c w .execute 9 "chat" zeros used Run.blank
    let call := handled c w .execute 9 "call" zeros used Run.blank
    chat.failure = some (.rejected ⟨.manyResults 2, none⟩) ∧
      chat.response = { used with result := { used.result with timestamp := w.second } } ∧
      call.failure = none ∧
      ∃ result, call.response = { used with result } ∧
        used.result.Filled c .execute 9 "call" zeros Run.blank.toState w.second result := by
  intro c zeros w chat call
  have refused : chat.failure = some (.rejected ⟨.manyResults 2, none⟩) := rfl
  have done : call.failure = none := rfl
  obtain ⟨_, failing, _⟩ :=
    failing_steps_leave_their_response c w .execute 9 "chat" zeros used Run.blank
  obtain ⟨_, _, filling⟩ :=
    failing_steps_leave_their_response c w .execute 9 "call" zeros used Run.blank
  exact ⟨refused, failing _ refused, done, filling done⟩

end Dispatch

end Rehearsal
