import Rehearsal.Callback
import Rehearsal.Contract
import Rehearsal.Dispatch
import Rehearsal.Load
import Rehearsal.Resolve

namespace Rehearsal

structure Session (σ : Type) where
  machine : Machine σ
  ledger : Ledger := {}
  deriving DecidableEq

universe u

/-- What an operation of a run comes to, before an audience that is told of its events. -/
structure Told (σ : Type) (μ : Type u) (α : Type) where
  result : Except Failure α
  session : Session σ
  audience : μ

/-- How an audience takes an event. What it fails with stops the run. -/
abbrev Tell (μ : Type u) := Event → μ → Except Failure Unit × μ

structure Ran (σ α : Type) where
  result : Except Failure α
  session : Session σ
  events : List Event := []

namespace Run

variable {σ : Type} {μ : Type u}

def collaborators (invoke : Call → State σ → Except Failure CallResult × State σ) :
    Collaborators σ where
  publicKey s name := Key.find s.store name
  createKey := Key.create
  createProgram := Program.create
  invoke := invoke

def noInterpreter (call : Call) (s : State σ) : Except Failure CallResult × State σ :=
  (.error (.broken (.noInterpreter call.method)), s)

def rejection (s : Session σ) (r : Rejection) : Event :=
  .rejected s.ledger.step r.message r.family.code

def stoppedTold {α : Type} (tell : Tell μ) (s : Session σ) (f : Failure) (m : μ) : Told σ μ α :=
  match f with
  | .rejected r =>
    match tell (rejection s r) m with
    | (.ok (), m) => ⟨.error f, s, m⟩
    | (.error escaped, m) => ⟨.error escaped, s, m⟩
  | f => ⟨.error f, s, m⟩

def prepare (c : Collaborators σ) (w : Surroundings) (step : Step) (s : Session σ) :
    Except Failure (List Parameter) :=
  match Contract.check s.ledger.step step with
  | .error f => .error f
  | .ok () =>
    Resolve.all c ⟨s.ledger, s.machine.toState, w.files, step.endpoint, some s.ledger.step⟩
      step.params

/-- Carries out a prepared step. A failure becomes that of its response, unless it cannot be recorded
there. -/
def carryOut (c : Collaborators σ) (w : Surroundings) (step : Step) (params : List Parameter)
    (s : Session σ) : Except Failure Response × Machine σ :=
  let outcome := Dispatch.into c w step.endpoint step.maxUnits step.method params
    { id := s.ledger.step, endpoint := some step.endpoint, method := step.method } s.machine
  (match outcome.failure with
    | some f => f.handled (outcome.response.failed f)
    | none => .ok outcome.response, outcome.machine)

def producedId (r : Response) : Option Text := if r.isOk then r.result.id else none

def record (l : Ledger) (r : Response) : Except Ledger.Refusal Ledger :=
  match (producedId r).filter (· ≠ .whole "") with
  | none => .ok l
  | some id => l.record l.step ((id.whole?.bind Hex.decode?).getD [])

def started (step : Step) (params : List Parameter) (s : Session σ) : Event :=
  .started s.ledger.step step.endpoint.label step.method step.maxUnits params.length

def ending (step : Step) (r : Response) : Event :=
  match r.error with
  | none => .completed r.id step.endpoint.label step.method (producedId r)
  | some error => .failed r.id error r.errorKind

def finishTold (tell : Tell μ) (c : Collaborators σ) (w : Surroundings) (step : Step)
    (params : List Parameter) (s : Session σ) (m : μ) : Told σ μ Response :=
  let (answer, machine) := carryOut c w step params s
  match answer with
  | .error f => ⟨.error f, ⟨machine, s.ledger⟩, m⟩
  | .ok response =>
    match record s.ledger response with
    | .error refusal => ⟨.error (.fault (.ledger refusal)), ⟨machine, s.ledger⟩, m⟩
    | .ok ledger =>
      let s : Session σ := ⟨machine, ledger.advance⟩
      match tell (ending step response) m with
      | (.ok (), m) => ⟨.ok response, s, m⟩
      | (.error escaped, m) => ⟨.error escaped, s, m⟩

def runTold (tell : Tell μ) (c : Collaborators σ) (w : Surroundings) (step : Step) (s : Session σ)
    (m : μ) : Told σ μ Response :=
  if step.endpoint.isChecked then
    match prepare c w step s with
    | .error f => stoppedTold tell s f m
    | .ok params =>
      match tell (started step params s) m with
      | (.ok (), m) => finishTold tell c w step params s m
      | (.error escaped, m) => ⟨.error escaped, s, m⟩
  else ⟨.error (.fault .uncheckedLabel), s, m⟩

def runLoadedTold (tell : Tell μ) (c : Collaborators σ) (w : Surroundings) (text file : Option Text)
    (s : Session σ) (m : μ) : Told σ μ Response :=
  match Load.step w.files text file with
  | .error f => stoppedTold tell s f m
  | .ok step => runTold tell c w step s m

def abortion (s : Session σ) (responses : List Response) (total : Nat) (r : Rejection) : Failure :=
  .aborted (s!"plan aborted at step {s.ledger.step}: " ++ r.message) responses responses.length total
    (some (.rejected r))

def runRestTold (tell : Tell μ) (c : Collaborators σ) (w : Surroundings) (total : Nat)
    (responses : List Response) : List Step → Session σ → μ → Told σ μ (List Response)
  | [], s, m => ⟨.ok responses, s, m⟩
  | step :: rest, s, m =>
    let told := runTold tell c w step s m
    match told.result with
    | .error (.rejected r) =>
      ⟨.error (abortion told.session responses total r), told.session, told.audience⟩
    | .error f => ⟨.error f, told.session, told.audience⟩
    | .ok response =>
      runRestTold tell c w total (responses ++ [response]) rest told.session told.audience

def keep : Tell (List Event) := fun e events => (.ok (), events ++ [e])

def run (c : Collaborators σ) (w : Surroundings) (step : Step) (s : Session σ) : Ran σ Response :=
  let told := runTold keep c w step s []
  ⟨told.result, told.session, told.audience⟩

def runLoaded (c : Collaborators σ) (w : Surroundings) (text file : Option Text)
    (s : Session σ) : Ran σ Response :=
  let told := runLoadedTold keep c w text file s []
  ⟨told.result, told.session, told.audience⟩

def runRest (c : Collaborators σ) (w : Surroundings) (total : Nat) (responses : List Response)
    (steps : List Step) (s : Session σ) : Ran σ (List Response) :=
  let told := runRestTold keep c w total responses steps s []
  ⟨told.result, told.session, told.audience⟩

/-- Runs the steps of a plan. A step that is turned away stops it, one that fails does not. -/
def runPlan (c : Collaborators σ) (w : Surroundings) (p : Plan) (s : Session σ) :
    Ran σ (List Response) :=
  runRest c w p.steps.length [] p.steps s

def runPlanFile (c : Collaborators σ) (w : Surroundings) (file : Text) (s : Session σ) :
    Ran σ (List Response) :=
  match Load.plan w.files file with
  | .error f => ⟨.error f, s, []⟩
  | .ok p => runPlan c w p s

end Run

end Rehearsal
