import Rehearsal.Key.Ring

namespace Rehearsal

structure Machine (σ : Type) extends State σ where
  calls : List Call := []
  deriving DecidableEq

inductive Success
  /-- a key is there, under this message -/
  | key (msg : String)
  /-- a program was created -/
  | program (id : Bytes)
  /-- a program was called and charged -/
  | call (id : Bytes) (payload : Option Bytes) (balance : Int)
  /-- a program was called without charge -/
  | reading (payload : Option Bytes)
  deriving DecidableEq, Repr

/-- Writes a success to a result. What the success does not speak of stays. -/
def Success.fill (r : StepResult) : Success → StepResult
  | key msg => { r with msg := some (.whole msg) }
  | program id => { r with id := some (Hex.encode id) }
  | call id payload balance =>
    { r with
      response := payload <|> r.response
      id := some (.whole (Hex.encode id))
      balance := some balance }
  | reading payload => { r with response := payload <|> r.response }

def CallResult.payload (r : CallResult) : Except Failure (Option Bytes) :=
  match r.results with
  | [] => .ok none
  | [payload] => .ok (payload.filter (· ≠ []))
  | results => .error (.rejected ⟨.manyResults results.length, none⟩)

namespace Dispatch

variable {σ : Type}

def first (params : List Parameter) : Except Failure Parameter :=
  match params with
  | [] => .error (.fault .indexOutOfRange)
  | p :: _ => .ok p

def firstText (params : List Parameter) : Except Failure String := do
  (← first params).text

def firstId (params : List Parameter) : Except Failure Bytes := do
  let p ← first params
  if p.value.length = blockLength then return p.value
  else .error (.rejected ⟨.programIdLength p.value.length, none⟩)

def keyMessage (address : Bytes) : String :=
  s!"created named key with address {Hex.encode address}"

def createKey (c : Collaborators σ) (params : List Parameter) (s : State σ) :
    Except Failure Success × State σ :=
  match firstText params with
  | .error f => (.error f, s)
  | .ok name =>
    let (result, s) := c.createKey name s
    let publicKey : Except Failure Bytes := match result with
      | .error (.broken b) =>
        match b.existingKey? with
        | some publicKey => .ok publicKey
        | none => .error (.broken b)
      | result => result
    (publicKey.bind fun publicKey => (Key.address publicKey).map fun address =>
      .key (keyMessage address), s)

def createProgram (c : Collaborators σ) (files : Files) (params : List Parameter) (s : State σ) :
    Except Failure Success × State σ :=
  match firstText params with
  | .error f => (.error f, s)
  | .ok path =>
    let (result, s) := c.createProgram files path s
    (result.bind fun id =>
      if id.length = blockLength then .ok (.program id)
      else .error (.broken (.loadedIdLength path id.length)), s)

/-- Calls the program that the first parameter names with all other parameters, and notes the
call. -/
def invoke (c : Collaborators σ) (method : Text) (maxUnits : Int) (params : List Parameter)
    (m : Machine σ) : Except Failure CallResult × Machine σ :=
  match firstId params with
  | .error f => (.error f, m)
  | .ok programId =>
    let call : Call := ⟨programId, params.drop 1, method, maxUnits⟩
    let (result, s) := c.invoke call m.toState
    (result, ⟨s, m.calls ++ [call]⟩)

def charged (method : Text) (r : CallResult) : Except Failure Success := do
  let payload ← r.payload
  if r.callId.length = blockLength then return .call r.callId payload r.balance
  else .error (.broken (.callIdLength method r.callId.length))

def perform (c : Collaborators σ) (files : Files) (endpoint : Endpoint) (maxUnits : Int)
    (method : Text) (params : List Parameter) (m : Machine σ) :
    Except Failure Success × Machine σ :=
  match endpoint.settled with
  | .key =>
    let (result, s) := createKey c params m.toState
    (result, ⟨s, m.calls⟩)
  | .execute =>
    if method = programCreate then
      let (result, s) := createProgram c files params m.toState
      (result, ⟨s, m.calls⟩)
    else
      let (result, m) := invoke c method maxUnits params m
      (result.bind (charged method), m)
  | .readonly =>
    let (result, m) := invoke c method maxBudget params m
    (result.bind fun r => r.payload.map .reading, m)
  | .unchecked label => (.error (.rejected ⟨.unknownEndpoint label, none⟩), m)

structure Outcome (σ : Type) where
  failure : Option Failure
  response : Response
  machine : Machine σ

def into (c : Collaborators σ) (w : Surroundings) (endpoint : Endpoint) (maxUnits : Int)
    (method : Text) (params : List Parameter) (r : Response) (m : Machine σ) : Outcome σ :=
  match perform c w.files endpoint maxUnits method params m with
  | (.ok success, m) =>
    ⟨none, { r with result := success.fill r.result }.stamped w.second, m⟩
  | (.error f, m) => ⟨some f, r.stamped w.second, m⟩

/-- Carries out a step with a response made for it. None can be made for an endpoint that is not
one of the three. -/
def fresh (c : Collaborators σ) (w : Surroundings) (endpoint : Endpoint) (maxUnits : Int)
    (method : Text) (params : List Parameter) (m : Machine σ) :
    Except Failure Response × Machine σ :=
  match Schema.under (.key "endpoint") (Schema.oneOf Endpoint.named (.text endpoint.label)) with
  | .error issues => (.error (.misshapen issues), m)
  | .ok endpoint =>
    let outcome := into c w endpoint maxUnits method params
      { id := 0, endpoint := some endpoint, method } m
    match outcome.failure with
    | some f => (.error f, outcome.machine)
    | none => (.ok outcome.response, outcome.machine)

end Dispatch

end Rehearsal
