import Rehearsal.Failure
import Rehearsal.Plan
import Rehearsal.Yaml.Reader

namespace Rehearsal.Load

def refuse {α : Type} (cause : Rejection.Cause) : Except Failure α := .error (.rejected ⟨cause, none⟩)

def readText (files : Files) (path : Text) : Except Failure String :=
  let name := Path.normal path
  match path.nameTear? with
  | some tear => .error (.fault (.unnameable tear))
  | none =>
    if path.points.contains 0 then .error (.fault .nullInPath)
    else
      match files.read path with
      | .error p => refuse (.unreadableFile name (p.message name))
      | .ok bytes =>
        match Utf8.decode bytes with
        | .error p => refuse (.unreadableFile name (Fault.undecodableText p))
        | .ok s => .ok (String.ofList (unifyLineEnds s.toList))

def isYaml (path : Text) : Bool :=
  match (Path.suffix path).whole? with
  | some suffix => suffix.toLower == ".yaml" || suffix.toLower == ".yml"
  | none => false

def yamlReason : String := "<yaml error>"

def parseJson (t : Text) : Except Failure Datum :=
  match Json.readText t with
  | .ok d => .ok d
  | .error (.digits n) => .error (.fault (.tooManyDigits n))
  | .error p => refuse (.unparsable p.message)

def parse (yaml : Bool) (s : String) : Except Failure Datum :=
  if yaml then
    match Yaml.read s with
    | .ok d => .ok d
    | .error .malformed => refuse (.unparsable yamlReason)
    | .error (.value f) => .error (.fault (.value f))
  else parseJson s

def isEndpointIssue (i : Schema.Issue) : Bool :=
  match i.path, i.cause with
  | .key "endpoint" :: _, .notOneOf _ => true
  | _, _ => false

def shown (d : Datum) : Except Failure Text :=
  if d.isTooLong then .error (.fault .unshowable) else .ok d.shown

/-- A step from data. If nothing is wrong but that the endpoint is unknown, that is the cause. -/
def stepOfData (d : Datum) : Except Failure Step :=
  match d.opened with
  | .map entries =>
    match Step.check (.map entries) with
    | .ok s => .ok s
    | .error issues =>
      if !issues.isEmpty && issues.all isEndpointIssue then do
        refuse (.unknownEndpoint (← shown ((Datum.lookup "endpoint" entries).getD .null)))
      else refuse (.misshapen issues)
  | d => refuse (.notObject d.kind)

/-- A step from a text, or else from a file; empty ones count as missing. -/
def step (files : Files) (text file : Option Text) : Except Failure Step :=
  match text.filter (· ≠ .whole ""), file.filter (· ≠ .whole "") with
  | some text, _ => do stepOfData (← parseJson text)
  | none, some file => do stepOfData (← parse (isYaml file) (← readText files file))
  | none, none => refuse .noSource

def addSteps (p : Plan) : List Datum → Except Failure Plan
  | [] => .ok p
  | d :: rest => do
    let s ← stepOfData d
    addSteps (p.addStep s).2 rest

/-- The caller key that is given to a plan: the text of whatever it is, unless it counts as
false. -/
def callerKey (d : Datum) : Except Failure Text := if d.isTrue then shown d else .ok ""

def planOfData (file : Text) (d : Datum) : Except Failure Plan := do
  match (d.get? "steps").map Datum.opened with
  | some (.list steps) =>
    addSteps { callerKey := ← callerKey ((d.get? "callerKey").getD .null) } steps
  | _ => refuse (.noStepList file)

def plan (files : Files) (file : Text) : Except Failure Plan := do
  planOfData file (← parse (isYaml file) (← readText files file))

def planOfWire (s : String) : Except Failure Plan := do
  match Plan.check (← parse false s) with
  | .ok p => return p
  | .error issues => .error (.misshapen issues)

def roundTrips (p : Plan) : Except Failure Bool := do
  let wire ← p.wire.mapError fun tear => .fault (.unwritable tear)
  return (← planOfWire wire).wire.toOption == some wire

end Rehearsal.Load
