import Rehearsal.Audit
import Rehearsal.Command.Arguments
import Rehearsal.Command.Screens
import Rehearsal.Interpreter.Registry

namespace Rehearsal.Command

open Interpreter (Modules Loaded)

structure Workplace (σ : Type) where
  environment : List (String × String) := []
  surroundings : Surroundings := {}
  modules : Modules σ := []
  /-- what interpreters remember -/
  memory : σ
  draws : Draws := {}
  /-- the standard input -/
  input : String := ""

/-- What a command leaves behind: its output, the audit log, its exit code, and the failure that it
did not handle. -/
structure Report where
  output : String := ""
  audit : List Audit.Line := []
  exitCode : Nat := 0
  failure : Option Failure := none

namespace Report

def behind (output : String) (r : Report) : Report := { r with output := output ++ r.output }

def behindAudit (audit : List Audit.Line) (r : Report) : Report := { r with audit := audit ++ r.audit }

def crash (f : Failure) : Report := { exitCode := f.exitCode, failure := some f }

def showing (exitCode : Nat) : Shown → Report
  | .ok output => { output, exitCode }
  | .error f => crash (.fault f)

def stopped (f : Failure) : Report := if f.isKnown then showing 1 (showFailure f) else crash f

end Report

def jsonLine (r : Response) : Shown :=
  match r.wire with
  | .ok wire => .ok (wire ++ "\n")
  | .error tear => .error (.unwritable tear)

def print (json : Bool) (r : Response) : Shown := if json then jsonLine r else showResponse r

variable {σ : Type}

def fresh (w : Workplace σ) : Session σ := ⟨⟨⟨{}, w.draws, w.memory⟩, []⟩, {}⟩

def logged (w : Workplace σ) (events : List Event) : List Audit.Line :=
  (Journal.ofEvents [.logger] w.surroundings.clock events).audit

def exitCode (ok : Bool) : Nat := if ok then 0 else 1

def runStep (w : Workplace σ) (c : Config) (source : Source) (json : Bool) : Report :=
  match Interpreter.load w.modules c.interpreter with
  | .error f => .stopped f
  | .ok interpreter =>
    let ran := Run.runLoaded (Run.collaborators interpreter.invoke) w.surroundings source.text
      source.file (fresh w)
    let report : Report := match ran.result with
      | .error f => .stopped f
      | .ok r => .showing (exitCode r.isOk) (print json r)
    report.behindAudit (logged w ran.events)

def printAll (json : Bool) (next : Report) : List Response → Report
  | [] => next
  | r :: rest =>
    match print json r with
    | .error f => .crash (.fault f)
    | .ok output => (printAll json next rest).behind output

def planReport (file : Text) (json : Bool) (total : Nat) (responses : List Response)
    (aborted : Option (Except Fault Text)) : Report :=
  let code := exitCode (aborted.isNone && failures responses == 0)
  let last : Report :=
    if json then { exitCode := code }
    else
      match aborted with
      | none => .showing code (showSummary file total responses none)
      | some (.ok cause) => .showing code (showSummary file total responses (some cause))
      | some (.error f) => .crash (.fault f)
  printAll json last responses

def causeText : Option Failure → Except Fault Text
  | some cause => cause.message
  | none => .ok "None"

def runPlan (w : Workplace σ) (c : Config) (file : Text) (json : Bool) : Report :=
  match Load.plan w.surroundings.files file with
  | .error f => .stopped f
  | .ok plan =>
    match Interpreter.load w.modules c.interpreter with
    | .error f => .stopped f
    | .ok interpreter =>
      let ran := Run.runPlan (Run.collaborators interpreter.invoke) w.surroundings plan (fresh w)
      let report : Report := match ran.result with
        | .ok responses => planReport file json plan.steps.length responses none
        | .error (.aborted _ responses _ _ cause) =>
          planReport file json plan.steps.length responses (some (causeText cause))
        | .error f => .crash f
      report.behindAudit (logged w ran.events)

inductive Reply
  /-- a blank line gets no answer -/
  | silence
  | answer (r : Response)
  /-- the response to a line that is turned away, which ends the conversation -/
  | refusal (r : Response)
  /-- the other side ends the conversation -/
  | farewell
  | crash (f : Failure)

def farewells : List String := ["exit", "quit"]

def refuse (step : Nat) (r : Rejection) : Response :=
  ({ id := step : Response }).marked r.message (some r.family.code)

def Reply.ofFailure (step : Nat) : Failure → Reply
  | .rejected r => .refusal (refuse step r)
  | f => .crash f

structure Turn (σ : Type) where
  reply : Reply
  session : Session σ
  events : List Event := []

def answer (c : Collaborators σ) (w : Surroundings) (s : Session σ) (line : String) : Turn σ :=
  let line := Text.trimmed line
  if line.isEmpty then ⟨.silence, s, []⟩
  else if farewells.contains line then ⟨.farewell, s, []⟩
  else
    match read line with
    | .error f => ⟨.ofFailure s.ledger.step f, s, []⟩
    | .ok source =>
      let ran := Run.runLoaded c w source.text source.file s
      match ran.result with
      | .ok r => ⟨.answer r, ran.session, ran.events⟩
      | .error f => ⟨.ofFailure ran.session.ledger.step f, ran.session, ran.events⟩

def emit (r : Response) (next : Report) : Report :=
  match jsonLine r with
  | .ok line => next.behind line
  | .error f => .crash (.fault f)

def converse (c : Collaborators σ) (w : Workplace σ) (s : Session σ) : List String → Report
  | [] => {}
  | line :: rest =>
    let turn := answer c w.surroundings s line
    let report : Report := match turn.reply with
      | .silence => converse c w turn.session rest
      | .answer r => emit r (converse c w turn.session rest)
      | .refusal r => emit r { exitCode := 1 }
      | .farewell => {}
      | .crash f => .crash f
    report.behindAudit (logged w turn.events)

def interpret (w : Workplace σ) (c : Config) : Report :=
  match Interpreter.load w.modules c.interpreter with
  | .error f => .crash f
  | .ok interpreter =>
    converse (Run.collaborators interpreter.invoke) w (fresh w) (w.input.splitOn "\n")

def follow (w : Workplace σ) (c : Config) : Order → Report
  | .run source json => runStep w c source json
  | .plan file json => runPlan w c file json
  | .interpreter => interpret w c
  | .config => .showing 0 (showSettings c)

def version : String := "0.3.0"

def usage : String :=
  "usage: plansim [--version] run [--step TEXT | --file PATH] [--json]\n" ++
    "       plansim plan PATH [--json]\n" ++
    "       plansim interpreter\n" ++
    "       plansim config\n"

def misuse : Nat := 2

def configure (w : Workplace σ) : Except Failure Config := do
  let c ← Config.read w.environment w.surroundings.files
  c.checkLevel
  return c

/-- Carries out what the arguments of the program ask for. The settings are read before a command's
own arguments are looked at. -/
def execute (w : Workplace σ) (arguments : List Text) : Report :=
  match Request.read arguments with
  | .version => { output := s!"plansim v{version}\n" }
  | .help => { output := usage }
  | .unknown => { exitCode := misuse }
  | .order order =>
    match configure w, order with
    | .error f, _ => .crash f
    | .ok _, none => { exitCode := misuse }
    | .ok c, some order => follow w c order

end Rehearsal.Command
