import Rehearsal.Config.Assignments
import Rehearsal.Load
import Rehearsal.Text.Capital

namespace Rehearsal

structure Config where
  appName : String := "plansim"
  debug : Bool := false
  logLevel : String := "INFO"
  interpreter : Option String := none
  deriving DecidableEq, Repr

namespace Config

def effectiveLogLevel (c : Config) : String :=
  if c.debug then "DEBUG" else Text.capitals c.logLevel

def logLevels : List String :=
  ["CRITICAL", "FATAL", "ERROR", "WARN", "WARNING", "INFO", "DEBUG", "NOTSET"]

def checkLevel (c : Config) : Except Failure Unit :=
  if logLevels.contains c.effectiveLogLevel then .ok ()
  else .error (.fault (.unknownLevel c.effectiveLogLevel))

def opening : String := "plansim_"

def names : List String := ["app_name", "debug", "log_level", "interpreter"]

def fileName : String := ".env"

/-- The value of a setting among bindings of names in any case. The last one counts, and one without
a value unsets it. -/
def lookup (name : String) (bindings : List (String × Option String)) : Option String :=
  ((bindings.reverse.find? fun binding => binding.1.toLower == opening ++ name).bind Prod.snd)

def truthWords : List (String × Bool) :=
  [("0", false), ("off", false), ("f", false), ("false", false), ("n", false), ("no", false),
    ("1", true), ("on", true), ("t", true), ("true", true), ("y", true), ("yes", true)]

def truth (s : String) : Schema.Checked Bool :=
  match truthWords.lookup s.toLower with
  | some b => .ok b
  | none => Schema.refuse .notTruth

def fileValues (environment : List (String × String)) (files : Files) :
    Except Failure (List (String × Option String)) :=
  match files.find fileName with
  | .ok (.file bytes) =>
    match Utf8.decode bytes with
    | .error p => .error (.fault (.undecodable p))
    | .ok s => .ok (Assignments.read environment (String.ofList (unifyLineEnds s.toList)))
  | .ok _ => .ok []
  | .error p => if p.isAbsence then .ok [] else .error (.fault (.file p fileName))

def read (environment : List (String × String)) (files : Files) : Except Failure Config := do
  let own := environment.map fun (name, value) => (name, some value)
  let inFile ← fileValues environment files
  let setting (name : String) : Option String := lookup name own <|> lookup name inFile
  let debug : Schema.Checked Bool := match setting "debug" with
    | none => .ok false
    | some s => Schema.under (.key "debug") (truth s)
  match debug with
  | .error issues => .error (.misshapen issues)
  | .ok debug =>
    return {
      appName := (setting "app_name").getD "plansim"
      debug
      logLevel := (setting "log_level").getD "INFO"
      interpreter := setting "interpreter" }

end Config

end Rehearsal
