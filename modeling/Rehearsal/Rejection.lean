import Rehearsal.Reference
import Rehearsal.Schema

namespace Rehearsal

inductive Requirement
  | id
  | string
  deriving DecidableEq, Repr

def Requirement.text : Requirement → String
  | .id => "first param required to be an id"
  | .string => "first param required to be a string"

namespace Rejection

inductive Family
  | malformedPlan
  | invalidStep
  | invalidEndpoint
  | invalidParamType
  | unresolvedStepReference
  | pathNotFound
  | namedKeyNotFound
  | multiResponseUnsupported
  | unsupported
  deriving DecidableEq, Repr

def Family.code : Family → String
  | .malformedPlan => "malformed_plan"
  | .invalidStep => "invalid_step"
  | .invalidEndpoint => "invalid_endpoint"
  | .invalidParamType => "invalid_param_type"
  | .unresolvedStepReference => "unresolved_step_reference"
  | .pathNotFound => "path_not_found"
  | .namedKeyNotFound => "named_key_not_found"
  | .multiResponseUnsupported => "multi_response_unsupported"
  | .unsupported => "unsupported"

inductive Cause
  /-- neither a text nor a file was given -/
  | noSource
  | unreadableFile (path : Text) (reason : String)
  | unparsable (reason : String)
  /-- the data are no map -/
  | notObject (kind : String)
  | misshapen (issues : List Schema.Issue)
  | noStepList (path : Text)
  | badCommandQuoting (reason : String)
  | unknownCommand (line : String)
  | flagWithoutValue (flag : String)
  | unknownFlag (flag : String)
  | noParams
  | unknownEndpoint (label : Text)
  /-- a key step begins with a parameter that is no key -/
  | notKey (label : String)
  | wrongFirst (label : String) (requirement : Requirement)
  | unknownKind (label : String)
  | undecodable (label : String) (value : Bytes)
  /-- the number of bytes of what should be a program's identifier -/
  | programIdLength (length : Nat)
  | badReference (text : String)
  | unmapped (text : String)
  | noPath (path : String)
  | noKey (name : String)
  | secp256k1
  | manyResults (count : Nat)
  /-- a rejection in a collaborator's own words; `subject` is the reference, path or key name that
  it is about, and no kind means a rejection of no particular one -/
  | reported (family : Option Family) (text subject : Text)
      (requirement : Option Requirement)
  deriving DecidableEq, Repr

def Cause.family? : Cause → Option Family
  | .noSource | .unreadableFile .. | .unparsable _ | .notObject _ | .misshapen _ | .noStepList _
  | .badCommandQuoting _ | .unknownCommand _ | .flagWithoutValue _ | .unknownFlag _ =>
    some .malformedPlan
  | .noParams => some .invalidStep
  | .unknownEndpoint _ => some .invalidEndpoint
  | .notKey _ | .wrongFirst .. | .unknownKind _ | .undecodable .. | .programIdLength _ =>
    some .invalidParamType
  | .badReference _ | .unmapped _ => some .unresolvedStepReference
  | .noPath _ => some .pathNotFound
  | .noKey _ => some .namedKeyNotFound
  | .secp256k1 => some .unsupported
  | .manyResults _ => some .multiResponseUnsupported
  | .reported family .. => family

/-- The kind of a cause; one of no particular kind counts as an invalid step. -/
def Cause.family (c : Cause) : Family := c.family?.getD .invalidStep

def Cause.requirement : Cause → Option Requirement
  | .wrongFirst _ requirement => some requirement
  | .programIdLength _ => some .id
  | .reported _ _ _ requirement => requirement
  | _ => none

def Cause.subject : Cause → Text
  | .badReference text | .unmapped text => text
  | .noPath path => path
  | .noKey name => name
  | .reported _ _ subject _ => subject
  | _ => ""

def Cause.text : Cause → Text
  | .noSource => "please specify either a --step or a --file flag"
  | .unreadableFile path reason => "cannot read plan file " ++ path ++ ": " ++ reason
  | .unparsable reason => s!"cannot parse step payload: {reason}"
  | .notObject kind => s!"step must be an object, got {kind}"
  | .misshapen issues => "invalid step: " ++ "; ".intercalate (issues.map Schema.Issue.text)
  | .noStepList path => "plan file " ++ path ++ " must contain a 'steps' list"
  | .badCommandQuoting reason => s!"cannot parse command line: {reason}"
  | .unknownCommand line =>
    "unknown command: " ++ Text.quote (String.ofList (line.toList.take 40))
  | .flagWithoutValue flag => s!"flag {flag} requires a value"
  | .unknownFlag flag => s!"unknown flag: {flag}"
  | .noParams => "no params found"
  | .unknownEndpoint label => "invalid endpoint: " ++ label
  | .notKey label => s!"invalid param type {label}: expected ed25519 or secp256k1"
  | .wrongFirst label _ => s!"invalid param type {label}"
  | .unknownKind label => s!"invalid param type {label}"
  | .undecodable label value => s!"{label} param is not valid utf-8 text: {Text.quoteBytes value}"
  | .programIdLength length => s!"program id must be 32 bytes, got {length}"
  | .badReference text => s!"invalid step reference: {text}"
  | .unmapped text => s!"failed to map to id: {text}"
  | .noPath path => s!"path does not exist: {path}"
  | .noKey name => s!"named key not found: {name}"
  | .secp256k1 => "secp256k1 keys are not supported"
  | .manyResults count => s!"multi response not supported: interpreter returned {count} results"
  | .reported _ text .. => text

end Rejection

structure Rejection where
  cause : Rejection.Cause
  index : Option Int := none
  deriving DecidableEq, Repr

namespace Rejection

def message (r : Rejection) : Text :=
  let text := match r.cause.requirement with
    | some requirement => r.cause.text ++ ": " ++ requirement.text
    | none => r.cause.text
  match r.index with
  | some index => s!"step {index}: " ++ text
  | none => text

def family (r : Rejection) : Family := r.cause.family

end Rejection

end Rehearsal
