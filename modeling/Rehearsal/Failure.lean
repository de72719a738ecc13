import Rehearsal.Display.Markup
import Rehearsal.Files
import Rehearsal.Json.Reader
import Rehearsal.Ledger
import Rehearsal.Rejection
import Rehearsal.Response
import Rehearsal.Yaml.Value

namespace Rehearsal

inductive Breakdown
  | duplicateKey (name : String) (publicKey : Bytes)
  | corruptKey (name : String)
  | publicKeyLength (length : Nat)
  | unreadableProgram (path reason : String)
  | emptyProgram (path : String)
  | loadedIdLength (path : String) (length : Nat)
  | callIdLength (method : Text) (length : Nat)
  | noInterpreter (method : Text)
  | badInterpreterPath (path : String)
  | noModule (name : String) (reason : Text)
  | noMember (name member : String)
  | notInterpreter (path kind : String)
  /-- a failure in other words, of one of four families -/
  | reported (text : Text)
  | reportedDuplicate (text name : Text) (publicKey : Bytes)
  | reportedLoading (text path : Text)
  | reportedCall (text method : Text)
  deriving DecidableEq, Repr

namespace Breakdown

def name : Breakdown → String
  | duplicateKey .. | reportedDuplicate .. => "DuplicateKeyName"
  | unreadableProgram .. | emptyProgram _ | loadedIdLength .. | reportedLoading .. =>
    "ProgramLoadError"
  | callIdLength .. | noInterpreter _ | badInterpreterPath _ | noModule .. | noMember ..
  | notInterpreter .. | reportedCall .. => "InterpreterError"
  | corruptKey _ | publicKeyLength _ | reported _ => "CollaboratorError"

def message : Breakdown → Text
  | duplicateKey name _ => s!"named key already exists: {name}"
  | corruptKey name =>
    s!"stored key {Text.quote name} is corrupt: An Ed25519 private key is 32 bytes long"
  | publicKeyLength length => s!"public key must be 32 bytes, got {length}"
  | unreadableProgram path reason => s!"failed to read program {path}: {reason}"
  | emptyProgram path => s!"program module is empty: {path}"
  | loadedIdLength _ length => s!"program loader returned a {length} byte program id"
  | callIdLength _ length => s!"interpreter returned a {length} byte call id"
  | noInterpreter method =>
    s!"no program interpreter configured; cannot call {method.quoted} " ++
      "(set PLANSIM_INTERPRETER to a module:attr import path)"
  | badInterpreterPath path =>
    s!"interpreter path must look like 'package.module:attr', got {Text.quote path}"
  | noModule name reason => s!"cannot import interpreter module {Text.quote name}: " ++ reason
  | noMember name member =>
    s!"module {Text.quote name} has no attribute {Text.quote member}"
  | notInterpreter path kind =>
    s!"{Text.quote path} is not an interpreter (missing invoke method). Got: {kind}"
  | reported text | reportedDuplicate text .. | reportedLoading text _ | reportedCall text _ => text

def subject : Breakdown → Text
  | duplicateKey name _ => name
  | unreadableProgram path _ | emptyProgram path | loadedIdLength path _ => path
  | reportedDuplicate _ subject _ | reportedLoading _ subject | callIdLength subject _
  | noInterpreter subject | reportedCall _ subject => subject
  | _ => ""

def existingKey? : Breakdown → Option Bytes
  | duplicateKey _ publicKey | reportedDuplicate _ _ publicKey => some publicKey
  | _ => none

end Breakdown

inductive Fault
  | indexOutOfRange
  /-- no fresh identifier is left to draw -/
  | drawsExhausted
  /-- the marking byte of an address is none -/
  | byteOutOfRange
  | undecodable (problem : Utf8.Problem)
  | tooManyDigits (digits : Nat)
  /-- an integer has too many digits to be shown -/
  | unshowable
  | value (f : Yaml.ValueFault)
  | file (problem : FileProblem) (path : Text)
  /-- a path holds a NUL character -/
  | nullInPath
  /-- a torn text is to be the path of a file -/
  | unnameable (tear : Text.Tear)
  /-- a torn text is to be written as JSON -/
  | unwritable (tear : Text.Tear)
  /-- a torn text is to be shown on the screen -/
  | unprintable
  | ledger (refusal : Ledger.Refusal)
  /-- the label of an unchecked kind or endpoint is asked for -/
  | uncheckedLabel
  /-- the kind of a failure is something of a type that has no value -/
  | valueless (type : String)
  /-- a text that is to be shown has tags that do not match -/
  | markup (f : Display.Markup.Fault)
  | unknownLevel (level : String)
  /-- any other failure, by its name and wording -/
  | raised (name : String) (text : Text)
  deriving DecidableEq, Repr

namespace Fault

def name : Fault → String
  | indexOutOfRange => "IndexError"
  | drawsExhausted => "OverflowError"
  | undecodable _ => "UnicodeDecodeError"
  | tooManyDigits _ | unshowable | nullInPath | byteOutOfRange | ledger _ => "ValueError"
  | value f => f.name
  | file .missing _ => "FileNotFoundError"
  | file .notDirectory _ => "NotADirectoryError"
  | file .isDirectory _ => "IsADirectoryError"
  | file .nameTooLong _ => "OSError"
  | file .denied _ => "PermissionError"
  | unnameable _ | unprintable => "UnicodeEncodeError"
  | unwritable _ => "PydanticSerializationError"
  | uncheckedLabel | valueless _ => "AttributeError"
  | markup (.colour _) => "ValueError"
  | markup _ => "MarkupError"
  | unknownLevel _ => "ValueError"
  | raised name _ => name

def undecodableText (p : Utf8.Problem) : String :=
  let reason := match p.fault with
    | .start => "invalid start byte"
    | .continuation => "invalid continuation byte"
    | .truncated => "unexpected end of data"
  match p.bytes with
  | [b] =>
    s!"'utf-8' codec can't decode byte 0x{Text.hexPadded 2 b.toNat} in position {p.position}: " ++
      reason
  | bytes =>
    s!"'utf-8' codec can't decode bytes in position {p.position}-" ++
      s!"{p.position + bytes.length - 1}: {reason}"

def message : Fault → Text
  | indexOutOfRange => "list index out of range"
  | drawsExhausted => "int too big to convert"
  | byteOutOfRange => "bytes must be in range(0, 256)"
  | undecodable p => undecodableText p
  | tooManyDigits digits => Decimal.tooManyDigits digits
  | unshowable => Decimal.tooLong
  | value f => f.message
  | file problem path => problem.message path
  | nullInPath => "embedded null byte"
  | unnameable tear => tear.message
  | unwritable tear => "Error serializing to JSON: UnicodeEncodeError: " ++ tear.message
  | unprintable => "'utf-8' codec can't encode: surrogates not allowed\n" ++
      "*** You may need to add PYTHONIOENCODING=utf-8 to your environment ***"
  | ledger refusal => refusal.message
  | uncheckedLabel => "'str' object has no attribute 'value'"
  | valueless type => s!"'{type}' object has no attribute 'value'"
  | markup f => f.message
  | unknownLevel level => "Unknown level: " ++ Text.quote level
  | raised _ text => text

end Fault

/-- Who handles a failure: handlers of this library's failures, handlers of failures at large, or
nobody, so that it ends the program with an exit code. -/
inductive Rank
  | known
  | ordinary
  | exit (code : Nat)
  deriving DecidableEq, Repr

inductive Mark
  | absent
  | valued (value : Option Text)
  /-- something of a type that has no value -/
  | bare (type : String)
  deriving DecidableEq, Repr

/-- A failure of a type that a collaborator brings along. Asking for its wording may itself fail. -/
structure Foreign where
  name : String
  wording : Except Fault Text
  mark : Mark := .absent
  rank : Rank := .ordinary

inductive Failure
  | rejected (r : Rejection)
  | broken (b : Breakdown)
  /-- a plan stopped early, with the responses of the steps that ran -/
  | aborted (message : Text) (responses : List Response) (completed total : Int)
      (cause : Option Failure)
  /-- a failure of this library in other words -/
  | reported (text : Text)
  | misshapen (issues : List Schema.Issue)
  | fault (f : Fault)
  | foreign (f : Foreign)

namespace Failure

/-- The wording of a failure. That of a rejection whose index has too many digits cannot be told. -/
def message : Failure → Except Fault Text
  | rejected r => if r.index.any Decimal.isTooLong then .error .unshowable else .ok r.message
  | broken b => .ok b.message
  | aborted message .. => .ok message
  | reported text => .ok text
  | misshapen issues => .ok ("; ".intercalate (issues.map Schema.Issue.text))
  | fault f => .ok f.message
  | foreign f => f.wording

def name : Failure → String
  | rejected r => r.family.code
  | broken b => b.name
  | aborted .. => "PlanAborted"
  | reported _ => "PlanSimError"
  | misshapen _ => "ValidationError"
  | fault f => f.name
  | foreign f => f.name

def kind : Failure → Except Fault (Option Text)
  | foreign ⟨_, _, .valued value, _⟩ => .ok value
  | foreign ⟨_, _, .bare type, _⟩ => .error (.valueless type)
  | f => .ok (some f.name)

def rank : Failure → Rank
  | misshapen _ | fault _ => .ordinary
  | foreign f => f.rank
  | _ => .known

def isKnown (f : Failure) : Bool := f.rank == .known

def exitCode (f : Failure) : Nat :=
  match f.rank with
  | .exit code => code
  | _ => 1

/-- What is done about a failure, unless it is one that nobody handles. A fault of that stops it. -/
def handled {α : Type} (f : Failure) (done : Except Fault α) : Except Failure α :=
  match f.rank with
  | .exit _ => .error f
  | _ => done.mapError .fault

end Failure

def Parameter.text (p : Parameter) : Except Failure String :=
  (Utf8.decode p.value).mapError fun problem => .fault (.undecodable problem)

namespace Response

def marked (r : Response) (text : Text) (kind : Option Text) : Response :=
  { r with
    error := some text
    errorKind := kind
    result := { timestamp := r.result.timestamp } }

def failed (r : Response) (f : Failure) : Except Fault Response := do
  return r.marked (← f.message) (← f.kind)

end Response

end Rehearsal
