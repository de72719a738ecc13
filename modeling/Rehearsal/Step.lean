import Rehearsal.Bytes.Base64
import Rehearsal.Json.Writer
import Rehearsal.Schema

namespace Rehearsal

inductive Endpoint
  | key
  | execute
  | readonly
  /-- a label that was never checked -/
  | unchecked (label : String)
  deriving DecidableEq, Repr

namespace Endpoint

def named : List (String × Endpoint) := [("key", key), ("execute", execute), ("readonly", readonly)]

def label : Endpoint → String
  | key => "key"
  | execute => "execute"
  | readonly => "readonly"
  | unchecked label => label

def ofLabel (label : String) : Endpoint := (named.lookup label).getD (unchecked label)

def settled (e : Endpoint) : Endpoint := ofLabel e.label

def isChecked : Endpoint → Bool
  | unchecked _ => false
  | _ => true

end Endpoint

inductive Kind
  | string
  | id
  | ed25519
  | secp256k1
  | u64
  | bool
  /-- a label that was never checked -/
  | unchecked (label : String)
  deriving DecidableEq, Repr

namespace Kind

def named : List (String × Kind) :=
  [("string", string), ("id", id), ("ed25519", ed25519), ("secp256k1", secp256k1), ("u64", u64),
    ("bool", bool)]

def label : Kind → String
  | string => "string"
  | id => "id"
  | ed25519 => "ed25519"
  | secp256k1 => "secp256k1"
  | u64 => "u64"
  | bool => "bool"
  | unchecked label => label

def ofLabel (label : String) : Kind := (named.lookup label).getD (unchecked label)

def settled (k : Kind) : Kind := ofLabel k.label

def isChecked : Kind → Bool
  | unchecked _ => false
  | _ => true

end Kind

structure Parameter where
  kind : Kind
  value : Bytes := []
  deriving DecidableEq, Repr

/-- The largest budget, and the budget of calls that are never charged. -/
def maxBudget : Int := 2 ^ (64 : Nat) - 1

def programCreate : Text := "program_create"

structure Step where
  endpoint : Endpoint
  method : Text := ""
  maxUnits : Int := 0
  params : List Parameter := []
  callerKey : Option Text := none
  deriving DecidableEq, Repr

namespace Parameter

def isChecked (p : Parameter) : Bool := p.kind.isChecked

def toDatum (p : Parameter) : Datum :=
  .map [(.text "type", .text p.kind.label), (.text "value", .text (Base64.encode p.value))]

def wire (p : Parameter) : String := Json.render .wire p.toDatum

def checkValue : Datum → Schema.Checked Bytes
  | .text s =>
    if s.toList.all (fun c => c.toNat < 0x80) then
      match Base64.decode s with
      | .ok bytes => .ok bytes
      | .error fault => Schema.refuse (.refused ("value is not valid base64: " ++ fault.message))
    else Schema.refuse (.refused "string argument should contain only ASCII characters")
  | .unpaired _ => Schema.refuse (.refused "string argument should contain only ASCII characters")
  | d => Schema.bytes d

def check : Datum → Schema.Checked Parameter :=
  Schema.record "Parameter" fun entries =>
    (Schema.both (Schema.field entries ["type"] none (Schema.oneOf Kind.named))
      (Schema.field entries ["value"] (some []) checkValue)).map fun (kind, value) => ⟨kind, value⟩

end Parameter

namespace Step

def isChecked (s : Step) : Bool :=
  s.endpoint.isChecked && s.params.all Parameter.isChecked && 0 ≤ s.maxUnits &&
    s.maxUnits ≤ maxBudget

def toDatum (s : Step) : Datum :=
  .map ([(.text "endpoint", .text s.endpoint.label), (.text "method", .ofText s.method),
    (.text "maxUnits", .int s.maxUnits), (.text "params", .list (s.params.map Parameter.toDatum))] ++
    (s.callerKey.map fun key => (Datum.text "callerKey", Datum.ofText key)).toList)

def texts (s : Step) : List Text := s.method :: s.callerKey.toList

def wire (s : Step) : Except Text.Tear String := Json.wire s.texts s.toDatum

/-- A step from data. The budget and the caller key each go by two names, of which the first
wins. -/
def check : Datum → Schema.Checked Step :=
  Schema.record "Step" fun entries =>
    (Schema.both (Schema.field entries ["endpoint"] none (Schema.oneOf Endpoint.named))
      (Schema.both (Schema.field entries ["method"] (some (.whole "")) Schema.text)
        (Schema.both
          (Schema.field entries ["maxUnits", "max_units"] (some 0)
            (Schema.wholeWithin 0 maxBudget))
          (Schema.both
            (Schema.field entries ["params"] (some []) (Schema.list Parameter.check))
            (Schema.field entries ["callerKey", "caller_key"] (some none)
              (Schema.optional Schema.text)))))).map
      fun (endpoint, method, maxUnits, params, callerKey) =>
        ⟨endpoint, method, maxUnits, params, callerKey⟩

def createKey (name : String) : Step :=
  { endpoint := .key, method := "key_create", params := [⟨.ed25519, Utf8.encode name⟩] }

def createProgram (path : String) : Step :=
  { endpoint := .execute, method := programCreate, params := [⟨.string, Utf8.encode path⟩] }

end Step

end Rehearsal
