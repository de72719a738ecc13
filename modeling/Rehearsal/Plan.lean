import Rehearsal.Reference
import Rehearsal.Step

namespace Rehearsal

structure Plan where
  callerKey : Text := ""
  steps : List Step := []
  deriving DecidableEq, Repr

namespace Plan

/-- A step as a plan takes it in: without a caller key it gets the plan's, if that is not empty. -/
def adopt (p : Plan) (s : Step) : Step :=
  if s.callerKey.isNone && !p.callerKey.isEmpty then { s with callerKey := some p.callerKey } else s

def addStep (p : Plan) (s : Step) : Reference × Plan :=
  (⟨p.steps.length⟩, { p with steps := p.steps ++ [p.adopt s] })

def toDatum (p : Plan) : Datum :=
  .map [(.text "callerKey", .ofText p.callerKey), (.text "steps", .list (p.steps.map Step.toDatum))]

def texts (p : Plan) : List Text := p.callerKey :: p.steps.flatMap Step.texts

def wire (p : Plan) : Except Text.Tear String := Json.wire p.texts p.toDatum

def check : Datum → Schema.Checked Plan :=
  Schema.record "Plan" fun entries =>
    (Schema.both (Schema.field entries ["callerKey", "caller_key"] (some (.whole "")) Schema.text)
      (Schema.field entries ["steps"] (some []) (Schema.list Step.check))).map
      fun (callerKey, steps) => ⟨callerKey, steps⟩

end Plan

namespace Parameter

def littleEndian (n : Nat) : Bytes := (List.range 8).map fun i => UInt8.ofNat (n / 256 ^ i)

inductive NumberFault
  | notInteger
  | outOfRange
  deriving DecidableEq, Repr

def NumberFault.message : NumberFault → String
  | .notInteger => "required argument is not an integer"
  | .outOfRange => "argument out of range"

def ofNumber : Datum → Except NumberFault Parameter
  | .int i => if 0 ≤ i ∧ i ≤ maxBudget then .ok ⟨.u64, littleEndian i.toNat⟩ else .error .outOfRange
  | .bool b => .ok ⟨.u64, littleEndian b.toNat⟩
  | _ => .error .notInteger

def ofTruth (b : Bool) : Parameter := ⟨.bool, [if b then 1 else 0]⟩

def ofText (s : String) : Parameter := ⟨.string, Utf8.encode s⟩

def ofIdText (s : String) : Parameter := ⟨.id, Utf8.encode s⟩

def ofIdBytes (b : Bytes) : Parameter := ⟨.id, b⟩

def ofReference (r : Reference) : Parameter := ofIdText r.text

def ofKeyName (name : String) : Parameter := ⟨.ed25519, Utf8.encode name⟩

end Parameter

end Rehearsal
