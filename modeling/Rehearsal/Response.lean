import Rehearsal.Step

namespace Rehearsal

structure StepResult where
  id : Option Text := none
  msg : Option Text := none
  timestamp : Int := 0
  response : Option Bytes := none
  balance : Option Int := none
  deriving DecidableEq, Repr

structure CallResult where
  callId : Bytes
  results : List (Option Bytes) := []
  balance : Int := 0
  deriving DecidableEq, Repr

structure Response where
  id : Int
  endpoint : Option Endpoint := none
  method : Text := ""
  error : Option Text := none
  errorKind : Option Text := none
  result : StepResult := {}
  deriving DecidableEq, Repr

def optionalEntry {α : Type} (key : String) (toDatum : α → Datum) (value : Option α) :
    Datum × Datum :=
  (.text key, (value.map toDatum).getD .null)

def dropAbsent (entries : List (Datum × Datum)) : List (Datum × Datum) :=
  entries.filter fun entry => match entry.2 with
    | .null => false
    | _ => true

namespace StepResult

def entries (r : StepResult) : List (Datum × Datum) :=
  [optionalEntry "id" .ofText r.id, optionalEntry "msg" .ofText r.msg,
    (.text "timestamp", .int r.timestamp),
    optionalEntry "response" (fun b => .text (Base64.encode b)) r.response,
    optionalEntry "balance" .int r.balance]

def texts (r : StepResult) : List Text := r.id.toList ++ r.msg.toList

def fullWire (r : StepResult) : Except Text.Tear String := Json.wire r.texts (.map r.entries)

def checkPayload : Datum → Schema.Checked (Option Bytes) := Schema.optional Parameter.checkValue

def check : Datum → Schema.Checked StepResult :=
  Schema.record "StepResult" fun entries =>
    (Schema.both (Schema.field entries ["id"] (some none) (Schema.optional Schema.text))
      (Schema.both (Schema.field entries ["msg"] (some none) (Schema.optional Schema.text))
        (Schema.both (Schema.field entries ["timestamp"] (some 0) Schema.whole)
          (Schema.both (Schema.field entries ["response"] (some none) checkPayload)
            (Schema.field entries ["balance"] (some none) (Schema.optional Schema.whole)))))).map
      fun (id, msg, timestamp, response, balance) => ⟨id, msg, timestamp, response, balance⟩

end StepResult

namespace CallResult

def check : Datum → Schema.Checked CallResult :=
  Schema.record "CallResult" fun entries =>
    (Schema.both (Schema.field entries ["call_id"] none Schema.bytes)
      (Schema.both
        (Schema.field entries ["results"] (some [])
          (Schema.list (Schema.optional Schema.bytes)))
        (Schema.field entries ["balance"] (some 0) Schema.whole))).map
      fun (callId, results, balance) => ⟨callId, results, balance⟩

end CallResult

namespace Response

def isOk (r : Response) : Bool := r.error.isNone

def entries (r : Response) (result : List (Datum × Datum)) : List (Datum × Datum) :=
  [(.text "id", .int r.id), optionalEntry "endpoint" (fun e => .text e.label) r.endpoint,
    (.text "method", .ofText r.method), optionalEntry "error" .ofText r.error,
    optionalEntry "error_kind" .ofText r.errorKind, (.text "result", .map result)]

def toDatum (r : Response) : Datum := .map (dropAbsent (r.entries (dropAbsent r.result.entries)))

def texts (r : Response) : List Text :=
  r.method :: r.error.toList ++ r.errorKind.toList ++ r.result.texts

def wire (r : Response) : Except Text.Tear String := Json.wire r.texts r.toDatum

def fullWire (r : Response) : Except Text.Tear String :=
  Json.wire r.texts (.map (r.entries r.result.entries))

def check : Datum → Schema.Checked Response :=
  Schema.record "Response" fun entries =>
    (Schema.both (Schema.field entries ["id"] none Schema.whole)
      (Schema.both
        (Schema.field entries ["endpoint"] (some none)
          (Schema.optional (Schema.oneOf Endpoint.named)))
        (Schema.both (Schema.field entries ["method"] (some (.whole "")) Schema.text)
          (Schema.both (Schema.field entries ["error"] (some none) (Schema.optional Schema.text))
            (Schema.both
              (Schema.field entries ["error_kind"] (some none) (Schema.optional Schema.text))
              (Schema.field entries ["result"] (some {}) StepResult.check)))))).map
      fun (id, endpoint, method, error, errorKind, result) =>
        ⟨id, endpoint, method, error, errorKind, result⟩

def stamped (r : Response) (seconds : Int) : Response :=
  { r with result := { r.result with timestamp := seconds } }

end Response

end Rehearsal
