import Rehearsal.Datum

namespace Rehearsal

inductive Event
  | rejected (index : Int) (error : Text) (kind : String)
  | started (index : Int) (endpoint : String) (method : Text) (maxUnits : Int) (paramCount : Nat)
  | completed (index : Int) (endpoint : String) (method : Text) (id : Option Text)
  | failed (index : Int) (error : Text) (kind : Option Text)
  deriving DecidableEq, Repr

/-- An event as callbacks get it. They may change the data, and get notices of other names. -/
structure Notice where
  name : String
  data : List (Datum × Datum)

namespace Event

def entry (key : String) (value : Datum) : Datum × Datum := (.text key, value)

def notice : Event → Notice
  | rejected index error kind =>
    ⟨"step_rejected", [entry "step_index" (.int index), entry "error" (.ofText error),
      entry "error_kind" (.text kind)]⟩
  | started index endpoint method maxUnits paramCount =>
    ⟨"step_started", [entry "step_index" (.int index), entry "endpoint" (.text endpoint),
      entry "method" (.ofText method), entry "max_units" (.int maxUnits),
      entry "param_count" (.int paramCount)]⟩
  | completed index endpoint method id =>
    ⟨"step_completed", [entry "step_index" (.int index), entry "endpoint" (.text endpoint),
      entry "method" (.ofText method), entry "tx_id" ((id.map Datum.ofText).getD .null)]⟩
  | failed index error kind =>
    ⟨"step_failed", [entry "step_index" (.int index), entry "error" (.ofText error),
      entry "error_kind" ((kind.map Datum.ofText).getD .null)]⟩

end Event

end Rehearsal
