import Rehearsal.Event
import Rehearsal.Json.Writer

namespace Rehearsal

inductive Hook
  | start
  | complete
  | failed
  | rejected
  deriving DecidableEq, Repr

namespace Hook

def ofName? : String → Option Hook
  | "step_started" => some start
  | "step_completed" => some complete
  | "step_failed" => some failed
  | "step_rejected" => some rejected
  | _ => none

def word : Hook → String
  | start => "step_start"
  | complete => "step_complete"
  | failed => "step_failed"
  | rejected => "step_rejected"

end Hook

namespace Audit

inductive Level
  | info
  | warning
  | error
  deriving DecidableEq, Repr

structure Line where
  level : Level
  text : String
  deriving DecidableEq, Repr

def level : Hook → Level
  | .start | .complete => .info
  | .failed => .warning
  | .rejected => .error

def maxErrorText : Nat := 200

def value (data : List (Datum × Datum)) (key : String) (default : Datum) : Datum × Datum :=
  (.text key, (Datum.lookup key data).getD default)

def errorText (data : List (Datum × Datum)) : Datum × Datum :=
  (.text "error", .ofText (((Datum.lookup "error" data).getD (.text "")).shown.take maxErrorText))

def fields (hook : Hook) (data : List (Datum × Datum)) : List (Datum × Datum) :=
  value data "step_index" (.int 0) ::
    match hook with
    | .start =>
      [value data "endpoint" (.text ""), value data "method" (.text ""),
        value data "max_units" (.int 0), value data "param_count" (.int 0)]
    | .complete =>
      [value data "endpoint" (.text ""), value data "method" (.text ""),
        value data "tx_id" .null]
    | .failed | .rejected => [value data "error_kind" (.text ""), errorText data]

/-- The line that a hook writes at a time given in microseconds. -/
def line (clock : Int) (hook : Hook) (data : List (Datum × Datum)) : Line :=
  ⟨level hook, Json.render .audit (.map
    ((.text "event", .text hook.word) :: (.text "ts", .text (Moment.stamp clock)) ::
      fields hook data))⟩

def lineOf? (clock : Int) (n : Notice) : Option Line :=
  (Hook.ofName? n.name).map fun hook => line clock hook n.data

end Audit

inductive Observer
  /-- keeps a copy of every notice -/
  | recorder
  /-- fails at every notice -/
  | failing
  /-- writes the audit log -/
  | logger
  /-- does nothing -/
  | silent
  deriving DecidableEq, Repr

structure Journal where
  notices : List Notice := []
  audit : List Audit.Line := []

namespace Journal

def add (clock : Int) (n : Notice) (j : Journal) : Observer → Journal
  | .recorder => { j with notices := j.notices ++ [n] }
  | .logger => { j with audit := j.audit ++ (Audit.lineOf? clock n).toList }
  | .failing | .silent => j

def fire (observers : List Observer) (clock : Int) (j : Journal) (n : Notice) : Journal :=
  observers.foldl (add clock n) j

def ofEvents (observers : List Observer) (clock : Int) (events : List Event) : Journal :=
  events.foldl (fun j e => fire observers clock j e.notice) {}

def gathered (observers : List Observer) (clock : Int) (n : Notice) : Journal :=
  ⟨List.replicate (observers.count .recorder) n,
    (List.replicate (observers.count .logger) (Audit.lineOf? clock n).toList).flatten⟩

theorem fire_eq (observers : List Observer) (clock : Int) (j : Journal) (n : Notice) :
    fire observers clock j n =
      ⟨j.notices ++ (gathered observers clock n).notices,
        j.audit ++ (gathered observers clock n).audit⟩ := by
  induction observers generalizing j with
  | nil => simp [fire, gathered]
  | cons observer rest ih =>
    have later := ih (add clock n j observer)
    simp only [fire, List.foldl_cons] at later ⊢
    rw [later]
    cases observer <;> simp [add, gathered, List.replicate_succ]

theorem ofEvents_single (observers : List Observer) (clock : Int) (e : Event) :
    ofEvents observers clock [e] = gathered observers clock e.notice := by
  simp only [ofEvents, List.foldl_cons, List.foldl_nil, fire_eq, List.nil_append]

end Journal

end Rehearsal
