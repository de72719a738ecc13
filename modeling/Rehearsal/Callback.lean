import Rehearsal.Event
import Rehearsal.Failure

namespace Rehearsal

/-- Something that a run calls with each notice, with a memory of its own. It takes the time and the
notice, may fail, and leaves the data to the next one as it likes. -/
structure Callback where
  Memory : Type
  hear : Int → Notice → Memory → Except Failure Unit × List (Datum × Datum) × Memory
  memory : Memory

/-- A failure that is logged and dropped; only one that has a wording can be. -/
def Failure.dropped (f : Failure) : Except Failure Unit := f.handled (f.message.map fun _ => ())

namespace Callback

def fire (clock : Int) (n : Notice) : List Callback → Except Failure Unit × List Callback
  | [] => (.ok (), [])
  | cb :: rest =>
    let (result, data, memory) := cb.hear clock n cb.memory
    match result.tryCatch Failure.dropped with
    | .error f => (.error f, { cb with memory } :: rest)
    | .ok () =>
      let (result, rest) := fire clock { n with data } rest
      (result, { cb with memory } :: rest)

end Callback

end Rehearsal
