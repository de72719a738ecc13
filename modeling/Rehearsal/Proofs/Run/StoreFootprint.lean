import Rehearsal.Proofs.Run.CreatedPrograms
import Rehearsal.Proofs.Run.KeyIdentity
import Rehearsal.Proofs.Run.PlanSequence
import Rehearsal.Proofs.Store.Gains

namespace Rehearsal

variable {σ : Type}

def Step.Creates (step : Step) : Prop := step.endpoint = .key ∨ step.CreatesProgram

def Step.mark (step : Step) : UInt8 := if step.endpoint = .key then 0 else 1

namespace Run

variable {c : Collaborators σ} {w : Surroundings} {step : Step} {s : Session σ} {params : List Parameter}

/-- What a step that creates adds to the store when it succeeds, with its parameters as resolved and its
response: nothing for the name of a key that there is, the seed drawn for any other name, or what was read
for a program under the identifier that is reported. -/
inductive Adds (w : Surroundings) (step : Step) (params : List Parameter) (s : State σ) (r : Response) :
    List (Bytes × Bytes) → Prop
  | found (name : String) (names : step.NamesKey name) (seed : Block)
      (bound : s.store.get? (Store.seedKey name) = some seed.bytes) : Adds w step params s r []
  | key (name : String) (names : step.NamesKey name) (free : s.store.get? (Store.seedKey name) = none)
      (seed : Block) (drawn : seed = s.draws.next.1) :
      Adds w step params s r [(Store.seedKey name, seed.bytes)]
  | program (creates : step.CreatesProgram) (path : String) (text : Dispatch.firstText params = .ok path)
      (code : Bytes) (read : w.files.read path = .ok code) (nonempty : code ≠ []) (id : Block)
      (reported : r.result.id = some (.whole id.text)) (free : s.store.get? (Store.programKey id.bytes) = none) :
      Adds w step params s r [(Store.programKey id.bytes, code)]

theorem Adds.length_le_one {state : State σ} {r : Response} {added : List (Bytes × Bytes)}
    (adds : Adds w step params state r added) : added.length ≤ 1 := by
  cases adds with
  | found => exact Nat.zero_le 1
  | key => exact Nat.le_refl 1
  | program => exact Nat.le_refl 1

structure Footprint (w : Surroundings) (step : Step) (params : List Parameter) (s : State σ) (r : Response)
    (after : Store) : Prop where
  failed : r.isOk = false → after = s.store
  succeeded : r.isOk = true →
    ∃ added, Adds w step params s r added ∧ Store.Gains step.mark s.store after added

theorem Footprint.gains {state : State σ} {r : Response} {after : Store}
    (footprint : Footprint w step params state r after) :
    ∃ added, Store.Gains step.mark state.store after added := by
  cases ok : r.isOk with
  | false =>
    rw [footprint.failed ok]
    exact ⟨[], .nothing _ _⟩
  | true =>
    obtain ⟨added, _, gains⟩ := footprint.succeeded ok
    exact ⟨added, gains⟩

theorem footprint_failed {f : Failure} {m : Machine σ} {r : Response}
    (answered : (carryOut c w step params s).1 = .ok r)
    (failed : performed c w step params s = (.error f, m)) (same : m.store = s.machine.store) :
    Footprint w step params s.machine.toState r (carryOut c w step params s).2.store := by
  constructor
  · intro _
    rw [carryOut_machine, failed, same]
  · intro ok
    obtain ⟨success, done, _⟩ := (carryOut_isOk answered).mp ok
    rw [failed] at done
    cases done

theorem footprint_succeeded {success : Success} {m : Machine σ} {added : List (Bytes × Bytes)}
    {r : Response} (answered : (carryOut c w step params s).1 = .ok r)
    (done : performed c w step params s = (.ok success, m))
    (adds : r.result = { success.fill {} with timestamp := w.second } →
      Adds w step params s.machine.toState r added)
    (gains : Store.Gains step.mark s.machine.store m.store added) :
    Footprint w step params s.machine.toState r (carryOut c w step params s).2.store := by
  have filled := answered.symm.trans (carryOut_succeeded (congrArg Prod.fst done))
  cases filled
  constructor
  · intro failed
    cases failed
  · intro _
    rw [carryOut_machine, done]
    exact ⟨added, adds rfl, gains⟩

theorem carryOut_key {r : Response} (create : c.createKey = Key.create) (endpoint : step.endpoint = .key)
    (prepared : prepare c w step s = .ok params) (answered : (carryOut c w step params s).1 = .ok r) :
    Footprint w step params s.machine.toState r (carryOut c w step params s).2.store := by
  have performed := performed_key c w params s endpoint
  have mark : step.mark = 0 := if_pos endpoint
  obtain ⟨p, rest, others, given, rfl⟩ := prepare_keyParams prepared (by rw [endpoint]; rfl)
  cases text : Dispatch.firstText (p :: others) with
  | error f =>
    have failed : Dispatch.createKey c (p :: others) s.machine.toState = (.error f, s.machine.toState) := by
      simp only [Dispatch.createKey, text]
    rw [failed] at performed
    exact footprint_failed answered performed rfl
  | ok name =>
    have names : step.NamesKey name := ⟨endpoint, p, rest, given, Dispatch.firstText_ok.mp text⟩
    rcases Key.create_cases name s.machine.toState with free | ⟨seed, bound⟩ | corrupt
    · rw [Dispatch.createKey_absent create text free] at performed
      refine footprint_succeeded answered performed (fun _ => .key name names free _ rfl) ?_
      rw [mark]
      exact Store.Gains.one _ free
    · rw [Dispatch.createKey_seed create text bound] at performed
      exact footprint_succeeded answered performed (fun _ => .found name names seed bound) (.nothing _ _)
    · rw [Dispatch.createKey_corrupt create text corrupt] at performed
      exact footprint_failed answered performed rfl

theorem carryOut_program {r : Response} (create : c.createProgram = Program.create)
    (creates : step.CreatesProgram) (answered : (carryOut c w step params s).1 = .ok r) :
    Footprint w step params s.machine.toState r (carryOut c w step params s).2.store := by
  have performed := performed_program c w params s creates
  have mark : step.mark = 1 := if_neg (by rw [creates.endpoint]; decide)
  rcases Dispatch.createProgram_cases create w.files params s.machine.toState with
    ⟨f, failed⟩ | ⟨path, code, id, draws, text, read, free, made⟩
  · rw [failed] at performed
    exact footprint_failed answered performed rfl
  · rw [made] at performed
    have gains : Store.Gains step.mark s.machine.store
        (s.machine.store.insert (Store.programKey id.bytes) code) [(Store.programKey id.bytes, code)] := by
      rw [mark]
      exact Store.Gains.one code free
    refine footprint_succeeded answered performed ?_ gains
    obtain ⟨fromFile, nonempty⟩ := Program.readModule_ok read
    intro filled
    exact .program creates path text code fromFile nonempty id (by rw [filled]; rfl) free

theorem carryOut_footprint {invoke : Call → State σ → Except Failure CallResult × State σ} {r : Response}
    (creates : step.Creates) (prepared : prepare (collaborators invoke) w step s = .ok params)
    (answered : (carryOut (collaborators invoke) w step params s).1 = .ok r) :
    Footprint w step params s.machine.toState r
      (carryOut (collaborators invoke) w step params s).2.store := by
  rcases creates with endpoint | creates
  · exact carryOut_key rfl endpoint prepared answered
  · exact carryOut_program rfl creates answered

theorem creating_answered (invoke : Call → State σ → Except Failure CallResult × State σ)
    (creates : step.Creates) (params : List Parameter) (s : Session σ) :
    ∃ r, (carryOut (collaborators invoke) w step params s).1 = .ok r := by
  cases answered : (carryOut (collaborators invoke) w step params s).1 with
  | ok r => exact ⟨r, rfl⟩
  | error g =>
    obtain ⟨f, failed, unrecordable⟩ := carryOut_lost answered
    have recordable : f.IsRecordable := by
      rcases creates with endpoint | creates
      · rw [performed_key _ w params s endpoint] at failed
        exact Dispatch.createKey_error_isRecordable (fun _ _ _ => Key.create_error_isRecordable) failed
      · rw [performed_program _ w params s creates] at failed
        exact Dispatch.createProgram_error_isRecordable (fun _ _ _ _ => Program.create_error_isRecordable)
          failed
    obtain ⟨text, kind, recorded⟩ := recordable
    exact absurd recorded (unrecordable text (some kind))

/-- In any session at all, a step that creates is stopped, or it is carried out; then the ledger may
refuse to record what it produced. -/
theorem creating_cases (invoke : Call → State σ → Except Failure CallResult × State σ)
    (w : Surroundings) (s : Session σ) (creates : step.Creates) :
    (∃ f, run (collaborators invoke) w step s = stopped s f) ∨
      ∃ params r, prepare (collaborators invoke) w step s = .ok params ∧
        Footprint w step params s.machine.toState r
          (run (collaborators invoke) w step s).session.machine.store ∧
        ((run (collaborators invoke) w step s).result = .ok r ∨
          ∃ refusal, (run (collaborators invoke) w step s).result = .error (.fault (.ledger refusal))) := by
  cases checked : step.endpoint.isChecked with
  | false => exact .inl ⟨_, run_unchecked checked⟩
  | true =>
    cases prepared : prepare (collaborators invoke) w step s with
    | error f => exact .inl ⟨f, run_unprepared checked prepared⟩
    | ok params =>
      obtain ⟨r, answered⟩ := creating_answered (w := w) invoke creates params s
      have footprint := carryOut_footprint creates prepared answered
      refine .inr ⟨params, r, rfl, ?_⟩
      cases recorded : record s.ledger r with
      | error refusal =>
        rw [run_refused checked prepared answered recorded]
        exact ⟨footprint, .inr ⟨refusal, rfl⟩⟩
      | ok l =>
        rw [run_recorded checked prepared answered recorded]
        exact ⟨footprint, .inl rfl⟩

theorem run_footprint {invoke : Call → State σ → Except Failure CallResult × State σ} {r : Response}
    (creates : step.Creates) (returned : (run (collaborators invoke) w step s).result = .ok r) :
    ∃ params, prepare (collaborators invoke) w step s = .ok params ∧
      Footprint w step params s.machine.toState r
        (run (collaborators invoke) w step s).session.machine.store := by
  rcases creating_cases invoke w s creates with
    ⟨f, stop⟩ | ⟨params, x, prepared, footprint, ended | ⟨_, ended⟩⟩
  · rw [stop, stopped_result] at returned
    cases returned
  · cases ended.symm.trans returned
    exact ⟨params, prepared, footprint⟩
  · cases ended.symm.trans returned

theorem run_gains (invoke : Call → State σ → Except Failure CallResult × State σ) (w : Surroundings)
    (s : Session σ) (creates : step.Creates) :
    ∃ added, Store.Gains step.mark s.machine.store
      (run (collaborators invoke) w step s).session.machine.store added := by
  rcases creating_cases invoke w s creates with ⟨f, stop⟩ | ⟨params, r, _, footprint, _⟩
  · rw [stop, stopped_session]
    exact ⟨[], .nothing _ _⟩
  · exact footprint.gains

theorem creating_stopped {invoke : Call → State σ → Except Failure CallResult × State σ} {f : Failure}
    (creates : step.Creates) (opened : s.ledger.IsOpen)
    (failed : (run (collaborators invoke) w step s).result = .error f) :
    run (collaborators invoke) w step s = stopped s f := by
  rcases run_error opened failed with stop | ⟨params, _, lost⟩
  · exact stop
  · obtain ⟨r, answered⟩ := creating_answered (w := w) invoke creates params s
    cases lost.symm.trans answered

def oneProgram : Machine Unit :=
  { store := ⟨[(Store.programKey [7], [1])]⟩, draws := { supplied := [.ofNat 7] }, memory := () }

end Run

end Rehearsal
