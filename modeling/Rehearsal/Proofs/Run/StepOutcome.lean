import Rehearsal.Proofs.Outcome
import Rehearsal.Proofs.Run.LedgerEntries
import Rehearsal.Proofs.Run.Told

namespace Rehearsal

def Success.id? : Success → Option Bytes
  | .program id | .call id _ _ => some id
  | .key _ | .reading _ => none

theorem Success.fill_id (success : Success) (r : StepResult) (empty : r.id = none) :
    (success.fill r).id = success.id?.map fun id => .whole (Hex.encode id) := by
  cases success <;> simp [fill, id?, empty]

namespace Dispatch

variable {σ : Type} {c : Collaborators σ}

theorem createKey_success {params : List Parameter} {s : State σ} {success : Success}
    (done : (createKey c params s).1 = .ok success) : ∃ msg, success = .key msg := by
  unfold createKey at done
  split at done
  · cases done
  · obtain ⟨publicKey, _, addressed⟩ := Outcome.bind_ok.mp done
    obtain ⟨address, _, message⟩ := Outcome.map_ok.mp addressed
    exact ⟨keyMessage address, message.symm⟩

theorem createProgram_success {files : Files} {params : List Parameter} {s : State σ}
    {success : Success} (done : (createProgram c files params s).1 = .ok success) :
    ∃ id : Block, success = .program id.bytes := by
  unfold createProgram at done
  split at done
  · cases done
  · obtain ⟨id, _, checked⟩ := Outcome.bind_ok.mp done
    split at checked
    · rename_i length
      cases checked
      exact ⟨⟨id, length⟩, rfl⟩
    · cases checked

theorem charged_success {method : Text} {r : CallResult} {success : Success}
    (done : charged method r = .ok success) :
    ∃ payload, ∃ id : Block, r.payload = .ok payload ∧ r.callId = id.bytes ∧
      success = .call id.bytes payload r.balance := by
  obtain ⟨payload, single, checked⟩ := Outcome.bind_ok.mp done
  split at checked
  · rename_i length
    cases checked
    exact ⟨payload, ⟨r.callId, length⟩, single, rfl, rfl⟩
  · cases checked

theorem perform_success {files : Files} {endpoint : Endpoint} {maxUnits : Int} {method : Text}
    {params : List Parameter} {m : Machine σ} {success : Success}
    (done : (perform c files endpoint maxUnits method params m).1 = .ok success) :
    success.id? = none ∨ endpoint.settled = .execute ∧ ∃ id : Block, success.id? = some id.bytes := by
  unfold perform at done
  cases settled : endpoint.settled <;> simp only [settled] at done
  case key =>
    obtain ⟨msg, rfl⟩ := createKey_success done
    exact .inl rfl
  case execute =>
    refine .inr ⟨rfl, ?_⟩
    split at done
    · obtain ⟨id, rfl⟩ := createProgram_success done
      exact ⟨id, rfl⟩
    · obtain ⟨r, _, paid⟩ := Outcome.bind_ok.mp done
      obtain ⟨payload, id, _, _, rfl⟩ := charged_success paid
      exact ⟨id, rfl⟩
  case readonly =>
    obtain ⟨r, _, paid⟩ := Outcome.bind_ok.mp done
    obtain ⟨payload, _, reading⟩ := Outcome.map_ok.mp paid
    subst reading
    exact .inl rfl
  case unchecked => cases done

end Dispatch

namespace Ledger

/-- A ledger whose entries all belong to steps before the one that runs next. -/
def IsOpen (l : Ledger) : Prop := ∀ i b, l.lookup i = some b → 0 ≤ i ∧ i < l.step

/-- The ledger after a step whose response it records: the counter has moved on by one, the index that
it left holds what the response reports, and nothing else has changed. -/
structure Next (l l' : Ledger) (r : Response) : Prop where
  step : l'.step = l.step + 1
  here : (l'.lookup l.step).map (fun b => .whole b.text) = Run.producedId r
  elsewhere : ∀ i : Int, i ≠ l.step → l'.lookup i = l.lookup i

structure After (l l' : Ledger) (answer : Except Failure Response) : Prop where
  recorded : ∀ r, answer = .ok r → l.Next l' r
  lost : ∀ f, answer = .error f → l' = l

theorem isOpen_fresh : IsOpen {} := by
  intro i b found
  cases found

theorem IsOpen.lookup_of_le {l : Ledger} (opened : l.IsOpen) {i : Int} (le : l.step ≤ i) :
    l.lookup i = none := by
  cases found : l.lookup i with
  | none => rfl
  | some b =>
    have bound := opened i b found
    omega

theorem Next.isOpen {l l' : Ledger} {r : Response} (next : l.Next l' r) (opened : l.IsOpen) :
    l'.IsOpen := by
  intro i b found
  have moved := next.step
  by_cases same : i = l.step
  · omega
  · rw [next.elsewhere i same] at found
    have bound := opened i b found
    omega

theorem Next.lookup_kept {l l' : Ledger} {r : Response} (next : l.Next l' r) (opened : l.IsOpen)
    {i : Int} {b : Block} (found : l.lookup i = some b) : l'.lookup i = some b := by
  have bound := opened i b found
  rw [next.elsewhere i (by omega), found]

section

variable {l l' : Ledger} {answer : Except Failure Response}

theorem After.isOpen (after : l.After l' answer) (opened : l.IsOpen) : l'.IsOpen := by
  cases answered : answer with
  | ok r => exact (after.recorded r answered).isOpen opened
  | error f =>
    rw [after.lost f answered]
    exact opened

theorem After.lookup_kept (after : l.After l' answer) (opened : l.IsOpen) {i : Int} {b : Block}
    (found : l.lookup i = some b) : l'.lookup i = some b := by
  cases answered : answer with
  | ok r => exact (after.recorded r answered).lookup_kept opened found
  | error f => rw [after.lost f answered, found]

end

end Ledger

namespace Failure

structure Recordable (f : Failure) (text : Text) (kind : Option Text) : Prop where
  handled : ∀ code, f.rank ≠ .exit code
  text : f.message = .ok text
  kind : f.kind = .ok kind

theorem handled_failed_ok {f : Failure} {r r' : Response} :
    f.handled (r.failed f) = .ok r' ↔ ∃ text kind, f.Recordable text kind ∧ r' = r.marked text kind := by
  unfold handled
  constructor
  · intro recorded
    split at recorded
    · cases recorded
    · rename_i other
      obtain ⟨text, told, rest⟩ := Outcome.bind_ok.mp (Outcome.mapError_ok.mp recorded)
      obtain ⟨kind, found, same⟩ := Outcome.bind_ok.mp rest
      cases same
      exact ⟨text, kind, ⟨other, told, found⟩, rfl⟩
  · rintro ⟨text, kind, ⟨other, told, found⟩, rfl⟩
    split
    · rename_i code rank
      exact absurd rank (other code)
    · exact Outcome.mapError_ok.mpr
        (Outcome.bind_ok.mpr ⟨text, told, Outcome.bind_ok.mpr ⟨kind, found, rfl⟩⟩)

/-- What comes instead of a record is the failure itself, which nobody handles, or a fault. -/
theorem handled_error {α : Type} {f g : Failure} {done : Except Fault α}
    (lost : f.handled done = .error g) :
    g = f ∧ (∃ code, f.rank = .exit code) ∨ ∃ fault, done = .error fault ∧ g = .fault fault := by
  unfold handled at lost
  split at lost
  · rename_i code rank
    cases lost
    exact .inl ⟨rfl, code, rank⟩
  · cases done with
    | ok a => cases lost
    | error fault =>
      cases lost
      exact .inr ⟨fault, rfl, rfl⟩

theorem handled_unknown {α : Type} {f g : Failure} {done : Except Fault α}
    (lost : f.handled done = .error g) : g.isKnown = false := by
  rcases handled_error lost with ⟨rfl, code, rank⟩ | ⟨fault, _, rfl⟩
  · rw [isKnown, rank]
    rfl
  · rfl

end Failure

namespace Run

variable {σ : Type} {c : Collaborators σ} {w : Surroundings} {step : Step} {s : Session σ}

theorem producedId_eq_some {r : Response} {id : Text} :
    producedId r = some id ↔ r.isOk = true ∧ r.result.id = some id := by
  unfold producedId
  split <;> simp_all

/-- What carrying out a step gives before it is written to a response. -/
def performed (c : Collaborators σ) (w : Surroundings) (step : Step) (params : List Parameter)
    (s : Session σ) : Except Failure Success × Machine σ :=
  Dispatch.perform c w.files step.endpoint step.maxUnits step.method params s.machine

def blankResponse (w : Surroundings) (step : Step) (s : Session σ) : Response :=
  { id := s.ledger.step, endpoint := some step.endpoint, method := step.method,
    result := { timestamp := w.second } }

section

variable {params : List Parameter}

theorem carryOut_machine : (carryOut c w step params s).2 = (performed c w step params s).2 := by
  unfold carryOut Dispatch.into performed
  cases done : Dispatch.perform c w.files step.endpoint step.maxUnits step.method params s.machine with
  | mk result m => cases result <;> rfl

theorem carryOut_succeeded {success : Success} (done : (performed c w step params s).1 = .ok success) :
    (carryOut c w step params s).1 =
      .ok { blankResponse w step s with result := { success.fill {} with timestamp := w.second } } := by
  unfold performed at done
  unfold carryOut Dispatch.into
  cases both : Dispatch.perform c w.files step.endpoint step.maxUnits step.method params s.machine with
  | mk result m =>
    rw [both] at done
    cases done
    rfl

theorem carryOut_failed {f : Failure} (failed : (performed c w step params s).1 = .error f) :
    (carryOut c w step params s).1 = f.handled ((blankResponse w step s).failed f) := by
  unfold performed at failed
  unfold carryOut Dispatch.into
  cases both : Dispatch.perform c w.files step.endpoint step.maxUnits step.method params s.machine with
  | mk result m =>
    rw [both] at failed
    cases failed
    rfl

theorem carryOut_failed_ok {f : Failure} {r : Response}
    (failed : (performed c w step params s).1 = .error f) :
    (carryOut c w step params s).1 = .ok r ↔
      ∃ text kind, f.Recordable text kind ∧ r = (blankResponse w step s).marked text kind := by
  rw [carryOut_failed failed, Failure.handled_failed_ok]

theorem carryOut_lost {g : Failure} (lost : (carryOut c w step params s).1 = .error g) :
    ∃ f, (performed c w step params s).1 = .error f ∧ ∀ text kind, ¬ f.Recordable text kind := by
  cases done : (performed c w step params s).1 with
  | ok success =>
    rw [carryOut_succeeded done] at lost
    cases lost
  | error f =>
    refine ⟨f, rfl, ?_⟩
    intro text kind recordable
    have answered := (carryOut_failed_ok done).mpr ⟨text, kind, recordable, rfl⟩
    rw [lost] at answered
    cases answered

theorem carryOut_unknown {g : Failure} (lost : (carryOut c w step params s).1 = .error g) :
    g.isKnown = false := by
  obtain ⟨f, failed, _⟩ := carryOut_lost lost
  rw [carryOut_failed failed] at lost
  exact Failure.handled_unknown lost

/-- A lost record never looks like a rejection. -/
theorem carryOut_not_rejected {g : Failure} (lost : (carryOut c w step params s).1 = .error g) :
    ∀ r, g ≠ .rejected r := by
  rintro r rfl
  cases carryOut_unknown lost

theorem carryOut_ok {r : Response} (answered : (carryOut c w step params s).1 = .ok r) :
    (∃ success, (performed c w step params s).1 = .ok success ∧
        r = { blankResponse w step s with result := { success.fill {} with timestamp := w.second } }) ∨
      ∃ f text kind, (performed c w step params s).1 = .error f ∧ f.Recordable text kind ∧
        r = (blankResponse w step s).marked text kind := by
  cases done : (performed c w step params s).1 with
  | ok success =>
    rw [carryOut_succeeded done] at answered
    cases answered
    exact .inl ⟨success, rfl, rfl⟩
  | error f =>
    obtain ⟨text, kind, recordable, rfl⟩ := (carryOut_failed_ok done).mp answered
    exact .inr ⟨f, text, kind, rfl, recordable, rfl⟩

theorem carryOut_id {r : Response} (answered : (carryOut c w step params s).1 = .ok r) :
    r.id = s.ledger.step := by
  rcases carryOut_ok answered with ⟨_, _, rfl⟩ | ⟨_, _, _, _, _, rfl⟩ <;> rfl

theorem carryOut_producedId {r : Response} (answered : (carryOut c w step params s).1 = .ok r) :
    producedId r = none ∨
      step.endpoint.settled = .execute ∧ ∃ b : Block, producedId r = some (.whole b.text) := by
  rcases carryOut_ok answered with ⟨success, done, rfl⟩ | ⟨_, _, _, _, _, rfl⟩
  · have filled := success.fill_id {} rfl
    rcases Dispatch.perform_success done with absent | ⟨settled, b, reported⟩
    · rw [absent] at filled
      exact .inl filled
    · rw [reported] at filled
      exact .inr ⟨settled, b, filled⟩
  · exact .inl rfl

end

/-- Recording what a response reports cannot fail while the ledger is open. -/
theorem record_next {l : Ledger} {r : Response} (opened : l.IsOpen)
    (form : producedId r = none ∨ ∃ b : Block, producedId r = some (.whole b.text)) :
    ∃ l', record l r = .ok l' ∧ l.Next l'.advance r := by
  have absent : l.lookup l.step = none := opened.lookup_of_le (by omega)
  rcases form with nothing | ⟨b, produced⟩
  · refine ⟨l, by simp [record, nothing], rfl, ?_, fun i _ => rfl⟩
    rw [nothing]
    change (l.lookup l.step).map _ = none
    rw [absent]
    rfl
  · have kept : (some (Text.whole b.text)).filter (· ≠ .whole "") = some (Text.whole b.text) := by
      simp [Option.filter_some, b.text_ne_empty]
    refine ⟨{ l with entries := Ledger.place l.step b l.entries }, ?_, rfl, ?_, ?_⟩
    · simp only [record, produced, kept, Text.whole?, Option.bind_some, b.decode_text, Option.getD_some]
      exact l.record_block b absent
    · rw [produced]
      change (Ledger.lookup { l with entries := Ledger.place l.step b l.entries } l.step).map _ = _
      rw [Ledger.lookup_recorded b absent]
      simp
    · intro i ne
      change Ledger.lookup { l with entries := Ledger.place l.step b l.entries } i = _
      rw [Ledger.lookup_recorded b absent]
      simp [ne]

theorem record_taken {l : Ledger} {r : Response} {b : Block} (produced : producedId r = some (.whole b.text))
    (taken : l.contains l.step = true) : record l r = .error (.taken l.step) := by
  have kept : (some (Text.whole b.text)).filter (· ≠ .whole "") = some (Text.whole b.text) := by
    simp [Option.filter_some, b.text_ne_empty]
  simp only [record, produced, kept, Text.whole?, Option.bind_some, b.decode_text, Option.getD_some]
  exact l.record_taken b taken

def endings (step : Step) : Except Failure Response → List Event
  | .ok r => [ending step r]
  | .error _ => []

/-- A step that is carried out. Its answer is a response, unless the record of it is lost. -/
structure CarriesOut (c : Collaborators σ) (w : Surroundings) (step : Step) (s : Session σ)
    (params : List Parameter) : Prop where
  checked : step.endpoint.isChecked = true
  prepared : prepare c w step s = .ok params
  result : (run c w step s).result = (carryOut c w step params s).1
  machine : (run c w step s).session.machine = (carryOut c w step params s).2
  ledger : s.ledger.After (run c w step s).session.ledger (carryOut c w step params s).1
  events : (run c w step s).events =
    started step params s :: endings step (carryOut c w step params s).1

theorem run_prepared (opened : s.ledger.IsOpen) {params : List Parameter}
    (checked : step.endpoint.isChecked = true) (prepared : prepare c w step s = .ok params) :
    CarriesOut c w step s params := by
  cases answered : (carryOut c w step params s).1 with
  | error f =>
    have ran := run_lost checked prepared answered
    refine ⟨checked, prepared, ?_, ?_, ⟨?_, ?_⟩, ?_⟩ <;> rw [ran]
    · rw [answered]
    · rw [answered]
      exact fun _ none => nomatch none
    · exact fun _ _ => rfl
    · rw [answered]
      rfl
  | ok r =>
    obtain ⟨l, recorded, next⟩ := record_next opened ((carryOut_producedId answered).imp_right And.right)
    have ran := run_recorded checked prepared answered recorded
    refine ⟨checked, prepared, ?_, ?_, ⟨?_, ?_⟩, ?_⟩ <;> rw [ran]
    · rw [answered]
    · rw [answered]
      rintro _ ⟨⟩
      exact next
    · rw [answered]
      exact fun _ none => nomatch none
    · rw [answered]
      rfl

theorem run_cases (c : Collaborators σ) (w : Surroundings) (step : Step) {s : Session σ}
    (opened : s.ledger.IsOpen) :
    (∃ f, run c w step s = stopped s f) ∨ ∃ params, CarriesOut c w step s params := by
  cases checked : step.endpoint.isChecked with
  | false => exact .inl ⟨_, run_unchecked checked⟩
  | true =>
    cases prepared : prepare c w step s with
    | error f => exact .inl ⟨f, run_unprepared checked prepared⟩
    | ok params => exact .inr ⟨params, run_prepared opened checked prepared⟩

theorem run_error {f : Failure} (opened : s.ledger.IsOpen)
    (failed : (run c w step s).result = .error f) :
    run c w step s = stopped s f ∨
      ∃ params, CarriesOut c w step s params ∧ (carryOut c w step params s).1 = .error f := by
  rcases run_cases c w step opened with ⟨g, stop⟩ | ⟨params, carried⟩
  · rw [stop, stopped_result] at failed
    cases failed
    exact .inl stop
  · exact .inr ⟨params, carried, carried.result.symm.trans failed⟩

theorem run_ok {r : Response} (opened : s.ledger.IsOpen)
    (returned : (run c w step s).result = .ok r) :
    ∃ params, CarriesOut c w step s params ∧ (carryOut c w step params s).1 = .ok r := by
  rcases run_cases c w step opened with ⟨f, stop⟩ | ⟨params, carried⟩
  · rw [stop, stopped_result] at returned
    cases returned
  · exact ⟨params, carried, carried.result.symm.trans returned⟩

end Run

end Rehearsal
