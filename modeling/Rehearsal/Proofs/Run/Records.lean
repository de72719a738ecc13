import Rehearsal.Proofs.Run.History

namespace Rehearsal

variable {σ : Type} {c : Collaborators σ}

def Failure.IsRecordable (f : Failure) : Prop := ∃ text kind, f.Recordable text (some kind)

namespace Failure

theorem fault_isRecordable (f : Fault) : (Failure.fault f).IsRecordable :=
  ⟨f.message, f.name, ⟨fun _ => nofun, rfl, rfl⟩⟩

theorem broken_isRecordable (b : Breakdown) : (Failure.broken b).IsRecordable :=
  ⟨b.message, b.name, ⟨fun _ => nofun, rfl, rfl⟩⟩

theorem rejected_isRecordable (cause : Rejection.Cause) :
    (Failure.rejected ⟨cause, none⟩).IsRecordable :=
  ⟨_, _, ⟨fun _ => nofun, rfl, rfl⟩⟩

end Failure

/-- What a run relies on when its collaborators fail: their failures end no program, and have a wording and
a kind that a response can record. -/
structure Collaborators.FailRecordably (c : Collaborators σ) : Prop where
  createKey : ∀ name s f, (c.createKey name s).1 = .error f → f.IsRecordable
  createProgram : ∀ files path s f, (c.createProgram files path s).1 = .error f → f.IsRecordable
  invoke : ∀ call s f, (c.invoke call s).1 = .error f → f.IsRecordable

namespace Key

theorem find_error_isRecordable {store : Store} {name : String} {f : Failure}
    (failed : find store name = .error f) : f.IsRecordable := by
  unfold find at failed
  split at failed
  · cases failed
  · split at failed <;> cases failed
    exact Failure.broken_isRecordable _

theorem create_error_isRecordable {name : String} {s : State σ} {f : Failure}
    (failed : (create name s).1 = .error f) : f.IsRecordable := by
  unfold create at failed
  cases found : find s.store name with
  | error g =>
    rw [found] at failed
    cases failed
    exact find_error_isRecordable found
  | ok publicKey =>
    rw [found] at failed
    cases publicKey <;> cases failed
    exact Failure.broken_isRecordable _

theorem address_error_isRecordable {publicKey : Bytes} {f : Failure}
    (failed : address publicKey = .error f) : f.IsRecordable := by
  unfold address at failed
  split at failed
  · cases failed
    exact Failure.broken_isRecordable _
  · split at failed <;> cases failed
    exact Failure.fault_isRecordable _

end Key

namespace Program

theorem readModule_error_isRecordable {files : Files} {path : String} {f : Failure}
    (failed : readModule files path = .error f) : f.IsRecordable := by
  unfold readModule at failed
  split at failed
  · cases failed
    exact Failure.fault_isRecordable _
  · split at failed <;> cases failed <;> exact Failure.broken_isRecordable _

theorem create_error_isRecordable {files : Files} {path : String} {s : State σ} {f : Failure}
    (failed : (create files path s).1 = .error f) : f.IsRecordable := by
  unfold create at failed
  cases read : readModule files path with
  | error g =>
    rw [read] at failed
    cases failed
    exact readModule_error_isRecordable read
  | ok code =>
    rw [read] at failed
    cases drawn : s.draws.nextFresh? s.store with
    | none =>
      simp only [drawn] at failed
      cases failed
      exact Failure.fault_isRecordable _
    | some fresh => simp only [drawn, reduceCtorEq] at failed

end Program

theorem Run.collaborators_failRecordably {invoke : Call → State σ → Except Failure CallResult × State σ}
    (told : ∀ call s f, (invoke call s).1 = .error f → f.IsRecordable) :
    (Run.collaborators invoke).FailRecordably :=
  ⟨fun _ _ _ => Key.create_error_isRecordable, fun _ _ _ _ => Program.create_error_isRecordable, told⟩

namespace Dispatch

variable {files : Files} {endpoint : Endpoint} {maxUnits : Int} {method : Text}
  {params : List Parameter} {m : Machine σ} {s : State σ} {f : Failure}

theorem first_error_isRecordable (failed : first params = .error f) : f.IsRecordable := by
  unfold first at failed
  split at failed <;> cases failed
  exact Failure.fault_isRecordable _

theorem text_error_isRecordable {p : Parameter} (failed : p.text = .error f) : f.IsRecordable := by
  unfold Parameter.text at failed
  cases decoded : Utf8.decode p.value with
  | error problem =>
    rw [decoded] at failed
    cases failed
    exact Failure.fault_isRecordable _
  | ok text =>
    rw [decoded] at failed
    cases failed

theorem firstText_error_isRecordable (failed : firstText params = .error f) : f.IsRecordable := by
  rcases Outcome.bind_error.mp failed with first | ⟨p, _, untold⟩
  · exact first_error_isRecordable first
  · exact text_error_isRecordable untold

theorem firstId_error_isRecordable (failed : firstId params = .error f) : f.IsRecordable := by
  rcases Outcome.bind_error.mp failed with first | ⟨p, _, short⟩
  · exact first_error_isRecordable first
  · split at short <;> cases short
    exact Failure.rejected_isRecordable _

theorem payload_error_isRecordable {r : CallResult} (failed : r.payload = .error f) : f.IsRecordable := by
  unfold CallResult.payload at failed
  split at failed <;> cases failed
  exact Failure.rejected_isRecordable _

theorem charged_error_isRecordable {r : CallResult} (failed : charged method r = .error f) :
    f.IsRecordable := by
  rcases Outcome.bind_error.mp failed with many | ⟨_, _, short⟩
  · exact payload_error_isRecordable many
  · split at short <;> cases short
    exact Failure.broken_isRecordable _

theorem createKey_error_isRecordable
    (tells : ∀ name s f, (c.createKey name s).1 = .error f → f.IsRecordable)
    (failed : (createKey c params s).1 = .error f) : f.IsRecordable := by
  unfold createKey at failed
  split at failed
  · rename_i untold
    cases failed
    exact firstText_error_isRecordable untold
  · rename_i name _
    rcases Outcome.bind_error.mp failed with missing | ⟨publicKey, _, mapped⟩
    · -- A duplicate that names its key is no failure, and all other failures are passed on.
      apply tells name s
      split at missing
      · rename_i b broke
        split at missing <;> cases missing
        exact broke
      · exact missing
    · exact Key.address_error_isRecordable (Outcome.map_error.mp mapped)

theorem createProgram_error_isRecordable
    (tells : ∀ files path s f, (c.createProgram files path s).1 = .error f → f.IsRecordable)
    (failed : (createProgram c files params s).1 = .error f) : f.IsRecordable := by
  unfold createProgram at failed
  split at failed
  · rename_i untold
    cases failed
    exact firstText_error_isRecordable untold
  · rename_i path _
    rcases Outcome.bind_error.mp failed with broke | ⟨id, _, short⟩
    · exact tells files path s f broke
    · split at short <;> cases short
      exact Failure.broken_isRecordable _

theorem invoke_error_isRecordable
    (tells : ∀ call s f, (c.invoke call s).1 = .error f → f.IsRecordable)
    (failed : (invoke c method maxUnits params m).1 = .error f) : f.IsRecordable := by
  unfold invoke at failed
  split at failed
  · rename_i nameless
    cases failed
    exact firstId_error_isRecordable nameless
  · exact tells _ _ _ failed

theorem perform_error_isRecordable (tells : c.FailRecordably)
    (failed : (perform c files endpoint maxUnits method params m).1 = .error f) : f.IsRecordable := by
  unfold perform at failed
  cases settled : endpoint.settled <;> simp only [settled] at failed
  case key => exact createKey_error_isRecordable tells.createKey failed
  case execute =>
    split at failed
    · exact createProgram_error_isRecordable tells.createProgram failed
    · rcases Outcome.bind_error.mp failed with uncalled | ⟨r, _, uncharged⟩
      · exact invoke_error_isRecordable tells.invoke uncalled
      · exact charged_error_isRecordable uncharged
  case readonly =>
    rcases Outcome.bind_error.mp failed with uncalled | ⟨r, _, many⟩
    · exact invoke_error_isRecordable tells.invoke uncalled
    · exact payload_error_isRecordable (Outcome.map_error.mp many)
  case unchecked =>
    cases failed
    exact Failure.rejected_isRecordable _

end Dispatch

namespace Run

variable {w : Surroundings} {step : Step} {s : Session σ} {params : List Parameter}

theorem carryOut_recorded (tells : c.FailRecordably) (w : Surroundings) (step : Step)
    (params : List Parameter) (s : Session σ) : ∃ r, (carryOut c w step params s).1 = .ok r := by
  cases answered : (carryOut c w step params s).1 with
  | ok r => exact ⟨r, rfl⟩
  | error g =>
    obtain ⟨f, failed, unrecordable⟩ := carryOut_lost answered
    obtain ⟨text, kind, recordable⟩ := Dispatch.perform_error_isRecordable tells failed
    exact absurd recordable (unrecordable text (some kind))

/-- A step that is carried out and fails in a way that no response can record. -/
def LosesRecord (c : Collaborators σ) (w : Surroundings) (s : Session σ) (step : Step) : Prop :=
  ∃ params f, prepare c w step s = .ok params ∧ (performed c w step params s).1 = .error f ∧
    ∀ text kind, ¬ f.Recordable text kind

theorem losesRecord_iff : LosesRecord c w s step ↔
    ∃ params f, prepare c w step s = .ok params ∧ (carryOut c w step params s).1 = .error f := by
  constructor
  · rintro ⟨params, f, prepared, failed, unrecordable⟩
    refine ⟨params, ?_⟩
    cases answered : (carryOut c w step params s).1 with
    | error g => exact ⟨g, prepared, rfl⟩
    | ok r =>
      obtain ⟨text, kind, recorded, _⟩ := (carryOut_failed_ok failed).mp answered
      exact absurd recorded (unrecordable text kind)
  · rintro ⟨params, f, prepared, lost⟩
    obtain ⟨g, failed, unrecordable⟩ := carryOut_lost lost
    exact ⟨params, g, prepared, failed, unrecordable⟩

theorem keepsRecord (tells : c.FailRecordably) (w : Surroundings) (s : Session σ) (step : Step) :
    ¬ LosesRecord c w s step := by
  intro loses
  obtain ⟨params, f, _, lost⟩ := losesRecord_iff.mp loses
  obtain ⟨r, answered⟩ := carryOut_recorded tells w step params s
  cases lost.symm.trans answered

theorem LosesRecord.run_eq (loses : LosesRecord c w s step) (checked : step.endpoint.isChecked = true) :
    ∃ params f m, prepare c w step s = .ok params ∧
      run c w step s = ⟨.error f, ⟨m, s.ledger⟩, [started step params s]⟩ ∧ ∀ r, f ≠ .rejected r := by
  obtain ⟨params, f, prepared, lost⟩ := losesRecord_iff.mp loses
  exact ⟨params, f, _, prepared, run_lost checked prepared lost, carryOut_not_rejected lost⟩

theorem Deed.Genuine.recorded {d : Deed σ} (genuine : d.Genuine c) (tells : c.FailRecordably) :
    ∃ r, d.answer = .ok r := by
  rw [genuine.answer]
  exact carryOut_recorded tells ..

theorem Deed.Genuine.lost {d : Deed σ} {f : Failure} (genuine : d.Genuine c)
    (lost : d.answer = .error f) :
    (∃ g, (Run.performed c d.surroundings d.step d.params d.before).1 = .error g ∧
      ∀ text kind, ¬ g.Recordable text kind) ∧ d.after.ledger = d.before.ledger :=
  ⟨carryOut_lost (genuine.answer.symm.trans lost), genuine.ledger.lost f lost⟩

end Run

end Rehearsal
