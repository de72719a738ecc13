import Rehearsal.Proofs.Json.Course
import Rehearsal.Proofs.Loading.PlanReadBack
import Rehearsal.Proofs.Run.History
import Rehearsal.Proofs.Yaml.Values

namespace Rehearsal

namespace Datum

/-- What comes into a datum where its name is met again is the whole of it. -/
theorem isTooLong_tied {name : Nat} {d e : Datum} (whole : d.isTooLong = false)
    (short : e.isTooLong = false) : (tied name d e).isTooLong = false := by
  revert short
  refine tied.induct name (fun e => e.isTooLong = false → (tied name d e).isTooLong = false)
    (fun entries => anyEntryTooLong entries = false → anyEntryTooLong (tiedEntries name d entries) = false)
    (fun items => anyTooLong items = false → anyTooLong (tiedAll name d items) = false)
    ?list ?pair ?set ?map ?name ?otherName ?again ?otherAgain ?plain ?noItem ?item ?noEntry ?entry e
  case list | set | map =>
    intro _ ih short
    simp only [tied, isTooLong] at short ⊢
    exact ih short
  case pair =>
    intro a b first second short
    simp only [isTooLong, Bool.or_eq_false_iff] at short
    simp [tied, isTooLong, first short.1, second short.2]
  case name | otherAgain =>
    intro _ _ same short
    simpa [tied, same] using short
  case otherName =>
    intro _ _ other ih short
    simp only [tied, other, isTooLong] at short ⊢
    exact ih short
  case again =>
    intro _ _ same _
    simpa [tied, same] using whole
  case plain =>
    intro e _ _ _ _ _ _ short
    unfold tied
    split <;> simp_all
  case noItem | noEntry => exact fun short => short
  case item =>
    intro _ _ first later short
    simp only [anyTooLong, Bool.or_eq_false_iff] at short
    simp [tiedAll, anyTooLong, first short.1, later short.2]
  case entry =>
    intro _ _ _ key value later short
    simp only [anyEntryTooLong, Bool.or_eq_false_iff] at short
    simp [tiedEntries, anyEntryTooLong, key short.1.1, value short.1.2, later short.2]

theorem isTooLong_opened {d : Datum} (short : d.isTooLong = false) : d.opened.isTooLong = false := by
  unfold opened
  split
  · exact isTooLong_tied short short
  · exact short

theorem isTooLong_lookup {key : String} {entries : List (Datum × Datum)} {v : Datum}
    (short : anyEntryTooLong entries = false) (found : lookup key entries = some v) :
    v.isTooLong = false := by
  fun_induction lookup key entries with
  | case1 => cases found
  | case2 =>
    cases found
    simp only [anyEntryTooLong, Bool.or_eq_false_iff] at short
    exact short.1.2
  | case3 _ _ _ _ ih | case4 _ _ _ ih =>
    simp only [anyEntryTooLong, Bool.or_eq_false_iff] at short
    exact ih short.2 found

theorem isTooLong_get {key : String} {d v : Datum} (short : d.isTooLong = false)
    (found : d.get? key = some v) : v.isTooLong = false := by
  unfold get? at found
  split at found
  · rename_i entries opened
    have whole := isTooLong_opened short
    rw [opened] at whole
    exact isTooLong_lookup whole found
  · cases found

theorem isTooLong_item {items : List Datum} {d : Datum} (short : anyTooLong items = false)
    (member : d ∈ items) : d.isTooLong = false := by
  induction items with
  | nil => cases member
  | cons e rest ih =>
    simp only [anyTooLong, Bool.or_eq_false_iff] at short
    rcases List.mem_cons.mp member with rfl | later
    · exact short.1
    · exact ih short.2 later

end Datum

namespace Load

def IsLoadError (f : Failure) : Prop :=
  ∃ cause, f = .rejected ⟨cause, none⟩ ∧
    (cause.family = .malformedPlan ∨ cause.family = .invalidEndpoint)

inductive TextEscapes : Bool → Text → Failure → Prop
  | numeral {t : Text} {n : Nat} (overlong : Json.Overlong t n) :
      TextEscapes false t (.fault (.tooManyDigits n))
  | value {s : String} {f : Yaml.ValueFault} (origin : Yaml.FaultOf s f)
      (read : Yaml.read s = .error (.value f)) : TextEscapes true s (.fault (.value f))

/-- Data of a step in which nothing is wrong but an unknown endpoint, and that cannot be shown. -/
def UnshowableEndpoint (d : Datum) : Prop :=
  ∃ entries issues endpoint, d.opened = .map entries ∧ Step.check (.map entries) = .error issues ∧
    issues ≠ [] ∧ (∀ i ∈ issues, isEndpointIssue i = true) ∧
    Datum.lookup "endpoint" entries = some endpoint ∧ endpoint.isTooLong = true

inductive FileEscapes (files : Files) (path : Text) : Failure → Prop
  | torn {tear : Text.Tear} (torn : path.nameTear? = some tear) :
      FileEscapes files path (.fault (.unnameable tear))
  | null (named : path.nameTear? = none) (null : path.points.contains 0 = true) :
      FileEscapes files path (.fault .nullInPath)
  | text {s : String} {f : Failure} (held : readText files path = .ok s)
      (escapes : TextEscapes (isYaml path) s f) : FileEscapes files path f

structure HoldsYaml (files : Files) (path : Text) (d : Datum) : Prop where
  yaml : isYaml path = true
  held : ∃ s, readText files path = .ok s ∧ Yaml.read s = .ok d

def given? (t : Option Text) : Option Text := t.filter (· ≠ .whole "")

/-- The failures with which loading a step escapes. -/
inductive StepEscapes (files : Files) (text file : Option Text) : Failure → Prop
  | text {t : Text} {f : Failure} (given : given? text = some t) (escapes : TextEscapes false t f) :
      StepEscapes files text file f
  | file {path : Text} {f : Failure} (none : given? text = none) (given : given? file = some path)
      (escapes : FileEscapes files path f) : StepEscapes files text file f
  | endpoint {path : Text} {d : Datum} (none : given? text = none) (given : given? file = some path)
      (holds : HoldsYaml files path d) (unshowable : UnshowableEndpoint d) :
      StepEscapes files text file (.fault .unshowable)

/-- The failures with which loading a plan escapes. -/
inductive PlanEscapes (files : Files) (path : Text) : Failure → Prop
  | file {f : Failure} (escapes : FileEscapes files path f) : PlanEscapes files path f
  | longKey {d key : Datum} {steps : List Datum} (holds : HoldsYaml files path d)
      (listed : (d.get? "steps").map Datum.opened = some (.list steps))
      (named : d.get? "callerKey" = some key) (counts : key.isTrue = true) (long : key.isTooLong = true) :
      PlanEscapes files path (.fault .unshowable)
  | endpoint {d step : Datum} {before after : List Datum} {key : Text} (holds : HoldsYaml files path d)
      (listed : (d.get? "steps").map Datum.opened = some (.list (before ++ step :: after)))
      (keyed : callerKey ((d.get? "callerKey").getD .null) = .ok key)
      (loaded : ∀ e ∈ before, ∃ s, stepOfData e = .ok s)
      (unshowable : UnshowableEndpoint step) :
      PlanEscapes files path (.fault .unshowable)

section

variable {files : Files} {path t : Text} {s : String} {yaml : Bool} {d : Datum} {f : Failure}

theorem refuse_isLoadError {α : Type} {cause : Rejection.Cause}
    (family : cause.family = .malformedPlan ∨ cause.family = .invalidEndpoint)
    (fails : (refuse cause : Except Failure α) = .error f) : IsLoadError f := by
  cases fails
  exact ⟨cause, rfl, family⟩

theorem readText_fails (fails : readText files path = .error f) :
    IsLoadError f ∨ FileEscapes files path f := by
  unfold readText at fails
  simp only at fails
  split at fails
  · rename_i torn
    cases fails
    exact .inr (.torn torn)
  · rename_i named
    split at fails
    · rename_i null
      cases fails
      exact .inr (.null named null)
    · left
      split at fails
      · exact refuse_isLoadError (.inl rfl) fails
      · split at fails
        · exact refuse_isLoadError (.inl rfl) fails
        · cases fails

theorem readText_torn {tear : Text.Tear} (torn : path.nameTear? = some tear) :
    readText files path = .error (.fault (.unnameable tear)) := by
  simp only [readText, torn]

theorem readText_null (named : path.nameTear? = none) (null : path.points.contains 0 = true) :
    readText files path = .error (.fault .nullInPath) := by
  simp only [readText, named, null, ↓reduceIte]

theorem parseJson_fails (fails : parseJson t = .error f) : IsLoadError f ∨ TextEscapes false t f := by
  unfold parseJson at fails
  split at fails
  · cases fails
  · rename_i read
    cases fails
    exact .inr (.numeral (Json.readText_digits.mp read))
  · exact .inl (refuse_isLoadError (.inl rfl) fails)

theorem parse_fails (fails : parse yaml s = .error f) : IsLoadError f ∨ TextEscapes yaml s f := by
  unfold parse at fails
  split at fails
  · rename_i isYaml
    cases isYaml
    split at fails
    · cases fails
    · exact .inl (refuse_isLoadError (.inl rfl) fails)
    · rename_i read
      cases fails
      exact .inr (.value (Yaml.faultOf_read read) read)
  · rename_i isJson
    cases yaml with
    | true => exact absurd rfl isJson
    | false => exact parseJson_fails fails

theorem TextEscapes.parseJson (escapes : TextEscapes false t f) : parseJson t = .error f := by
  cases escapes with
  | numeral overlong => rw [Load.parseJson, Json.readText_digits.mpr overlong]

theorem TextEscapes.parse (escapes : TextEscapes yaml s f) : parse yaml s = .error f := by
  cases escapes with
  | numeral overlong => exact (TextEscapes.numeral overlong).parseJson
  | value _ read =>
    rw [Load.parse, read]
    rfl

theorem TextEscapes.isFault (escapes : TextEscapes yaml t f) : ∃ fault, f = .fault fault := by
  cases escapes <;> exact ⟨_, rfl⟩

theorem stepOfData_fails (fails : stepOfData d = .error f) :
    IsLoadError f ∨ UnshowableEndpoint d ∧ f = .fault .unshowable := by
  unfold stepOfData at fails
  split at fails
  · rename_i entries opened
    split at fails
    · cases fails
    · rename_i issues checked
      split at fails
      · rename_i blamed
        obtain ⟨some, each⟩ : issues ≠ [] ∧ ∀ i ∈ issues, isEndpointIssue i = true := by
          simpa using blamed
        rcases Outcome.bind_error.mp fails with unshown | ⟨_, _, fails⟩
        · unfold shown at unshown
          split at unshown
          · rename_i long
            cases unshown
            cases found : Datum.lookup "endpoint" entries with
            | none =>
              rw [found] at long
              cases long
            | some endpoint =>
              rw [found] at long
              exact .inr ⟨⟨entries, issues, endpoint, opened, checked, some, each, found, long⟩, rfl⟩
          · cases unshown
        · exact .inl (refuse_isLoadError (.inr rfl) fails)
      · exact .inl (refuse_isLoadError (.inl rfl) fails)
  · exact .inl (refuse_isLoadError (.inl rfl) fails)

theorem UnshowableEndpoint.fails (unshowable : UnshowableEndpoint d) :
    stepOfData d = .error (.fault .unshowable) := by
  obtain ⟨entries, issues, endpoint, opened, checked, some, each, found, long⟩ := unshowable
  have blamed : (!issues.isEmpty && issues.all isEndpointIssue) = true := by
    simpa [some] using each
  simp only [stepOfData, opened, checked, blamed, ↓reduceIte, found, Option.getD_some, shown, long]
  rfl

theorem UnshowableEndpoint.long (unshowable : UnshowableEndpoint d) : d.isTooLong = true := by
  obtain ⟨entries, issues, endpoint, opened, checked, some, each, found, long⟩ := unshowable
  rw [← Bool.not_eq_false]
  intro short
  have whole := Datum.isTooLong_opened short
  rw [opened] at whole
  cases long.symm.trans (Datum.isTooLong_lookup whole found)

theorem short_of_parseJson (read : parseJson t = .ok d) : d.isTooLong = false := by
  unfold parseJson at read
  split at read
  · rename_i same
    cases read
    exact Json.isTooLong_of_readText same
  · cases read
  · cases read

theorem yaml_of_long (read : parse yaml s = .ok d) (long : d.isTooLong = true) :
    yaml = true ∧ Yaml.read s = .ok d := by
  unfold parse at read
  split at read
  · rename_i isYaml
    split at read
    · rename_i same
      cases read
      exact ⟨isYaml, same⟩
    · cases read
    · cases read
  · rw [short_of_parseJson read] at long
    cases long

theorem holdsYaml_of_long (held : readText files path = .ok s) (read : parse (isYaml path) s = .ok d)
    (long : d.isTooLong = true) : HoldsYaml files path d :=
  have ⟨yaml, same⟩ := yaml_of_long read long
  ⟨yaml, s, held, same⟩

theorem HoldsYaml.parse (holds : HoldsYaml files path d) :
    ∃ s, readText files path = .ok s ∧ parse (isYaml path) s = .ok d := by
  obtain ⟨yaml, s, held, read⟩ := holds
  refine ⟨s, held, ?_⟩
  rw [Load.parse, yaml, read]
  rfl

theorem FileEscapes.fails (escapes : FileEscapes files path f) :
    (readText files path).bind (parse (isYaml path)) = .error f := by
  cases escapes with
  | torn torn => exact Outcome.bind_error.mpr (.inl (readText_torn torn))
  | null named null => exact Outcome.bind_error.mpr (.inl (readText_null named null))
  | text held escapes => exact Outcome.bind_error.mpr (.inr ⟨_, held, escapes.parse⟩)

theorem FileEscapes.isFault (escapes : FileEscapes files path f) : ∃ fault, f = .fault fault := by
  cases escapes with
  | torn | null => exact ⟨_, rfl⟩
  | text _ escapes => exact escapes.isFault

theorem data_fails (fails : (readText files path).bind (parse (isYaml path)) = .error f) :
    IsLoadError f ∨ FileEscapes files path f := by
  rcases Outcome.bind_error.mp fails with unread | ⟨s, held, unparsed⟩
  · exact readText_fails unread
  · exact (parse_fails unparsed).imp id (.text held)

section

variable {text file : Option Text}

theorem step_of_text (given : given? text = some t) :
    step files text file = (parseJson t).bind stepOfData := by
  rw [given?] at given
  rw [step, given]
  rfl

theorem step_of_file (none : given? text = none) (given : given? file = some path) :
    step files text file =
      ((readText files path).bind (parse (isYaml path))).bind stepOfData := by
  rw [given?] at none given
  rw [step, none, given]
  show (readText files path).bind _ = _
  cases readText files path <;> rfl

theorem step_fails (fails : step files text file = .error f) :
    IsLoadError f ∨ StepEscapes files text file f := by
  cases given : given? text with
  | some t =>
    rw [step_of_text given] at fails
    rcases Outcome.bind_error.mp fails with unparsed | ⟨d, read, fails⟩
    · exact (parseJson_fails unparsed).imp id (.text given)
    · rcases stepOfData_fails fails with promised | ⟨unshowable, rfl⟩
      · exact .inl promised
      · cases (short_of_parseJson read).symm.trans unshowable.long
  | none =>
    cases named : given? file with
    | none =>
      rw [given?] at given named
      rw [step, given, named] at fails
      exact .inl (refuse_isLoadError (.inl rfl) fails)
    | some path =>
      rw [step_of_file given named] at fails
      rcases Outcome.bind_error.mp fails with unread | ⟨d, read, fails⟩
      · exact (data_fails unread).imp id (.file given named)
      · rcases stepOfData_fails fails with promised | ⟨unshowable, rfl⟩
        · exact .inl promised
        · obtain ⟨s, held, read⟩ := Outcome.bind_ok.mp read
          exact .inr (.endpoint given named (holdsYaml_of_long held read unshowable.long) unshowable)

theorem StepEscapes.fails (escapes : StepEscapes files text file f) :
    step files text file = .error f := by
  cases escapes with
  | text given escapes =>
    rw [step_of_text given]
    exact Outcome.bind_error.mpr (.inl escapes.parseJson)
  | file none given escapes =>
    rw [step_of_file none given]
    exact Outcome.bind_error.mpr (.inl escapes.fails)
  | endpoint none given holds unshowable =>
    obtain ⟨s, held, read⟩ := holds.parse
    rw [step_of_file none given]
    exact Outcome.bind_error.mpr (.inr ⟨_, Outcome.bind_ok.mpr ⟨s, held, read⟩, unshowable.fails⟩)

theorem StepEscapes.isFault (escapes : StepEscapes files text file f) : ∃ fault, f = .fault fault := by
  cases escapes with
  | text _ escapes => exact escapes.isFault
  | file _ _ escapes => exact escapes.isFault
  | endpoint => exact ⟨_, rfl⟩

end

theorem addSteps_fails {p : Plan} {ds : List Datum} (fails : addSteps p ds = .error f) :
    IsLoadError f ∨ f = .fault .unshowable ∧ ∃ before step after, ds = before ++ step :: after ∧
      (∀ e ∈ before, ∃ s, stepOfData e = .ok s) ∧ UnshowableEndpoint step := by
  induction ds generalizing p with
  | nil => cases fails
  | cons d rest ih =>
    rcases Outcome.bind_error.mp fails with first | ⟨s, first, later⟩
    · rcases stepOfData_fails first with promised | ⟨unshowable, rfl⟩
      · exact .inl promised
      · exact .inr ⟨rfl, [], d, rest, rfl, by simp, unshowable⟩
    · rcases ih later with promised | ⟨rfl, before, step, after, rfl, loaded, unshowable⟩
      · exact .inl promised
      · refine .inr ⟨rfl, d :: before, step, after, rfl, ?_, unshowable⟩
        intro e member
        rcases List.mem_cons.mp member with rfl | member
        · exact ⟨s, first⟩
        · exact loaded e member

theorem addSteps_unshowable {p : Plan} {before after : List Datum} {step : Datum}
    (loaded : ∀ e ∈ before, ∃ s, stepOfData e = .ok s) (unshowable : UnshowableEndpoint step) :
    addSteps p (before ++ step :: after) = .error (.fault .unshowable) := by
  induction before generalizing p with
  | nil => exact Outcome.bind_error.mpr (.inl unshowable.fails)
  | cons d before ih =>
    obtain ⟨s, first⟩ := loaded d List.mem_cons_self
    refine Outcome.bind_error.mpr (.inr ⟨s, first, ih ?_⟩)
    exact fun e member => loaded e (List.mem_cons_of_mem d member)

theorem callerKey_fails (fails : callerKey d = .error f) :
    d.isTrue = true ∧ d.isTooLong = true ∧ f = .fault .unshowable := by
  unfold callerKey at fails
  split at fails
  · rename_i counts
    unfold shown at fails
    split at fails
    · rename_i long
      cases fails
      exact ⟨counts, long, rfl⟩
    · cases fails
  · cases fails

theorem callerKey_long {key : Datum} (counts : key.isTrue = true) (long : key.isTooLong = true) :
    callerKey key = .error (.fault .unshowable) := by
  simp only [callerKey, counts, shown, long, ↓reduceIte]

theorem plan_eq (files : Files) (path : Text) :
    plan files path = ((readText files path).bind (parse (isYaml path))).bind (planOfData path) := by
  show (readText files path).bind _ = _
  cases readText files path <;> rfl

theorem planOfData_listed {steps : List Datum}
    (listed : (d.get? "steps").map Datum.opened = some (.list steps)) :
    planOfData path d =
      (callerKey ((d.get? "callerKey").getD .null)).bind fun callerKey => addSteps { callerKey } steps := by
  rw [planOfData, listed]
  rfl

theorem isTooLong_of_get {key : String} {v : Datum} (found : d.get? key = some v)
    (long : v.isTooLong = true) : d.isTooLong = true := by
  rw [← Bool.not_eq_false]
  intro short
  cases long.symm.trans (Datum.isTooLong_get short found)

theorem isTooLong_steps {steps : List Datum} {step : Datum} (long : step.isTooLong = true)
    (listed : (d.get? "steps").map Datum.opened = some (.list steps)) (member : step ∈ steps) :
    d.isTooLong = true := by
  rw [← Bool.not_eq_false]
  intro short
  obtain ⟨list, found, opened⟩ := Option.map_eq_some_iff.mp listed
  have whole := Datum.isTooLong_opened (Datum.isTooLong_get short found)
  rw [opened] at whole
  cases long.symm.trans (Datum.isTooLong_item whole member)

theorem plan_fails (fails : plan files path = .error f) : IsLoadError f ∨ PlanEscapes files path f := by
  rw [plan_eq] at fails
  rcases Outcome.bind_error.mp fails with unread | ⟨d, data, fails⟩
  · exact (data_fails unread).imp id .file
  obtain ⟨s, held, read⟩ := Outcome.bind_ok.mp data
  unfold planOfData at fails
  split at fails
  · rename_i steps listed
    rcases Outcome.bind_error.mp fails with unkeyed | ⟨key, keyed, fails⟩
    · cases named : d.get? "callerKey" with
      | none =>
        rw [named] at unkeyed
        cases unkeyed
      | some key =>
        rw [named] at unkeyed
        obtain ⟨counts, long, rfl⟩ := callerKey_fails unkeyed
        exact .inr (.longKey (holdsYaml_of_long held read (isTooLong_of_get named long)) listed named
          counts long)
    · rcases addSteps_fails fails with promised | ⟨rfl, before, step, after, rfl, loaded, unshowable⟩
      · exact .inl promised
      · have long := isTooLong_steps unshowable.long listed (by simp)
        exact .inr (.endpoint (holdsYaml_of_long held read long) listed keyed loaded unshowable)
  · exact .inl (refuse_isLoadError (.inl rfl) fails)

theorem planOfData_unkeyed {steps : List Datum} {key : Datum}
    (listed : (d.get? "steps").map Datum.opened = some (.list steps))
    (named : d.get? "callerKey" = some key) (fails : callerKey key = .error f) :
    planOfData path d = .error f := by
  rw [planOfData_listed listed, named]
  exact Outcome.bind_error.mpr (.inl fails)

theorem PlanEscapes.fails (escapes : PlanEscapes files path f) : plan files path = .error f := by
  rw [plan_eq]
  cases escapes with
  | file escapes => exact Outcome.bind_error.mpr (.inl escapes.fails)
  | longKey holds listed named counts long =>
    have data := Outcome.bind_ok.mpr holds.parse
    have fails := callerKey_long counts long
    exact Outcome.bind_error.mpr (.inr ⟨_, data, planOfData_unkeyed listed named fails⟩)
  | endpoint holds listed keyed loaded unshowable =>
    have data := Outcome.bind_ok.mpr holds.parse
    refine Outcome.bind_error.mpr (.inr ⟨_, data, ?_⟩)
    rw [planOfData_listed listed]
    exact Outcome.bind_error.mpr (.inr ⟨_, keyed, addSteps_unshowable loaded unshowable⟩)

theorem StepEscapes.not_isLoadError {text file : Option Text}
    (escapes : StepEscapes files text file f) : ¬ IsLoadError f := by
  obtain ⟨fault, rfl⟩ := escapes.isFault
  nofun

theorem PlanEscapes.not_isLoadError (escapes : PlanEscapes files path f) : ¬ IsLoadError f := by
  cases escapes with
  | file escapes =>
    obtain ⟨fault, rfl⟩ := escapes.isFault
    nofun
  | longKey | endpoint => nofun

end

end Load

namespace Run

variable {σ : Type}

/-- Loading a step or a plan fails with a load error, or it escapes with one of the listed failures; of those
none is a load error. When a step is loaded to be run and that fails, the session stays as it was, and there
is an event of rejection just if the failure is a load error. -/
theorem loading_fails_with_load_errors_or_escapes (c : Collaborators σ) :
    (∀ files (text file : Option Text) f, Load.step files text file = .error f →
      Load.IsLoadError f ∨ Load.StepEscapes files text file f) ∧
    (∀ files (text file : Option Text) f, Load.StepEscapes files text file f →
      Load.step files text file = .error f ∧ ¬ Load.IsLoadError f) ∧
    (∀ files (path : Text) f, Load.plan files path = .error f →
      Load.IsLoadError f ∨ Load.PlanEscapes files path f) ∧
    (∀ files path f, Load.PlanEscapes files path f →
      Load.plan files path = .error f ∧ ¬ Load.IsLoadError f) ∧
    ∀ (w : Surroundings) (text file : Option Text) (s : Session σ) f, Load.step w.files text file = .error f →
      (runLoaded c w text file s).result = .error f ∧ (runLoaded c w text file s).session = s ∧
      (Load.IsLoadError f ∧
          (∃ r, f = .rejected r ∧ (runLoaded c w text file s).events = [rejection s r]) ∨
        Load.StepEscapes w.files text file f ∧ (runLoaded c w text file s).events = []) := by
  refine ⟨fun _ _ _ _ => Load.step_fails, fun _ _ _ _ escapes => ⟨escapes.fails, escapes.not_isLoadError⟩,
    fun _ _ _ => Load.plan_fails, fun _ _ _ escapes => ⟨escapes.fails, escapes.not_isLoadError⟩, ?_⟩
  intro w text file s f fails
  have stops : runLoaded c w text file s = stopped s f := by rw [runLoaded_eq, fails]
  rw [stops]
  refine ⟨stopped_result s f, stopped_session s f, ?_⟩
  rcases Load.step_fails fails with promised | escapes
  · obtain ⟨cause, rfl, family⟩ := promised
    exact .inl ⟨⟨cause, rfl, family⟩, _, rfl, rfl⟩
  · obtain ⟨fault, rfl⟩ := escapes.isFault
    exact .inr ⟨escapes, rfl⟩

def tenToThe (n : Nat) : String := String.ofList ('1' :: List.replicate n '0')

theorem tenToThe_overlong {n : Nat} (long : Decimal.maxDigits ≤ n) : Json.Overlong (tenToThe n) (n + 1) := by
  have all : ∀ c ∈ '1' :: List.replicate n '0', Decimal.isDigit c = true := by
    intro c member
    rcases List.mem_cons.mp member with rfl | member
    · rfl
    · rw [List.eq_of_mem_replicate member]
      rfl
  have length : ('1' :: List.replicate n '0').length = n + 1 := by simp
  have numeral : Json.LongNumeral ([] ++ ('1' :: List.replicate n '0' ++ [])) (n + 1) := by
    rw [← length]
    exact .intro (.inl rfl) all (by simp) (by rw [length]; omega) rfl rfl rfl
  rw [Json.Overlong, Json.chars, Text.mended_whole, tenToThe, String.toList_ofList]
  rw [List.append_nil, List.nil_append] at numeral
  exact ⟨by simp, .long numeral⟩

theorem tenToThe_escapes {n : Nat} (long : Decimal.maxDigits ≤ n) :
    Load.StepEscapes {} (some (.whole (tenToThe n))) none (.fault (.tooManyDigits (n + 1))) := by
  have given : Load.given? (some (.whole (tenToThe n))) = some (.whole (tenToThe n)) := by
    simp [Load.given?, tenToThe]
  exact .text given (.numeral (tenToThe_overlong long))

theorem overlong_numeral_escapes_without_event :
    let text : Option Text := some (.whole (tenToThe 4300))
    let failure := Failure.fault (.tooManyDigits (4300 + 1))
    let ran := runLoaded (collaborators noInterpreter) {} text none ⟨blank, {}⟩
    Load.StepEscapes {} text none failure ∧ Load.step {} text none = .error failure ∧
      ran.result = .error failure ∧ ran.events = [] := by
  -- for any such number of digits, so that none of them is ever written out
  have general (n : Nat) (long : Decimal.maxDigits ≤ n) :
      let text : Option Text := some (.whole (tenToThe n))
      let failure := Failure.fault (.tooManyDigits (n + 1))
      let ran := runLoaded (collaborators noInterpreter) {} text none ⟨blank, {}⟩
      Load.StepEscapes {} text none failure ∧ Load.step {} text none = .error failure ∧
        ran.result = .error failure ∧ ran.events = [] := by
    intro text failure ran
    have numeral : Load.StepEscapes {} text none failure := tenToThe_escapes long
    obtain ⟨_, escapes, _, _, runs⟩ :=
      loading_fails_with_load_errors_or_escapes (collaborators noInterpreter)
    obtain ⟨fails, noLoadError⟩ := escapes {} text none failure numeral
    obtain ⟨result, _, ⟨loadError, _⟩ | ⟨_, events⟩⟩ := runs {} text none ⟨blank, {}⟩ failure fails
    · exact absurd loadError noLoadError
    · exact ⟨numeral, fails, result, events⟩
  exact general 4300 (by decide)

theorem not_every_loading_failure_is_a_load_error :
    ¬ ∀ (files : Files) (text file : Option Text) (f : Failure),
      Load.step files text file = .error f → Load.IsLoadError f := by
  intro promised
  have numeral := tenToThe_escapes (Nat.le_refl Decimal.maxDigits)
  exact numeral.not_isLoadError (promised _ _ _ _ numeral.fails)

end Run

end Rehearsal
