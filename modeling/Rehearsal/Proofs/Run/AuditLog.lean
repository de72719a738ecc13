import Rehearsal.Proofs.Json.Records
import Rehearsal.Proofs.Loading.ResponseReadBack
import Rehearsal.Proofs.Run.CallTrace
import Rehearsal.Proofs.Run.Callbacks

namespace Rehearsal

theorem Datum.shown_ofText (t : Text) : (ofText t).shown = t := by
  cases t with
  | whole s => rfl
  | torn points isTorn => exact Text.ofPoints_torn isTorn

namespace Event

def severity : Event → Audit.Level
  | started .. | completed .. => .info
  | failed .. => .warning
  | rejected .. => .error

def word : Event → String
  | started .. => "step_start"
  | completed .. => "step_complete"
  | failed .. => "step_failed"
  | rejected .. => "step_rejected"

def excerpt (error : Text) : Text := error.take 200

def details : Event → List (String × Datum)
  | started index endpoint method maxUnits paramCount =>
    [("step_index", .int index), ("endpoint", .text endpoint), ("method", .ofText method),
      ("max_units", .int maxUnits), ("param_count", .int paramCount)]
  | completed index endpoint method id =>
    [("step_index", .int index), ("endpoint", .text endpoint), ("method", .ofText method),
      ("tx_id", (id.map Datum.ofText).getD .null)]
  | failed index error kind =>
    [("step_index", .int index), ("error_kind", (kind.map Datum.ofText).getD .null),
      ("error", .ofText (excerpt error))]
  | rejected index error kind =>
    [("step_index", .int index), ("error_kind", .text kind), ("error", .ofText (excerpt error))]

def record (clock : Int) (e : Event) : List (String × Datum) :=
  ("event", .text e.word) :: ("ts", .text (Moment.stamp clock)) :: e.details

def numbers : Event → List Int
  | started index _ _ maxUnits paramCount => [index, maxUnits, paramCount]
  | completed index .. | failed index .. | rejected index .. => [index]

def texts : Event → List Text
  | started _ _ method .. => [method]
  | completed _ _ method id => method :: id.toList
  | failed _ error kind => error :: kind.toList
  | rejected _ error _ => [error]

def Short (e : Event) : Prop := ∀ i ∈ e.numbers, IsShort i

def IsOfCodes (e : Event) : Prop := ∀ t ∈ e.texts, t.IsOfCodes

def HoldsNoPair (e : Event) : Prop := ∀ t ∈ e.texts, Text.HoldsNoPair t.points

theorem readable_of_whole {e : Event} (whole : ∀ t ∈ e.texts, t.isWhole = true) :
    e.IsOfCodes ∧ e.HoldsNoPair := by
  constructor
  all_goals
    intro t told
    obtain ⟨s, rfl⟩ := Text.isWhole_iff.mp (whole t told)
  · exact .whole s
  · exact Text.holdsNoPair_whole s

def line (clock : Int) (e : Event) : Audit.Line :=
  ⟨e.severity, Json.render .audit (.map (Json.keyed (e.record clock)))⟩

theorem forall_record {p : Datum → Prop} {e : Event} (clock : Int) (string : ∀ s : String, p (.text s))
    (null : p .null) (number : ∀ i ∈ e.numbers, p (.int i)) (text : ∀ t ∈ e.texts, p (.ofText t))
    (error : ∀ t ∈ e.texts, p (.ofText (excerpt t))) : ∀ field ∈ e.record clock, p field.2 := by
  cases e with
  | started =>
    simp only [numbers, texts, List.forall_mem_cons] at number text
    obtain ⟨index, maxUnits, paramCount, _⟩ := number
    simp [record, details, string, index, maxUnits, paramCount, text]
  | rejected =>
    have index := number _ List.mem_cons_self
    have message := error _ List.mem_cons_self
    simp [record, details, string, index, message]
  | completed _ _ _ id =>
    have index := number _ List.mem_cons_self
    have method := text _ List.mem_cons_self
    cases id with
    | none => simp [record, details, string, index, method, null]
    | some id =>
      have name := text id (.tail _ List.mem_cons_self)
      simp [record, details, string, index, method, name]
  | failed _ _ kind =>
    have index := number _ List.mem_cons_self
    have message := error _ List.mem_cons_self
    cases kind with
    | none => simp [record, details, string, index, message, null]
    | some kind =>
      have name := text kind (.tail _ List.mem_cons_self)
      simp [record, details, string, index, message, name]

theorem record_leaves {e : Event} (short : e.Short) (codes : e.IsOfCodes) (clock : Int) :
    ∀ field ∈ e.record clock, Json.Leaf field.2 :=
  forall_record clock .text .null (fun i told => .int (short i told)) (fun t told => .ofText (codes t told))
    fun t told => .ofText ((codes t told).take 200)

theorem record_plain {e : Event} (codes : e.IsOfCodes) (clock : Int) :
    ∀ field ∈ e.record clock, Json.Plain field.2 :=
  forall_record clock .text .null (fun i _ => .int i) (fun t told => .ofText (codes t told))
    fun t told => .ofText ((codes t told).take 200)

theorem record_mated {e : Event} (none : e.HoldsNoPair) (clock : Int) :
    Json.retold Datum.mated (e.record clock) = e.record clock := by
  have cut (t : Text) (told : t ∈ e.texts) : (Datum.ofText (excerpt t)).mated = .ofText (excerpt t) := by
    refine Datum.mated_ofText ?_
    rw [excerpt, Text.points_take]
    exact (none t told).take 200
  have same : ∀ field ∈ e.record clock, field.2.mated = field.2 :=
    forall_record (p := fun d => d.mated = d) clock (fun _ => rfl) rfl (fun _ _ => rfl)
      (fun t told => Datum.mated_ofText (none t told)) cut
  have each : Json.retold Datum.mated (e.record clock) = (e.record clock).map id :=
    List.map_congr_left fun field told => Prod.ext rfl (same field told)
  rw [each, List.map_id]

theorem record_nodup (e : Event) (clock : Int) : ((e.record clock).map Prod.fst).Nodup := by
  cases e <;> simp [record, details]

end Event

/-- A line of the log that says what an event at a time says. -/
structure Audit.Copies (clock : Int) (e : Event) (line : Line) : Prop where
  level : line.level = e.severity
  ascii : e.IsOfCodes → ∀ c ∈ line.text.toList, ' ' ≤ c ∧ c ≤ '~'
  mated : e.IsOfCodes → e.Short →
    Json.read line.text = .ok (.map (Json.keyed (Json.retold Datum.mated (e.record clock))))
  reading : e.IsOfCodes → e.Short → e.HoldsNoPair →
    Json.read line.text = .ok (.map (Json.keyed (e.record clock)))

theorem Event.line_copies (clock : Int) (e : Event) : Audit.Copies clock e (e.line clock) := by
  have mated (codes : e.IsOfCodes) (short : e.Short) :=
    Json.read_record (record_leaves short codes clock) (e.record_nodup clock)
  refine ⟨rfl, ?_, mated, ?_⟩
  · intro codes c member
    rw [line, Json.render, String.toList_ofList] at member
    exact Json.Plain.record (record_plain codes clock) c member
  · intro codes short none
    rw [← record_mated none clock]
    exact mated codes short

theorem Audit.lineOf_notice (clock : Int) (e : Event) : lineOf? clock e.notice = some (e.line clock) := by
  cases e <;>
    simp [lineOf?, Hook.ofName?, Event.notice, Audit.line, fields, value, errorText, Datum.lookup,
      Event.entry, Event.line, Event.record, Event.details, Event.excerpt, Json.keyed, level,
      Event.severity, Hook.word, Event.word, Datum.shown_ofText, maxErrorText]

theorem Observer.logger_told (story : List (Int × Event)) (j : Journal) :
    Callback.told story (logger.callback j) =
      logger.callback ⟨j.notices, j.audit ++ story.map fun e => e.2.line e.1⟩ := by
  induction story generalizing j with
  | nil =>
    rw [List.map_nil, List.append_nil]
    rfl
  | cons e rest ih =>
    have heard : j.add e.1 e.2.notice logger = ⟨j.notices, j.audit ++ [e.2.line e.1]⟩ := by
      rw [Journal.add, Audit.lineOf_notice]
      rfl
    -- A logger that has heard an event is a logger with one more line behind it.
    show Callback.told rest (logger.callback (j.add e.1 e.2.notice logger)) = _
    rw [heard, ih, List.append_assoc]
    rfl

theorem Journal.ofEvents_audit {observers : List Observer} (single : observers.count .logger = 1)
    (clock : Int) (events : List Event) :
    (ofEvents observers clock events).audit = events.map (Event.line clock) := by
  have each (j : Journal) : (events.foldl (fun j e => fire observers clock j e.notice) j).audit =
      j.audit ++ events.map (Event.line clock) := by
    induction events generalizing j with
    | nil => exact (List.append_nil _).symm
    | cons e rest ih =>
      rw [List.foldl_cons, ih, fire_eq, gathered, single, Audit.lineOf_notice]
      simp
  exact each {}

namespace Run

variable {σ : Type} {c : Collaborators σ}

theorem Attempt.index_le {turns : List (Turn σ)} {m : Machine σ} {a : Attempt σ}
    (among : a ∈ attempts c turns ⟨m, {}⟩) : a.index ≤ (deeds c turns ⟨m, {}⟩).length := by
  obtain ⟨before, later, split⟩ := List.append_of_mem among
  rw [attempts_index split, ← attempts_deeds turns Ledger.isOpen_fresh, split, List.filterMap_append,
    List.length_append]
  exact Nat.le_add_right_of_le (List.length_filterMap_le _ _)

theorem Attempt.trace_short {a : Attempt σ} (index : IsShort a.index)
    (budget : ∀ d, a = .done d → IsShort d.step.maxUnits ∧ IsShort d.params.length) :
    ∀ e ∈ a.trace, e.Short := by
  intro e member
  cases a with
  | stopped s f =>
    cases f with
    | rejected r =>
      rw [List.mem_singleton.mp member]
      exact List.forall_mem_singleton.mpr index
    | broken | aborted | reported | misshapen | fault | foreign => cases member
  | done d =>
    obtain ⟨maxUnits, paramCount⟩ := budget d rfl
    rcases List.mem_cons.mp member with rfl | last
    · intro i told
      simp only [Event.numbers, List.mem_cons, List.not_mem_nil, or_false] at told
      rcases told with rfl | rfl | rfl
      · exact index
      · exact maxUnits
      · exact paramCount
    · split at last
      · cases last
      · split at last <;> rw [List.mem_singleton.mp last] <;> exact List.forall_mem_singleton.mpr index

/-- The audit log is a copy of the events. Among callbacks whose failures are dropped, a logger in front of
which all leave the data as they are is left by a history on a fresh ledger with one line for each event, in
the order of the events, which are the traces of the attempts. Likewise one logger among the observers of an
operation writes one line for each of its events. A line is as severe as its event; it is printable ASCII,
so that it is one line; and it is read as the record of the event, which holds all that the event tells, but
of an error only the first 200 code points. Where the halves of a surrogate pair stand side by side in a
text, the one character is read that they stand for. That is, if the numbers of the event can be written and
read: those of a history of checked steps can, as long as neither the steps carried out nor the parameters
of one of them are more than a number can say. -/
theorem audit_log_copies_the_events (c : Collaborators σ) (m : Machine σ) (turns : List (Turn σ))
    (front later : List Callback) (tame : ∀ cb ∈ front ++ later, cb.IsTame)
    (passes : ∀ cb ∈ front, cb.PassesOn) :
    let s : Session σ := ⟨m, {}⟩
    let told := story c turns s
    let heard := playHeard c turns s (front ++ Observer.logger.callback :: later)
    told.map Prod.snd = (attempts c turns s).flatMap Attempt.trace ∧
    (∃ log, heard.callbacks[front.length]? = some (Observer.logger.callback ⟨[], log⟩) ∧
      List.Forall₂ (fun e line => Audit.Copies e.1 e.2 line) told log) ∧
    (∀ (observers : List Observer) (clock : Int) (events : List Event), observers.count .logger = 1 →
      List.Forall₂ (Audit.Copies clock) events (Journal.ofEvents observers clock events).audit) ∧
    ((∀ turn ∈ turns, turn.IsChecked) → IsShort (deeds c turns s).length →
      (∀ d ∈ deeds c turns s, IsShort d.params.length) → ∀ e ∈ told, e.2.Short) := by
  intro s told heard
  have events := story_events (c := c) (s := s) turns Ledger.isOpen_fresh
  refine ⟨events, ?_, ?_, ?_⟩
  · refine ⟨told.map fun e => e.2.line e.1, ?_, ?_⟩
    · obtain ⟨before, behind⟩ := List.forall_mem_append.mp tame
      have all := playHeard_front (c := c) (s := s)
        (fun cb member => ⟨before cb member, passes cb member⟩)
        (List.forall_mem_cons.mpr ⟨(Observer.callback_quiet .logger {}).1, behind⟩) turns
      rw [Observer.logger_told] at all
      exact all
    · rw [List.forall₂_map_right_iff, List.forall₂_same]
      exact fun e _ => e.2.line_copies e.1
  · intro observers clock events single
    rw [Journal.ofEvents_audit single, List.forall₂_map_right_iff, List.forall₂_same]
    exact fun e _ => e.line_copies clock
  · intro checked count params e member
    have among : e.2 ∈ (attempts c turns s).flatMap Attempt.trace := events ▸ List.mem_map_of_mem member
    obtain ⟨a, tried, inside⟩ := List.mem_flatMap.mp among
    have index : IsShort a.index := Nat.lt_of_le_of_lt (Attempt.index_le tried) count
    refine Attempt.trace_short index ?_ e.2 inside
    rintro d rfl
    have done : d ∈ deeds c turns s := by
      rw [← attempts_deeds turns Ledger.isOpen_fresh]
      exact List.mem_filterMap.mpr ⟨_, tried, rfl⟩
    have known := deeds_isChecked Ledger.isOpen_fresh checked d done
    exact ⟨Step.budget_short known, params d done⟩

def verbose : Event := .failed 7 (String.ofList (List.replicate 199 'é' ++ ['😀', '"', '\n'])) "crash"

theorem logger_copies_run_and_cuts_verbose :
    let c := collaborators sevens
    let turns := [.call {} (.one (callZeros .execute)), .call {} (.one empty)]
    let heard := playHeard c turns ⟨blank, {}⟩
      [Observer.failing.callback, Observer.logger.callback, eraser]
    (∃ first second third clock,
      heard.callbacks[1]? = some (Observer.logger.callback ⟨[], [first, second, third]⟩) ∧
      [first.level, second.level, third.level] = [.info, .info, .error] ∧
      Json.read third.text = .ok (.map (Json.keyed
        [("event", .text "step_rejected"), ("ts", .text (Moment.stamp clock)), ("step_index", .int 1),
          ("error_kind", .text "invalid_step"), ("error", .text "step 1: no params found")]))) ∧
    ∃ line, (Journal.ofEvents [.recorder, .logger, .failing] 0 [verbose]).audit = [line] ∧
      line.level = .warning ∧ ∃ d, Json.read line.text = .ok d ∧
        d.get? "error" = some (.text (String.ofList (List.replicate 199 'é' ++ ['😀']))) := by
  intro c turns heard
  have quiet := Observer.callback_quiet .failing {}
  obtain ⟨told, ⟨log, logged, copies⟩, observed, short⟩ := audit_log_copies_the_events c blank turns
    [Observer.failing.callback] [eraser]
    (List.forall_mem_cons.mpr ⟨quiet.1, List.forall_mem_singleton.mpr fun _ _ _ _ => nofun⟩)
    (List.forall_mem_singleton.mpr quiet.2)
  have digit {i : Int} (small : i.natAbs < 10) : IsShort i :=
    Nat.lt_of_lt_of_le small (Nat.le_self_pow (by decide) 10)
  constructor
  · obtain ⟨d, s, f, tried, params, trace⟩ := attempts_sevens
    have checked : ∀ turn ∈ turns, turn.IsChecked := by
      simp only [turns, List.forall_mem_cons]
      exact ⟨show (callZeros .execute).isChecked = true by decide, show empty.isChecked = true by decide,
        List.forall_mem_nil _⟩
    have one : deeds c turns ⟨blank, {}⟩ = [d] := by
      rw [← attempts_deeds turns Ledger.isOpen_fresh, tried]
      rfl
    rw [one] at short
    have count : IsShort [d].length := digit (i := 1) (by decide)
    have short := short checked count (List.forall_mem_singleton.mpr (by rw [params]; exact count))
    rw [tried, trace] at told
    generalize story c turns ⟨blank, {}⟩ = events at told copies short
    obtain ⟨_, _, rfl, start, later⟩ := List.map_eq_cons_iff.mp told
    obtain ⟨_, _, rfl, finish, last⟩ := List.map_eq_cons_iff.mp later
    obtain ⟨⟨clock, _⟩, _, rfl, rfl, none⟩ := List.map_eq_cons_iff.mp last
    obtain rfl := List.map_eq_nil_iff.mp none
    rcases copies with _ | ⟨first, _ | ⟨second, _ | ⟨third, _ | _⟩⟩⟩
    obtain ⟨codes, none⟩ := Event.readable_of_whole
      (e := .rejected 1 "step 1: no params found" "invalid_step") (List.forall_mem_singleton.mpr rfl)
    refine ⟨_, _, _, clock, logged, ?_, third.reading codes (short _ (by simp)) none⟩
    rw [first.level, second.level, third.level, start, finish]
    rfl
  · have copied := observed [.recorder, .logger, .failing] 0 [verbose] rfl
    generalize (Journal.ofEvents [.recorder, .logger, .failing] 0 [verbose]).audit = audit at copied ⊢
    rcases copied with _ | ⟨copy, _ | _⟩
    have seven : verbose.Short := List.forall_mem_singleton.mpr (digit (by decide))
    obtain ⟨codes, none⟩ := Event.readable_of_whole (e := verbose)
      (List.forall_mem_cons.mpr ⟨rfl, List.forall_mem_singleton.mpr rfl⟩)
    refine ⟨_, rfl, copy.level, _, copy.reading codes seven none, ?_⟩
    have error (text : String) (kind : Option Text) :
        (Datum.map (Json.keyed ((Event.failed 7 text kind).record 0))).get? "error" =
          some (.ofText (Event.excerpt text)) := by
      simp [Event.record, Event.details, Json.keyed, Datum.get?, Datum.opened, Datum.lookup]
    rw [verbose, error, Event.excerpt, Text.take, String.toList_ofList, List.take_append,
      List.take_replicate, List.length_replicate]
    rfl

def callHalves : Step := { callZeros .execute with method := .torn [0xD83D, 0xDE00] rfl }

/-- The log tells halves of a surrogate pair as one character. Behind a callback that leaves no data, it
tells nothing of the step. -/
theorem halves_are_joined_and_erased_data_is_missing :
    let c := collaborators sevens
    let turns := [.call {} (.one callHalves)]
    (∃ first rest, (playHeard c turns ⟨blank, {}⟩ [Observer.logger.callback]).callbacks[0]? =
        some (Observer.logger.callback ⟨[], first :: rest⟩) ∧
      (story c turns ⟨blank, {}⟩)[0]? = some (0, .started 0 "execute" callHalves.method 0 1) ∧
      ∃ d, Json.read first.text = .ok d ∧ d.get? "method" = some (.text "😀")) ∧
    ∃ line, Callback.fire 0 (Event.started 3 "execute" "m" 5 1).notice
        [eraser, Observer.logger.callback] =
        (.ok (), [eraser, Observer.logger.callback ⟨[], [line]⟩]) ∧
      ∃ d, Json.read line.text = .ok d ∧ d.get? "step_index" = some (.int 0) ∧
        d.get? "method" = some (.text "") := by
  intro c turns
  have one {i : Int} (small : i.natAbs < 10) : IsShort i :=
    Nat.lt_of_lt_of_le small (Nat.le_self_pow (by decide) 10)
  constructor
  · have carried : CarriesOut c {} callHalves ⟨blank, {}⟩ [⟨.id, List.replicate 32 0⟩] :=
      run_prepared Ledger.isOpen_fresh rfl rfl
    have told : story c turns ⟨blank, {}⟩ = (0, .started 0 "execute" callHalves.method 0 1) ::
        (endings callHalves (carryOut c {} callHalves [⟨.id, List.replicate 32 0⟩] ⟨blank, {}⟩).1).map (0, ·) := by
      simp only [turns, story, Request.serve, Ran.alone, carried.events, List.map_cons, List.append_nil]
      rfl
    obtain ⟨_, ⟨log, logged, copies⟩, _⟩ := audit_log_copies_the_events c blank turns [] []
      (List.forall_mem_nil _) (List.forall_mem_nil _)
    rw [told] at copies ⊢
    rcases copies with _ | ⟨first, _⟩
    have short : (Event.started 0 "execute" callHalves.method 0 1).Short := by
      simp only [Event.Short, Event.numbers, List.forall_mem_cons]
      exact ⟨one (by decide), one (by decide), one (by decide), List.forall_mem_nil _⟩
    have codes : (Event.started 0 "execute" callHalves.method 0 1).IsOfCodes :=
      List.forall_mem_singleton.mpr (by unfold Text.IsOfCodes; decide)
    refine ⟨_, _, logged, rfl, _, first.mated codes short, ?_⟩
    rfl
  · -- The line of an event that tells nothing is the one that stands for missing data.
    have copy := Event.line_copies 0 (.started 0 "" "" 0 0)
    obtain ⟨codes, none⟩ := Event.readable_of_whole (e := .started 0 "" "" 0 0)
      (List.forall_mem_singleton.mpr rfl)
    have short : (Event.started 0 "" "" 0 0).Short := by
      simp only [Event.Short, Event.numbers, List.forall_mem_cons]
      exact ⟨one (by decide), one (by decide), one (by decide), List.forall_mem_nil _⟩
    exact ⟨_, rfl, _, copy.reading codes short none, rfl, rfl⟩

end Run

end Rehearsal
