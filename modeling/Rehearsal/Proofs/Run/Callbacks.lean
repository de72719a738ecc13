import Rehearsal.Audit
import Rehearsal.Proofs.Run.Attempts
import Rehearsal.Proofs.Run.Indifference
import Rehearsal.Proofs.Run.PlanSequence

namespace Rehearsal

namespace Callback

/-- A callback whose failures, if it has any, are dropped. -/
def IsTame (cb : Callback) : Prop :=
  ∀ clock n memory f, (cb.hear clock n memory).1 = .error f → f.dropped = .ok ()

/-- A callback that leaves the data as they are. -/
def PassesOn (cb : Callback) : Prop := ∀ clock n memory, (cb.hear clock n memory).2.1 = n.data

def remember (cb : Callback) (clock : Int) (n : Notice) : Callback :=
  { cb with memory := (cb.hear clock n cb.memory).2.2 }

def told (story : List (Int × Event)) (cb : Callback) : Callback :=
  story.foldl (fun cb e => cb.remember e.1 e.2.notice) cb

theorem told_append (first later : List (Int × Event)) (cb : Callback) :
    told (first ++ later) cb = told later (told first cb) := List.foldl_append

theorem map_told_nil (callbacks : List Callback) : callbacks.map (told []) = callbacks :=
  callbacks.map_id

theorem map_told_append (first later : List (Int × Event)) (callbacks : List Callback) :
    callbacks.map (told (first ++ later)) = (callbacks.map (told first)).map (told later) := by
  rw [List.map_map]
  apply List.map_congr_left
  intro cb _
  exact told_append first later cb

def tell (clock : Int) : Tell (List Callback) := fun e callbacks => fire clock e.notice callbacks

theorem fire_cons_tame {cb : Callback} (tame : cb.IsTame) (clock : Int) (n : Notice)
    (rest : List Callback) :
    fire clock n (cb :: rest) =
      let later := fire clock { n with data := (cb.hear clock n cb.memory).2.1 } rest
      (later.1, cb.remember clock n :: later.2) := by
  have drops := tame clock n cb.memory
  rw [fire, remember]
  rcases heard : cb.hear clock n cb.memory with ⟨f | _, data, memory⟩
  · simp only [Except.tryCatch, drops f (by rw [heard])]
  · rfl

theorem fire_tame {callbacks : List Callback} (tame : ∀ cb ∈ callbacks, cb.IsTame) (clock : Int)
    (n : Notice) :
    (fire clock n callbacks).1 = .ok () ∧ ∀ cb ∈ (fire clock n callbacks).2, cb.IsTame := by
  induction callbacks generalizing n with
  | nil => exact ⟨rfl, tame⟩
  | cons cb rest ih =>
    obtain ⟨first, others⟩ := List.forall_mem_cons.mp tame
    obtain ⟨ok, kept⟩ := ih others { n with data := (cb.hear clock n cb.memory).2.1 }
    rw [fire_cons_tame first]
    exact ⟨ok, List.forall_mem_cons.mpr ⟨first, kept⟩⟩

theorem fire_front {front later : List Callback} {cb : Callback}
    (quiet : ∀ cb ∈ front, cb.IsTame ∧ cb.PassesOn) (tame : ∀ other ∈ cb :: later, other.IsTame)
    (clock : Int) (e : Event) :
    ∃ after, fire clock e.notice (front ++ cb :: later) =
        (.ok (), front.map (told [(clock, e)]) ++ told [(clock, e)] cb :: after) ∧
      ∀ cb ∈ after, cb.IsTame := by
  induction front with
  | nil =>
    obtain ⟨own, others⟩ := List.forall_mem_cons.mp tame
    obtain ⟨ok, kept⟩ := fire_tame others clock
      { e.notice with data := (cb.hear clock e.notice cb.memory).2.1 }
    refine ⟨_, ?_, kept⟩
    rw [List.nil_append, fire_cons_tame own]
    exact congrArg₂ Prod.mk ok rfl
  | cons first rest ih =>
    obtain ⟨⟨own, passes⟩, others⟩ := List.forall_mem_cons.mp quiet
    obtain ⟨after, fired, kept⟩ := ih others
    refine ⟨after, ?_, kept⟩
    rw [List.cons_append, fire_cons_tame own, passes, fired]
    rfl

/-- What a dropped failure leaves is never a rejection. -/
theorem dropped_calm (f : Failure) (r : Rejection) : f.dropped ≠ .error (.rejected r) := by
  intro failed
  cases Failure.handled_unknown failed

theorem fire_calm (clock : Int) (n : Notice) (callbacks : List Callback) (r : Rejection) :
    (fire clock n callbacks).1 ≠ .error (.rejected r) := by
  induction callbacks generalizing n with
  | nil => exact fun failed => nomatch failed
  | cons cb rest ih =>
    rw [fire]
    rcases cb.hear clock n cb.memory with ⟨f | _, data, memory⟩
    · cases left : f.dropped with
      | error g =>
        simp only [Except.tryCatch, left]
        rintro ⟨⟩
        exact dropped_calm f r left
      | ok =>
        simp only [Except.tryCatch, left]
        exact ih { n with data }
    · exact ih { n with data }

theorem tellAll_tame {callbacks : List Callback} (tame : ∀ cb ∈ callbacks, cb.IsTame) (clock : Int)
    (events : List Event) :
    (Run.tellAll (tell clock) events callbacks).1 = .ok () ∧
      ∀ cb ∈ (Run.tellAll (tell clock) events callbacks).2, cb.IsTame := by
  induction events generalizing callbacks with
  | nil => exact ⟨rfl, tame⟩
  | cons e rest ih =>
    obtain ⟨ok, kept⟩ := fire_tame tame clock e.notice
    rcases fired : fire clock e.notice callbacks with ⟨result, after⟩
    rw [fired] at ok kept
    subst ok
    simp only [Run.tellAll, tell, fired]
    exact ih kept

theorem told_quiet {cb : Callback} (quiet : cb.IsTame ∧ cb.PassesOn) (story : List (Int × Event)) :
    (told story cb).IsTame ∧ (told story cb).PassesOn := by
  induction story generalizing cb with
  | nil => exact quiet
  | cons e rest ih =>
    have later : (cb.remember e.1 e.2.notice).IsTame ∧ (cb.remember e.1 e.2.notice).PassesOn := quiet
    exact ih later

theorem map_told_quiet {callbacks : List Callback}
    (quiet : ∀ cb ∈ callbacks, cb.IsTame ∧ cb.PassesOn) (story : List (Int × Event)) :
    ∀ cb ∈ callbacks.map (told story), cb.IsTame ∧ cb.PassesOn := by
  intro cb member
  obtain ⟨before, among, rfl⟩ := List.mem_map.mp member
  exact told_quiet (quiet before among) story

theorem told_tame {cb : Callback} (tame : cb.IsTame) (story : List (Int × Event)) :
    (told story cb).IsTame := by
  induction story generalizing cb with
  | nil => exact tame
  | cons e rest ih =>
    have later : (cb.remember e.1 e.2.notice).IsTame := tame
    exact ih later

theorem tellAll_front {front later : List Callback} {cb : Callback}
    (quiet : ∀ cb ∈ front, cb.IsTame ∧ cb.PassesOn) (tame : ∀ other ∈ cb :: later, other.IsTame)
    (clock : Int) (events : List Event) :
    ∃ after, Run.tellAll (tell clock) events (front ++ cb :: later) =
        (.ok (), front.map (told (events.map (clock, ·))) ++ told (events.map (clock, ·)) cb :: after) ∧
      ∀ cb ∈ after, cb.IsTame := by
  induction events generalizing front cb later with
  | nil =>
    refine ⟨later, ?_, (List.forall_mem_cons.mp tame).2⟩
    rw [List.map_nil, map_told_nil, Run.tellAll]
    rfl
  | cons e rest ih =>
    obtain ⟨between, fired, kept⟩ := fire_front quiet tame clock e
    have own := told_tame (List.forall_mem_cons.mp tame).1 [(clock, e)]
    obtain ⟨after, told, left⟩ :=
      ih (map_told_quiet quiet [(clock, e)]) (List.forall_mem_cons.mpr ⟨own, kept⟩)
    refine ⟨after, ?_, left⟩
    rw [← map_told_append, ← told_append] at told
    rw [Run.tellAll, tell, fired]
    exact told

end Callback

namespace Observer

def callback (o : Observer) (gathered : Journal := {}) : Callback where
  Memory := Journal
  hear clock n j :=
    (if o = .failing then .error (.fault (.raised "RuntimeError" "")) else .ok (), n.data, j.add clock n o)
  memory := gathered

theorem callback_quiet (o : Observer) (j : Journal) :
    (o.callback j).IsTame ∧ (o.callback j).PassesOn := by
  refine ⟨?_, fun _ _ _ => rfl⟩
  intro clock n memory f failed
  simp only [callback] at failed
  split at failed <;> cases failed
  rfl

theorem recorder_told (story : List (Int × Event)) (j : Journal) :
    Callback.told story (recorder.callback j) =
      recorder.callback ⟨j.notices ++ (story.map Prod.snd).map Event.notice, j.audit⟩ := by
  induction story generalizing j with
  | nil =>
    rw [List.map_nil, List.map_nil, List.append_nil]
    rfl
  | cons e rest ih =>
    have later := ih (j.add e.1 e.2.notice recorder)
    simp only [Journal.add, List.append_assoc, List.singleton_append] at later
    exact later

end Observer

namespace Run

variable {σ : Type} {c : Collaborators σ} {w : Surroundings} {s : Session σ}

def Request.serveHeard (c : Collaborators σ) (w : Surroundings) (s : Session σ)
    (callbacks : List Callback) : Request → Told σ (List Callback) (List Response)
  | .one step =>
    let told := runTold (Callback.tell w.clock) c w step s callbacks
    ⟨told.result.map fun r => [r], told.session, told.audience⟩
  | .loaded text file =>
    let told := runLoadedTold (Callback.tell w.clock) c w text file s callbacks
    ⟨told.result.map fun r => [r], told.session, told.audience⟩
  | .all plan => runRestTold (Callback.tell w.clock) c w plan.steps.length [] plan.steps s callbacks

theorem follows_map {α β : Type} {told : Told σ (List Callback) α} {ran : Ran σ α}
    {tell : Tell (List Callback)} {m : List Callback} (follows : told.Follows tell m ran) (f : α → β) :
    Told.Follows ⟨told.result.map f, told.session, told.audience⟩ tell m
      ⟨ran.result.map f, ran.session, ran.events⟩ := by
  obtain ⟨audience, heard, escaped⟩ := follows
  refine ⟨audience, ?_, ?_⟩
  · intro ok
    obtain ⟨result, session⟩ := heard ok
    exact ⟨congrArg (Except.map f) result, session⟩
  · intro g failed
    exact congrArg (Except.map f) (escaped g failed)

theorem Request.serveHeard_follows (request : Request) (callbacks : List Callback) :
    (request.serveHeard c w s callbacks).Follows (Callback.tell w.clock) callbacks
      (request.serve c w s) := by
  cases request with
  | one step => exact follows_map (runTold_follows step) _
  | loaded text file => exact follows_map (runLoadedTold_follows text file) _
  | all plan =>
    exact runRestTold_follows (fun e => Callback.fire_calm w.clock e.notice) plan.steps.length []
      plan.steps

structure Heard (σ : Type) where
  answers : List (Except Failure (List Response))
  session : Session σ
  callbacks : List Callback

def playHeard (c : Collaborators σ) : List (Turn σ) → Session σ → List Callback → Heard σ
  | [], s, callbacks => ⟨[], s, callbacks⟩
  | .call w request :: rest, s, callbacks =>
    let told := request.serveHeard c w s callbacks
    let later := playHeard c rest told.session told.audience
    { later with answers := told.result :: later.answers }
  | .edit change :: rest, s, callbacks => playHeard c rest (s.edited change) callbacks

/-- The events of a history, each with its time. -/
def story (c : Collaborators σ) : List (Turn σ) → Session σ → List (Int × Event)
  | [], _ => []
  | .call w request :: rest, s =>
    (request.serve c w s).events.map (w.clock, ·) ++ story c rest (request.serve c w s).session
  | .edit change :: rest, s => story c rest (s.edited change)

theorem playHeard_tame {callbacks : List Callback} (tame : ∀ cb ∈ callbacks, cb.IsTame)
    (turns : List (Turn σ)) :
    (playHeard c turns s callbacks).answers = answers c turns s ∧
      (playHeard c turns s callbacks).session = play c turns s := by
  induction turns generalizing s callbacks with
  | nil => exact ⟨rfl, rfl⟩
  | cons turn rest ih =>
    cases turn with
    | edit change => exact ih tame
    | call w request =>
      obtain ⟨audience, heard, _⟩ := request.serveHeard_follows (c := c) (w := w) (s := s) callbacks
      obtain ⟨ok, kept⟩ := Callback.tellAll_tame tame w.clock (request.serve c w s).events
      obtain ⟨result, session⟩ := heard ok
      rw [← audience] at kept
      obtain ⟨later, left⟩ := ih (s := (request.serve c w s).session) kept
      simp only [playHeard, result, session, later, left]
      exact ⟨rfl, rfl⟩

/-- A callback is told the whole story if those in front also leave the data as they are. -/
theorem playHeard_front {front later : List Callback} {cb : Callback}
    (quiet : ∀ cb ∈ front, cb.IsTame ∧ cb.PassesOn) (tame : ∀ other ∈ cb :: later, other.IsTame)
    (turns : List (Turn σ)) :
    (playHeard c turns s (front ++ cb :: later)).callbacks[front.length]? =
      some (Callback.told (story c turns s) cb) := by
  induction turns generalizing s front cb later with
  | nil => rw [playHeard, List.getElem?_append_right (Nat.le_refl _), Nat.sub_self]; rfl
  | cons turn rest ih =>
    cases turn with
    | edit change => exact ih quiet tame
    | call w request =>
      let told := (request.serve c w s).events.map (w.clock, ·)
      obtain ⟨audience, heard, _⟩ :=
        request.serveHeard_follows (c := c) (w := w) (s := s) (front ++ cb :: later)
      obtain ⟨between, all, kept⟩ :=
        Callback.tellAll_front quiet tame w.clock (request.serve c w s).events
      rw [all] at audience heard
      obtain ⟨_, session⟩ := heard rfl
      have own := Callback.told_tame (List.forall_mem_cons.mp tame).1 told
      have now := ih (s := (request.serve c w s).session) (Callback.map_told_quiet quiet told)
        (List.forall_mem_cons.mpr ⟨own, kept⟩)
      rw [List.length_map, ← Callback.told_append] at now
      simp only [playHeard, session, audience]
      exact now

theorem story_events (turns : List (Turn σ)) (opened : s.ledger.IsOpen) :
    (story c turns s).map Prod.snd = (attempts c turns s).flatMap Attempt.trace := by
  induction turns generalizing s with
  | nil => rfl
  | cons turn rest ih =>
    have later := ih (turn.play_isOpen (c := c) opened)
    rw [attempts, List.flatMap_append, ← later]
    cases turn with
    | edit change => rfl
    | call w request =>
      have now := request.serve_events (c := c) (w := w) opened
      simp only [story, List.map_append, List.map_map, Function.comp_def, List.map_id', now]
      rfl

/-- What callbacks are told of an attempt, by the names and the fields of the notices. -/
def Attempt.notices : Attempt σ → List Notice
  | done d =>
    let index := (.text "step_index", .int d.before.ledger.step)
    let heading := [(.text "endpoint", .text d.step.endpoint.label), (.text "method", .ofText d.step.method)]
    ⟨"step_started", index :: heading ++
      [(.text "max_units", .int d.step.maxUnits), (.text "param_count", .int d.params.length)]⟩ ::
      match d.answer with
      | .error _ => []
      | .ok r =>
        match r.error with
        | none =>
          [⟨"step_completed", index :: heading ++
            [(.text "tx_id", (r.result.id.map Datum.ofText).getD .null)]⟩]
        | some error =>
          [⟨"step_failed", [index, (.text "error", .ofText error),
            (.text "error_kind", (r.errorKind.map Datum.ofText).getD .null)]⟩]
  | stopped s (.rejected r) =>
    [⟨"step_rejected", [(.text "step_index", .int s.ledger.step), (.text "error", .ofText r.message),
      (.text "error_kind", .text r.family.code)]⟩]
  | stopped _ _ => []

theorem Attempt.map_notice_trace (a : Attempt σ) : a.trace.map Event.notice = a.notices := by
  cases a with
  | stopped s f => cases f <;> rfl
  | done d =>
    simp only [trace, notices, List.map_cons]
    cases d.answer with
    | error f => rfl
    | ok r =>
      simp only
      cases r.error <;> rfl

theorem map_notice_traces (as : List (Attempt σ)) :
    (as.flatMap Attempt.trace).map Event.notice = as.flatMap Attempt.notices := by
  rw [List.map_flatMap]
  congr
  funext a
  exact a.map_notice_trace

def isStart (n : Notice) : Bool := n.name == "step_started"

theorem countP_notices (as : List (Attempt σ)) :
    (as.flatMap Attempt.notices).countP isStart = (as.filterMap Attempt.deed?).length := by
  rw [← map_notice_traces, List.countP_map, ← Attempt.countP_trace]
  congr
  funext e
  cases e <;> rfl

theorem Deed.Genuine.errorKind {d : Deed σ} {r : Response} (genuine : d.Genuine c)
    (tells : c.FailRecordably) (answered : d.answer = .ok r) :
    r.error.isSome = r.errorKind.isSome := by
  have made := genuine.answer.symm.trans answered
  rcases carryOut_ok made with ⟨_, _, rfl⟩ | ⟨f, text, kind, failed, recorded, rfl⟩
  · rfl
  · obtain ⟨_, _, other⟩ := Dispatch.perform_error_isRecordable tells failed
    cases recorded.kind.symm.trans other.kind
    rfl

theorem attempts_index {turns : List (Turn σ)} {m : Machine σ} {before later : List (Attempt σ)}
    {a : Attempt σ} (split : attempts c turns ⟨m, {}⟩ = before ++ a :: later) :
    a.index = (recorded before).length := by
  have numbered := attempts_numbered (c := c) (s := ⟨m, {}⟩) turns Ledger.isOpen_fresh
  rw [split] at numbered
  exact numbered.index.trans (Nat.zero_add _)

theorem sevens_events :
    (run (collaborators sevens) {} (callZeros .execute) ⟨blank, {}⟩).events =
      [.started 0 "execute" "m" 0 1,
        .completed 0 "execute" "m" (some (.whole (Hex.encode (List.replicate 32 7))))] := by
  obtain ⟨r, answered, produced⟩ := callZeros_sevens
  have carried := callZeros_carriesOut (collaborators sevens) (e := .execute) (.inl rfl)
  have error := Option.isNone_iff_eq_none.mp (producedId_eq_some.mp produced).1
  rw [carried.events, answered, endings, ending, error, produced, carryOut_id answered]
  rfl

theorem attempts_sevens :
    let turns := [.call {} (.one (callZeros .execute)), .call {} (.one empty)]
    ∃ d s f, attempts (collaborators sevens) turns ⟨blank, {}⟩ = [.done d, .stopped s f] ∧
      d.params.length = 1 ∧
      [Attempt.done d, .stopped s f].flatMap Attempt.trace = [.started 0 "execute" "m" 0 1,
        .completed 0 "execute" "m" (some (.whole (Hex.encode (List.replicate 32 7)))),
        .rejected 1 "step 1: no params found" "invalid_step"] := by
  intro turns
  let c := collaborators sevens
  obtain ⟨r, answered, _⟩ := callZeros_sevens
  have carried := callZeros_carriesOut c (e := .execute) (.inl rfl)
  have counter := (carried.ledger.recorded r answered).step
  have opened := carried.ledger.isOpen Ledger.isOpen_fresh
  have first := (carried.trace (run c {} (callZeros .execute) ⟨blank, {}⟩).session).symm.trans
    sevens_events
  rw [answered] at first
  have stop := (run_rejected (empty_rejected c {}
    (run c {} (callZeros .execute) ⟨blank, {}⟩).session)).2.2
  simp only [turns, attempts, Turn.attempts, Request.attempts, Turn.play, Request.serve, Ran.alone]
  rw [attemptsOf_recorded [] carried answered, attemptsOf_stopped [] opened stop]
  refine ⟨_, _, _, rfl, rfl, ?_⟩
  rw [List.flatMap_cons, first, List.flatMap_singleton, Attempt.trace, counter]
  rfl

def eraser : Callback where
  Memory := Unit
  hear _ _ memory := (.ok (), [], memory)
  memory := ()

end Run

end Rehearsal
