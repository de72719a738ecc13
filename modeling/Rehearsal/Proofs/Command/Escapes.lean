import Rehearsal.Proofs.Command.ExitCodes
import Rehearsal.Proofs.Display.MarkupText
import Rehearsal.Proofs.Display.Opening
import Rehearsal.Proofs.Run.KnownFailures
import Rehearsal.Proofs.Store.Bindings

namespace Rehearsal.Command

variable {σ : Type}

inductive Point
  | start
  | load
  | steps

def showAll (json : Bool) (last : Shown) : List Response → Shown
  | [] => last
  | r :: rest => do return (← print json r) ++ (← showAll json last rest)

def showStopped (file : Text) (json : Bool) (total : Nat) : Failure → Shown
  | .aborted _ rs _ _ cause => showAll json (if json then .ok "" else showAborted file total rs cause) rs
  | f => showFailure f

def showEnded (rs : List Response) (k : Nat) : Failure → Shown
  | .rejected r => showAll true (jsonLine (refuse k r)) rs
  | _ => showAll true (.ok "") rs

/-- A failure that stops a command at a point, and what is shown of it if the command handles it. -/
inductive Stops (w : Workplace σ) (config : Config) : Order → Point → Failure → Shown → Prop
  | step {source json f} (fails : Interpreter.load w.modules config.interpreter = .error f) :
      Stops w config (.run source json) .start f (showFailure f)
  | stepRun {source json interpreter f}
      (ready : Interpreter.load w.modules config.interpreter = .ok interpreter)
      (fails : (Run.runLoaded (Run.collaborators interpreter.invoke) w.surroundings source.text
        source.file (fresh w)).result = .error f) :
      Stops w config (.run source json) .steps f (showFailure f)
  | planLoad {file json f} (fails : Load.plan w.surroundings.files file = .error f) :
      Stops w config (.plan file json) .load f (showFailure f)
  | plan {file json p f} (loaded : Load.plan w.surroundings.files file = .ok p)
      (fails : Interpreter.load w.modules config.interpreter = .error f) :
      Stops w config (.plan file json) .start f (showFailure f)
  | planRun {file json p interpreter f} (loaded : Load.plan w.surroundings.files file = .ok p)
      (ready : Interpreter.load w.modules config.interpreter = .ok interpreter)
      (fails : (Run.runPlan (Run.collaborators interpreter.invoke) w.surroundings p (fresh w)).result =
        .error f) :
      Stops w config (.plan file json) .steps f (showStopped file json p.steps.length f)
  | lines {f} (fails : Interpreter.load w.modules config.interpreter = .error f) :
      Stops w config .interpreter .start f (showFailure f)
  | linesRun {interpreter rs k f}
      (ready : Interpreter.load w.modules config.interpreter = .ok interpreter)
      (talks : Talks (Run.collaborators interpreter.invoke) w.surroundings (fresh w) (w.input.splitOn "\n")
        rs (some (k, f))) :
      Stops w config .interpreter .steps f (showEnded rs k f)

/-- The failures that a command does not handle though they are known. -/
def Escapes : Order → Point → Failure → Prop
  | .interpreter, .start, _ => True
  | .plan .., .steps, f | .interpreter, .steps, f => ∃ name, f = .broken (.corruptKey name)
  | _, _, _ => False

namespace Report

/-- A report of all that is shown and of a failure, or else of the fault in what is shown. -/
def Tells (r : Report) : Shown → Prop
  | .ok text => r.Shows text 1
  | .error fault => r.exitCode = 1 ∧ r.failure = some (.fault fault)

def Handles (r : Report) : Prop := ∀ f, r.failure = some f → f.isKnown = false

structure Settles (r : Report) (escapes : Prop) (f : Failure) (shown : Shown) : Prop where
  handles : f.isKnown = false → r.Handles
  tells : f.isKnown = true → ¬ escapes → r.Tells shown
  escapes : f.isKnown = true → escapes → r.failure = some f ∧ r.exitCode = 1

variable {r : Report} {shown : Shown} {f : Failure}

theorem showing_tells (shown : Shown) : (showing 1 shown).Tells shown := by
  cases shown with
  | ok text => exact ⟨rfl, rfl, rfl⟩
  | error fault => exact ⟨rfl, rfl⟩

theorem Tells.exitCode (tells : r.Tells shown) : r.exitCode = 1 := by
  cases shown with
  | ok text => exact Shows.exitCode tells
  | error fault => exact tells.1

theorem Tells.handles (tells : r.Tells shown) : r.Handles := by
  intro f failed
  cases shown with
  | ok text => cases (Shows.failure tells).symm.trans failed
  | error fault =>
    cases tells.2.symm.trans failed
    rfl

theorem showing_handles (code : Nat) (shown : Shown) : (showing code shown).Handles := by
  intro f failed
  cases shown <;> cases failed
  rfl

theorem crash_handles (unknown : f.isKnown = false) : (crash f).Handles := by
  intro g failed
  cases failed
  exact unknown

theorem crash_settles {escapes : Prop} (f : Failure) (shown : Shown)
    (unhandled : f.isKnown = true → escapes) : (crash f).Settles escapes f shown where
  handles := crash_handles
  tells known reported := absurd (unhandled known) reported
  escapes known _ := ⟨rfl, Failure.exitCode_known known⟩

theorem stopped_settles (f : Failure) : (stopped f).Settles False f (showFailure f) where
  handles unknown := by
    rw [stopped, unknown]
    exact crash_handles unknown
  tells known _ := by
    rw [stopped, known]
    exact showing_tells _
  escapes _ impossible := impossible.elim

theorem Settles.behindAudit {escapes : Prop} (settles : r.Settles escapes f shown)
    (audit : List Audit.Line) : (r.behindAudit audit).Settles escapes f shown where
  handles := settles.handles
  tells known reported := by
    have tells := settles.tells known reported
    cases shown with
    | ok text => exact Shows.behindAudit tells audit
    | error fault => exact tells
  escapes := settles.escapes

theorem Settles.escaped {escapes : Prop} {g : Failure} (settles : r.Settles escapes g shown)
    (failed : r.failure = some f) (known : f.isKnown = true) : f = g ∧ escapes := by
  cases knownToo : g.isKnown with
  | false => cases known.symm.trans (settles.handles knownToo f failed)
  | true =>
    by_cases here : escapes
    · cases failed.symm.trans (settles.escapes knownToo here).1
      exact ⟨rfl, here⟩
    · cases known.symm.trans ((settles.tells knownToo here).handles f failed)

end Report

theorem printAll_tells {json : Bool} {next : Report} {last : Shown} (tells : next.Tells last)
    (rs : List Response) : (printAll json next rs).Tells (showAll json last rs) := by
  induction rs with
  | nil => exact tells
  | cons r rest ih =>
    rw [printAll, showAll]
    cases print json r with
    | error fault => exact ⟨rfl, rfl⟩
    | ok output =>
      cases later : showAll json last rest with
      | error fault =>
        rw [later] at ih
        exact ih
      | ok text =>
        rw [later] at ih
        exact Report.Shows.behind ih output

theorem printAll_handles {json : Bool} {next : Report} (handles : next.Handles) (rs : List Response) :
    (printAll json next rs).Handles := by
  induction rs with
  | nil => exact handles
  | cons r rest ih =>
    rw [printAll]
    cases print json r with
    | error fault => exact Report.crash_handles rfl
    | ok output => exact ih

theorem planReport_tells (file : Text) (json : Bool) (total : Nat) (rs : List Response)
    (cause : Option Failure) :
    (planReport file json total rs (some (causeText cause))).Tells
      (showAll json (if json then .ok "" else showAborted file total rs cause) rs) := by
  apply printAll_tells
  unfold showAborted
  cases json with
  | true => exact ⟨rfl, rfl, rfl⟩
  | false =>
    cases causeText cause with
    | ok text => exact Report.showing_tells _
    | error fault => exact ⟨rfl, rfl⟩

theorem planReport_handles (file : Text) (json : Bool) (total : Nat) (rs : List Response) :
    (planReport file json total rs none).Handles := by
  apply printAll_handles
  cases json with
  | true =>
    intro f failed
    cases failed
  | false => exact Report.showing_handles _ _

section

variable {c : Collaborators σ} {w : Surroundings} {s : Session σ}

theorem Talks.known {lines : List String} {rs : List Response} {k : Nat} {f : Failure}
    (talks : Talks c.storedKeys w s lines rs (some (k, f))) (opened : s.ledger.IsOpen)
    (known : f.isKnown = true) : (∃ r, f = .rejected r) ∨ ∃ name, f = .broken (.corruptKey name) := by
  -- Lines that are answered or blank hand the ending on to the lines behind them.
  generalize ending : some (k, f) = e at talks
  induction talks with
  | finished | farewell => cases ending
  | blank empty later ih => exact ih opened ending
  | misread request fails =>
    cases ending
    exact .inl (read_known fails)
  | stopped request reads fails =>
    cases ending
    exact Run.runLoaded_known opened fails known
  | unwritten =>
    cases ending
    cases known
  | answered request reads returns told later ih => exact ih (Run.runLoaded_ok opened returns).2 ending

end

section

variable {w : Workplace σ} {config : Config} {order : Order} {point : Point} {f : Failure}
  {shown : Shown}

theorem settles_planRun {file : Text} {json : Bool} {p : Plan} {interpreter : Interpreter.Loaded σ}
    (loaded : Load.plan w.surroundings.files file = .ok p)
    (ready : Interpreter.load w.modules config.interpreter = .ok interpreter)
    (fails : (Run.runPlan (Run.collaborators interpreter.invoke) w.surroundings p (fresh w)).result =
      .error f) :
    (runPlan w config file json).Settles (∃ name, f = .broken (.corruptKey name)) f
      (showStopped file json p.steps.length f) := by
  have opened : (fresh w).ledger.IsOpen := Ledger.isOpen_fresh
  have cases := Run.runPlan_known (c := Run.collaborators interpreter.invoke) opened
    (Load.plan_isChecked loaded) fails
  simp only [runPlan, loaded, ready, fails]
  apply Report.Settles.behindAudit
  -- Only an abortion is caught; the one other known failure of a plan is that of a stored key.
  cases f with
  | aborted text rs k total cause =>
    constructor
    · intro unknown
      cases unknown
    · intro _ _
      exact planReport_tells file json p.steps.length rs cause
    · rintro _ ⟨_, other⟩
      cases other
  | rejected | broken | reported | misshapen | fault | foreign =>
    apply Report.crash_settles
    intro known
    rcases cases known with ⟨_, _, _, _, _, other⟩ | corrupt
    · cases other
    · exact corrupt

theorem showAll_writes {rs : List Response} {lines : List String} (writes : Writes rs lines) (last : Shown) :
    showAll true last rs = last.map (terminated lines ++ ·) := by
  induction writes with
  | nil =>
    have same : (fun text : String => terminated [] ++ text) = id := by
      funext text
      simp
    rw [same]
    cases last <;> rfl
  | @cons r line rest lines told _ ih =>
    have printed : print true r = .ok (line ++ "\n") := jsonLine_ok told
    simp only [showAll, ih, printed, terminated_cons]
    cases last <;> simp [bind, Except.bind, pure, Except.pure, Except.map, String.append_assoc]

theorem settles_linesRun {interpreter : Interpreter.Loaded σ} {rs : List Response} {k : Nat}
    (ready : Interpreter.load w.modules config.interpreter = .ok interpreter)
    (talks : Talks (Run.collaborators interpreter.invoke) w.surroundings (fresh w) (w.input.splitOn "\n")
      rs (some (k, f))) :
    (interpret w config).Settles (∃ name, f = .broken (.corruptKey name)) f (showEnded rs k f) := by
  have opened : (fresh w).ledger.IsOpen := Ledger.isOpen_fresh
  have cases := Talks.known (c := Run.collaborators interpreter.invoke) talks opened
  obtain ⟨lines, writes, output, exitCode, failure⟩ := converse_talks talks
  simp only [interpret, ready]
  -- Only a rejection is caught and answered by a response.
  cases f with
  | rejected r =>
    constructor
    · intro unknown
      cases unknown
    · intro _ _
      rw [showEnded, showAll_writes writes]
      cases told : jsonLine (refuse k r) with
      | ok text =>
        have last : closing (some (k, .rejected r)) = ⟨text ++ "", [], 1, none⟩ := by
          rw [closing, emit, told]
          rfl
        rw [last] at output exitCode failure
        rw [String.append_empty] at output
        exact ⟨output, exitCode, failure⟩
      | error fault =>
        have last : closing (some (k, .rejected r)) = .crash (.fault fault) := by
          rw [closing, emit, told]
        rw [last] at exitCode failure
        exact ⟨exitCode, failure⟩
    · rintro _ ⟨_, other⟩
      cases other
  | broken | aborted | reported | misshapen | fault | foreign =>
    constructor
    · intro unknown f failed
      cases failure.symm.trans failed
      exact unknown
    · intro known reported
      rcases cases known with ⟨_, other⟩ | corrupt
      · cases other
      · exact absurd corrupt reported
    · intro known _
      exact ⟨failure, exitCode.trans (Failure.exitCode_known known)⟩

theorem Stops.settles (stops : Stops w config order point f shown) :
    (follow w config order).Settles (Escapes order point f) f shown := by
  cases stops with
  | step fails =>
    simp only [follow, runStep, fails]
    exact Report.stopped_settles f
  | stepRun ready fails =>
    simp only [follow, runStep, ready, fails]
    exact (Report.stopped_settles f).behindAudit _
  | planLoad fails =>
    simp only [follow, runPlan, fails]
    exact Report.stopped_settles f
  | plan loaded fails =>
    simp only [follow, runPlan, loaded, fails]
    exact Report.stopped_settles f
  | planRun loaded ready fails => exact settles_planRun loaded ready fails
  | lines fails =>
    simp only [follow, interpret, fails]
    exact Report.crash_settles f _ fun _ => trivial
  | linesRun ready talks => exact settles_linesRun ready talks

theorem stops_or_handles (w : Workplace σ) (config : Config) (order : Order) :
    (∃ point f shown, Stops w config order point f shown) ∨ (follow w config order).Handles := by
  cases order with
  | config => exact .inr (Report.showing_handles 0 _)
  | run source json =>
    cases ready : Interpreter.load w.modules config.interpreter with
    | error f => exact .inl ⟨_, _, _, .step ready⟩
    | ok interpreter =>
      cases result : (Run.runLoaded (Run.collaborators interpreter.invoke) w.surroundings source.text
        source.file (fresh w)).result with
      | error f => exact .inl ⟨_, _, _, .stepRun ready result⟩
      | ok r =>
        right
        simp only [follow, runStep, ready, result]
        exact Report.showing_handles (exitCode r.isOk) (print json r)
  | plan file json =>
    cases loaded : Load.plan w.surroundings.files file with
    | error f => exact .inl ⟨_, _, _, .planLoad loaded⟩
    | ok p =>
      cases ready : Interpreter.load w.modules config.interpreter with
      | error f => exact .inl ⟨_, _, _, .plan loaded ready⟩
      | ok interpreter =>
        cases result : (Run.runPlan (Run.collaborators interpreter.invoke) w.surroundings p
          (fresh w)).result with
        | error f => exact .inl ⟨_, _, _, .planRun loaded ready result⟩
        | ok rs =>
          right
          simp only [follow, runPlan, loaded, ready, result]
          exact planReport_handles file json p.steps.length rs
  | interpreter =>
    cases ready : Interpreter.load w.modules config.interpreter with
    | error f => exact .inl ⟨_, _, _, .lines ready⟩
    | ok interpreter =>
      obtain ⟨rs, e, talks⟩ := talks_total (Run.collaborators interpreter.invoke) w.surroundings
        (fresh w) (w.input.splitOn "\n")
      cases e with
      | some ending => exact .inl ⟨_, _, _, .linesRun ready talks⟩
      | none =>
        right
        simp only [follow, interpret, ready]
        intro f failed
        obtain ⟨_, _, ends⟩ := converse_talks talks
        cases ends.failure.symm.trans failed

theorem readSettings_unknown {environment : List (String × String)} {files : Files}
    (failed : Config.read environment files = .error f) : f.isKnown = false := by
  rcases Outcome.bind_error.mp failed with unread | ⟨inFile, _, failed⟩
  · unfold Config.fileValues at unread
    split at unread
    · split at unread
      · cases unread
        rfl
      · cases unread
    · cases unread
    · split at unread <;> cases unread
      rfl
  · simp only at failed
    split at failed
    · cases failed
      rfl
    · cases failed

theorem configure_unknown (failed : configure w = .error f) : f.isKnown = false := by
  rcases Outcome.bind_error.mp failed with unread | ⟨config, _, failed⟩
  · exact readSettings_unknown unread
  · rcases Outcome.bind_error.mp failed with unchecked | ⟨_, _, returned⟩
    · unfold Config.checkLevel at unchecked
      split at unchecked <;> cases unchecked
      rfl
    · cases returned

theorem ordered_or_handles (w : Workplace σ) (arguments : List Text) :
    (∃ order config, Request.read arguments = .order (some order) ∧ configure w = .ok config) ∨
      (execute w arguments).Handles := by
  cases asked : Request.read arguments with
  | version | help | unknown =>
    right
    simp only [execute, asked]
    intro f failed
    cases failed
  | order order =>
    cases configured : configure w with
    | error f =>
      right
      simp only [execute, asked, configured]
      exact Report.crash_handles (configure_unknown configured)
    | ok config =>
      cases order with
      | some order => exact .inl ⟨order, config, rfl, rfl⟩
      | none =>
        right
        simp only [execute, asked, configured]
        intro f failed
        cases failed

theorem Stops.plan_output {file : Text} {json : Bool}
    (stops : Stops w config (.plan file json) point f shown) (escapes : Escapes (.plan file json) point f) :
    (follow w config (.plan file json)).output = "" := by
  cases stops with
  | planLoad | plan => exact escapes.elim
  | planRun loaded ready fails =>
    obtain ⟨name, rfl⟩ := escapes
    simp only [follow, runPlan, loaded, ready, fails]
    rfl

theorem failure_markup_opens {message : String} {s : Display.Styled}
    (shown : Display.Markup.text (styled "red" "Error:" ++ " " ++ message) = .ok s) :
    "Error:".toList ++ [' '] <+: s.chars := by
  obtain ⟨more, others, behind⟩ :=
    Display.Markup.partsFrom_head (message.toList.length + 10) 18 [' '] 0 message.toList
  have marked : (styled "red" "Error:" ++ " " ++ message).toList =
      "[red]Error:[/red] ".toList ++ message.toList := by
    rw [String.toList_append]
    rfl
  have parts : Display.Markup.parts ("[red]Error:[/red] ".toList ++ message.toList) =
      [.text [], .text [], .tag "red".toList 0, .text "Error:".toList, .text [], .tag "/red".toList 11] ++
        Display.Markup.partsFrom (message.toList.length + 10) 18 [' '] 0 message.toList := rfl
  rw [Display.Markup.text_chars shown, marked, parts, behind]
  exact ⟨_, rfl⟩

/-- What is shown of a failure opens with the word for one, whatever its message is. -/
theorem showFailure_opens {text : String} (shown : showFailure f = .ok text) :
    "Error:".toList <+: text.toList := by
  have all : "Error:".toList.all (fun c => decide (Display.IsPlain c)) = true := rfl
  have plain : ∀ c ∈ "Error:".toList, Display.IsPlain c := fun c member =>
    of_decide_eq_true (List.all_eq_true.mp all c member)
  obtain ⟨message, _, screened⟩ := Outcome.bind_ok.mp shown
  obtain ⟨output, rendered, rest⟩ := Outcome.bind_ok.mp screened
  obtain ⟨other, _, same⟩ := Outcome.bind_ok.mp rest
  have paragraph := Outcome.mapError_ok.mp rendered
  split at same
  · cases same
    exact Display.paragraph_opens plain (by decide) (by decide) paragraph fun _ => failure_markup_opens
  · cases same

theorem Stops.opens {text : String} (stops : Stops w config order point f (.ok text))
    (early : point = .steps → ∃ source json, order = .run source json) :
    "Error:".toList <+: text.toList := by
  generalize same : (Except.ok text : Shown) = shown at stops
  cases stops with
  | step | stepRun | planLoad | plan | lines => exact showFailure_opens same.symm
  | planRun | linesRun =>
    obtain ⟨_, _, other⟩ := early rfl
    cases other

end

def unequipped (text : String) : Workplace Unit := { desk Run.sevens () text with modules := [] }

def callWithKey : Step :=
  { endpoint := .readonly, method := "m",
    params := [⟨.id, List.replicate 32 0⟩, ⟨.ed25519, Utf8.encode "k"⟩] }

def tampers (_ : Call) (s : State Unit) : Except Failure CallResult × State Unit :=
  (.ok { callId := List.replicate 32 7 }, { s with store := s.store.insert (Store.seedKey "k") [1] })

def withKey : Plan := ⟨"", [Run.callZeros .execute, callWithKey]⟩

def withKeyText : String := Json.render .wire withKey.toDatum

def tampered : Workplace Unit := desk tampers () withKeyText

theorem unequipped_configured (text : String) :
    configure (unequipped text) = .ok { interpreter := some "m:x" } := configure_alone _ _ _

theorem tampered_configured : configure tampered = .ok { interpreter := some "m:x" } :=
  desk_configured _ _ _

def missingModule : Failure := .broken (.noModule "m" (.whole "No module named 'm'"))

theorem unequipped_unready (text : String) :
    Interpreter.load (unequipped text).modules (some "m:x") = .error missingModule := by
  have absolute : "m".startsWith "." = false := by decide +kernel
  have single : "m".splitOn "." = ["m"] := Text.splitOn_singleton '.' "m"
  have alone : Interpreter.parent? "m" = none := by
    rw [Interpreter.parent?, single]
    rfl
  have imported : Interpreter.importModule (σ := Unit) [] "m" = .error missingModule := by
    rw [Interpreter.importModule, absolute]
    simp only [Interpreter.import?, List.lookup_nil, alone, Interpreter.missing]
    rfl
  have path : (some "m:x").filter (· ≠ "") = some "m:x" := rfl
  have split : Interpreter.splitPath? "m:x" = some ("m", "x") := rfl
  simp only [Interpreter.load, path, split, unequipped, imported]
  rfl

theorem tampered_derails :
    (Run.runPlan (Run.collaborators tampers) tampered.surroundings withKey (fresh tampered)).result =
      .error (.broken (.corruptKey "k")) := by
  let c := Run.collaborators tampers
  let w := tampered.surroundings
  have opened : (fresh tampered).ledger.IsOpen := Ledger.isOpen_fresh
  have carried := Run.callZeros_carriesOut_in c w opened (.inl rfl)
  have done : (Run.performed c w (Run.callZeros .execute) [⟨.id, List.replicate 32 0⟩] (fresh tampered)).1 =
      .ok (.call (List.replicate 32 7) none 0) := rfl
  have returned := carried.result.trans (Run.carryOut_succeeded done)
  generalize left : (Run.run c w (Run.callZeros .execute) (fresh tampered)).session = t at carried
  have stored : t.machine.store.get? (Store.seedKey "k") = some [1] := by
    rw [← left, carried.machine, Run.carryOut_machine]
    exact Store.get_insert_self {} _ _
  have derails : Resolve.Derails (Run.scope w callWithKey t) 1 ⟨.ed25519, Utf8.encode "k"⟩
      (.broken (.corruptKey "k")) :=
    .seed "k" [1] rfl (fun creates => absurd creates.2 (by decide)) (Utf8.decode_encode "k") stored
      (by decide)
  have first : Resolve.parameter c (Run.scope w callWithKey t) 0 ⟨.id, List.replicate 32 0⟩ =
      .ok ⟨.id, List.replicate 32 0⟩ := rfl
  have second := derails.fails (c := c)
  have derailed : Run.Derailed c w t callWithKey (.broken (.corruptKey "k")) :=
    ⟨rfl, 1, _, (Resolve.FirstFailure.tail first).mpr (.head second), derails⟩
  have stops : Run.StopsAt c w (fresh tampered) withKey.steps 1 [_] t (.broken (.corruptKey "k")) :=
    ⟨.next returned (left ▸ .done _), callWithKey, rfl, congrArg Ran.result (derailed.run_eq (c := c) rfl)⟩
  exact (Run.runRest_stops 2 stops []).2 fun _ => nofun

theorem unequipped_stops_lines (text : String) :
    Stops (unequipped text) { interpreter := some "m:x" } .interpreter .start missingModule
      (showFailure missingModule) := .lines (unequipped_unready text)

theorem tampered_stops_steps :
    Stops tampered { interpreter := some "m:x" } (.plan "p.json" true) .steps
      (.broken (.corruptKey "k")) (showFailure (.broken (.corruptKey "k"))) := by
  have written : withKey.wire = .ok withKeyText := Json.wire_ok.mpr ⟨by decide, rfl⟩
  have loaded := Load.plan_of_wire (p := withKey) (by decide) Load.isYaml_json Load.nameable_json written
    (desk_held tampers () withKeyText)
  exact .planRun loaded (desk_ready _ _ _) tampered_derails

theorem read_plan_json : Request.read ["plan", "p.json", "--json"] = .order (some (.plan "p.json" true)) :=
  read_plan isOption_json

end Rehearsal.Command
