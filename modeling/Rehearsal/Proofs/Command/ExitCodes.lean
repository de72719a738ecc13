import Rehearsal.Proofs.Command.EmittedLines
import Rehearsal.Proofs.Command.Panels
import Rehearsal.Proofs.Run.KeyIdentity

namespace Rehearsal.Command

open Display.Markup (holdsTag IsTag Leads)

/-- What there is to do with steps. -/
inductive Task
  | step (source : Source)
  | plan (file : Text)

def Task.order (json : Bool) : Task → Order
  | .step source => .run source json
  | .plan file => .plan file json

def showAborted (file : Text) (total : Nat) (rs : List Response) (cause : Option Failure) : Shown := do
  showSummary file total rs (some (← causeText cause))

variable {σ : Type}

/-- What a task comes to that no failure stops: the responses, whether nothing was rejected and no response tells
of an error, what is shown behind the responses, and the texts in it that are given from outside. -/
inductive Task.Comes (w : Workplace σ) (config : Config) :
    Task → List Response → Bool → Shown → List (Except Fault Text) → Prop
  | step {source interpreter r}
      (ready : Interpreter.load w.modules config.interpreter = .ok interpreter)
      (returned : (Run.runLoaded (Run.collaborators interpreter.invoke) w.surroundings source.text source.file
        (fresh w)).result = .ok r) :
      Comes w config (.step source) [r] r.isOk (.ok "") []
  | plan {file p interpreter rs} (loaded : Load.plan w.surroundings.files file = .ok p)
      (ready : Interpreter.load w.modules config.interpreter = .ok interpreter)
      (returned : (Run.runPlan (Run.collaborators interpreter.invoke) w.surroundings p (fresh w)).result = .ok rs) :
      Comes w config (.plan file) rs (rs.all Response.isOk) (showSummary file p.steps.length rs none) [.ok file]
  | aborted {file p interpreter text rs k total cause} (loaded : Load.plan w.surroundings.files file = .ok p)
      (ready : Interpreter.load w.modules config.interpreter = .ok interpreter)
      (broken : (Run.runPlan (Run.collaborators interpreter.invoke) w.surroundings p (fresh w)).result =
        .error (.aborted text rs k total cause)) :
      Comes w config (.plan file) rs false (showAborted file p.steps.length rs cause)
        [.ok file, causeText cause]

def Prints (json : Bool) (rs : List Response) (texts : List String) : Prop :=
  List.Forall₂ (fun r text => print json r = .ok text) rs texts

structure Report.Breaks (report : Report) (output : String) (fault : Fault) : Prop where
  output : report.output = output
  exitCode : report.exitCode = 1
  failure : report.failure = some (.fault fault)

/-- A report of what responses are printed as and of what is shown behind them. It breaks off at the first of this
that cannot be shown. -/
inductive Report.Presents (report : Report) (json : Bool) (rs : List Response) (last : Shown) (code : Nat) : Prop
  | whole {texts : List String} (prints : Prints json rs texts) {text : String} (shown : last = .ok text)
      (shows : report.Shows (String.join texts ++ text) code)
  | broken {before after : List Response} {r : Response} (apart : rs = before ++ r :: after)
      {texts : List String} (prints : Prints json before texts) {fault : Fault}
      (faulty : print json r = .error fault) (breaks : report.Breaks (String.join texts) fault)
  | unfinished {texts : List String} (prints : Prints json rs texts) {fault : Fault} (faulty : last = .error fault)
      (breaks : report.Breaks (String.join texts) fault)

theorem Prints.all {json : Bool} {rs : List Response} {texts : List String} (prints : Prints json rs texts) :
    ∀ r ∈ rs, ∃ text, print json r = .ok text := by
  induction prints with
  | nil => simp
  | cons printed _ ih => exact List.forall_mem_cons.mpr ⟨⟨_, printed⟩, ih⟩

theorem Prints.unique {json : Bool} {rs : List Response} {xs ys : List String} (first : Prints json rs xs)
    (second : Prints json rs ys) : xs = ys := by
  induction first generalizing ys with
  | nil =>
    cases second
    rfl
  | cons printed _ ih =>
    cases second with
    | cons again later =>
      cases printed.symm.trans again
      rw [ih later]

variable {report : Report} {json : Bool} {rs : List Response} {last : Shown} {code : Nat} {output : String}
  {fault : Fault}

namespace Report

theorem Breaks.behind (breaks : report.Breaks output fault) (text : String) :
    (report.behind text).Breaks (text ++ output) fault :=
  ⟨congrArg (text ++ ·) breaks.output, breaks.exitCode, breaks.failure⟩

theorem Presents.behindAudit (presents : report.Presents json rs last code) (audit : List Audit.Line) :
    (report.behindAudit audit).Presents json rs last code := by
  cases presents with
  | whole prints shown shows => exact .whole prints shown (shows.behindAudit audit)
  | broken apart prints faulty breaks =>
    exact .broken apart prints faulty ⟨breaks.output, breaks.exitCode, breaks.failure⟩
  | unfinished prints faulty breaks =>
    exact .unfinished prints faulty ⟨breaks.output, breaks.exitCode, breaks.failure⟩

theorem Presents.next {r : Response} {text : String} (presents : report.Presents json rs last code)
    (printed : print json r = .ok text) : (report.behind text).Presents json (r :: rs) last code := by
  have joined (texts : List String) : String.join (text :: texts) = text ++ String.join texts := by
    simp
  cases presents with
  | @whole texts prints done shown shows =>
    refine .whole (.cons printed prints) shown ?_
    rw [joined, String.append_assoc]
    exact shows.behind text
  | @broken before after b apart texts prints fault faulty breaks =>
    have split : r :: rs = (r :: before) ++ b :: after := congrArg (r :: ·) apart
    refine .broken split (.cons printed prints) faulty ?_
    rw [joined]
    exact breaks.behind text
  | @unfinished texts prints fault faulty breaks =>
    refine .unfinished (.cons printed prints) faulty ?_
    rw [joined]
    exact breaks.behind text

theorem Presents.breaks {r : Response} (presents : report.Presents json (r :: rs) last code)
    (faulty : print json r = .error fault) : report.Breaks "" fault := by
  cases presents with
  | whole prints | unfinished prints =>
    cases prints with
    | cons printed => cases faulty.symm.trans printed
  | @broken before after b apart texts prints _ unprinted breaks =>
    cases prints with
    | nil =>
      obtain ⟨rfl, _⟩ := List.cons.inj apart
      cases faulty.symm.trans unprinted
      exact breaks
    | cons printed =>
      obtain ⟨rfl, _⟩ := List.cons.inj apart
      cases faulty.symm.trans printed

theorem Presents.shows {texts : List String} {text : String} (presents : report.Presents json rs last code)
    (prints : Prints json rs texts) (shown : last = .ok text) :
    report.Shows (String.join texts ++ text) code := by
  cases presents with
  | whole others done shows =>
    cases shown.symm.trans done
    rwa [prints.unique others]
  | @broken before after r apart _ _ _ faulty =>
    obtain ⟨text, printed⟩ := prints.all r (apart ▸ List.mem_append_right _ List.mem_cons_self)
    cases faulty.symm.trans printed
  | unfinished _ faulty => cases faulty.symm.trans shown

theorem Presents.exitCode_iff {ok : Bool} (presents : report.Presents json rs last (Command.exitCode ok)) :
    report.exitCode = 0 ↔
      ok = true ∧ (∀ r ∈ rs, ∃ text, print json r = .ok text) ∧ ∃ text, last = .ok text := by
  cases presents with
  | whole prints shown shows =>
    rw [shows.exitCode]
    cases ok with
    | true => exact ⟨fun _ => ⟨rfl, prints.all, _, shown⟩, fun _ => rfl⟩
    | false => exact ⟨nofun, fun wrong => nomatch wrong.1⟩
  | @broken before after r apart texts prints fault faulty breaks =>
    rw [breaks.exitCode]
    refine ⟨nofun, fun ⟨_, all, _⟩ => ?_⟩
    obtain ⟨text, printed⟩ := all r (apart ▸ List.mem_append_right _ List.mem_cons_self)
    cases faulty.symm.trans printed
  | unfinished prints faulty breaks =>
    rw [breaks.exitCode]
    refine ⟨nofun, fun ⟨_, _, _, shown⟩ => ?_⟩
    cases faulty.symm.trans shown

end Report

theorem printAll_presents (json : Bool) (last : Shown) (code : Nat) (rs : List Response) :
    (printAll json (.showing code last) rs).Presents json rs last code := by
  induction rs with
  | nil =>
    cases last with
    | ok text => exact .whole .nil rfl ⟨(String.empty_append).symm, rfl, rfl⟩
    | error fault => exact .unfinished .nil rfl ⟨rfl, rfl, rfl⟩
  | cons r rest ih =>
    cases printed : print json r with
    | ok text =>
      simp only [printAll, printed]
      exact ih.next printed
    | error fault =>
      have apart : r :: rest = [] ++ r :: rest := rfl
      simp only [printAll, printed]
      exact .broken apart .nil printed ⟨rfl, rfl, rfl⟩

theorem print_json_ok_iff {r : Response} : (∃ text, print true r = .ok text) ↔ r.IsWhole := by
  rw [← Response.wire_ok_iff]
  have printed : print true r = jsonLine r := rfl
  cases told : r.wire with
  | ok line => simp [printed, jsonLine_ok told]
  | error tear => simp [printed, jsonLine, told]

section

variable {w : Workplace σ} {config : Config} {task : Task} {ok : Bool} {foreign : List (Except Fault Text)}

/-- The command for a task prints the responses that the task comes to. -/
theorem Task.Comes.followed (comes : task.Comes w config rs ok last foreign) (json : Bool) :
    ∃ audit, follow w config (task.order json) =
      (printAll json (.showing (exitCode ok) (if json then .ok "" else last)) rs).behindAudit audit := by
  cases comes with
  | @step source interpreter r ready returned =>
    simp only [Task.order, follow, runStep, ready, returned]
    refine ⟨_, congrArg (Report.behindAudit _) ?_⟩
    have behind : (if json then Except.ok "" else Except.ok "" : Shown) = .ok "" := by
      cases json <;> rfl
    simp only [printAll, behind]
    cases print json r <;> simp [Report.showing, Report.behind]
  | @plan file p interpreter rs loaded ready returned =>
    simp only [Task.order, follow, runPlan, loaded, ready, returned, ← exitCode_failures]
    cases json <;> exact ⟨_, rfl⟩
  | @aborted file p interpreter text rs k total cause loaded ready broken =>
    simp only [Task.order, follow, runPlan, loaded, ready, broken]
    refine ⟨_, congrArg (Report.behindAudit _) ?_⟩
    unfold planReport showAborted
    cases json with
    | true => rfl
    | false => cases causeText cause <;> rfl

theorem Task.Comes.tidy (comes : task.Comes w config rs ok last foreign) : ∀ r ∈ rs, r.Tidy := by
  have planned {file : Text} {p : Plan} (interpreter : Interpreter.Loaded σ)
      (loaded : Load.plan w.surroundings.files file = .ok p) : ∀ r ∈ emitted
        (Run.runPlan (Run.collaborators interpreter.invoke) w.surroundings p (fresh w)).result, r.Tidy := by
    intro r member
    obtain ⟨_, _, _, carried, answered⟩ := emitted_carriesOut (c := Run.collaborators interpreter.invoke)
      Ledger.isOpen_fresh (Load.plan_isChecked loaded) r member
    exact carried.response_tidy answered
  cases comes with
  | step ready returned =>
    obtain ⟨step, params, _, carried, answered⟩ := Run.runLoaded_carriesOut Ledger.isOpen_fresh returned
    exact List.forall_mem_singleton.mpr (carried.response_tidy answered)
  | @plan _ _ interpreter _ loaded ready returned =>
    have all := planned interpreter loaded
    rwa [returned] at all
  | @aborted _ _ interpreter _ _ _ _ _ loaded ready broken =>
    have all := planned interpreter loaded
    rwa [broken] at all

theorem Task.Comes.last_shown (comes : task.Comes w config rs ok last foreign)
    (untagged : ∀ text ∈ foreign, ∃ s : String, text = .ok (.whole s) ∧ holdsTag s.toList = false) :
    ∃ text, last = .ok text := by
  cases comes with
  | step => exact ⟨"", rfl⟩
  | plan =>
    obtain ⟨file, ⟨⟩, named⟩ := untagged _ List.mem_cons_self
    exact showSummary_shown _ _ none named nofun
  | @aborted _ _ _ _ _ _ _ cause =>
    obtain ⟨file, ⟨⟩, named⟩ := untagged _ List.mem_cons_self
    obtain ⟨text, told, untold⟩ := untagged (causeText cause) (by simp)
    rw [showAborted, told]
    refine showSummary_shown _ _ (some text) named ?_
    rintro _ ⟨⟩
    exact untold

end

def slashed : Step := { Step.createKey "k" with method := "[/]" }

theorem slashed_title : ∃ fault, Display.Markup.text
    "[bold]Step 0[/bold]  [cyan]key[/cyan] [dim][/][/dim]  [green]OK[/green]" = .error fault := by
  have bold : IsTag "bold" := isTag_style (by decide)
  have cyan : IsTag "cyan" := isTag_style (by decide)
  have dim : IsTag "dim" := isTag_style (by decide)
  obtain ⟨_, boldNamed⟩ := bold.named
  obtain ⟨_, cyanNamed⟩ := cyan.named
  obtain ⟨_, dimNamed⟩ := dim.named
  have parts : ∃ rest, Display.Markup.parts
      "[bold]Step 0[/bold]  [cyan]key[/cyan] [dim][/][/dim]  [green]OK[/green]".toList =
        .text [] :: .text [] :: .tag "bold".toList 0 ::
        .text "Step 0".toList :: .text [] :: .tag ('/' :: "bold".toList) 12 ::
        .text "  ".toList :: .text [] :: .tag "cyan".toList 21 ::
        .text "key".toList :: .text [] :: .tag ('/' :: "cyan".toList) 30 ::
        .text " ".toList :: .text [] :: .tag "dim".toList 38 ::
        .text [] :: .text [] :: .tag ['/'] 43 ::
        .text [] :: .text [] :: .tag ('/' :: "dim".toList) 46 :: rest := ⟨_, rfl⟩
  obtain ⟨rest, parts⟩ := parts
  apply Display.Markup.text_of_faulty
  rw [parts]
  refine Leads.behind (Leads.behind (Leads.opens bold boldNamed ?_ _) _) _
  refine Leads.behind (Leads.behind (Leads.closes bold boldNamed ?_ _) _) _
  refine Leads.behind (Leads.behind (Leads.opens cyan cyanNamed ?_ _) _) _
  refine Leads.behind (Leads.behind (Leads.closes cyan cyanNamed ?_ _) _) _
  refine Leads.behind (Leads.behind (Leads.opens dim dimNamed ?_ _) _) _
  refine Leads.behind (Leads.behind (Leads.closes_last rfl ?_ _) _) _
  exact ((dim.unopened _ _).behind _).behind _

theorem takeApart_step (text : Text) (rest : List Text) :
    takeApart (jsonFlag :: sourceFlags) {} ("--step" :: text :: rest) =
      takeApart (jsonFlag :: sourceFlags) ⟨[("--step", text)], []⟩ rest := by
  have named : isOption "--step" = true := by decide +kernel
  have flag : readOption (jsonFlag :: sourceFlags) (.whole "--step") =
      some ([], some ⟨"--step", some 's', true⟩) := by
    decide +kernel
  simp only [takeApart, named, flag]
  rfl

theorem read_step (text : Text) (json : Bool) :
    Request.read ("run" :: "--step" :: text :: if json then ["--json"] else []) =
      .order (some ((Task.step ⟨some text, none⟩).order json)) := by
  have command : isOption "run" = false := by decide +kernel
  have known : (Text.whole? "run").filter commands.contains = some "run" := by decide +kernel
  have order : order? "run" ("--step" :: text :: if json then ["--json"] else []) =
      some ((Task.step ⟨some text, none⟩).order json) := by
    rw [order?, takeApart_step]
    cases json with
    | false => rfl
    | true =>
      have named : isOption "--json" = true := by decide +kernel
      have flag : readOption (jsonFlag :: sourceFlags) (.whole "--json") =
          some ([(jsonFlag, .whole "")], none) := by
        decide +kernel
      simp only [↓reduceIte, takeApart, named, flag]
      rfl
  simp only [Request.read, Given.read, command, Given.request, known, order]
  rfl

theorem title_slashed {r : Response} (id : r.id = 0) (endpoint : r.endpoint = some .key)
    (method : r.method = slashed.method) (ok : r.isOk = true) (mark : Char) :
    responseTitle (Text.mended mark) r =
      "[bold]Step 0[/bold]  [cyan]key[/cyan] [dim][/][/dim]  [green]OK[/green]" := by
  simp only [responseTitle, id, endpoint, method, ok]
  rfl

theorem slashed_response {c : Collaborators σ} {w : Surroundings} {s : Session σ}
    (create : c.createKey = Key.create) (first : s.ledger.step = 0)
    (absent : s.machine.store.get? (Store.seedKey "k") = none) :
    ∃ r, (Run.carryOut c w slashed slashed.params s).1 = .ok r ∧ r.isOk = true ∧ r.IsWhole ∧ ¬ r.Clear := by
  have made : (Dispatch.createKey c slashed.params s.machine.toState).1 = .ok _ :=
    congrArg Prod.fst (Dispatch.createKey_absent create (Dispatch.firstText_ok.mpr (Utf8.decode_encode "k")) absent)
  have done : (Run.performed c w slashed slashed.params s).1 = .ok _ :=
    (congrArg Prod.fst (Run.performed_key c w slashed.params s rfl)).trans made
  have whole : ∀ msg : String, ∀ t ∈ [slashed.method, .whole msg], t.isWhole = true := by
    intro msg
    exact List.forall_mem_cons.mpr ⟨rfl, List.forall_mem_singleton.mpr rfl⟩
  refine ⟨_, Run.carryOut_succeeded done, rfl, whole _, fun clear => ?_⟩
  obtain ⟨text, shown⟩ := clear.title '\ufffd' List.mem_cons_self
  obtain ⟨fault, faulty⟩ := slashed_title
  have zero : (s.ledger.step : Int) = 0 := by rw [first]; rfl
  rw [title_slashed zero rfl rfl rfl, faulty] at shown
  cases shown

def bareDesk : Workplace Unit := desk Run.sevens () ""

def slashedText : String := Json.render .wire slashed.toDatum

theorem bareDesk_slashed_comes : ∃ r : Response,
    (Task.step ⟨some slashedText, none⟩).Comes bareDesk { interpreter := some "m:x" } [r] true (.ok "") [] ∧
      r.IsWhole ∧ ¬ r.Clear := by
  let c := Run.collaborators Run.sevens
  obtain ⟨r, answered, ok, whole, faulty⟩ :=
    slashed_response (c := c) (w := bareDesk.surroundings) (s := fresh bareDesk) rfl rfl rfl
  have carried : Run.CarriesOut c bareDesk.surroundings slashed (fresh bareDesk) slashed.params :=
    Run.namedKey_carriesOut bareDesk.surroundings Ledger.isOpen_fresh "k" "[/]"
  have written : slashed.wire = .ok slashedText := Json.wire_ok.mpr ⟨by decide, rfl⟩
  have returned : (Run.runLoaded c bareDesk.surroundings (some slashedText) none (fresh bareDesk)).result =
      .ok r := by
    rw [Run.runLoaded_eq, Load.step_wire _ (by decide) written]
    exact carried.result.trans answered
  have comes : (Task.step ⟨some slashedText, none⟩).Comes bareDesk { interpreter := some "m:x" } [r] r.isOk
      (.ok "") [] := .step (desk_ready Run.sevens () "") returned
  rw [ok] at comes
  exact ⟨r, comes, whole, faulty⟩

end Rehearsal.Command
