import Rehearsal.Proofs.Command.StepLines
import Rehearsal.Proofs.Loading.PlanReadBack
import Rehearsal.Proofs.Run.Indifference
import Rehearsal.Proofs.Run.Rejections

namespace Rehearsal

theorem Plan.adopt_alike (p : Plan) (s : Step) : s.Alike (p.adopt s) := by
  unfold adopt
  split
  · exact ⟨rfl, rfl, rfl, fun _ _ => rfl⟩
  · exact Step.Alike.refl s

/-- Running a plan is not affected by the caller keys that its steps take when it is put together. -/
theorem Run.runPlan_assemble {σ : Type} (c : Collaborators σ) (w : Surroundings) (key : Text)
    (steps : List Step) (s : Session σ) :
    (runPlan c w (Plan.assemble { callerKey := key } steps).2 s).result =
      (runPlan c w ⟨key, steps⟩ s).result := by
  have alike : List.Forall₂ Step.Alike steps (Plan.assemble { callerKey := key } steps).2.steps := by
    rw [Plan.assemble_steps, List.nil_append, List.forall₂_map_right_iff]
    exact List.forall₂_same.mpr fun step _ => Plan.adopt_alike _ step
  rw [runPlan, ← alike.length_eq]
  exact (runRest_alike alike).result

namespace Command

theorem takeApart_json {file : Text} (named : isOption file = false) :
    takeApart [jsonFlag] {} [file, "--json"] = some ⟨[("--json", "")], [file]⟩ := by
  have dashes : isOption "--" = true := by decide +kernel
  have proper : file ≠ "--" := by
    rintro rfl
    rw [dashes] at named
    cases named
  have json : isOption "--json" = true := by decide +kernel
  have flag : readOption [jsonFlag] (.whole "--json") = some ([(jsonFlag, .whole "")], none) := by
    decide +kernel
  simp only [takeApart, proper, named, json, flag]
  rfl

theorem read_plan {file : Text} (named : isOption file = false) :
    Request.read ["plan", file, "--json"] = .order (some (.plan file true)) := by
  have command : isOption "plan" = false := by decide +kernel
  have order : order? "plan" [file, "--json"] = some (.plan file true) := by
    rw [order?, takeApart_json named]
    rfl
  have known : (Text.whole? "plan").filter commands.contains = some "plan" := by decide +kernel
  simp only [Request.read, Given.read, command, Given.request, known, order]
  rfl

theorem read_interpreter : Request.read ["interpreter"] = .order (some .interpreter) := by
  have command : isOption "interpreter" = false := by decide +kernel
  have known : (Text.whole? "interpreter").filter commands.contains = some "interpreter" := by
    decide +kernel
  simp only [Request.read, Given.read, command, Given.request, known]
  rfl

theorem printAll_json {next : Report} {rs : List Response} {lines : List String} (writes : Writes rs lines)
    {output : String} {code : Nat} (ends : next.Shows output code) :
    (printAll true next rs).Shows (terminated lines ++ output) code := by
  induction writes with
  | nil => simpa [printAll] using ends
  | @cons r line rest lines told _ ih =>
    have printed : print true r = .ok (line ++ "\n") := jsonLine_ok told
    simp only [printAll, printed]
    rw [terminated_cons, String.append_assoc]
    exact ih.behind _

theorem planReport_json (file : Text) (total : Nat) {rs : List Response} {lines : List String}
    (writes : Writes rs lines) (aborted : Option (Except Fault Text)) :
    (planReport file true total rs aborted).Shows (terminated lines)
      (exitCode (aborted.isNone && failures rs == 0)) := by
  have last : Report.Shows { exitCode := exitCode (aborted.isNone && failures rs == 0) } ""
      (exitCode (aborted.isNone && failures rs == 0)) := ⟨rfl, rfl, rfl⟩
  have shown := printAll_json writes last
  rwa [String.append_empty] at shown

variable {σ : Type}

section Batch

variable {w : Workplace σ} {config : Config} {interpreter : Interpreter.Loaded σ} {file : Text} {p : Plan}
  {rs : List Response} {lines : List String} (loaded : Load.plan w.surroundings.files file = .ok p)
  (ready : Interpreter.load w.modules config.interpreter = .ok interpreter)

include loaded ready

theorem runPlan_returned
    (returned : (Run.runPlan (Run.collaborators interpreter.invoke) w.surroundings p (fresh w)).result =
      .ok rs) (writes : Writes rs lines) :
    (runPlan w config file true).Shows (terminated lines) (exitCode (failures rs == 0)) := by
  have shown := planReport_json file p.steps.length writes none
  rw [runPlan, loaded]
  simp only [ready, returned]
  exact shown.behindAudit _

theorem runPlan_aborted {text : Text} {k total : Int} {cause : Option Failure}
    (aborted : (Run.runPlan (Run.collaborators interpreter.invoke) w.surroundings p (fresh w)).result =
      .error (.aborted text rs k total cause)) (writes : Writes rs lines) :
    (runPlan w config file true).Shows (terminated lines) 1 := by
  have shown := planReport_json file p.steps.length writes (some (causeText cause))
  rw [runPlan, loaded]
  simp only [ready, aborted]
  exact shown.behindAudit _

end Batch

theorem configure_input (w : Workplace σ) (input : String) :
    configure { w with input } = configure w := rfl

section

variable {w : Workplace σ} {config : Config} (configured : configure w = .ok config)

include configured

theorem execute_order {arguments : List Text} {order : Order}
    (asked : Request.read arguments = .order (some order)) :
    execute w arguments = follow w config order := by
  rw [execute, asked]
  simp only [configured]

theorem execute_plan {file : Text} (named : isOption file = false) :
    execute w ["plan", file, "--json"] = runPlan w config file true :=
  execute_order configured (read_plan named)

theorem execute_interpreter {interpreter : Interpreter.Loaded σ}
    (ready : Interpreter.load w.modules config.interpreter = .ok interpreter) (input : String) :
    execute { w with input } ["interpreter"] =
      converse (Run.collaborators interpreter.invoke) { w with input } (fresh w)
        (input.splitOn "\n") := by
  rw [execute_order (w := { w with input }) configured read_interpreter, follow, interpret]
  simp only [ready]
  rfl

end

theorem exitCode_failures (rs : List Response) :
    exitCode (failures rs == 0) = exitCode (rs.all Response.isOk) := by
  have same : (failures rs == 0) = rs.all Response.isOk := by
    rw [Bool.eq_iff_iff, beq_iff_eq, failures, List.countP_eq_zero, List.all_eq_true]
    simp
  rw [same]

theorem refuse_isWhole {r : Rejection} (worded : r.message.isWhole = true) (k : Nat) :
    (refuse k r).IsWhole := by
  have texts : (refuse k r).texts = [.whole "", r.message, .whole r.family.code] := rfl
  have empty : (Text.whole "").isWhole = true := rfl
  have code : (Text.whole r.family.code).isWhole = true := rfl
  rw [Response.IsWhole, texts]
  simp [worded, empty, code]

/-- Unless a step fails with more than a rejection, and unless a response has a surrogate in a text, the
command for a plan and the line protocol agree: the lines of the second are those of the first, which are
the wire forms of the responses, and behind them stands the refusal of the step that is rejected, if there
is one. The second does not mind responses that failed. -/
theorem front_ends_agree {w : Workplace σ} {config : Config} {interpreter : Interpreter.Loaded σ}
    {file : Text} (key : Text) {steps : List Step} {wires : List String} {planWire : String}
    (checked : ∀ s ∈ steps, s.isChecked = true)
    (types : List.Forall₂ (fun step wire => step.wire = .ok wire) steps wires)
    (planned : Plan.wire ⟨key, steps⟩ = .ok planWire) (named : isOption file = false)
    (plain : Load.isYaml file = false) (nameable : Load.Nameable file)
    (held : w.surroundings.files.read file = .ok (Utf8.encode planWire))
    (configured : configure w = .ok config)
    (ready : Interpreter.load w.modules config.interpreter = .ok interpreter)
    (rejections : ∀ k rs t f, Run.StopsAt (Run.collaborators interpreter.invoke) w.surroundings (fresh w)
      steps k rs t f → ∃ r, f = .rejected r)
    (whole : ∀ k rs t, Run.Runs (Run.collaborators interpreter.invoke) w.surroundings (fresh w)
      (steps.take k) rs t → ∀ r ∈ rs, r.IsWhole) :
    let c := Run.collaborators interpreter.invoke
    let batch := execute w ["plan", file, "--json"]
    let conversed := execute { w with input := String.join (wires.map (· ++ "\n")) } ["interpreter"]
    ((∃ rs t, Run.Runs c w.surroundings (fresh w) steps rs t) ∨
      ∃ k rs t r, Run.StopsAt c w.surroundings (fresh w) steps k rs t (.rejected r)) ∧
    (∀ rs t, Run.Runs c w.surroundings (fresh w) steps rs t →
      ∃ lines, List.Forall₂ (fun r line => r.wire = .ok line) rs lines ∧
        batch.Shows (String.join (lines.map (· ++ "\n"))) (exitCode (rs.all Response.isOk)) ∧
        conversed.Shows (String.join (lines.map (· ++ "\n"))) 0) ∧
    ∀ k rs t r, Run.StopsAt c w.surroundings (fresh w) steps k rs t (.rejected r) →
      ∃ lines line, List.Forall₂ (fun r line => r.wire = .ok line) rs lines ∧
        (refuse k r).wire = .ok line ∧ '\n' ∉ line.toList ∧ (refuse k r).id = k ∧
        (refuse k r).endpoint = none ∧ (refuse k r).isOk = false ∧
        batch.Shows (String.join (lines.map (· ++ "\n"))) 1 ∧
        conversed.Shows (String.join ((lines ++ [line]).map (· ++ "\n"))) 1 := by
  intro c batch conversed
  have loaded := Load.plan_of_wire (p := ⟨key, steps⟩) checked plain nameable planned held
  have planning : batch = runPlan w config file true := execute_plan configured named
  have conversing := execute_interpreter configured ready (terminated wires)
  refine ⟨?_, ?_, ?_⟩
  · rcases Run.runs_or_stops c w.surroundings (fresh w) steps with all | ⟨k, rs, t, f, stops⟩
    · exact .inl all
    · obtain ⟨r, rfl⟩ := rejections k rs t f stops
      exact .inr ⟨k, rs, t, r, stops⟩
  · intro rs t ran
    have every : steps.take steps.length = steps := List.take_length
    obtain ⟨lines, writes⟩ := exists_writes (whole steps.length rs t (every.symm ▸ ran))
    have returned : (Run.runPlan c w.surroundings ⟨key, steps⟩ (fresh w)).result = .ok rs :=
      (Run.runRest_runs steps.length ran []).1
    rw [← Run.runPlan_assemble] at returned
    refine ⟨lines, writes, ?_, ?_⟩
    · rw [planning, ← exitCode_failures]
      exact runPlan_returned loaded ready returned writes
    · have shown := converse_typed_runs (w := { w with input := terminated wires }) checked types ran writes
      rwa [← conversing] at shown
  · intro k rs t r stops
    obtain ⟨step, here, rejected⟩ := stops.fails
    have worded : r.message.isWhole = true :=
      Run.rejected_isWhole (c := c) (checked step (List.mem_of_getElem? here)) rejected
    obtain ⟨line, told⟩ := Response.wire_ok_iff.mpr (refuse_isWhole worded k)
    obtain ⟨lines, writes⟩ := exists_writes (whole k rs t stops.ran)
    have aborted : (Run.runPlan c w.surroundings ⟨key, steps⟩ (fresh w)).result =
        .error (Run.abortion t rs steps.length r) :=
      ((Run.runRest_stops steps.length stops []).1 r rfl).1
    rw [← Run.runPlan_assemble] at aborted
    have counted : t.ledger.step = k := by
      have count := (stops.ran.ledger Ledger.isOpen_fresh).2
      have begun : (fresh w).ledger.step = 0 := rfl
      have length := stops.ran.length
      rw [stops.length] at length
      omega
    refine ⟨lines, line, writes, told, Response.wire_unbroken told, rfl, rfl, rfl, ?_, ?_⟩
    · rw [planning]
      exact runPlan_aborted loaded ready aborted writes
    · rw [← counted] at told
      have shown := converse_typed_stops (w := { w with input := terminated wires }) checked types stops
        writes told
      rwa [← conversing] at shown

def broken : List Step := [Run.callZeros .execute, Run.empty, Run.callZeros .readonly]

def desk (invoke : Call → State σ → Except Failure CallResult × State σ) (memory : σ) (text : String) :
    Workplace σ where
  environment := [("PLANSIM_INTERPRETER", "m:x")]
  modules := [("m", .members [("x", .object (.calls invoke))])]
  surroundings := { files := Files.alone "p.json" (Utf8.encode text) }
  memory

theorem configure_alone (modules : Interpreter.Modules σ) (memory : σ) (content : Bytes) :
    configure
        { environment := [("PLANSIM_INTERPRETER", "m:x")], modules, memory
          surroundings := { files := Files.alone "p.json" content } } =
      .ok { interpreter := some "m:x" } := by
  have parts : Path.parts ".env" = [.whole ".env"] :=
    Path.parts_single (by decide) (by decide) (by decide)
  have file : (Files.alone "p.json" content).find ".env" = .error .missing := by
    rw [Files.find]
    simp only [Path.normal, Files.start, parts]
    rfl
  have values : Config.fileValues [("PLANSIM_INTERPRETER", "m:x")] (Files.alone "p.json" content) =
      .ok [] := by
    rw [Config.fileValues, show Config.fileName = ".env" from rfl, file]
    rfl
  have lower : "PLANSIM_INTERPRETER".toLower = "plansim_interpreter" := by decide +kernel
  have bound (name : String) : Config.lookup name [("PLANSIM_INTERPRETER", some "m:x")] =
      if "plansim_interpreter" = Config.opening ++ name then some "m:x" else none := by
    simp only [Config.lookup, List.reverse_singleton, List.find?_singleton, lower, beq_iff_eq]
    split <;> rfl
  have level : Text.capitals "INFO" = "INFO" := by decide +kernel
  have read : Config.read [("PLANSIM_INTERPRETER", "m:x")] (Files.alone "p.json" content) =
      .ok { interpreter := some "m:x" } := by
    rw [Config.read, values]
    simp only [List.map_cons, List.map_nil, bound, Config.opening, String.reduceAppend,
      String.reduceEq, ↓reduceIte, Option.orElse_eq_orElse, Option.orElse_eq_or, Option.none_or,
      Option.some_or]
    rfl
  have checked : Config.checkLevel { interpreter := some "m:x" } = .ok () := by
    simp [Config.checkLevel, Config.effectiveLogLevel, level, Config.logLevels]
  rw [configure, read]
  simp only [bind, Except.bind, checked, pure, Except.pure]

theorem read_alone (content : Bytes) : (Files.alone "p.json" content).read "p.json" = .ok content :=
  Files.read_of_find (Files.find_alone _ Path.parts_json rfl (by decide) (by decide))

theorem isOption_json : isOption "p.json" = false := by decide +kernel

section Desk

variable (invoke : Call → State σ → Except Failure CallResult × State σ) (memory : σ) (text : String)

theorem desk_configured : configure (desk invoke memory text) = .ok { interpreter := some "m:x" } :=
  configure_alone _ _ _

theorem desk_ready :
    Interpreter.load (desk invoke memory text).modules (some "m:x") =
      .ok (.object "x" (.calls invoke) true) := by
  have absolute : "m".startsWith "." = false := by decide +kernel
  have imported : Interpreter.importModule (desk invoke memory text).modules "m" =
      .ok [("x", .object (.calls invoke))] := by
    rw [Interpreter.importModule, absolute]
    rfl
  have path : (some "m:x").filter (· ≠ "") = some "m:x" := rfl
  have split : Interpreter.splitPath? "m:x" = some ("m", "x") := rfl
  simp only [Interpreter.load, path, split, imported]
  rfl

theorem desk_held :
    (desk invoke memory text).surroundings.files.read "p.json" = .ok (Utf8.encode text) := read_alone _

end Desk

theorem types_render {steps : List Step} (whole : ∀ step ∈ steps, ∀ t ∈ step.texts, t.isWhole = true) :
    Types steps (steps.map fun step => Json.render .wire step.toDatum) := by
  rw [Types, List.forall₂_map_right_iff]
  exact List.forall₂_same.mpr fun step member => Json.wire_ok.mpr ⟨whole step member, rfl⟩

theorem callZeros_sevens_whole (w : Surroundings) {s : Session Unit} (opened : s.ledger.IsOpen) {e : Endpoint}
    (calls : e = .execute ∨ e = .readonly) :
    ∃ r, (Run.run (Run.collaborators Run.sevens) w (Run.callZeros e) s).result = .ok r ∧ r.IsWhole := by
  let c := Run.collaborators Run.sevens
  have carried := Run.callZeros_carriesOut_in c w opened calls
  rcases calls with rfl | rfl
  · have done : (Run.performed c w (Run.callZeros .execute) [⟨.id, List.replicate 32 0⟩] s).1 =
        .ok (.call (List.replicate 32 7) none 0) := rfl
    refine ⟨_, carried.result.trans (Run.carryOut_succeeded done), ?_⟩
    exact List.forall_mem_cons.mpr ⟨rfl, List.forall_mem_cons.mpr ⟨rfl, List.forall_mem_nil _⟩⟩
  · have done : (Run.performed c w (Run.callZeros .readonly) [⟨.id, List.replicate 32 0⟩] s).1 =
        .ok (.reading none) := rfl
    refine ⟨_, carried.result.trans (Run.carryOut_succeeded done), ?_⟩
    exact List.forall_mem_cons.mpr ⟨rfl, List.forall_mem_nil _⟩

theorem mem_broken {step : Step} (among : step ∈ broken) :
    step = Run.empty ∨ ∃ e, (e = .execute ∨ e = .readonly) ∧ step = Run.callZeros e := by
  simp only [broken, List.mem_cons, List.not_mem_nil, or_false] at among
  rcases among with rfl | rfl | rfl
  · exact .inr ⟨_, .inl rfl, rfl⟩
  · exact .inl rfl
  · exact .inr ⟨_, .inr rfl, rfl⟩

theorem broken_sevens_rejected {w : Surroundings} {s : Session Unit} (opened : s.ledger.IsOpen) (k : Nat)
    (rs : List Response) (t : Session Unit) (f : Failure)
    (stops : Run.StopsAt (Run.collaborators Run.sevens) w s broken k rs t f) : ∃ r, f = .rejected r := by
  obtain ⟨step, at_k, failed⟩ := stops.fails
  have later := (stops.ran.ledger opened).1
  rcases mem_broken (List.mem_of_getElem? at_k) with rfl | ⟨e, calls, rfl⟩
  · rw [Run.empty_rejected] at failed
    cases failed
    exact ⟨_, rfl⟩
  · obtain ⟨r, returned, _⟩ := callZeros_sevens_whole w later calls
    cases returned.symm.trans failed

theorem broken_sevens_whole {w : Surroundings} {s : Session Unit} (opened : s.ledger.IsOpen) (k : Nat)
    (rs : List Response) (t : Session Unit)
    (ran : Run.Runs (Run.collaborators Run.sevens) w s (broken.take k) rs t) : ∀ r ∈ rs, r.IsWhole := by
  intro r member
  obtain ⟨step, among, x, openedThere, returned⟩ := ran.mem opened r member
  rcases mem_broken (List.mem_of_mem_take among) with rfl | ⟨e, calls, rfl⟩
  · rw [Run.empty_rejected] at returned
    cases returned
  · obtain ⟨r, same, whole⟩ := callZeros_sevens_whole w openedThere calls
    cases same.symm.trans returned
    exact whole

theorem desk_front_ends_break_off_at_the_empty_step :
    let text := Json.render .wire (Plan.toDatum ⟨"ann", broken⟩)
    let w := desk Run.sevens () text
    let input := terminated (broken.map fun step => Json.render .wire step.toDatum)
    ∃ lines line, lines.length = 1 ∧ (refuse 1 ⟨.noParams, some 1⟩).wire = .ok line ∧
      (execute w ["plan", "p.json", "--json"]).Shows (String.join (lines.map (· ++ "\n"))) 1 ∧
      (execute { w with input } ["interpreter"]).Shows
        (String.join ((lines ++ [line]).map (· ++ "\n"))) 1 := by
  intro text w input
  let c := Run.collaborators Run.sevens
  have opened : (fresh w).ledger.IsOpen := Ledger.isOpen_fresh
  obtain ⟨r, returned, _⟩ := callZeros_sevens_whole w.surroundings opened (.inl rfl)
  have first : Run.Runs c w.surroundings (fresh w) [Run.callZeros .execute] [r] _ :=
    .next returned (.done _)
  have count : (Run.run c w.surroundings (Run.callZeros .execute) (fresh w)).session.ledger.step = 1 :=
    (first.ledger opened).2
  have stops : Run.StopsAt c w.surroundings (fresh w) broken 1 [r] _ _ :=
    ⟨first, Run.empty, rfl, Run.empty_rejected _ _ _⟩
  have planned : Plan.wire ⟨"ann", broken⟩ = .ok text := Json.wire_ok.mpr ⟨by decide, rfl⟩
  have agree := front_ends_agree "ann" (by decide) (types_render (by decide)) planned isOption_json
    Load.isYaml_json Load.nameable_json (desk_held _ _ _) (desk_configured _ _ _) (desk_ready _ _ _)
    (broken_sevens_rejected opened) (broken_sevens_whole opened)
  obtain ⟨lines, line, writes, told, _, _, _, _, batch, conversed⟩ := agree.2.2 1 _ _ _ stops
  rw [count] at told
  exact ⟨lines, line, writes.length_eq.symm, told, batch, conversed⟩

def hoarse (_ : Call) (s : State Unit) : Except Failure CallResult × State Unit :=
  (.error (.fault (.raised "RuntimeError" (.torn [0xD800] rfl))), s)

/-- A response with a surrogate has no line, so that the conversation ends with a failure though no step
is rejected. -/
theorem torn_response_ends_the_conversation :
    let steps := [Run.callZeros .readonly]
    let text := Json.render .wire (Plan.toDatum ⟨"", steps⟩)
    let w := desk hoarse () text
    let wires := steps.map fun step => Json.render .wire step.toDatum
    let conversed := execute { w with input := String.join (wires.map (· ++ "\n")) } ["interpreter"]
    (∀ step ∈ steps, step.isChecked = true) ∧
      List.Forall₂ (fun step wire => step.wire = .ok wire) steps wires ∧
      Plan.wire ⟨"", steps⟩ = .ok text ∧
      w.surroundings.files.read "p.json" = .ok (Utf8.encode text) ∧
      configure w = .ok { interpreter := some "m:x" } ∧
      Interpreter.load w.modules (some "m:x") = .ok (.object "x" (.calls hoarse) true) ∧
      (∃ rs t, Run.Runs (Run.collaborators hoarse) w.surroundings (fresh w) steps rs t) ∧
      conversed.output = "" ∧ conversed.exitCode = 1 ∧
      conversed.failure = some (.fault (.unwritable ⟨0, [0xD800]⟩)) := by
  intro steps text w wires conversed
  let c := Run.collaborators hoarse
  have checked : (Run.callZeros .readonly).isChecked = true := rfl
  have types : Types steps wires := types_render (by decide)
  have carried := Run.callZeros_carriesOut_in c w.surroundings (s := fresh w) Ledger.isOpen_fresh (.inr rfl)
  have failed : (Run.performed c w.surroundings (Run.callZeros .readonly) [⟨.id, List.replicate 32 0⟩]
      (fresh w)).1 = .error (.fault (.raised "RuntimeError" (.torn [0xD800] rfl))) := rfl
  have returned := carried.result.trans ((Run.carryOut_failed_ok failed).mpr
    ⟨.torn [0xD800] rfl, some "RuntimeError", ⟨fun _ => nofun, rfl, rfl⟩, rfl⟩)
  have conversing : conversed = converse c { w with input := terminated wires } (fresh w)
      ((terminated wires).splitOn "\n") :=
    execute_interpreter (desk_configured _ _ _) (desk_ready _ _ _) _
  rw [splitOn_terminated (types.unbroken (by decide))] at conversing
  have turn := answer_wire (Json.wire_ok.mpr ⟨by decide, rfl⟩) c w.surroundings (fresh w) checked
  simp only [returned] at turn
  have ends : conversed.output = "" ∧ conversed.exitCode = 1 ∧
      conversed.failure = some (.fault (.unwritable ⟨0, [0xD800]⟩)) := by
    rw [conversing]
    simp only [wires, steps, List.map_cons, List.map_nil, List.singleton_append, converse, turn]
    exact ⟨rfl, rfl, rfl⟩
  exact ⟨by decide, types, Json.wire_ok.mpr ⟨by decide, rfl⟩, desk_held _ _ _, desk_configured _ _ _,
    desk_ready _ _ _, ⟨_, _, .next returned (.done _)⟩, ends⟩

end Command

end Rehearsal
