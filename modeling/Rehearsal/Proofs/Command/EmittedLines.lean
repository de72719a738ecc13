import Rehearsal.Proofs.Command.Conversation
import Rehearsal.Proofs.Command.FrontEnds
import Rehearsal.Proofs.Run.KnownFailures

namespace Rehearsal

namespace Command

/-- An output of the wire forms of responses, each with a line feed behind it, from which these responses
are recovered. -/
structure Recovers (output : String) (rs : List Response) : Prop where
  lines : ∃ wires, List.Forall₂ (fun r wire => r.wire = .ok wire) rs wires ∧
    output = String.join (wires.map (· ++ "\n")) ∧ output.splitOn "\n" = wires ++ [""]
  responses : (∀ r ∈ rs, r.Short) →
    ((output.splitOn "\n").dropLast).map Response.ofWire? = rs.map some

theorem Writes.ofWire {rs : List Response} {lines : List String} (writes : Writes rs lines)
    (checked : ∀ r ∈ rs, r.isChecked = true) (short : ∀ r ∈ rs, r.Short) :
    lines.map Response.ofWire? = rs.map some := by
  induction writes with
  | nil => rfl
  | @cons r line rs lines told _ ih =>
    rw [List.forall_mem_cons] at checked short
    rw [List.map_cons, List.map_cons, Response.ofWire_wire checked.1 short.1 told,
      ih checked.2 short.2]

theorem Writes.recovers {rs : List Response} {lines : List String} (writes : Writes rs lines)
    (checked : ∀ r ∈ rs, r.isChecked = true) : Recovers (terminated lines) rs := by
  have split := splitOn_terminated writes.unbroken
  refine ⟨⟨lines, writes, rfl, split⟩, fun short => ?_⟩
  rw [split, List.dropLast_concat]
  exact writes.ofWire checked short

theorem refusals_isChecked (e : Option (Nat × Failure)) : ∀ r ∈ refusals e, r.isChecked = true := by
  intro r member
  cases e with
  | none => cases member
  | some ending =>
    obtain ⟨k, f⟩ := ending
    cases f with
    | rejected x =>
      by_cases whole : (refuse k x).IsWhole
      · rw [refusals, if_pos whole] at member
        rw [List.mem_singleton.mp member]
        rfl
      · rw [refusals, if_neg whole] at member
        cases member
    | broken | aborted | reported | misshapen | fault | foreign => cases member

def emitted : Except Failure (List Response) → List Response
  | .ok rs => rs
  | .error (.aborted _ rs _ _ _) => rs
  | .error _ => []

/-- The responses in front of the first one that cannot be written. -/
def written (rs : List Response) : List Response := rs.takeWhile fun r => r.IsWhole

/-- Printing as JSON stops at the first response that cannot be written. -/
theorem printAll_written {next : Report} (silent : next.output = "") (rs : List Response) :
    ∃ lines, Writes (written rs) lines ∧ (printAll true next rs).output = terminated lines := by
  induction rs with
  | nil => exact ⟨[], .nil, silent⟩
  | cons r rest ih =>
    cases told : r.wire with
    | ok line =>
      have whole : r.IsWhole := Response.wire_ok_iff.mp ⟨line, told⟩
      have printed : print true r = .ok (line ++ "\n") := jsonLine_ok told
      obtain ⟨lines, writes, output⟩ := ih
      refine ⟨line :: lines, ?_, ?_⟩
      · rw [written, List.takeWhile_cons_of_pos (by simpa using whole)]
        exact .cons told writes
      · simp only [printAll, printed]
        rw [terminated_cons, ← output]
        rfl
    | error tear =>
      have torn : ¬ r.IsWhole := by
        intro whole
        obtain ⟨line, told'⟩ := Response.wire_ok_iff.mpr whole
        cases told.symm.trans told'
      have unprinted : print true r = .error (.unwritable tear) := by
        rw [print, if_pos rfl, jsonLine, told]
      refine ⟨[], ?_, ?_⟩
      · rw [written, List.takeWhile_cons_of_neg (by simpa using torn)]
        exact .nil
      · simp only [printAll, unprinted]
        rfl

section

variable {σ : Type} {w : Workplace σ} {config : Config} {interpreter : Interpreter.Loaded σ} {file : Text}
  {p : Plan}

theorem runPlan_written (config : Config) (loaded : Load.plan w.surroundings.files file = .ok p)
    (ready : Interpreter.load w.modules config.interpreter = .ok interpreter) :
    ∃ lines, Writes (written (emitted (Run.runPlan (Run.collaborators interpreter.invoke) w.surroundings p
        (fresh w)).result)) lines ∧
      (runPlan w config file true).output = terminated lines := by
  cases result : (Run.runPlan (Run.collaborators interpreter.invoke) w.surroundings p (fresh w)).result with
  | ok rs =>
    simp only [runPlan, loaded, ready, result]
    exact printAll_written rfl rs
  | error f =>
    cases f with
    | aborted text rs k total cause =>
      simp only [runPlan, loaded, ready, result]
      exact printAll_written rfl rs
    | rejected | broken | reported | misshapen | fault | foreign =>
      simp only [runPlan, loaded, ready, result]
      exact ⟨[], .nil, rfl⟩

/-- Each response that a plan emits is that of a step that was carried out. -/
theorem emitted_carriesOut {c : Collaborators σ} {s : Session σ} (opened : s.ledger.IsOpen)
    (checked : ∀ step ∈ p.steps, step.isChecked = true) :
    ∀ r ∈ emitted (Run.runPlan c.storedKeys w.surroundings p s).result,
      ∃ step s params, Run.CarriesOut c.storedKeys w.surroundings step s params ∧
        (Run.carryOut c.storedKeys w.surroundings step params s).1 = .ok r := by
  have ofRuns : ∀ {steps rs t}, Run.Runs c.storedKeys w.surroundings s steps rs t → ∀ r ∈ rs,
      ∃ step s params, Run.CarriesOut c.storedKeys w.surroundings step s params ∧
        (Run.carryOut c.storedKeys w.surroundings step params s).1 = .ok r := by
    intro steps rs t ran r member
    obtain ⟨step, _, there, openedThere, returned⟩ := ran.mem opened r member
    obtain ⟨params, carried, answered⟩ := Run.run_ok openedThere returned
    exact ⟨step, there, params, carried, answered⟩
  rcases Run.runs_or_stops c.storedKeys w.surroundings s p.steps with ⟨rs, t, ran⟩ | ⟨k, rs, t, f, stops⟩
  · have returned : (Run.runPlan c.storedKeys w.surroundings p s).result = .ok rs :=
      (Run.runRest_runs p.steps.length ran []).1
    rw [returned]
    exact ofRuns ran
  · obtain ⟨step, here, ends⟩ := Run.runPlan_stops opened checked stops
    rcases ends with ⟨r, _, _, aborted⟩ | ⟨_, failed⟩
    · rw [aborted]
      exact ofRuns stops.ran
    · rw [failed]
      obtain ⟨at_k, known, fails⟩ := stops.fails
      have knownStep := checked at_k (List.mem_of_getElem? known)
      have nothing : emitted (.error f) = [] := by
        cases f with
        | aborted =>
          rcases Run.run_known (stops.ran.ledger opened).1 knownStep fails rfl with ⟨_, other⟩ | ⟨_, other⟩
          · cases other
          · cases other
        | _ => rfl
      rw [nothing]
      exact List.forall_mem_nil _

theorem emitted_isChecked (loaded : Load.plan w.surroundings.files file = .ok p) :
    ∀ r ∈ emitted (Run.runPlan (Run.collaborators interpreter.invoke) w.surroundings p (fresh w)).result,
      r.isChecked = true := by
  intro r member
  obtain ⟨_, _, _, carried, answered⟩ := emitted_carriesOut (c := Run.collaborators interpreter.invoke)
    Ledger.isOpen_fresh (Load.plan_isChecked loaded) r member
  exact carried.response_isChecked answered

end

/-- A response without surrogates is one line of JSON, which is read as that response if the endpoint was
checked and the numbers are not too long. Whatever the interpreter does, the output of the command for a
plan, in JSON, and that of the line protocol consist of the lines of the responses that are emitted, and
give exactly these responses back. A response that cannot be written ends the output. -/
theorem responses_travel_as_lines {σ : Type} :
    (∀ r : Response, ((∃ wire, r.wire = .ok wire) ↔ r.IsWhole) ∧
      ∀ wire, r.wire = .ok wire → '\n' ∉ wire.toList ∧ '\r' ∉ wire.toList ∧
        jsonLine r = .ok (wire ++ "\n") ∧
        (r.isChecked = true → r.Short → ∃ d, Json.read wire = .ok d ∧ Response.check d = .ok r)) ∧
    ∀ (w : Workplace σ) (config : Config) (interpreter : Interpreter.Loaded σ) (arguments : List Text),
      configure w = .ok config → Interpreter.load w.modules config.interpreter = .ok interpreter →
      let c := Run.collaborators interpreter.invoke
      let output := (execute w arguments).output
      (∀ file p, Request.read arguments = .order (some (.plan file true)) →
        Load.plan w.surroundings.files file = .ok p →
        Recovers output (written (emitted (Run.runPlan c w.surroundings p (fresh w)).result))) ∧
      (Request.read arguments = .order (some .interpreter) →
        (∃ rs e, Talks c w.surroundings (fresh w) (w.input.splitOn "\n") rs e) ∧
        ∀ rs e, Talks c w.surroundings (fresh w) (w.input.splitOn "\n") rs e →
          Recovers output (rs ++ refusals e)) := by
  constructor
  · intro r
    refine ⟨Response.wire_ok_iff, fun wire told => ?_⟩
    refine ⟨Response.wire_unbroken told, Response.wire_noControl told (by decide), jsonLine_ok told, ?_⟩
    intro checked short
    exact ⟨r.toDatum, Response.read_wire short told, Response.check_toDatum checked⟩
  intro w config interpreter arguments configured ready c output
  constructor
  · intro file p asked loaded
    have ran : output = (runPlan w config file true).output :=
      congrArg Report.output (execute_order configured asked)
    obtain ⟨lines, writes, shown⟩ := runPlan_written config loaded ready
    rw [ran, shown]
    exact writes.recovers fun r member =>
      emitted_isChecked loaded r (List.takeWhile_subset _ member)
  · intro asked
    have ran : output = (converse c w (fresh w) (w.input.splitOn "\n")).output := by
      simp only [output, execute_order configured asked, follow, interpret, ready]
      rfl
    refine ⟨talks_total c w.surroundings (fresh w) (w.input.splitOn "\n"), ?_⟩
    intro rs e talks
    obtain ⟨lines, writes, shown⟩ := converse_output talks
    rw [ran, shown]
    apply writes.recovers
    exact List.forall_mem_append.mpr ⟨talks.isChecked Ledger.isOpen_fresh, refusals_isChecked e⟩

def multiline : Response :=
  { id := -3, endpoint := some .readonly, method := "a\n\"b\"", error := some (.whole "c\r\n\\"),
    result := { timestamp := -7, response := some [] } }

theorem isShort_digit {i : Int} (digit : i.natAbs < 10) : IsShort i :=
  Nat.lt_of_lt_of_le digit (Nat.le_self_pow (by decide) 10)

theorem multiline_short : multiline.Short where
  id := isShort_digit (by decide)
  result := ⟨isShort_digit (by decide), fun _ none => by cases none⟩

theorem multiline_and_desk_travel_as_lines :
    let text := Json.render .wire (Plan.toDatum ⟨"ann", broken⟩)
    let input := terminated (broken.map fun step => Json.render .wire step.toDatum)
    (∃ wire d, multiline.wire = .ok wire ∧ Json.read wire = .ok d ∧ Response.check d = .ok multiline) ∧
    (∃ rs, Recovers (execute (desk Run.sevens () text) ["plan", "p.json", "--json"]).output rs) ∧
    ∃ rs, Recovers (execute { desk Run.sevens () text with input } ["interpreter"]).output rs := by
  intro text input
  obtain ⟨lines, outputs⟩ := responses_travel_as_lines (σ := Unit)
  have planned : Plan.wire ⟨"ann", broken⟩ = .ok text := Json.wire_ok.mpr ⟨by decide, rfl⟩
  have loaded := Load.plan_of_wire (p := ⟨"ann", broken⟩) (by decide) Load.isYaml_json Load.nameable_json
    planned (desk_held Run.sevens () text)
  have configured := desk_configured Run.sevens () text
  have ready := desk_ready Run.sevens () text
  obtain ⟨wire, told⟩ := (lines multiline).1.mpr (by decide)
  obtain ⟨d, read, check⟩ := ((lines multiline).2 wire told).2.2.2 rfl multiline_short
  refine ⟨⟨wire, d, told, read, check⟩, ?_, ?_⟩
  · exact ⟨_, (outputs _ _ _ _ configured ready).1 _ _ (read_plan isOption_json) loaded⟩
  · have configured' := (configure_input (desk Run.sevens () text) input).trans configured
    obtain ⟨_, conversed⟩ := outputs { desk Run.sevens () text with input } _ _ _ configured' ready
    obtain ⟨⟨rs, e, talks⟩, recovers⟩ := conversed read_interpreter
    exact ⟨_, recovers rs e talks⟩

end Command

end Rehearsal
