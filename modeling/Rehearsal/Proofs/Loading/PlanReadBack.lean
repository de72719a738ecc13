import Rehearsal.Proofs.Bytes.TextRoundTrip
import Rehearsal.Proofs.Files
import Rehearsal.Proofs.Loading.StepReadBack
import Rehearsal.Proofs.PlanAssembly

namespace Rehearsal

namespace Plan

def fields (p : Plan) : List (String × Datum) :=
  [("callerKey", .ofText p.callerKey), ("steps", .list (p.steps.map Step.toDatum))]

def IsWhole (p : Plan) : Prop := ∀ t ∈ p.texts, t.isWhole = true

instance (p : Plan) : Decidable p.IsWhole := inferInstanceAs (Decidable (∀ t ∈ p.texts, t.isWhole = true))

theorem wire_ok_iff {p : Plan} : (∃ wire, p.wire = .ok wire) ↔ p.IsWhole := by
  simp [wire, Json.wire_ok, IsWhole]

theorem toDatum_readsBack {p : Plan} (checked : ∀ s ∈ p.steps, s.isChecked = true)
    (whole : p.IsWhole) : Json.ReadsBack p.toDatum := by
  rw [IsWhole, texts, List.forall_mem_cons] at whole
  obtain ⟨callerKey, texts⟩ := whole
  have names : p.fields.map Prod.fst = ["callerKey", "steps"] := rfl
  have steps : Json.ReadsBack (.list (p.steps.map Step.toDatum)) := by
    apply Json.ReadsBack.list
    intro d member
    obtain ⟨s, among, rfl⟩ := List.mem_map.mp member
    exact Step.toDatum_readsBack (checked s among) fun t member =>
      texts t (List.mem_flatMap.mpr ⟨s, among, member⟩)
  refine Json.ReadsBack.map (by rw [names]; decide) ?_
  simp only [fields, List.forall_mem_cons]
  exact ⟨.ofText callerKey, steps, by simp⟩

/-- The plans that there are: those put together from checked steps, and those that are loaded. -/
inductive Formed : Plan → Prop
  | built (callerKey : Text) {steps : List Step} (checked : ∀ s ∈ steps, s.isChecked = true) :
    Formed (assemble { callerKey } steps).2
  | loaded {files : Files} {path : Text} {p : Plan} (loaded : Load.plan files path = .ok p) : Formed p

end Plan

namespace Load

theorem addSteps_toDatum (p : Plan) {steps : List Step} (checked : ∀ s ∈ steps, s.isChecked = true) :
    addSteps p (steps.map Step.toDatum) = .ok (p.assemble steps).2 := by
  induction steps generalizing p with
  | nil => rfl
  | cons s rest ih =>
    have first := stepOfData_toDatum (checked s List.mem_cons_self)
    have later := ih (p.addStep s).2 fun t member => checked t (.tail _ member)
    rw [List.map_cons, addSteps, first]
    exact later

theorem addSteps_ok {p q : Plan} {ds : List Datum} (added : addSteps p ds = .ok q) :
    ∃ steps, (∀ s ∈ steps, s.isChecked = true) ∧ q = (p.assemble steps).2 := by
  induction ds generalizing p with
  | nil =>
    cases added
    exact ⟨[], by simp, rfl⟩
  | cons d rest ih =>
    obtain ⟨s, made, added⟩ := Outcome.bind_ok.mp added
    obtain ⟨steps, checked, rfl⟩ := ih added
    exact ⟨s :: steps, List.forall_mem_cons.mpr ⟨stepOfData_isChecked made, checked⟩, rfl⟩

theorem plan_ok {files : Files} {path : Text} {p : Plan} (loaded : plan files path = .ok p) :
    ∃ callerKey steps, (∀ s ∈ steps, Step.isChecked s = true) ∧
      p = (Plan.assemble { callerKey } steps).2 := by
  obtain ⟨_, _, parsed⟩ := Outcome.bind_ok.mp loaded
  obtain ⟨d, _, formed⟩ := Outcome.bind_ok.mp parsed
  unfold planOfData at formed
  split at formed
  · obtain ⟨key, _, added⟩ := Outcome.bind_ok.mp formed
    obtain ⟨steps, checked, assembled⟩ := addSteps_ok added
    exact ⟨key, steps, checked, assembled⟩
  · cases formed

theorem plan_isChecked {files : Files} {path : Text} {p : Plan} (loaded : plan files path = .ok p) :
    ∀ step ∈ p.steps, step.isChecked = true := by
  obtain ⟨callerKey, steps, formed, rfl⟩ := plan_ok loaded
  exact Plan.assemble_isChecked formed

theorem callerKey_ofText (key : Text) : callerKey (.ofText key) = .ok key := by
  cases key with
  | whole key =>
    cases empty : key.isEmpty with
    | true => simp [callerKey, Datum.ofText, Datum.isTrue, String.isEmpty_iff.mp empty]
    | false => simp [callerKey, Datum.ofText, Datum.isTrue, empty, shown, Datum.isTooLong, Datum.shown]
  | torn points isTorn =>
    have filled : points.isEmpty = false := by
      cases points with
      | nil => cases isTorn
      | cons => rfl
    simp [callerKey, Datum.ofText, Datum.isTrue, filled, shown, Datum.isTooLong, Datum.shown,
      Text.ofPoints_torn isTorn]

theorem planOfData_toDatum (file : Text) {p : Plan} (checked : ∀ s ∈ p.steps, s.isChecked = true) :
    planOfData file p.toDatum = .ok (Plan.assemble { callerKey := p.callerKey } p.steps).2 := by
  have steps : (p.toDatum.get? "steps").map Datum.opened = some (.list (p.steps.map Step.toDatum)) := rfl
  have key : (p.toDatum.get? "callerKey").getD .null = .ofText p.callerKey := rfl
  rw [planOfData, steps, key, callerKey_ofText]
  exact addSteps_toDatum _ checked

theorem plan_of_text {files : Files} {path : Text} {text : String} (held : readText files path = .ok text) :
    plan files path = (parse (isYaml path) text).bind (planOfData path) := by
  rw [plan, held]
  rfl

structure Nameable (path : Text) : Prop where
  encodable : path.nameTear? = none
  noNul : path.points.contains 0 = false

theorem readText_render {files : Files} {path : Text} {d : Datum} (back : Json.ReadsBack d)
    (nameable : Nameable path)
    (held : files.read path = .ok (Utf8.encode (Json.render .wire d))) :
    readText files path = .ok (Json.render .wire d) := by
  have lines : unifyLineEnds (Json.render .wire d).toList = (Json.render .wire d).toList := by
    rw [Json.render, String.toList_ofList]
    exact unifyLineEnds_eq (back.printed.notMem (by decide))
  simp only [readText, nameable.encodable, nameable.noNul, held, Utf8.decode_ok, lines,
    String.ofList_toList]
  rfl

/-- A file with the wire form of a plan gives the plan that is put together from its steps. -/
theorem plan_of_wire {files : Files} {path : Text} {p : Plan} {wire : String}
    (checked : ∀ s ∈ p.steps, s.isChecked = true) (plain : isYaml path = false)
    (nameable : Nameable path) (written : p.wire = .ok wire)
    (held : files.read path = .ok (Utf8.encode wire)) :
    plan files path = .ok (Plan.assemble { callerKey := p.callerKey } p.steps).2 := by
  obtain ⟨whole, rfl⟩ := Json.wire_ok.mp written
  have back := Plan.toDatum_readsBack checked whole
  have text := readText_render back nameable held
  have data : parse false (Json.render .wire p.toDatum) = .ok p.toDatum := parseJson_render back
  rw [plan_of_text text, plain, data]
  exact planOfData_toDatum path checked

end Load

theorem Path.parts_json : parts "p.json" = [.whole "p.json"] :=
  parts_single (by decide) (by decide) (by decide)

theorem Load.isYaml_of_suffix {path : Text} {ending : String} (suffix : Path.suffix path = ending) :
    isYaml path = (ending.toLower == ".yaml" || ending.toLower == ".yml") := by
  rw [isYaml, suffix]
  rfl

theorem Load.isYaml_json : isYaml "p.json" = false := by
  have suffix : Path.suffix "p.json" = ".json" := by
    rw [Path.suffix, Path.parts_json]
    rfl
  have lower : ".json".toLower = ".json" := by decide +kernel
  rw [isYaml_of_suffix suffix, lower]
  decide

theorem Load.nameable_json : Nameable "p.json" := ⟨rfl, by decide⟩

theorem Yaml.read_unadmitted {s : String} (odd : s.toList.all Lexer.isAdmitted = false) :
    Yaml.read s = .error .malformed := by
  have tokens : Tokens.ofText s.toList = ⟨[], some .malformed⟩ := by
    rw [Tokens.ofText, odd]
    rfl
  rw [Yaml.read, Document.ofText?, tokens]
  rfl

namespace Plan

theorem Formed.assembled {p : Plan} (formed : p.Formed) :
    ∃ callerKey steps, (∀ s ∈ steps, Step.isChecked s = true) ∧
      p = (assemble { callerKey } steps).2 := by
  cases formed with
  | built callerKey checked => exact ⟨callerKey, _, checked, rfl⟩
  | loaded loaded => exact Load.plan_ok loaded

/-- Checked steps and plans are what their wire forms are read as; a plan has one just if none of its
texts is torn. -/
theorem wire_forms_read_back :
    (∀ s : Step, s.isChecked = true → (∀ t ∈ s.texts, t.isWhole = true) →
      ∃ wire d, s.wire = .ok wire ∧ Json.read wire = .ok d ∧ Load.stepOfData d = .ok s) ∧
    (∀ p : Plan, (∃ wire, p.wire = .ok wire) ↔ p.IsWhole) ∧
    ∀ p : Plan, p.Formed → ∀ wire, p.wire = .ok wire → ∀ (files : Files) (path : Text),
      Load.isYaml path = false → Load.Nameable path → files.read path = .ok (Utf8.encode wire) →
      Load.plan files path = .ok p := by
  refine ⟨?_, fun _ => wire_ok_iff, ?_⟩
  · intro s checked whole
    exact ⟨_, s.toDatum, Json.wire_ok.mpr ⟨whole, rfl⟩,
      (Step.toDatum_readsBack checked whole).read_render, Load.stepOfData_toDatum checked⟩
  · intro p formed wire written files path plain nameable held
    obtain ⟨callerKey, steps, checked, assembled⟩ := formed.assembled
    have settled : ∀ s ∈ p.steps, s.isChecked = true := assembled ▸ assemble_isChecked checked
    have again : (assemble { callerKey := p.callerKey } p.steps).2 = p :=
      assembled ▸ assemble_again callerKey steps
    rw [Load.plan_of_wire settled plain nameable written held, again]

def intricate : Step :=
  { endpoint := .execute, method := "\"\\\n\x7fé", maxUnits := maxBudget,
    params := [⟨.id, [0, 255]⟩, ⟨.bool, []⟩], callerKey := some "" }

theorem intricate_plan_reads_back :
    let p := (assemble { callerKey := "ann" } [intricate, Step.createKey "bob"]).2
    let wire := Json.render .wire p.toDatum
    let files := Files.alone "p.json" (Utf8.encode wire)
    intricate.isChecked = true ∧ (∀ t ∈ intricate.texts, t.isWhole = true) ∧ p.Formed ∧
      p.wire = .ok wire ∧ Load.isYaml "p.json" = false ∧ Load.Nameable "p.json" ∧
      files.read "p.json" = .ok (Utf8.encode wire) ∧
      (∃ wire d, intricate.wire = .ok wire ∧ Json.read wire = .ok d ∧
        Load.stepOfData d = .ok intricate) ∧
      Load.plan files "p.json" = .ok p := by
  intro p wire files
  have checked : ∀ s ∈ [intricate, Step.createKey "bob"], s.isChecked = true := by decide
  have formed : p.Formed := .built "ann" checked
  have written : p.wire = .ok wire := Json.wire_ok.mpr ⟨by decide, rfl⟩
  have held := Files.read_of_find
    (Files.find_alone (Utf8.encode wire) Path.parts_json rfl (by decide) (by decide))
  have first := checked intricate List.mem_cons_self
  have whole : ∀ t ∈ intricate.texts, t.isWhole = true := by decide
  exact ⟨first, whole, formed, written, Load.isYaml_json, Load.nameable_json, held,
    wire_forms_read_back.1 intricate first whole,
    wire_forms_read_back.2.2 p formed wire written files "p.json" Load.isYaml_json
      Load.nameable_json held⟩

def erased : Plan := (assemble {} [{ endpoint := .key, method := "\x7f" }]).2

/-- An ending in capitals makes a file YAML, too. -/
theorem erased_plan_is_no_yaml :
    let wire := Json.render .wire erased.toDatum
    let files := Files.alone "p.YAML" (Utf8.encode wire)
    erased.Formed ∧ erased.wire = .ok wire ∧ ¬ ".yaml".toList <:+ "p.YAML".toList ∧
      ¬ ".yml".toList <:+ "p.YAML".toList ∧ Load.Nameable "p.YAML" ∧
      files.read "p.YAML" = .ok (Utf8.encode wire) ∧
      Load.plan files "p.YAML" = .error (.rejected ⟨.unparsable Load.yamlReason, none⟩) := by
  intro wire files
  have checked : ∀ s ∈ erased.steps, s.isChecked = true := by decide
  have whole : erased.IsWhole := by decide
  have parts : Path.parts "p.YAML" = [.whole "p.YAML"] :=
    Path.parts_single (by decide) (by decide) (by decide)
  have suffix : Path.suffix "p.YAML" = ".YAML" := by
    rw [Path.suffix, parts]
    rfl
  have yaml : Load.isYaml "p.YAML" = true := by
    have lower : ".YAML".toLower = ".yaml" := by decide +kernel
    rw [Load.isYaml_of_suffix suffix, lower]
    decide
  have nameable : Load.Nameable "p.YAML" := ⟨rfl, by decide⟩
  have held := Files.read_of_find
    (Files.find_alone (Utf8.encode wire) parts rfl (by decide) (by decide))
  have text := Load.readText_render (toDatum_readsBack checked whole) nameable held
  have odd : (Json.render .wire erased.toDatum).toList.all Yaml.Lexer.isAdmitted = false := by decide
  have data : Load.parse true (Json.render .wire erased.toDatum) =
      .error (.rejected ⟨.unparsable Load.yamlReason, none⟩) := by
    rw [Load.parse, if_pos rfl, Yaml.read_unadmitted odd]
    rfl
  refine ⟨.built "" (by decide), Json.wire_ok.mpr ⟨whole, rfl⟩, by decide, by decide, nameable, held, ?_⟩
  rw [Load.plan_of_text text, yaml, data]
  rfl

end Plan

end Rehearsal
