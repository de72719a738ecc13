import Mathlib.Data.List.Forall2
import Rehearsal.Command.Execute
import Rehearsal.Proofs.Files
import Rehearsal.Proofs.Loading.ResponseReadBack
import Rehearsal.Proofs.Loading.StepReadBack
import Rehearsal.Proofs.Run.PlanSequence
import Rehearsal.Proofs.Text.Split

namespace Rehearsal

theorem Text.trimChars_solid {drop : Char → Bool} {c d : Char} (middle : List Char)
    (first : drop c = false) (last : drop d = false) :
    trimChars drop (c :: middle ++ [d]) = c :: middle ++ [d] := by
  have front : (c :: middle ++ [d]).dropWhile drop = c :: middle ++ [d] := by
    rw [List.cons_append, List.dropWhile_cons, first]
    rfl
  have back : (c :: middle ++ [d]).reverse.dropWhile drop = (c :: middle ++ [d]).reverse := by
    rw [List.reverse_append, List.reverse_singleton, List.singleton_append, List.dropWhile_cons, last]
    rfl
  rw [trimChars, front, back, List.reverse_reverse]

section

variable {step : Step} {wire : String}

namespace Step

theorem wire_braced (written : step.wire = .ok wire) :
    ∃ middle, wire.toList = '\x7b' :: middle ++ ['\x7d'] := by
  obtain ⟨_, rfl⟩ := Json.wire_ok.mp written
  rw [Json.render, String.toList_ofList, toDatum_fields]
  exact ⟨_, rfl⟩

theorem wire_ne_empty (written : step.wire = .ok wire) : wire ≠ "" := by
  obtain ⟨middle, braced⟩ := wire_braced written
  rintro rfl
  cases braced

theorem wire_unbroken (checked : step.isChecked = true) (written : step.wire = .ok wire) :
    '\n' ∉ wire.toList := by
  obtain ⟨whole, rfl⟩ := Json.wire_ok.mp written
  rw [Json.render, String.toList_ofList]
  exact (toDatum_readsBack checked whole).printed.notMem (by decide)

end Step

theorem Load.step_wire (files : Files) (checked : step.isChecked = true)
    (written : step.wire = .ok wire) : Load.step files (some wire) none = .ok step := by
  have given : (some (Text.whole wire)).filter (· ≠ .whole "") = some (.whole wire) := by
    simp [Step.wire_ne_empty written]
  obtain ⟨whole, rfl⟩ := Json.wire_ok.mp written
  have data := parseJson_render (Step.toDatum_readsBack checked whole)
  simp only [Load.step, given]
  exact (congrArg (·.bind stepOfData) data).trans (stepOfData_toDatum checked)

end

namespace Command

def terminated (lines : List String) : String := String.join (lines.map (· ++ "\n"))

@[simp] theorem terminated_nil : terminated [] = "" := rfl

theorem terminated_cons (line : String) (rest : List String) :
    terminated (line :: rest) = line ++ "\n" ++ terminated rest := by
  simp [terminated]

theorem terminated_append (xs ys : List String) :
    terminated (xs ++ ys) = terminated xs ++ terminated ys := by
  simp [terminated]

theorem splitOn_terminated {lines : List String} (unbroken : ∀ line ∈ lines, '\n' ∉ line.toList) :
    (terminated lines).splitOn "\n" = lines ++ [""] := Text.splitOn_lines unbroken

def Types (steps : List Step) (lines : List String) : Prop :=
  List.Forall₂ (fun step line => step.wire = .ok line) steps lines

def Writes (rs : List Response) (lines : List String) : Prop :=
  List.Forall₂ (fun r line => r.wire = .ok line) rs lines

theorem Types.unbroken {steps : List Step} {lines : List String}
    (checked : ∀ step ∈ steps, step.isChecked = true) (types : Types steps lines) :
    ∀ line ∈ lines, '\n' ∉ line.toList := by
  induction types with
  | nil => simp
  | cons written _ ih =>
    have here := Step.wire_unbroken (checked _ List.mem_cons_self) written
    exact List.forall_mem_cons.mpr ⟨here, ih fun step member => checked step (.tail _ member)⟩

theorem Writes.unbroken {rs : List Response} {lines : List String} (writes : Writes rs lines) :
    ∀ line ∈ lines, '\n' ∉ line.toList := by
  induction writes with
  | nil => simp
  | cons written _ ih => exact List.forall_mem_cons.mpr ⟨Response.wire_unbroken written, ih⟩

theorem exists_writes {rs : List Response} (whole : ∀ r ∈ rs, r.IsWhole) : ∃ lines, Writes rs lines := by
  induction rs with
  | nil => exact ⟨[], .nil⟩
  | cons r rest ih =>
    obtain ⟨here, later⟩ := List.forall_mem_cons.mp whole
    obtain ⟨line, written⟩ := Response.wire_ok_iff.mpr here
    obtain ⟨lines, writes⟩ := ih later
    exact ⟨line :: lines, .cons written writes⟩

section

variable {step : Step} {wire : String} (written : step.wire = .ok wire)

include written

theorem read_wire : read wire = .ok { text := some wire } := by
  obtain ⟨middle, braced⟩ := Step.wire_braced written
  have opening : wire.startsWith "\x7b" = true := by
    rw [String.startsWith_string_iff, braced]
    exact ⟨middle ++ ['\x7d'], rfl⟩
  rw [read, if_pos opening]

theorem trimmed_wire : Text.trimmed wire = wire := by
  obtain ⟨middle, braced⟩ := Step.wire_braced written
  rw [Text.trimmed, braced, Text.trimChars_solid middle (by decide) (by decide), ← braced,
    String.ofList_toList]

theorem wire_not_farewell : farewells.contains wire = false := by
  obtain ⟨middle, braced⟩ := Step.wire_braced written
  have apart (word : String) (letter : word.toList.head? ≠ some '\x7b') : wire ≠ word := by
    rintro rfl
    rw [braced] at letter
    exact letter rfl
  have exit := apart "exit" (by decide)
  have quit := apart "quit" (by decide)
  simp [farewells, exit, quit]

theorem answer_wire {σ : Type} (c : Collaborators σ) (w : Surroundings) (s : Session σ)
    (checked : step.isChecked = true) :
    let ran := Run.run c w step s
    answer c w s wire = match ran.result with
      | .ok r => ⟨.answer r, ran.session, ran.events⟩
      | .error f => ⟨.ofFailure ran.session.ledger.step f, ran.session, ran.events⟩ := by
  intro ran
  have full : wire.isEmpty = false := by
    simp [Step.wire_ne_empty written]
  have loaded : Run.runLoaded c w (some wire) none s = Run.run c w step s := by
    rw [Run.runLoaded_eq, Load.step_wire _ checked written]
  simp only [answer, trimmed_wire written, full, wire_not_farewell written, read_wire written, loaded]
  rfl

end

structure Report.Shows (r : Report) (output : String) (exitCode : Nat) : Prop where
  output : r.output = output
  exitCode : r.exitCode = exitCode
  failure : r.failure = none

theorem Report.Shows.behind {report : Report} {output : String} {code : Nat} (shows : report.Shows output code)
    (text : String) : (report.behind text).Shows (text ++ output) code :=
  ⟨congrArg (text ++ ·) shows.output, shows.exitCode, shows.failure⟩

theorem Report.Shows.behindAudit {report : Report} {output : String} {code : Nat}
    (shows : report.Shows output code) (audit : List Audit.Line) :
    (report.behindAudit audit).Shows output code := ⟨shows.output, shows.exitCode, shows.failure⟩

theorem jsonLine_ok {r : Response} {line : String} (told : r.wire = .ok line) :
    jsonLine r = .ok (line ++ "\n") := by
  rw [jsonLine, told]

theorem emit_ok {r : Response} {line : String} (told : r.wire = .ok line) (next : Report) :
    emit r next = next.behind (line ++ "\n") := by
  rw [emit, jsonLine_ok told]

variable {σ : Type} {c : Collaborators σ} {w : Workplace σ} {s t : Session σ}

section

variable {step : Step} {wire line : String} (checked : step.isChecked = true)
  (written : step.wire = .ok wire) {r : Response}

include checked written

theorem converse_wire (returned : (Run.run c w.surroundings step s).result = .ok r)
    (told : r.wire = .ok line) {more : List String} {output : String} {code : Nat}
    (later : (converse c w (Run.run c w.surroundings step s).session more).Shows output code) :
    (converse c w s (wire :: more)).Shows (line ++ "\n" ++ output) code := by
  have turn := answer_wire written c w.surroundings s checked
  simp only [returned] at turn
  simp only [converse, turn, emit_ok told]
  exact (later.behind _).behindAudit _

theorem converse_rejected {rejection : Rejection}
    (rejected : (Run.run c w.surroundings step s).result = .error (.rejected rejection))
    (told : (refuse s.ledger.step rejection).wire = .ok line) (more : List String) :
    (converse c w s (wire :: more)).Shows (line ++ "\n") 1 := by
  have turn := answer_wire written c w.surroundings s checked
  obtain ⟨_, _, stop⟩ := Run.run_rejected rejected
  rw [stop] at turn
  simp only [Run.stopped_result, Run.stopped_session] at turn
  simp only [converse, turn, Reply.ofFailure, emit_ok told]
  have last : Report.Shows { exitCode := 1 } "" 1 := ⟨rfl, rfl, rfl⟩
  have shown := (last.behind (line ++ "\n")).behindAudit
    (logged w (Run.stopped s (.rejected rejection) : Ran σ Response).events)
  rwa [String.append_empty] at shown

end

section

variable {steps : List Step} (checked : ∀ step ∈ steps, step.isChecked = true) {wires lines : List String}
  (types : Types steps wires) {rs : List Response}

include checked types

/-- By induction on the steps that return: each line is answered before the next one is read. -/
theorem converse_runs (ran : Run.Runs c w.surroundings s steps rs t) (writes : Writes rs lines)
    {more : List String} {output : String} {code : Nat} (later : (converse c w t more).Shows output code) :
    (converse c w s (wires ++ more)).Shows (terminated lines ++ output) code := by
  induction ran generalizing wires lines with
  | done =>
    cases types
    cases writes
    simpa using later
  | @next s t step rest r rs returned ran ih =>
    cases types with
    | cons written types =>
    cases writes with
    | cons told writes =>
    have further := ih (fun s member => checked s (.tail _ member)) types writes later
    have first := converse_wire (checked step List.mem_cons_self) written returned told further
    rw [terminated_cons, String.append_assoc]
    exact first

theorem converse_typed_runs (ran : Run.Runs c w.surroundings s steps rs t) (writes : Writes rs lines) :
    (converse c w s ((terminated wires).splitOn "\n")).Shows (terminated lines) 0 := by
  have blank : (converse c w t [""]).Shows "" 0 := by
    constructor <;> rfl
  have shown := converse_runs checked types ran writes blank
  rwa [← splitOn_terminated (types.unbroken checked), String.append_empty] at shown

theorem converse_typed_stops {k : Nat} {r : Rejection} {line : String}
    (stops : Run.StopsAt c w.surroundings s steps k rs t (.rejected r)) (writes : Writes rs lines)
    (told : (refuse t.ledger.step r).wire = .ok line) :
    (converse c w s ((terminated wires).splitOn "\n")).Shows (terminated (lines ++ [line])) 1 := by
  obtain ⟨step, at_k, rejected⟩ := stops.fails
  obtain ⟨bound, here⟩ := List.getElem?_eq_some_iff.mp at_k
  have before : ∀ s ∈ steps.take k, s.isChecked = true := fun s member =>
    checked s (List.mem_of_mem_take member)
  have back : Types (steps.drop k) (wires.drop k) := List.forall₂_drop k types
  rw [Types, List.drop_eq_getElem_cons bound, here, List.forall₂_cons_left_iff] at back
  obtain ⟨wire, rest, written, _, behind⟩ := back
  have split : wires ++ [""] = wires.take k ++ wire :: (rest ++ [""]) := by
    rw [← List.cons_append, ← behind, ← List.append_assoc, List.take_append_drop]
  rw [splitOn_terminated (types.unbroken checked), split, terminated_append]
  have last := converse_rejected (checked step (List.mem_of_getElem? at_k)) written rejected told
    (rest ++ [""])
  rw [terminated_cons line [], terminated_nil, String.append_empty]
  exact converse_runs before (List.forall₂_take k types) stops.ran writes last

end

end Command

end Rehearsal
