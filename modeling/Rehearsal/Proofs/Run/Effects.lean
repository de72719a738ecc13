import Rehearsal.Proofs.Run.Calls
import Rehearsal.Proofs.Run.History

namespace Rehearsal

variable {σ : Type} {c : Collaborators σ}

theorem Parameter.text_ok {p : Parameter} {name : String} :
    p.text = .ok name ↔ Utf8.decode? p.value = some name := by
  unfold text Utf8.decode?
  cases Utf8.decode p.value with
  | error =>
    constructor <;> intro same <;> cases same
  | ok decoded =>
    show Except.ok decoded = Except.ok name ↔ some decoded = some name
    rw [Except.ok.injEq, Option.some.injEq]

namespace Dispatch

theorem firstText_ok {p : Parameter} {rest : List Parameter} {name : String} :
    firstText (p :: rest) = .ok name ↔ Utf8.decode? p.value = some name := Parameter.text_ok

inductive Effect (c : Collaborators σ) (files : Files) (endpoint : Endpoint) (maxUnits : Int)
    (method : Text) (params : List Parameter) (s : State σ) : State σ → Prop
  | nothing : Effect c files endpoint maxUnits method params s s
  | key (name : String) (settled : endpoint.settled = .key) (text : firstText params = .ok name) :
      Effect c files endpoint maxUnits method params s (c.createKey name s).2
  | program (path : String) (settled : endpoint.settled = .execute) (creates : method = programCreate)
      (text : firstText params = .ok path) :
      Effect c files endpoint maxUnits method params s (c.createProgram files path s).2
  | call (call : Call) (made : call? endpoint maxUnits method params = some call) :
      Effect c files endpoint maxUnits method params s (c.invoke call s).2

section

variable (c : Collaborators σ) (files : Files) (endpoint : Endpoint) (maxUnits : Int) (method : Text)
  (params : List Parameter)

theorem invoke_state (m : Machine σ) :
    (invoke c method maxUnits params m).2.toState = m.toState ∨
      ∃ call, callWith? method maxUnits params = some call ∧
        (invoke c method maxUnits params m).2.toState = (c.invoke call m.toState).2 := by
  unfold invoke callWith?
  cases firstId params with
  | error f => exact .inl rfl
  | ok id => exact .inr ⟨_, rfl, rfl⟩

theorem createKey_state (s : State σ) :
    (createKey c params s).2 = s ∨
      ∃ name, firstText params = .ok name ∧ (createKey c params s).2 = (c.createKey name s).2 := by
  unfold createKey
  cases text : firstText params with
  | error f => exact .inl rfl
  | ok name => exact .inr ⟨name, rfl, rfl⟩

theorem createProgram_state (s : State σ) :
    (createProgram c files params s).2 = s ∨
      ∃ path, firstText params = .ok path ∧
        (createProgram c files params s).2 = (c.createProgram files path s).2 := by
  unfold createProgram
  cases text : firstText params with
  | error f => exact .inl rfl
  | ok path => exact .inr ⟨path, rfl, rfl⟩

theorem perform_effect (m : Machine σ) :
    Effect c files endpoint maxUnits method params m.toState
      (perform c files endpoint maxUnits method params m).2.toState := by
  unfold perform
  cases settled : endpoint.settled with
  | key =>
    rcases createKey_state c params m.toState with same | ⟨name, text, same⟩
    · simp only [same]
      exact .nothing
    · simp only [same]
      exact .key name settled text
  | execute =>
    by_cases creates : method = programCreate
    · simp only [creates, ↓reduceIte]
      rcases createProgram_state c files params m.toState with same | ⟨path, text, same⟩
      · simp only [same]
        exact .nothing
      · simp only [same]
        exact .program path settled rfl text
    · simp only [creates, ↓reduceIte]
      rcases invoke_state c maxUnits method params m with same | ⟨call, made, same⟩
      · simp only [same]
        exact .nothing
      · simp only [same]
        exact .call call (by simp only [call?, settled, creates, ↓reduceIte, made])
  | readonly =>
    rcases invoke_state c maxBudget method params m with same | ⟨call, made, same⟩
    · simp only [same]
      exact .nothing
    · simp only [same]
      exact .call call (by simp only [call?, settled, made])
  | unchecked label => exact .nothing

end

end Dispatch

namespace Run

variable {w : Surroundings} {step : Step} {params : List Parameter} {s : Session σ}

theorem carryOut_isOk {r : Response} (answered : (carryOut c w step params s).1 = .ok r) :
    r.isOk = true ↔
      ∃ success, (performed c w step params s).1 = .ok success ∧
        r.result = { success.fill {} with timestamp := w.second } := by
  rcases carryOut_ok answered with ⟨success, done, rfl⟩ | ⟨f, text, kind, failed, _, rfl⟩
  · simp [done, blankResponse, Response.isOk]
  · simp [failed, Response.marked, Response.isOk]

def Deed.performed (c : Collaborators σ) (d : Deed σ) : Except Failure Success × Machine σ :=
  Run.performed c d.surroundings d.step d.params d.before

theorem Deed.Genuine.left {d : Deed σ} (genuine : d.Genuine c) : d.after.machine = (d.performed c).2 := by
  rw [genuine.machine, carryOut_machine, Deed.performed]

theorem Deed.Genuine.effect {d : Deed σ} (genuine : d.Genuine c) :
    Dispatch.Effect c d.surroundings.files d.step.endpoint d.step.maxUnits d.step.method d.params
      d.before.machine.toState d.after.machine.toState := by
  rw [genuine.left]
  exact Dispatch.perform_effect c _ _ _ _ _ _

theorem Deed.Genuine.success {d : Deed σ} {r : Response} (genuine : d.Genuine c)
    (answered : d.answer = .ok r) (ok : r.isOk = true) :
    ∃ success, (d.performed c).1 = .ok success ∧
      r.result = { success.fill {} with timestamp := d.surroundings.second } :=
  (carryOut_isOk (genuine.answer.symm.trans answered)).mp ok

theorem Deed.Genuine.succeeds {d : Deed σ} (genuine : d.Genuine c) {success : Success}
    (done : (d.performed c).1 = .ok success) :
    ∃ r, d.answer = .ok r ∧ r.isOk = true ∧
      r.result = { success.fill {} with timestamp := d.surroundings.second } := by
  rw [genuine.answer]
  exact ⟨_, carryOut_succeeded done, rfl, rfl⟩

end Run

end Rehearsal
