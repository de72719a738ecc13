import Rehearsal.Proofs.Resolve.Identifiers
import Rehearsal.Proofs.Run.StepReferences

namespace Rehearsal.Run

variable {σ : Type} {c : Collaborators σ} {w : Surroundings} {s : Session σ}

theorem Deed.Genuine.passes_spelled {d : Deed σ} {k : Nat} {p : Parameter} {b : Block}
    (genuine : d.Genuine c) (param : d.step.params[k]? = some p)
    (kind : p.kind.settled = .string ∨ p.kind.settled = .id) (spells : Identifier.Spells b p.value) :
    d.Passes c k ⟨p.kind.settled, b.bytes⟩ := by
  obtain ⟨_, resolved⟩ := prepare_ok.mp genuine.carried.prepared
  obtain ⟨_, each⟩ := Resolve.all_ok.mp resolved
  obtain ⟨q, at_k, value⟩ := each k p param
  have spelled := Resolve.parameter_spells (c := c) (scope d.surroundings d.step d.before) k kind spells
  have same : q = ⟨p.kind.settled, b.bytes⟩ := Except.ok.inj (value.symm.trans spelled)
  subst same
  exact genuine.passes at_k b.length_bytes

theorem carriesOut_spelled {step : Step} {k : Nat} {p : Parameter} {b : Block}
    (opened : s.ledger.IsOpen) (checked : step.endpoint.isChecked = true)
    (met : Contract.check s.ledger.step step = .ok ()) (param : step.params[k]? = some p)
    (kind : p.kind.settled = .string ∨ p.kind.settled = .id) (spells : Identifier.Spells b p.value)
    (others : ∀ n ≠ k, ∀ q, step.params[n]? = some q →
      ∃ r, Resolve.parameter c (scope w step s) n q = .ok r) :
    ∃ params, CarriesOut c w step s params ∧ params[k]? = some ⟨p.kind.settled, b.bytes⟩ := by
  have spelled := Resolve.parameter_spells (c := c) (scope w step s) k kind spells
  cases resolved : Resolve.all c (scope w step s) step.params with
  | error f =>
    obtain ⟨n, q, here, fails, _⟩ := Resolve.all_error.mp resolved
    rw [Nat.zero_add] at fails
    by_cases same : n = k
    · subst same
      cases here.symm.trans param
      cases fails.symm.trans spelled
    · obtain ⟨r, resolves⟩ := others n same q here
      cases fails.symm.trans resolves
  | ok params =>
    have carried := run_prepared opened checked (prepare_ok.mpr ⟨met, resolved⟩)
    obtain ⟨_, each⟩ := Resolve.all_ok.mp resolved
    obtain ⟨q, at_k, value⟩ := each k p param
    cases value.symm.trans spelled
    exact ⟨params, carried, at_k⟩

/-- Whatever it is resolved against, a string or an identifier that spells a block is resolved to that
block, while one that begins as a reference is read as a reference. So of every identifier that a run has
produced, each step of the run that gets it in a spelling passes its bytes on, and a step that meets its
contract and whose other parameters can be resolved is carried out with them. -/
theorem identifiers_can_be_passed_back (c : Collaborators σ) (m : Machine σ) (turns : List (Turn σ)) :
    let s := play c turns ⟨m, {}⟩
    let ds := deeds c turns ⟨m, {}⟩
    (∀ (against : Resolve.Scope σ) (position : Nat) (p : Parameter) (b : Block),
      p.kind.settled = .string ∨ p.kind.settled = .id →
      (Identifier.Spells b p.value →
        Resolve.parameter c against position p = .ok ⟨p.kind.settled, b.bytes⟩) ∧
      (Reference.isClaimed p.value = true →
        Resolve.parameter c against position p = Resolve.reference against p)) ∧
    ∀ e ∈ ds, ∀ r id, e.answer = .ok r → r.isOk = true → r.result.id = some id →
      ∃ b : Block, id = b.text ∧
        (∀ d ∈ ds, ∀ (k : Nat) p, d.step.params[k]? = some p →
          p.kind.settled = .string ∨ p.kind.settled = .id → Identifier.Spells b p.value →
          d.Passes c k ⟨p.kind.settled, b.bytes⟩) ∧
        ∀ w begun step (k : Nat) p,
          let t := ended s (deedsOf c w begun s)
          step.endpoint.isChecked = true → Contract.check t.ledger.step step = .ok () →
          step.params[k]? = some p → p.kind.settled = .string ∨ p.kind.settled = .id →
          Identifier.Spells b p.value →
          (∀ n ≠ k, ∀ q, step.params[n]? = some q →
            ∃ r, Resolve.parameter c (scope w step t) n q = .ok r) →
          ∃ params, CarriesOut c w step t params ∧ params[k]? = some ⟨p.kind.settled, b.bytes⟩ := by
  intro s ds
  have opened : s.ledger.IsOpen := play_isOpen turns Ledger.isOpen_fresh
  have genuine := deeds_genuine (c := c) (s := ⟨m, {}⟩) turns Ledger.isOpen_fresh
  constructor
  · intro against position p b kind
    constructor
    · exact Resolve.parameter_spells against position kind
    · exact Resolve.parameter_claimed against position kind
  intro e made r id answered ok reported
  have produced : producedId r = some id := producedId_eq_some.mpr ⟨ok, reported⟩
  have form := carryOut_producedId ((genuine e made).answer.symm.trans answered)
  rw [produced] at form
  rcases form with none | ⟨_, b, same⟩
  · cases none
  refine ⟨b, Option.some.inj same, ?_, ?_⟩
  · intro d member k p param kind spells
    exact (genuine d member).passes_spelled param kind spells
  · intro w begun step k p t checked met param kind spells others
    exact carriesOut_spelled (deedsOf_isOpen begun opened) checked met param kind spells others

def lettered : Block := ⟨List.replicate 32 0xAB, rfl⟩

def mixedText : String := String.ofList (List.replicate 32 ['a', 'B']).flatten

def callLettered : Step :=
  { endpoint := .readonly, method := "m",
    params := [⟨.id, Utf8.encode mixedText⟩, ⟨.string, lettered.bytes⟩] }

def letters (_ : Call) (s : State Unit) : Except Failure CallResult × State Unit :=
  (.ok { callId := lettered.bytes }, s)

theorem mixedText_spells : Identifier.Spells lettered (Utf8.encode mixedText) := by
  have digits : ['a', 'B'].map Char.toLower = Hex.pair 0xAB := by decide
  have bytes : lettered.bytes = List.replicate 32 0xAB := rfl
  apply Identifier.Spells.ofDigits
  rw [bytes, List.flatMap_def, List.map_flatten, List.map_replicate, List.map_replicate, digits]

theorem lettered_spells : Identifier.Spells lettered lettered.bytes := .raw (by decide)

theorem letters_failRecordably : (collaborators letters).FailRecordably :=
  collaborators_failRecordably fun _ _ _ => nofun

theorem callZeros_letters :
    ∃ r, (carryOut (collaborators letters) {} (callZeros .execute) [⟨.id, List.replicate 32 0⟩]
      ⟨blank, {}⟩).1 = .ok r ∧ producedId r = some (.whole lettered.text) := by
  have done : (performed (collaborators letters) {} (callZeros .execute) [⟨.id, List.replicate 32 0⟩]
      ⟨blank, {}⟩).1 = .ok (.call lettered.bytes none 0) := rfl
  exact ⟨_, carryOut_succeeded done, rfl⟩

theorem callLettered_carriesOut {s : Session Unit} (opened : s.ledger.IsOpen) :
    ∃ params, CarriesOut (collaborators letters) {} callLettered s params := by
  have others : ∀ n ≠ 0, ∀ q, callLettered.params[n]? = some q →
      ∃ r, Resolve.parameter (collaborators letters) (scope {} callLettered s) n q = .ok r := by
    intro n later q here
    rcases n with _ | _ | n
    · exact absurd rfl later
    · cases here
      exact ⟨_, Resolve.parameter_spells _ 1 (.inl rfl) lettered_spells⟩
    · cases here
  obtain ⟨params, carried, _⟩ :=
    carriesOut_spelled opened rfl rfl rfl (.inr rfl) mixedText_spells others
  exact ⟨params, carried⟩

theorem deeds_callLettered :
    ∃ d e r, deeds (collaborators letters)
        [.call {} (.one (callZeros .execute)), .call {} (.one callLettered)] ⟨blank, {}⟩ = [d, e] ∧
      d.answer = .ok r ∧ producedId r = some (.whole lettered.text) ∧ e.step = callLettered := by
  obtain ⟨r, answered, produced⟩ := callZeros_letters
  have first := callZeros_carriesOut (collaborators letters) (.inl rfl)
  obtain ⟨params, second⟩ := callLettered_carriesOut (first.ledger.isOpen Ledger.isOpen_fresh)
  obtain ⟨x, answered'⟩ := carryOut_recorded letters_failRecordably {} callLettered params
    (run (collaborators letters) {} (callZeros .execute) ⟨blank, {}⟩).session
  simp only [deeds, Turn.play, Turn.deeds, Request.serve, Request.deeds, Request.steps, Ran.alone,
    deedsOf_recorded _ first answered, deedsOf_recorded _ second answered']
  exact ⟨_, _, r, rfl, rfl, produced, rfl⟩

theorem letters_are_passed_back :
    let turns := [.call {} (.one (callZeros .execute)), .call {} (.one callLettered)]
    let s := play (collaborators letters) turns ⟨blank, {}⟩
    (∃ e ∈ deeds (collaborators letters) turns ⟨blank, {}⟩, e.step = callLettered ∧
      e.Passes (collaborators letters) 0 ⟨.id, lettered.bytes⟩ ∧
      e.Passes (collaborators letters) 1 ⟨.string, lettered.bytes⟩) ∧
    ∃ params, CarriesOut (collaborators letters) {} callLettered s params ∧
      params[0]? = some ⟨.id, lettered.bytes⟩ := by
  intro turns s
  obtain ⟨d, e, r, both, answered, produced, step⟩ := deeds_callLettered
  obtain ⟨ok, id⟩ := producedId_eq_some.mp produced
  have main := identifiers_can_be_passed_back (collaborators letters) blank turns
  obtain ⟨resolves, fed⟩ := main
  obtain ⟨b, text, passed, carried⟩ := fed d (by rw [both]; exact List.mem_cons_self) r _ answered ok id
  have same : lettered = b := Block.text_injective (Text.whole.inj text)
  subst same
  have member : e ∈ deeds (collaborators letters) turns ⟨blank, {}⟩ := by
    rw [both]
    exact List.mem_cons_of_mem d List.mem_cons_self
  refine ⟨⟨e, member, step, ?_, ?_⟩, ?_⟩
  · exact passed e member 0 _ (by rw [step]; rfl) (.inr rfl) mixedText_spells
  · exact passed e member 1 _ (by rw [step]; rfl) (.inl rfl) lettered_spells
  · refine carried {} [] callLettered 0 _ rfl rfl rfl (.inr rfl) mixedText_spells ?_
    intro n later q here
    rcases n with _ | _ | n
    · exact absurd rfl later
    · cases here
      exact ⟨_, (resolves _ 1 _ lettered (.inl rfl)).1 lettered_spells⟩
    · cases here

def misleading : Block := ⟨Utf8.encode "step_" ++ List.replicate 27 0x5F, rfl⟩

theorem raw_identifier_can_be_taken_for_a_reference :
    ¬ ∀ (c : Collaborators Unit) (against : Resolve.Scope Unit) (position : Nat) (b : Block),
      Resolve.parameter c against position ⟨.id, b.bytes⟩ = .ok ⟨.id, b.bytes⟩ := by
  intro resolved
  have itself := resolved (collaborators noInterpreter) (scope {} callLettered ⟨blank, {}⟩) 0 misleading
  rw [Resolve.parameter_claimed _ 0 (.inr rfl) (by decide), Resolve.reference] at itself
  split at itself
  · cases itself
  · cases itself
  · rename_i i _
    have nothing : (scope {} callLettered ⟨blank, {}⟩).ledger.lookup i = none := rfl
    rw [nothing] at itself
    cases itself

end Rehearsal.Run
