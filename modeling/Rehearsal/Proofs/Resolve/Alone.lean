import Rehearsal.Proofs.Resolve.Pointwise
import Rehearsal.Proofs.Resolve.Yields
import Rehearsal.Run

namespace Rehearsal

variable {σ : Type} {c : Collaborators σ}

/-- Collaborators that look named keys up in the store and nowhere else. -/
def Collaborators.FindsKeysInStore (c : Collaborators σ) : Prop :=
  ∀ s t : State σ, s.store = t.store → c.publicKey s = c.publicKey t

theorem Run.collaborators_findsKeysInStore
    (invoke : Call → State σ → Except Failure CallResult × State σ) :
    (Run.collaborators invoke).FindsKeysInStore := by
  intro s t same
  funext name
  show Key.find s.store name = Key.find t.store name
  rw [same]

namespace Resolve

variable {w : Scope σ} {k : Nat} {p q : Parameter} {params resolved : List Parameter}

/-- A parameter by itself at a position: those before it are numbers, which are resolved to themselves. -/
def alone (k : Nat) (p : Parameter) : List Parameter := List.replicate k ⟨.u64, []⟩ ++ [p]

theorem alone_injective (same : alone k p = alone k q) : p = q :=
  List.cons.inj (List.append_cancel_left same) |>.1

theorem parametersFrom_numbers (position : Nat) :
    parametersFrom c w position (alone k p) = (parameter c w (position + k) p).map (alone k) := by
  induction k generalizing position with
  | zero =>
    show parametersFrom c w position [p] = (parameter c w position p).map fun q => [q]
    cases resolved : parameter c w position p <;> simp [parametersFrom, resolved, Except.map]
  | succ k ih =>
    have number : parameter c w position ⟨.u64, []⟩ = .ok ⟨.u64, []⟩ := rfl
    have more (r : Parameter) : alone (k + 1) r = ⟨.u64, []⟩ :: alone k r := rfl
    have shift : position + 1 + k = position + (k + 1) := by omega
    rw [more, parametersFrom, number]
    simp only [ih, shift]
    cases parameter c w (position + (k + 1)) p <;> rfl

theorem all_alone : all c w (alone k p) = (parameter c w k p).map (alone k) := by
  rw [all, parametersFrom_numbers, Nat.zero_add]

theorem all_alone_ok : all c w (alone k p) = .ok (alone k q) ↔ parameter c w k p = .ok q := by
  rw [all_alone, Outcome.map_ok]
  constructor
  · rintro ⟨r, here, same⟩
    rw [here, alone_injective same]
  · exact fun here => ⟨q, here, rfl⟩

theorem all_alone_error {f : Failure} :
    all c w (alone k p) = .error f ↔ parameter c w k p = .error f := by
  rw [all_alone, Outcome.map_error]

theorem all_alone_resolves :
    (∃ resolved, all c w (alone k p) = .ok resolved) ↔ ∃ q, parameter c w k p = .ok q := by
  rw [all_alone]
  cases parameter c w k p <;> simp [Except.map]

theorem all_carried {w' : Scope σ} (done : all c w params = .ok resolved)
    (kept : ∀ i b, w.ledger.lookup i = some b → w'.ledger.lookup i = some b)
    (files : w'.files = w.files) (endpoint : w'.endpoint = w.endpoint)
    (keys : ∀ name, c.publicKey w'.state name = c.publicKey w.state name) :
    all c w' params = .ok resolved := by
  obtain ⟨length, each⟩ := all_ok.mp done
  refine all_ok.mpr ⟨length, ?_⟩
  intro k p here
  obtain ⟨q, at_k, value⟩ := each k p here
  exact ⟨q, at_k, parameter_ok.mpr ((parameter_ok.mp value).carried kept files endpoint keys Iff.rfl)⟩

theorem all_ok_alone :
    all c w params = .ok resolved ↔
      resolved.length = params.length ∧ ∀ (k : Nat) p, params[k]? = some p →
        ∃ q, resolved[k]? = some q ∧ q.kind.label = p.kind.label ∧
          all c w (alone k p) = .ok (alone k q) := by
  rw [all_ok]
  simp only [all_alone_ok]
  constructor
  · rintro ⟨length, each⟩
    refine ⟨length, fun k p here => ?_⟩
    obtain ⟨q, at_k, value⟩ := each k p here
    exact ⟨q, at_k, (parameter_ok.mp value).label, value⟩
  · rintro ⟨length, each⟩
    refine ⟨length, fun k p here => ?_⟩
    obtain ⟨q, at_k, _, value⟩ := each k p here
    exact ⟨q, at_k, value⟩

theorem all_error_alone {f : Failure} :
    all c w params = .error f ↔
      ∃ (k : Nat) (p : Parameter), params[k]? = some p ∧ all c w (alone k p) = .error f ∧
        ∀ j < k, ∀ q, params[j]? = some q → ∃ r, all c w (alone j q) = .ok r := by
  rw [all_error]
  simp only [all_alone_error, all_alone_resolves]
  constructor
  · rintro ⟨k, p, here, fails, before⟩
    simp only [Nat.zero_add] at fails before
    exact ⟨k, p, here, fails, before⟩
  · rintro ⟨k, p, here, fails, before⟩
    exact ⟨k, p, here, by rwa [Nat.zero_add], by simpa only [Nat.zero_add] using before⟩

theorem all_fails_alone :
    (∃ f, all c w params = .error f) ↔
      ∃ (k : Nat) (p : Parameter), params[k]? = some p ∧ ∃ f, all c w (alone k p) = .error f := by
  simp only [all_alone_error]
  constructor
  · rintro ⟨f, failed⟩
    obtain ⟨k, p, here, fails, _⟩ := all_error.mp failed
    exact ⟨k, p, here, f, by rwa [Nat.zero_add] at fails⟩
  · rintro ⟨k, p, here, f, fails⟩
    cases done : all c w params with
    | error g => exact ⟨g, rfl⟩
    | ok resolved =>
      obtain ⟨_, each⟩ := all_ok.mp done
      obtain ⟨q, _, value⟩ := each k p here
      cases value.symm.trans fails

/-- Resolving parameters succeeds just if each does by itself at its position, with what that gives, of
the same kind; otherwise it fails as the first one does that fails by itself. What a parameter is
resolved to depends on nothing but itself, the ledger, the store, the files, the endpoint and whether it
comes first, and a ledger with more entries changes nothing. -/
theorem parameters_are_resolved_one_by_one (c : Collaborators σ) (w : Scope σ)
    (params : List Parameter) :
    (∀ resolved, all c w params = .ok resolved ↔
      resolved.length = params.length ∧ ∀ (k : Nat) p, params[k]? = some p →
        ∃ q, resolved[k]? = some q ∧ q.kind.label = p.kind.label ∧
          all c w (alone k p) = .ok (alone k q)) ∧
    (∀ f, all c w params = .error f ↔
      ∃ (k : Nat) (p : Parameter), params[k]? = some p ∧ all c w (alone k p) = .error f ∧
        ∀ j < k, ∀ q, params[j]? = some q → ∃ r, all c w (alone j q) = .ok r) ∧
    ((∃ f, all c w params = .error f) ↔
      ∃ (k : Nat) (p : Parameter), params[k]? = some p ∧ ∃ f, all c w (alone k p) = .error f) ∧
    (c.FindsKeysInStore → ∀ (w' : Scope σ) (others resolved resolved' : List Parameter) (k k' : Nat) p,
      w'.ledger = w.ledger → w'.state.store = w.state.store → w'.files = w.files →
      w'.endpoint = w.endpoint → (k' = 0 ↔ k = 0) → params[k]? = some p → others[k']? = some p →
      all c w params = .ok resolved → all c w' others = .ok resolved' → resolved'[k']? = resolved[k]?) ∧
    ∀ (l : Ledger) (resolved : List Parameter),
      (∀ i b, w.ledger.lookup i = some b → l.lookup i = some b) →
      all c w params = .ok resolved → all c { w with ledger := l } params = .ok resolved := by
  refine ⟨fun _ => all_ok_alone, fun _ => all_error_alone, all_fails_alone, ?_, ?_⟩
  · intro stored w' others resolved resolved' k k' p ledger store files endpoint first here there done done'
    obtain ⟨_, each⟩ := all_ok.mp done
    obtain ⟨_, each'⟩ := all_ok.mp done'
    obtain ⟨q, at_k, value⟩ := each k p here
    obtain ⟨r, at_k', value'⟩ := each' k' p there
    have keys : ∀ name, c.publicKey w'.state name = c.publicKey w.state name :=
      congrFun (stored w'.state w.state store)
    have kept : ∀ i b, w.ledger.lookup i = some b → w'.ledger.lookup i = some b := by simp [ledger]
    have again := parameter_ok.mpr ((parameter_ok.mp value).carried kept files endpoint keys first)
    rw [at_k, at_k', Except.ok.inj (value'.symm.trans again)]
  · intro l resolved kept done
    exact all_carried done kept rfl rfl fun _ => rfl

section Stamped

def stamped : Scope Unit :=
  { ledger := { entries := [(0, ⟨List.replicate 32 7, rfl⟩)], step := 1 }
    state := { memory := () }
    files := {}
    endpoint := .readonly
    index := some 1 }

variable {c : Collaborators Unit} {w : Scope Unit} {position : Nat} {rest resolved : List Parameter}

theorem parametersFrom_truth (truth : Bool) (later : parametersFrom c w (position + 1) rest = .ok resolved) :
    parametersFrom c w position (.ofTruth truth :: rest) = .ok (.ofTruth truth :: resolved) := by
  have itself : parameter c w position (.ofTruth truth) = .ok (.ofTruth truth) := rfl
  simp only [parametersFrom, itself, later]

theorem parametersFrom_stamped (ledger : w.ledger = stamped.ledger) :
    parametersFrom c w position [.ofReference ⟨0⟩] = .ok [⟨.id, List.replicate 32 7⟩] := by
  have read : Reference.read (Utf8.encode (Reference.text ⟨0⟩)) = .index 0 :=
    Reference.read_text (n := 0) (Nat.pow_pos (by decide))
  have value : parameter c w position (.ofReference ⟨0⟩) = .ok ⟨.id, List.replicate 32 7⟩ :=
    parameter_ok.mpr (.reference 0 ⟨List.replicate 32 7, rfl⟩ (.inr rfl) (by decide) read
      (by rw [ledger]; rfl))
  simp only [parametersFrom, value]

theorem stamped_lookup {i : Int} {b : Block} (found : stamped.ledger.lookup i = some b) : i = 0 := by
  simp only [Ledger.lookup, stamped, Ledger.find?] at found
  split at found
  · rename_i zero
    exact zero.symm
  · cases found

theorem reference_is_resolved_alike_in_another_step :
    let c := Run.collaborators Run.noInterpreter
    let another : Scope Unit := { stamped with index := some 2, state := { draws := ⟨[], 5⟩, memory := () } }
    let longer : Ledger := { stamped.ledger with entries := stamped.ledger.entries ++ [(1, .ofNat 1)] }
    let params := [.ofTruth true, .ofReference ⟨0⟩]
    let others := [.ofTruth false, .ofTruth false, .ofReference ⟨0⟩]
    let resolved : List Parameter := [.ofTruth true, ⟨.id, List.replicate 32 7⟩]
    let resolved' : List Parameter := [.ofTruth false, .ofTruth false, ⟨.id, List.replicate 32 7⟩]
    c.FindsKeysInStore ∧ all c stamped params = .ok resolved ∧ all c another others = .ok resolved' ∧
      resolved'[2]? = resolved[1]? ∧ all c { stamped with ledger := longer } params = .ok resolved := by
  intro c another longer params others resolved resolved'
  have stored : c.FindsKeysInStore := Run.collaborators_findsKeysInStore _
  have done : all c stamped params = .ok resolved :=
    parametersFrom_truth true (parametersFrom_stamped rfl)
  have done' : all c another others = .ok resolved' :=
    parametersFrom_truth false (parametersFrom_truth false (parametersFrom_stamped rfl))
  obtain ⟨_, _, _, alike, grown⟩ := parameters_are_resolved_one_by_one c stamped params
  refine ⟨stored, done, done', ?_, ?_⟩
  · exact alike stored another others resolved resolved' 1 2 (.ofReference ⟨0⟩) rfl rfl rfl rfl
      (by decide) rfl rfl done done'
  · refine grown longer resolved (fun i b found => ?_) done
    cases stamped_lookup found
    exact found

end Stamped

end Resolve

end Rehearsal
