import Rehearsal.Proofs.Run.Bindings
import Rehearsal.Proofs.Run.Preparation

namespace Rehearsal

variable {σ : Type} {c : Collaborators σ}

/-- Collaborators that keep named keys in the store, where none but the one that creates keys writes or
erases what starts with the mark of seeds. -/
structure Collaborators.KeepsKeys (c : Collaborators σ) : Prop where
  lookup : c.publicKey = fun s name => Key.find s.store name
  create : c.createKey = Key.create
  programs : ∀ files path (s : State σ), s.SameUnder 0 (c.createProgram files path s).2
  calls : ∀ call (s : State σ), s.SameUnder 0 (c.invoke call s).2

theorem Collaborators.KeepsKeys.preserves (keeps : c.KeepsKeys) : c.Preserves 0 := by
  constructor
  · intro name s
    rw [keeps.create]
    exact Key.create_keptUnder 0 name s
  · exact fun files path s => (keeps.programs files path s).kept
  · exact fun call s => (keeps.calls call s).kept

theorem Run.collaborators_keepsKeys {invoke : Call → State σ → Except Failure CallResult × State σ}
    (spared : ∀ call (s : State σ), s.SameUnder 0 (invoke call s).2) :
    (Run.collaborators invoke).KeepsKeys :=
  ⟨rfl, rfl, Program.create_sameUnder (by decide), spared⟩

def Step.NamesKey (step : Step) (name : String) : Prop :=
  step.endpoint = .key ∧ ∃ p rest, step.params = p :: rest ∧ Utf8.decode? p.value = some name

theorem Step.NamesKey.unique {step : Step} {name other : String} (names : step.NamesKey name)
    (others : step.NamesKey other) : name = other := by
  obtain ⟨_, p, rest, given, text⟩ := names
  obtain ⟨_, q, rest', given', text'⟩ := others
  cases given.symm.trans given'
  exact Option.some.inj (text.symm.trans text')

theorem Contract.check_key_first {index : Int} {step : Step} {p : Parameter} {rest : List Parameter}
    (met : check index step = .ok ()) (params : step.params = p :: rest)
    (settled : step.endpoint.settled = .key) :
    p.kind.settled = .ed25519 ∨ p.kind.settled = .secp256k1 := by
  simp only [check, params, settled] at met
  split at met
  · assumption
  · unfold refuseKind refuse at met
    split at met <;> cases met

namespace Resolve

variable {w : Scope σ} {position : Nat} {p q : Parameter} {name : String} {seed : Block}

theorem parameter_keyName (settled : w.endpoint.settled = .key)
    (kind : p.kind.settled = .ed25519 ∨ p.kind.settled = .secp256k1)
    (resolved : parameter c w 0 p = .ok q) : q = p := by
  unfold parameter at resolved
  rcases kind with kind | kind
  · simp only [kind, settled, and_self, ↓reduceIte] at resolved
    obtain ⟨_, _, same⟩ := Outcome.map_ok.mp resolved
    exact same.symm
  · simp only [kind] at resolved
    cases resolved

theorem parameter_ed25519 (kind : p.kind = .ed25519)
    (existing : ¬ (w.endpoint.settled = .key ∧ position = 0)) :
    parameter c w position p = namedKey c w p := by
  have settled : p.kind.settled = .ed25519 := by
    rw [kind]
    rfl
  simp only [parameter, settled, existing, ↓reduceIte]

theorem parameter_of_seed (keeps : c.KeepsKeys) (kind : p.kind = .ed25519)
    (text : Utf8.decode? p.value = some name)
    (existing : ¬ (w.endpoint.settled = .key ∧ position = 0))
    (bound : w.state.store.get? (Store.seedKey name) = some seed.bytes) :
    parameter c w position p = .ok ⟨.ed25519, Key.addressOf seed⟩ := by
  have settled : p.kind.settled = .ed25519 := by
    rw [kind]
    rfl
  rw [parameter_ed25519 kind existing, namedKey, keeps.lookup]
  simp only [Scope.text_ok.mpr text, Key.find_seed bound, Key.address_publicKey, bind, Except.bind,
    withValue, settled]
  rfl

theorem parameter_of_absent (keeps : c.KeepsKeys) (kind : p.kind = .ed25519)
    (text : Utf8.decode? p.value = some name) (calls : w.endpoint.settled ≠ .key)
    (absent : w.state.store.get? (Store.seedKey name) = none) :
    parameter c w position p = .error (.rejected ⟨.noKey name, w.index⟩) := by
  rw [parameter_ed25519 kind (fun both => calls both.1), namedKey, keeps.lookup]
  simp only [Scope.text_ok.mpr text, Key.find_absent absent, calls, bind, Except.bind, ↓reduceIte]
  rfl

end Resolve

namespace Dispatch

variable {params : List Parameter} {name : String} {s : State σ} {seed : Block}

theorem createKey_seed (create : c.createKey = Key.create) (text : firstText params = .ok name)
    (bound : s.store.get? (Store.seedKey name) = some seed.bytes) :
    createKey c params s = (.ok (.key (keyMessage (Key.addressOf seed))), s) := by
  simp only [createKey, text, create, Key.create_seed bound, Breakdown.existingKey?, Except.bind,
    Key.address_publicKey, Except.map]

theorem createKey_absent (create : c.createKey = Key.create) (text : firstText params = .ok name)
    (absent : s.store.get? (Store.seedKey name) = none) :
    createKey c params s = (.ok (.key (keyMessage (Key.addressOf s.draws.next.1))),
      { s with
        store := s.store.insert (Store.seedKey name) s.draws.next.1.bytes
        draws := s.draws.next.2 }) := by
  simp only [createKey, text, create, Key.create_absent absent, Except.bind, Key.address_publicKey,
    Except.map]

theorem createKey_corrupt (create : c.createKey = Key.create) (text : firstText params = .ok name)
    (corrupt : Key.create name s = (.error (.broken (.corruptKey name)), s)) :
    createKey c params s = (.error (.broken (.corruptKey name)), s) := by
  simp only [createKey, text, create, corrupt, Breakdown.existingKey?, Except.bind]

theorem createKey_ok (create : c.createKey = Key.create) (text : firstText params = .ok name)
    {success : Success} (done : (createKey c params s).1 = .ok success) :
    ∃ seed : Block, success = .key (keyMessage (Key.addressOf seed)) ∧
      (createKey c params s).2.store.get? (Store.seedKey name) = some seed.bytes := by
  rcases Key.create_cases name s with absent | ⟨seed, bound⟩ | corrupt
  · rw [createKey_absent create text absent] at done ⊢
    cases done
    exact ⟨_, rfl, Store.get_insert_self s.store _ _⟩
  · rw [createKey_seed create text bound] at done ⊢
    cases done
    exact ⟨seed, rfl, bound⟩
  · rw [createKey_corrupt create text corrupt] at done
    cases done

end Dispatch

namespace Run

variable {d : Deed σ} {name : String} {seed : Block}

theorem prepare_keyParams {w : Surroundings} {step : Step} {s : Session σ} {params : List Parameter}
    (prepared : prepare c w step s = .ok params) (settled : step.endpoint.settled = .key) :
    ∃ p rest others, step.params = p :: rest ∧ params = p :: others := by
  obtain ⟨met, resolved⟩ := prepare_ok.mp prepared
  obtain ⟨_, each⟩ := Resolve.all_ok.mp resolved
  cases given : step.params with
  | nil =>
    rw [Contract.check, given] at met
    cases met
  | cons p rest =>
    obtain ⟨q, first, value⟩ := each 0 p (by rw [given]; rfl)
    have same := Resolve.parameter_keyName settled (Contract.check_key_first met given settled) value
    obtain ⟨others, resolvedParams⟩ := List.head?_eq_some_iff.mp (List.head?_eq_getElem?.trans first)
    exact ⟨p, rest, others, rfl, by rw [resolvedParams, same]⟩

theorem Deed.Genuine.keyParams (genuine : d.Genuine c) (settled : d.step.endpoint.settled = .key) :
    ∃ p rest others, d.step.params = p :: rest ∧ d.params = p :: others :=
  prepare_keyParams genuine.carried.prepared settled

theorem Deed.Genuine.namesKey_iff (genuine : d.Genuine c) :
    d.step.NamesKey name ↔
      d.step.endpoint.settled = .key ∧ Dispatch.firstText d.params = .ok name := by
  have settled := Endpoint.settled_of_isChecked genuine.carried.checked
  constructor
  · rintro ⟨endpoint, p, rest, given, text⟩
    rw [endpoint] at settled
    obtain ⟨q, _, others, params, resolved⟩ := genuine.keyParams (by rw [endpoint]; exact settled)
    cases given.symm.trans params
    rw [endpoint, resolved]
    exact ⟨settled, Dispatch.firstText_ok.mpr text⟩
  · rintro ⟨key, text⟩
    obtain ⟨p, rest, others, params, resolved⟩ := genuine.keyParams key
    rw [resolved] at text
    exact ⟨settled.symm.trans key, p, rest, params, Dispatch.firstText_ok.mp text⟩

theorem performed_key (c : Collaborators σ) (w : Surroundings) {step : Step} (params : List Parameter)
    (s : Session σ) (endpoint : step.endpoint = .key) :
    performed c w step params s = ((Dispatch.createKey c params s.machine.toState).1,
      ⟨(Dispatch.createKey c params s.machine.toState).2, s.machine.calls⟩) := by
  unfold performed Dispatch.perform
  rw [endpoint]
  rfl

theorem Deed.performed_key (endpoint : d.step.endpoint = .key) :
    d.performed c = ((Dispatch.createKey c d.params d.before.machine.toState).1,
      ⟨(Dispatch.createKey c d.params d.before.machine.toState).2, d.before.machine.calls⟩) :=
  Run.performed_key c d.surroundings d.params d.before endpoint

theorem Deed.Genuine.key_made (genuine : d.Genuine c) (keeps : c.KeepsKeys)
    (names : d.step.NamesKey name) {r : Response} (answered : d.answer = .ok r) (ok : r.isOk = true) :
    ∃ seed : Block, r.result.msg = some (.whole (Dispatch.keyMessage (Key.addressOf seed))) ∧
      d.after.machine.store.get? (Store.seedKey name) = some seed.bytes := by
  obtain ⟨success, done, result⟩ := genuine.success answered ok
  have left := genuine.left
  rw [Deed.performed_key names.1] at done left
  obtain ⟨seed, rfl, bound⟩ := Dispatch.createKey_ok keeps.create (genuine.namesKey_iff.mp names).2 done
  exact ⟨seed, by rw [result]; rfl, by rw [left]; exact bound⟩

/-- A key step with the name of a key that there is reports the same address and changes nothing. -/
theorem Deed.Genuine.key_again (genuine : d.Genuine c) (keeps : c.KeepsKeys)
    (names : d.step.NamesKey name)
    (bound : d.before.machine.store.get? (Store.seedKey name) = some seed.bytes) :
    ∃ r, d.answer = .ok r ∧ r.isOk = true ∧
      r.result.msg = some (.whole (Dispatch.keyMessage (Key.addressOf seed))) ∧
      d.after.machine = d.before.machine := by
  have both := Deed.performed_key (c := c) names.1
  rw [Dispatch.createKey_seed keeps.create (genuine.namesKey_iff.mp names).2 bound] at both
  obtain ⟨r, answered, ok, result⟩ := genuine.succeeds (congrArg Prod.fst both)
  exact ⟨r, answered, ok, by rw [result]; rfl, by rw [genuine.left, both]⟩

theorem Deed.Genuine.key_first (genuine : d.Genuine c) (keeps : c.KeepsKeys)
    (names : d.step.NamesKey name)
    (absent : d.before.machine.store.get? (Store.seedKey name) = none) :
    ∃ r, d.answer = .ok r ∧ r.isOk = true := by
  have both := congrArg Prod.fst (Deed.performed_key (c := c) names.1)
  rw [Dispatch.createKey_absent keeps.create (genuine.namesKey_iff.mp names).2 absent] at both
  obtain ⟨r, answered, ok, _⟩ := genuine.succeeds both
  exact ⟨r, answered, ok⟩

end Run

end Rehearsal
