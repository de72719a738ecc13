import Rehearsal.Proofs.Run.NamedKeys

namespace Rehearsal

variable {σ : Type} {c : Collaborators σ}

/-- Whether a parameter is the name of a key that has to be there: the one that a key step begins with
does not. -/
structure Parameter.UsesKey (p : Parameter) (endpoint : Endpoint) (k : Nat) (name : String) : Prop where
  kind : p.kind = .ed25519
  text : Utf8.decode? p.value = some name
  existing : ¬ (endpoint.settled = .key ∧ k = 0)

namespace Run

variable {turns : List (Turn σ)} {s : Session σ} {w : Surroundings} {step : Step} {d : Deed σ}
  {name : String} {seed : Block}

theorem seed_lasts (keeps : c.KeepsKeys) (spares : ∀ turn ∈ turns, turn.Spares 0) (name : String)
    (seed : Block) :
    Lasts c turns fun t => t.machine.store.get? (Store.seedKey name) = some seed.bytes :=
  binding_lasts keeps.preserves spares (Utf8.encode name) seed.bytes

theorem Deed.Genuine.key_used {k : Nat} {p : Parameter} (genuine : d.Genuine c) (keeps : c.KeepsKeys)
    (param : d.step.params[k]? = some p) (uses : p.UsesKey d.step.endpoint k name)
    (bound : d.before.machine.store.get? (Store.seedKey name) = some seed.bytes) :
    d.params[k]? = some ⟨.ed25519, Key.addressOf seed⟩ := by
  obtain ⟨_, resolved⟩ := prepare_ok.mp genuine.carried.prepared
  obtain ⟨q, at_k, value⟩ := (Resolve.all_ok.mp resolved).2 k p param
  have address := Resolve.parameter_of_seed (w := scope d.surroundings d.step d.before) keeps uses.kind
    uses.text uses.existing bound
  rw [address] at value
  cases value
  exact at_k

theorem name_free_of_effect {files : Files} {endpoint : Endpoint} {maxUnits : Int} {method : Text}
    {params : List Parameter} {t u : State σ}
    (effect : Dispatch.Effect c files endpoint maxUnits method params t u) (keeps : c.KeepsKeys)
    (unnamed : ¬ (endpoint.settled = .key ∧ Dispatch.firstText params = .ok name))
    (absent : t.store.get? (Store.seedKey name) = none) :
    u.store.get? (Store.seedKey name) = none := by
  cases effect with
  | nothing => exact absent
  | program path _ _ _ => exact (keeps.programs files path t _).trans absent
  | call call _ => exact (keeps.calls call t _).trans absent
  | key other settled text =>
    have ne : name ≠ other := by
      rintro rfl
      exact unnamed ⟨settled, text⟩
    rw [keeps.create, Key.create_otherName ne, absent]

theorem Deed.Genuine.name_free (genuine : d.Genuine c) (keeps : c.KeepsKeys)
    (others : ∀ r, d.step.NamesKey name → d.answer = .ok r → r.isOk = false)
    (absent : d.before.machine.store.get? (Store.seedKey name) = none) :
    d.after.machine.store.get? (Store.seedKey name) = none := by
  have unnamed : ¬ d.step.NamesKey name := by
    intro names
    obtain ⟨r, answered, ok⟩ := genuine.key_first keeps names absent
    rw [others r names answered] at ok
    cases ok
  rw [genuine.namesKey_iff] at unnamed
  exact name_free_of_effect genuine.effect keeps unnamed absent

/-- A name that the store does not know at first stays free until a step gets the key of it. -/
theorem name_free_until (keeps : c.KeepsKeys) (spares : ∀ turn ∈ turns, turn.Spares 0)
    (opened : s.ledger.IsOpen) (absent : s.machine.store.get? (Store.seedKey name) = none)
    (others : ∀ d ∈ deeds c turns s, ∀ r, d.step.NamesKey name → d.answer = .ok r → r.isOk = false) :
    (play c turns s).machine.store.get? (Store.seedKey name) = none := by
  -- Whether the name stays free depends on the deeds so far, so `Lasts` does not say it.
  have kept := (history_induction (c := c)
    (motive := fun t ds => (∀ d ∈ ds, ∀ r, d.step.NamesKey name → d.answer = .ok r → r.isOk = false) →
      t.machine.store.get? (Store.seedKey name) = none)
    (fun ds d genuine before others => by
      have free := before fun e member => others e (List.mem_append_left [d] member)
      exact genuine.name_free keeps (others d (List.mem_append_right ds List.mem_cons_self)) free)
    turns [] opened
    (fun change member t ds before others => by
      have same : t.machine.toState.SameUnder 0 (change t.machine.toState) :=
        spares (.edit change) member t.machine.toState
      exact (same (Utf8.encode name)).trans (before others))
    (fun _ => absent)).2
  exact kept (by simpa using others)

theorem run_unkeyed {k : Nat} {p : Parameter} (keeps : c.KeepsKeys) (checked : step.isChecked = true)
    (calls : step.endpoint ≠ .key) (met : Contract.check s.ledger.step step = .ok ())
    (param : step.params[k]? = some p) (uses : p.UsesKey step.endpoint k name)
    (before : ∀ n < k, ∀ p, step.params[n]? = some p →
      ∃ q, Resolve.parameter c (scope w step s) n p = .ok q)
    (absent : s.machine.store.get? (Store.seedKey name) = none) :
    run c w step s = stopped s (.rejected ⟨.noKey name, some s.ledger.step⟩) := by
  have known := Step.endpoint_isChecked checked
  have settled : step.endpoint.settled ≠ .key := by rwa [Endpoint.settled_of_isChecked known]
  have fails : Resolve.parameter c (scope w step s) k p =
      .error (.rejected ⟨.noKey name, some s.ledger.step⟩) :=
    Resolve.parameter_of_absent keeps uses.kind uses.text settled absent
  exact run_refused_at known met param before fails

/-- Named keys keep their addresses, while nobody else writes what starts with the mark of seeds. Once a
key step that names a key has succeeded, every later one with that name succeeds with the same message
and changes nothing, the seed stays as it is, and wherever else the name is used it is resolved to the
address in that message. Before, a name that the store does not know stays unknown, and a call that uses
it, meets its contract and whose earlier parameters can be resolved is turned away. All this holds after
a history and some first steps of a plan. -/
theorem named_keys_keep_their_addresses (keeps : c.KeepsKeys) (m : Machine σ)
    (spares : ∀ turn ∈ turns, turn.Spares 0) (w : Surroundings) (begun : List Step) :
    let s := play c turns ⟨m, {}⟩
    let t := ended s (deedsOf c w begun s)
    let ds := deeds c turns ⟨m, {}⟩ ++ deedsOf c w begun s
    (∀ (n : Nat) d r name, ds[n]? = some d → d.step.NamesKey name → d.answer = .ok r →
      r.isOk = true →
      ∃ seed : Block,
        r.result.msg =
          some (.whole s!"created named key with address {Hex.encode (Key.addressOf seed)}") ∧
        (Key.addressOf seed).length = 33 ∧
        (∀ (n' : Nat) e, n < n' → ds[n']? = some e →
          (e.step.NamesKey name → ∃ x, e.answer = .ok x ∧ x.isOk = true ∧
            x.result.msg = r.result.msg ∧ e.after.machine = e.before.machine) ∧
          (∀ (k : Nat) p, e.step.params[k]? = some p → p.UsesKey e.step.endpoint k name →
            e.params[k]? = some ⟨.ed25519, Key.addressOf seed⟩) ∧
          e.before.machine.store.get? (Store.seedKey name) = some seed.bytes ∧
          e.after.machine.store.get? (Store.seedKey name) = some seed.bytes) ∧
        t.machine.store.get? (Store.seedKey name) = some seed.bytes ∧
        ∀ step (k : Nat) p, p.UsesKey step.endpoint k name →
          Resolve.parameter c (scope w step t) k p = .ok ⟨.ed25519, Key.addressOf seed⟩) ∧
    (∀ name, m.store.get? (Store.seedKey name) = none →
      (∀ d ∈ ds, ∀ r, d.step.NamesKey name → d.answer = .ok r → r.isOk = false) →
      t.machine.store.get? (Store.seedKey name) = none) ∧
    ∀ step (k : Nat) p name, t.machine.store.get? (Store.seedKey name) = none →
      step.isChecked = true → step.endpoint ≠ .key → Contract.check t.ledger.step step = .ok () →
      step.params[k]? = some p → p.UsesKey step.endpoint k name →
      (∀ n < k, ∀ p, step.params[n]? = some p →
        ∃ q, Resolve.parameter c (scope w step t) n p = .ok q) →
      ∃ r : Rejection, r.family = .namedKeyNotFound ∧ r.cause.subject = name ∧
        r.index = some t.ledger.step ∧ run c w step t = stopped t (.rejected r) := by
  intro s t ds
  -- The steps that were begun make a history of their own, as a plan that ends with them.
  let turns' := turns ++ [.call w (.all ⟨"", begun⟩)]
  have spares' : ∀ turn ∈ turns', turn.Spares 0 := by
    intro turn member
    rcases List.mem_append.mp member with earlier | last
    · exact spares turn earlier
    · exact Turn.spares_call 0 _ _ turn last
  obtain ⟨left, done⟩ := play_begun (c := c) turns w begun (s := ⟨m, {}⟩) Ledger.isOpen_fresh
  have left : play c turns' ⟨m, {}⟩ = t := left
  have done : deeds c turns' ⟨m, {}⟩ = ds := done
  have genuine : ∀ d ∈ ds, d.Genuine c := by
    rw [← done]
    exact deeds_genuine turns' Ledger.isOpen_fresh
  refine ⟨?_, ?_, ?_⟩
  · intro n d r name at_n names answered ok
    obtain ⟨seed, made, bound⟩ :=
      (genuine d (List.mem_of_getElem? at_n)).key_made keeps names answered ok
    have lasting := (seed_lasts keeps spares' name seed).afterwards (s := ⟨m, {}⟩) Ledger.isOpen_fresh
      (by rwa [done]) bound
    rw [left, done] at lasting
    obtain ⟨now, later⟩ := lasting
    refine ⟨seed, made, Key.length_addressOf seed, ?_, now, ?_⟩
    · intro n' e after at_n'
      have genuine' := genuine e (List.mem_of_getElem? at_n')
      obtain ⟨met, stays⟩ := later n' e after at_n'
      refine ⟨?_, ?_, met, stays⟩
      · intro again
        obtain ⟨x, answered', succeeds, same, unchanged⟩ := genuine'.key_again keeps again met
        exact ⟨x, answered', succeeds, same.trans made.symm, unchanged⟩
      · intro k p param uses
        exact genuine'.key_used keeps param uses met
    · intro step k p uses
      exact Resolve.parameter_of_seed (w := scope w step t) keeps uses.kind uses.text uses.existing now
  · intro name absent others
    rw [← left]
    exact name_free_until keeps spares' Ledger.isOpen_fresh absent (by rwa [done])
  · intro step k p name absent checked calls met param uses before
    exact ⟨_, rfl, rfl, rfl, run_unkeyed keeps checked calls met param uses before absent⟩

theorem namedKey_carriesOut (w : Surroundings) (opened : s.ledger.IsOpen) (name method : String) :
    CarriesOut c w { Step.createKey name with method } s (Step.createKey name).params := by
  have text : (scope w { Step.createKey name with method } s).text ⟨.ed25519, Utf8.encode name⟩ = .ok name :=
    Resolve.Scope.text_ok.mpr (Utf8.decode_encode name)
  exact run_single opened rfl rfl rfl (congrArg (Except.map fun _ => _) text)

theorem createKey_carriesOut (w : Surroundings) (opened : s.ledger.IsOpen) (name : String) :
    CarriesOut c w (Step.createKey name) s (Step.createKey name).params :=
  namedKey_carriesOut w opened name _

theorem Step.createKey_names (name : String) : (Step.createKey name).NamesKey name :=
  ⟨rfl, _, _, rfl, Utf8.decode_encode name⟩

theorem deeds_createKey_again (keeps : c.KeepsKeys) (w : Surroundings) (m : Machine σ) (name : String)
    (absent : m.store.get? (Store.seedKey name) = none) :
    let turns := [.call w (.one (Step.createKey name))]
    let s := play c turns ⟨m, {}⟩
    ∃ d e r, deeds c turns ⟨m, {}⟩ ++ deedsOf c w [Step.createKey name] s = [d, e] ∧
      d.answer = .ok r ∧ r.isOk = true ∧ d.step = Step.createKey name ∧ e.step = Step.createKey name := by
  intro turns s
  have first := createKey_carriesOut (c := c) (s := ⟨m, {}⟩) w Ledger.isOpen_fresh name
  have genuine := (deed_genuine Ledger.isOpen_fresh (deed_of_carriesOut first)).1
  have names := Step.createKey_names name
  obtain ⟨r, answered, ok⟩ := genuine.key_first keeps names absent
  obtain ⟨seed, _, bound⟩ := genuine.key_made keeps names answered ok
  have answered : (carryOut c w (Step.createKey name) (Step.createKey name).params ⟨m, {}⟩).1 = .ok r :=
    answered
  have opened := (first.ledger.recorded r answered).isOpen Ledger.isOpen_fresh
  have second := createKey_carriesOut (c := c) w opened name
  have genuine' := (deed_genuine opened (deed_of_carriesOut second)).1
  obtain ⟨x, answered', _⟩ := genuine'.key_again keeps names bound
  simp only [turns, s, play, deeds, Turn.play, Turn.deeds, Request.serve, Request.deeds, Request.steps,
    Ran.alone, deedsOf_recorded _ first answered, deedsOf_recorded _ second answered']
  exact ⟨_, _, r, rfl, rfl, ok, rfl, rfl⟩

theorem alice_keeps_her_address :
    let c : Collaborators Unit := collaborators noInterpreter
    let create := Step.createKey "alice"
    let turns := [.call {} (.one create)]
    let ds := deeds c turns ⟨blank, {}⟩ ++ deedsOf c {} [create] (play c turns ⟨blank, {}⟩)
    c.KeepsKeys ∧ (∀ turn ∈ turns, turn.Spares 0) ∧
      ∃ d e r x, ds = [d, e] ∧ d.answer = .ok r ∧ r.isOk = true ∧ e.answer = .ok x ∧ x.isOk = true ∧
        x.result.msg = r.result.msg ∧ e.after.machine = e.before.machine := by
  intro c create turns ds
  have keeps : c.KeepsKeys := collaborators_keepsKeys fun _ _ _ => rfl
  have spares : ∀ turn ∈ turns, turn.Spares 0 := Turn.spares_call 0 _ _
  obtain ⟨d, e, r, both, answered, ok, named, again⟩ :=
    deeds_createKey_again keeps {} blank "alice" rfl
  have first : ds[0]? = some d := congrArg (·[0]?) both
  have second : ds[1]? = some e := congrArg (·[1]?) both
  have names : d.step.NamesKey "alice" := by
    rw [named]
    exact Step.createKey_names "alice"
  have names' : e.step.NamesKey "alice" := by
    rw [again]
    exact Step.createKey_names "alice"
  obtain ⟨_, _, _, later, _⟩ := (named_keys_keep_their_addresses keeps blank spares {} [create]).1 0 d r
    "alice" first names answered ok
  obtain ⟨x, answered', succeeds, same, unchanged⟩ := (later 1 e Nat.zero_lt_one second).1 names'
  exact ⟨keeps, spares, d, e, r, x, both, answered, ok, answered', succeeds, same, unchanged⟩

def callAlice : Step :=
  { endpoint := .readonly, method := "m", params := [⟨.ed25519, Utf8.encode "alice"⟩] }

/-- A name without a key does not always stop a call as an unknown one: where an identifier has to
stand, it is of the wrong kind. -/
theorem misplaced_name_is_not_unknown :
    ¬ ∀ (c : Collaborators Unit) (w : Surroundings) (step : Step) (k : Nat) (p : Parameter)
      (name : String), c.KeepsKeys → blank.store.get? (Store.seedKey name) = none →
      step.isChecked = true → step.endpoint ≠ .key → step.params[k]? = some p →
      p.UsesKey step.endpoint k name →
      (∀ n < k, ∀ p, step.params[n]? = some p →
        ∃ q, Resolve.parameter c (scope w step ⟨blank, {}⟩) n p = .ok q) →
      ∃ r : Rejection, (run c w step ⟨blank, {}⟩).result = .error (.rejected r) ∧
        r.family = .namedKeyNotFound := by
  intro unknown
  have uses : Parameter.UsesKey ⟨.ed25519, Utf8.encode "alice"⟩ callAlice.endpoint 0 "alice" :=
    ⟨rfl, Utf8.decode_encode "alice", by decide⟩
  obtain ⟨r, failed, family⟩ := unknown (collaborators noInterpreter) {} callAlice 0 _ "alice"
    (collaborators_keepsKeys fun _ _ _ => rfl) rfl rfl (by decide) rfl uses
    (fun n none => absurd none (Nat.not_lt_zero n))
  have wrongKind : run (collaborators noInterpreter) {} callAlice ⟨blank, {}⟩ =
      stopped ⟨blank, {}⟩ (.rejected ⟨.wrongFirst "ed25519" .id, some 0⟩) := rfl
  rw [wrongKind] at failed
  cases failed
  cases family

end Run

end Rehearsal
