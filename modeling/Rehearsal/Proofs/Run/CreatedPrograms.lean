import Rehearsal.Proofs.Files
import Rehearsal.Proofs.Run.Bindings
import Rehearsal.Proofs.Run.Preparation
import Rehearsal.Proofs.Run.Records

namespace Rehearsal

variable {σ : Type} {c : Collaborators σ}

/-- Collaborators that keep programs in the store, where none but the one that creates programs writes
or erases what starts with the mark of programs. -/
structure Collaborators.KeepsPrograms (c : Collaborators σ) : Prop where
  create : c.createProgram = Program.create
  keys : ∀ name (s : State σ), s.SameUnder 1 (c.createKey name s).2
  calls : ∀ call (s : State σ), s.SameUnder 1 (c.invoke call s).2

theorem Collaborators.KeepsPrograms.preserves (keeps : c.KeepsPrograms) : c.Preserves 1 := by
  constructor
  · exact fun name s => (keeps.keys name s).kept
  · intro files path s
    rw [keeps.create]
    exact Program.create_keptUnder 1 files path s
  · exact fun call s => (keeps.calls call s).kept

theorem Run.collaborators_keepsPrograms
    {invoke : Call → State σ → Except Failure CallResult × State σ}
    (spared : ∀ call (s : State σ), s.SameUnder 1 (invoke call s).2) :
    (Run.collaborators invoke).KeepsPrograms :=
  ⟨rfl, Key.create_sameUnder (by decide), spared⟩

structure Step.CreatesProgram (step : Step) : Prop where
  endpoint : step.endpoint = .execute
  method : step.method = programCreate

/-- Creating a program fails and changes nothing, or what was read is bound to a fresh identifier. -/
theorem Dispatch.createProgram_cases (create : c.createProgram = Program.create) (files : Files)
    (params : List Parameter) (s : State σ) :
    (∃ f, createProgram c files params s = (.error f, s)) ∨
      ∃ (path : String) (code : Bytes) (id : Block) (draws : Draws), firstText params = .ok path ∧
        Program.readModule files path = .ok code ∧
        s.store.get? (Store.programKey id.bytes) = none ∧
        createProgram c files params s = (.ok (.program id.bytes),
          { s with store := s.store.insert (Store.programKey id.bytes) code, draws }) := by
  unfold createProgram
  cases text : firstText params with
  | error f => exact .inl ⟨f, rfl⟩
  | ok path =>
    simp only [create]
    rcases Program.create_cases files path s with
      ⟨f, failed⟩ | ⟨code, id, draws, read, absent, made⟩
    · exact .inl ⟨f, by rw [failed]; rfl⟩
    · refine .inr ⟨path, code, id, draws, rfl, read, absent, ?_⟩
      -- The length of the identifier is looked at after the module is written, and it is always right.
      simp only [made, Except.bind, id.length_bytes, ↓reduceIte]

theorem Dispatch.createProgram_ok {files : Files} {params : List Parameter} {s : State σ}
    {success : Success} (create : c.createProgram = Program.create)
    (done : (createProgram c files params s).1 = .ok success) :
    ∃ (path : String) (code : Bytes) (id : Block), success = .program id.bytes ∧
      firstText params = .ok path ∧ files.read path = .ok code ∧
      s.store.get? (Store.programKey id.bytes) = none ∧
      (createProgram c files params s).2.store.get? (Store.programKey id.bytes) = some code := by
  rcases createProgram_cases create files params s with
    ⟨f, failed⟩ | ⟨path, code, id, draws, text, read, absent, made⟩
  · rw [failed] at done
    cases done
  · rw [made] at done ⊢
    cases done
    exact ⟨path, code, id, rfl, text, (Program.readModule_ok read).1, absent,
      Store.get_insert_self s.store _ code⟩

theorem Dispatch.createProgram_fresh {files : Files} {params : List Parameter} {s : State σ}
    {path : String} {code : Bytes} {id : Block} {draws : Draws}
    (create : c.createProgram = Program.create) (text : firstText params = .ok path)
    (read : Program.readModule files path = .ok code)
    (fresh : s.draws.nextFresh? s.store = some (id, draws)) :
    createProgram c files params s = (.ok (.program id.bytes),
      { s with store := s.store.insert (Store.programKey id.bytes) code, draws }) := by
  simp only [createProgram, text, create, Program.create, read, fresh, Except.bind,
    id.length_bytes, ↓reduceIte]

theorem Resolve.identifier_path {w : Scope σ} {p : Parameter} {path : String}
    (unclaimed : Reference.isClaimed p.value = false) (nameless : Identifier.ofValue? p.value = none)
    (text : w.text p = .ok path) (found : exists? w.files path = .ok true) : identifier w p = .ok p := by
  simp only [identifier, unclaimed, nameless, text, found, bind, Except.bind, Bool.false_eq_true, ↓reduceIte]
  rfl

namespace Run

variable {turns : List (Turn σ)} {d : Deed σ}

theorem code_lasts (keeps : c.KeepsPrograms) (spares : ∀ turn ∈ turns, turn.Spares 1) (id code : Bytes) :
    Lasts c turns fun s => s.machine.store.get? (Store.programKey id) = some code :=
  binding_lasts keeps.preserves spares id code

theorem performed_program (c : Collaborators σ) (w : Surroundings) {step : Step}
    (params : List Parameter) (s : Session σ) (creates : step.CreatesProgram) :
    performed c w step params s = ((Dispatch.createProgram c w.files params s.machine.toState).1,
      ⟨(Dispatch.createProgram c w.files params s.machine.toState).2, s.machine.calls⟩) := by
  unfold performed Dispatch.perform
  rw [creates.endpoint, creates.method]
  rfl

theorem Deed.performed_program (creates : d.step.CreatesProgram) :
    d.performed c = ((Dispatch.createProgram c d.surroundings.files d.params d.before.machine.toState).1,
      ⟨(Dispatch.createProgram c d.surroundings.files d.params d.before.machine.toState).2,
        d.before.machine.calls⟩) :=
  Run.performed_program c d.surroundings d.params d.before creates

theorem Deed.Genuine.program_made {r : Response} (genuine : d.Genuine c) (keeps : c.KeepsPrograms)
    (creates : d.step.CreatesProgram) (answered : d.answer = .ok r) (ok : r.isOk = true) :
    ∃ (path : String) (code : Bytes) (id : Block), r.result.id = some (.whole (Hex.encode id.bytes)) ∧
      Dispatch.firstText d.params = .ok path ∧ d.surroundings.files.read path = .ok code ∧
      d.before.machine.store.get? (Store.programKey id.bytes) = none ∧
      d.after.machine.store.get? (Store.programKey id.bytes) = some code := by
  obtain ⟨success, done, result⟩ := genuine.success answered ok
  have left := genuine.left
  rw [Deed.performed_program creates] at done left
  obtain ⟨path, code, id, rfl, text, read, absent, bound⟩ := Dispatch.createProgram_ok keeps.create done
  exact ⟨path, code, id, by rw [result]; rfl, text, read, absent, by rw [left]; exact bound⟩

/-- Created programs are kept, while nobody else writes what starts with the mark of programs. What the
store binds to an identifier at first it binds at every deed and at the end. A step that creates a program
and succeeds reports an identifier that no program had at first and no later one reports, and from then on
the store binds to it what was read when the step ran. -/
theorem created_programs_are_kept (keeps : c.KeepsPrograms) (m : Machine σ)
    (spares : ∀ turn ∈ turns, turn.Spares 1) :
    let s := play c turns ⟨m, {}⟩
    let ds := deeds c turns ⟨m, {}⟩
    (∀ id code, m.store.get? (Store.programKey id) = some code →
      s.machine.store.get? (Store.programKey id) = some code ∧
        ∀ d ∈ ds, d.before.machine.store.get? (Store.programKey id) = some code ∧
          d.after.machine.store.get? (Store.programKey id) = some code) ∧
    ∀ (n : Nat) d r, ds[n]? = some d → d.step.CreatesProgram → d.answer = .ok r → r.isOk = true →
      ∃ (path : String) (code : Bytes) (id : Block),
        r.result.id = some (.whole (Hex.encode id.bytes)) ∧
        Dispatch.firstText d.params = .ok path ∧ d.surroundings.files.read path = .ok code ∧
        m.store.get? (Store.programKey id.bytes) = none ∧
        d.after.machine.store.get? (Store.programKey id.bytes) = some code ∧
        s.machine.store.get? (Store.programKey id.bytes) = some code ∧
        ∀ (n' : Nat) e, n < n' → ds[n']? = some e →
          e.before.machine.store.get? (Store.programKey id.bytes) = some code ∧
          e.after.machine.store.get? (Store.programKey id.bytes) = some code ∧
          ∀ r', e.step.CreatesProgram → e.answer = .ok r' → r'.isOk = true →
            r'.result.id ≠ r.result.id := by
  intro s ds
  have initial : ∀ id code, m.store.get? (Store.programKey id) = some code →
      s.machine.store.get? (Store.programKey id) = some code ∧
        ∀ d ∈ ds, d.before.machine.store.get? (Store.programKey id) = some code ∧
          d.after.machine.store.get? (Store.programKey id) = some code :=
    fun id code bound => (code_lasts keeps spares id code).throughout Ledger.isOpen_fresh bound
  refine ⟨initial, ?_⟩
  intro n d r at_n creates answered ok
  have member := List.mem_of_getElem? at_n
  have genuine := deeds_genuine turns Ledger.isOpen_fresh d member
  obtain ⟨path, code, id, reported, text, read, absent, bound⟩ := genuine.program_made keeps creates answered ok
  obtain ⟨now, later⟩ :=
    (code_lasts keeps spares id.bytes code).afterwards Ledger.isOpen_fresh at_n bound
  refine ⟨path, code, id, reported, text, read, ?_, bound, now, ?_⟩
  · cases first : m.store.get? (Store.programKey id.bytes) with
    | none => rfl
    | some other =>
      -- It would still have been bound when it was drawn as a fresh one.
      have there := ((initial id.bytes other first).2 d member).1
      rw [absent] at there
      cases there
  · intro n' e after at_n'
    obtain ⟨met, left⟩ := later n' e after at_n'
    refine ⟨met, left, ?_⟩
    intro r' creates' answered' ok' same
    -- The identifier of the later one was free where this one is bound.
    have genuine' := deeds_genuine turns Ledger.isOpen_fresh e (List.mem_of_getElem? at_n')
    obtain ⟨_, _, id', reported', _, _, absent', _⟩ := genuine'.program_made keeps creates' answered' ok'
    have equal : id.bytes = id'.bytes := by
      rw [reported, reported'] at same
      exact (Hex.encode_injective (Text.whole.inj (Option.some.inj same))).symm
    rw [← equal, met] at absent'
    cases absent'

def oneModule : Surroundings := { files := { entries := [(["m"], .file [1])] } }

theorem found_oneModule : oneModule.files.find "m" = .ok (.file [1]) := by
  have single : Path.parts "m" = ["m"] := Path.parts_single (by decide) (by decide) (by decide)
  exact Files.find_alone [1] single rfl (by decide) (by decide)

def stutterer : Machine Unit := { draws := { supplied := [.ofNat 7, .ofNat 7] }, memory := () }

theorem createProgram_carriesOut {s : Session σ} (opened : s.ledger.IsOpen) :
    CarriesOut c oneModule (Step.createProgram "m") s [⟨.string, Utf8.encode "m"⟩] := by
  have unclaimed : Reference.isClaimed (Utf8.encode "m") = false := by decide
  have nameless : Identifier.ofValue? (Utf8.encode "m") = none := by decide
  have text : (scope oneModule (Step.createProgram "m") s).text ⟨.string, Utf8.encode "m"⟩ = .ok "m" :=
    Resolve.Scope.text_ok.mpr (Utf8.decode_encode "m")
  have found : Resolve.exists? oneModule.files "m" = .ok true := by
    rw [Resolve.exists?, String.contains_char_eq, found_oneModule]
    rfl
  have resolved : Resolve.identifier (scope oneModule (Step.createProgram "m") s)
      ⟨.string, Utf8.encode "m"⟩ = .ok ⟨.string, Utf8.encode "m"⟩ :=
    Resolve.identifier_path unclaimed nameless text found
  exact run_single opened rfl rfl rfl resolved

theorem deedsOf_createProgram_twice (tells : c.FailRecordably) (m : Machine σ) :
    let create := Step.createProgram "m"
    ∃ d e, deedsOf c oneModule [create, create] ⟨m, {}⟩ = [d, e] ∧
      d.before.machine = m ∧ e.before.machine = d.after.machine ∧
      ∀ x ∈ [d, e], x.step = create ∧ x.surroundings = oneModule ∧
        x.params = [⟨.string, Utf8.encode "m"⟩] := by
  intro create
  have first := createProgram_carriesOut (c := c) (s := ⟨m, {}⟩) Ledger.isOpen_fresh
  have second := createProgram_carriesOut (c := c) (first.ledger.isOpen Ledger.isOpen_fresh)
  obtain ⟨_, answered⟩ := carryOut_recorded tells oneModule create [⟨.string, Utf8.encode "m"⟩] ⟨m, {}⟩
  obtain ⟨_, answered'⟩ := carryOut_recorded tells oneModule create [⟨.string, Utf8.encode "m"⟩]
    (run c oneModule create ⟨m, {}⟩).session
  rw [deedsOf_recorded _ first answered, deedsOf_recorded _ second answered']
  refine ⟨_, _, rfl, rfl, rfl, ?_⟩
  intro x member
  rcases List.mem_cons.mp member with rfl | member
  · exact ⟨rfl, rfl, rfl⟩
  · rw [List.mem_singleton.mp member]
    exact ⟨rfl, rfl, rfl⟩

theorem Deed.Genuine.creates_oneModule {id : Block} {draws : Draws} (genuine : d.Genuine c)
    (keeps : c.KeepsPrograms) (step : d.step = Step.createProgram "m")
    (around : d.surroundings = oneModule) (params : d.params = [⟨.string, Utf8.encode "m"⟩])
    (fresh : d.before.machine.draws.nextFresh? d.before.machine.store = some (id, draws)) :
    (∃ r, d.answer = .ok r ∧ r.isOk = true) ∧ d.after.machine.draws = draws ∧
      d.after.machine.store = d.before.machine.store.insert (Store.programKey id.bytes) [1] := by
  have read : Program.readModule d.surroundings.files "m" = .ok [1] := by
    rw [around, Program.readModule, String.contains_char_eq, Files.read_of_find found_oneModule]
    rfl
  have text : Dispatch.firstText d.params = .ok "m" := by
    rw [params]
    exact Dispatch.firstText_ok.mpr (Utf8.decode_encode "m")
  have performed := Deed.performed_program (c := c) (d := d) (by rw [step]; exact ⟨rfl, rfl⟩)
  rw [Dispatch.createProgram_fresh keeps.create text read fresh] at performed
  have left := genuine.left
  rw [performed] at left
  obtain ⟨r, answered, ok, _⟩ := genuine.succeeds (congrArg Prod.fst performed)
  refine ⟨⟨r, answered, ok⟩, ?_, ?_⟩ <;> rw [left]

theorem stutterer_creates_two_programs :
    let c : Collaborators Unit := collaborators noInterpreter
    let create := Step.createProgram "m"
    let turns := [.call oneModule (.all ⟨"", [create, create]⟩)]
    let ds := deeds c turns ⟨stutterer, {}⟩
    c.KeepsPrograms ∧ (∀ turn ∈ turns, turn.Spares 1) ∧
      ∃ d e r r', ds = [d, e] ∧ d.answer = .ok r ∧ r.isOk = true ∧ e.answer = .ok r' ∧
        r'.isOk = true ∧ r'.result.id ≠ r.result.id := by
  intro c create turns ds
  have keeps : c.KeepsPrograms := collaborators_keepsPrograms fun _ _ _ => rfl
  have spares : ∀ turn ∈ turns, turn.Spares 1 := Turn.spares_call 1 _ _
  have tells : c.FailRecordably := collaborators_failRecordably fun _ _ _ failed => by
    cases failed
    exact Failure.broken_isRecordable _
  obtain ⟨d, e, both, start, handed, each⟩ := deedsOf_createProgram_twice tells stutterer
  have all : ds = [d, e] := (List.append_nil _).trans both
  have genuine := deeds_genuine (c := c) turns (s := ⟨stutterer, {}⟩) Ledger.isOpen_fresh
  obtain ⟨step, around, params⟩ := each d List.mem_cons_self
  have first : ds[0]? = some d := congrArg (·[0]?) all
  have second : ds[1]? = some e := congrArg (·[1]?) all
  have drawn : d.before.machine.draws.nextFresh? d.before.machine.store =
      some (.ofNat 7, { stutterer.draws with taken := 1 }) := by
    rw [start]
    decide
  obtain ⟨⟨r, answered, ok⟩, draws, store⟩ := (genuine d (List.mem_of_getElem? first)).creates_oneModule keeps step
    around params drawn
  obtain ⟨step', around', params'⟩ := each e (List.mem_cons_of_mem d List.mem_cons_self)
  have redrawn : e.before.machine.draws.nextFresh? e.before.machine.store =
      some (.ofNat 3, { stutterer.draws with taken := 3 }) := by
    rw [handed, draws, store, start]
    decide
  obtain ⟨⟨r', answered', ok'⟩, _, _⟩ := (genuine e (List.mem_of_getElem? second)).creates_oneModule keeps step'
    around' params' redrawn
  obtain ⟨_, _, _, _, _, _, _, _, _, later⟩ :=
    (created_programs_are_kept keeps stutterer spares).2 0 d r first (by rw [step]; exact ⟨rfl, rfl⟩)
      answered ok
  have distinct := (later 1 e Nat.zero_lt_one second).2.2 r' (by rw [step']; exact ⟨rfl, rfl⟩)
    answered' ok'
  exact ⟨keeps, spares, d, e, r, r', all, answered, ok, answered', ok', distinct⟩

end Run

end Rehearsal
