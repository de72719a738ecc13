import Rehearsal.Proofs.Draws.FreshBlocks
import Rehearsal.Proofs.Run.CreatedPrograms

namespace Rehearsal

section

variable {files : Files} {path : String} {code : Bytes}

theorem Program.readModule_file (named : path.contains '\x00' = false) (read : files.read path = .ok code)
    (filled : code ≠ []) : readModule files path = .ok code := by
  cases code with
  | nil => exact absurd rfl filled
  | cons b rest => simp only [readModule, named, read, Bool.false_eq_true, ↓reduceIte]

theorem Resolve.exists_file (named : path.contains '\x00' = false) (read : files.read path = .ok code) :
    exists? files path = .ok true := by
  have found : ∃ entry, files.find path = .ok entry := by
    unfold Files.read at read
    split at read
    · exact ⟨_, by assumption⟩
    all_goals cases read
  obtain ⟨entry, found⟩ := found
  simp only [exists?, named, found, Bool.false_eq_true, ↓reduceIte]

variable {σ : Type} {c : Collaborators σ}

theorem Resolve.parameter_file {w : Scope σ} {position : Nat}
    (unclaimed : ¬ Reference.opening.toList <+: path.toList)
    (nameless : (Utf8.encode path).length = 2 * blockLength → Identifier.ofValue? (Utf8.encode path) = none)
    (named : path.contains '\x00' = false) (read : w.files.read path = .ok code) :
    parameter c w position ⟨.string, Utf8.encode path⟩ = .ok ⟨.string, Utf8.encode path⟩ := by
  have unclaimed : Reference.isClaimed (Utf8.encode path) = false := by
    rw [← Bool.not_eq_true, Reference.isClaimed_encode]
    exact unclaimed
  show identifier w ⟨.string, Utf8.encode path⟩ = _
  by_cases raw : (Utf8.encode path).length = blockLength
  · -- It is taken for the identifier that its bytes are, which are the same bytes.
    have itself : Identifier.ofValue? (Utf8.encode path) = some (Utf8.encode path) := by
      rw [Identifier.ofValue?, if_pos raw]
    simp only [identifier, unclaimed, itself, Bool.false_eq_true, ↓reduceIte]
    rfl
  · have nameless : Identifier.ofValue? (Utf8.encode path) = none := by
      by_cases long : (Utf8.encode path).length = 2 * blockLength
      · exact nameless long
      · rw [Identifier.ofValue?, if_neg raw, if_neg long]
    exact identifier_path unclaimed nameless (Scope.text_ok.mpr (Utf8.decode_encode path))
      (exists_file named read)

end

namespace Run

variable {σ : Type} {c : Collaborators σ} {s : Session σ} {w : Surroundings} {path : String} {code : Bytes}

/-- What creating a program from a path leaves: an identifier that no program had is reported and recorded,
and the store binds it to a module and nothing else anew. -/
structure Loads (ran : Ran σ Response) (s : Session σ) (code : Bytes) (r : Response) (id : Block) : Prop where
  returned : ran.result = .ok r
  isOk : r.isOk = true
  index : r.id = s.ledger.step
  reported : ∃ text : String, r.result.id = some (.whole text) ∧ Hex.decode? text = some id.bytes
  fresh : s.machine.store.get? (Store.programKey id.bytes) = none
  bound : ran.session.machine.store.get? (Store.programKey id.bytes) = some code
  others : ∀ key, key ≠ Store.programKey id.bytes →
    ran.session.machine.store.get? key = s.machine.store.get? key
  recorded : ran.session.ledger.lookup s.ledger.step = some id

theorem createProgram_loads (create : c.createProgram = Program.create) (opened : s.ledger.IsOpen)
    (unclaimed : ¬ Reference.opening.toList <+: path.toList)
    (nameless : (Utf8.encode path).length = 2 * blockLength → Identifier.ofValue? (Utf8.encode path) = none)
    (named : path.contains '\x00' = false) (read : w.files.read path = .ok code) (filled : code ≠ [])
    (free : ∃ b : Block, s.machine.store.get? (Store.programKey b.bytes) = none) :
    ∃ r id, Loads (run c w (Step.createProgram path) s) s code r id := by
  let params : List Parameter := [⟨.string, Utf8.encode path⟩]
  have creates : (Step.createProgram path).CreatesProgram := ⟨rfl, rfl⟩
  have carried : CarriesOut c w (Step.createProgram path) s params :=
    run_single opened rfl rfl rfl (Resolve.parameter_file unclaimed nameless named read)
  have text : Dispatch.firstText params = .ok path := Dispatch.firstText_ok.mpr (Utf8.decode_encode path)
  obtain ⟨id, draws, drawn⟩ := Draws.nextFresh_some_iff.mpr free
  have performed := performed_program c w params s creates
  rw [Dispatch.createProgram_fresh create text (Program.readModule_file named read filled) drawn] at performed
  have answered := carryOut_succeeded (congrArg Prod.fst performed)
  have store : (run c w (Step.createProgram path) s).session.machine.store =
      s.machine.store.insert (Store.programKey id.bytes) code := by
    rw [carried.machine, carryOut_machine, performed]
  refine ⟨_, id, carried.result.trans answered, rfl, rfl, ⟨id.text, rfl, id.decode_text⟩,
    Draws.nextFresh_absent drawn, ?_, ?_, ?_⟩
  · rw [store, Store.get_insert_self]
  · intro key other
    rw [store, Store.get_insert_of_ne _ _ other]
  · have here := (carried.ledger.recorded _ answered).here
    rw [producedId_eq_some.mpr ⟨rfl, rfl⟩] at here
    obtain ⟨b, found, same⟩ := Option.map_eq_some_iff.mp here
    rw [found, Block.text_injective (Text.whole.inj same)]

end Run

end Rehearsal
