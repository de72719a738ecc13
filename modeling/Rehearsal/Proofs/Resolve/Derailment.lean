import Rehearsal.Proofs.Outcome
import Rehearsal.Proofs.Reference.Grammar
import Rehearsal.Proofs.Text.Whole
import Rehearsal.Resolve

namespace Rehearsal

theorem Kind.settled_of_isChecked {k : Kind} (checked : k.isChecked = true) : k.settled = k := by
  cases k with
  | unchecked label => cases checked
  | _ => decide

theorem Rejection.message_isWhole {r : Rejection} (worded : r.cause.text.isWhole = true) :
    r.message.isWhole = true := by
  obtain ⟨text, worded⟩ := Text.isWhole_iff.mp worded
  unfold message
  cases r.cause.requirement <;> cases r.index <;> simp only [worded] <;> rfl

/-- A rejection that names an index, with no surrogate in its wording. -/
def Failure.Rejects (f : Failure) (index : Option Int) : Prop :=
  ∃ r, f = .rejected r ∧ r.index = index ∧ r.message.isWhole = true

def Collaborators.storedKeys {σ : Type} (c : Collaborators σ) : Collaborators σ :=
  { c with publicKey := fun s name => Key.find s.store name }

namespace Files

theorem walk_ne_isDirectory (f : Files) (place parts : List Text) :
    f.walk place parts ≠ .error .isDirectory := by
  fun_induction walk f place parts <;> simp_all

theorem find_blocked {f : Files} {path : Text} {problem : FileProblem}
    (leads : f.find path = .error problem) (present : problem.isAbsence = false) :
    problem = .nameTooLong ∨ problem = .denied := by
  cases problem with
  | missing | notDirectory => cases present
  | nameTooLong => exact .inl rfl
  | denied => exact .inr rfl
  | isDirectory =>
    unfold find at leads
    split at leads
    · cases leads
    · exact absurd leads (f.walk_ne_isDirectory _ _)

end Files

namespace Key

theorem address_block (b : Block) : address b.bytes = .ok (0 :: b.bytes) := by
  simp [address, b.length_bytes, ed25519Mark]

theorem find_error {s : Store} {name : String} {f : Failure} :
    find s name = .error f ↔
      f = .broken (.corruptKey name) ∧
        ∃ seed, s.get? (Store.seedKey name) = some seed ∧ seed.length ≠ blockLength := by
  unfold find
  cases s.get? (Store.seedKey name) with
  | none => simp
  | some seed =>
    by_cases length : seed.length = blockLength
    · simp [Block.ofBytes?, length]
    · simp [Block.ofBytes?, length, eq_comm (a := f)]

theorem find_ok {s : Store} {name : String} {publicKey : Bytes}
    (found : find s name = .ok (some publicKey)) : ∃ b : Block, publicKey = b.bytes := by
  unfold find at found
  split at found
  · cases found
  · split at found <;> cases found
    exact ⟨_, rfl⟩

end Key

namespace Resolve

variable {σ : Type} {c : Collaborators σ} {w : Scope σ}

/-- The ways in which resolving a parameter fails with no rejection. -/
inductive Derails (w : Scope σ) (position : Nat) (p : Parameter) : Failure → Prop
  /-- a reference to a number of more digits than a numeral may have -/
  | numeral (text : List Char) (negative : Bool) (digits : List Char)
      (kind : p.kind = .string ∨ p.kind = .id) (spells : Reference.Spells text negative digits)
      (value : p.value = Reference.written text) (long : Decimal.maxDigits < digits.length) :
      Derails w position p (.fault (.tooManyDigits digits.length))
  /-- neither a reference nor an identifier, but the text of a path that is too long or leads through
  a directory that nobody may look into -/
  | path (path : String) (problem : FileProblem) (kind : p.kind = .string ∨ p.kind = .id)
      (unclaimed : Reference.isClaimed p.value = false)
      (noId : Identifier.ofValue? p.value = none) (text : Utf8.decode? p.value = some path)
      (noNul : path.contains '\x00' = false) (blocked : problem = .nameTooLong ∨ problem = .denied)
      (found : w.files.find path = .error problem) :
      Derails w position p (.fault (.file problem (Path.normal path)))
  /-- the name of a key that is not about to be created and is stored with no seed of 32 bytes -/
  | seed (name : String) (seed : Bytes) (kind : p.kind = .ed25519)
      (existing : ¬ (w.endpoint.settled = .key ∧ position = 0))
      (text : Utf8.decode? p.value = some name)
      (stored : w.state.store.get? (Store.seedKey name) = some seed)
      (length : seed.length ≠ blockLength) :
      Derails w position p (.broken (.corruptKey name))

theorem exists_error {files : Files} {path : String} {f : Failure} :
    exists? files path = .error f ↔
      ∃ problem, path.contains '\x00' = false ∧ files.find path = .error problem ∧
        problem.isAbsence = false ∧ f = .fault (.file problem (Path.normal path)) := by
  unfold exists?
  cases path.contains '\x00' with
  | true => simp
  | false =>
    cases files.find path with
    | ok entry => simp
    | error problem => cases absence : problem.isAbsence <;> simp [absence, eq_comm (b := f)]

theorem Scope.text_ok {p : Parameter} {s : String} :
    w.text p = .ok s ↔ Utf8.decode? p.value = some s := by
  unfold Scope.text
  cases Utf8.decode? p.value with
  | some t => simp
  | none => cases p.kind.isChecked <;> simp [Scope.refuse]

theorem Scope.text_error {p : Parameter} {f : Failure} (checked : p.kind.isChecked = true)
    (failed : w.text p = .error f) : f.Rejects w.index := by
  unfold Scope.text at failed
  split at failed
  · cases failed
  · rw [if_pos checked] at failed
    cases failed
    exact ⟨_, rfl, rfl, Rejection.message_isWhole rfl⟩

theorem reference_error {p : Parameter} {f : Failure} (failed : reference w p = .error f) :
    f.Rejects w.index ∨
      ∃ n, Reference.read p.value = .oversized n ∧ f = .fault (.tooManyDigits n) := by
  unfold reference at failed
  split at failed
  · cases failed
    exact .inl ⟨_, rfl, rfl, Rejection.message_isWhole rfl⟩
  · rename_i n oversized
    cases failed
    exact .inr ⟨n, oversized, rfl⟩
  · split at failed <;> cases failed
    exact .inl ⟨_, rfl, rfl, Rejection.message_isWhole rfl⟩

theorem identifier_error {position : Nat} {p : Parameter} {f : Failure}
    (kind : p.kind = .string ∨ p.kind = .id) (failed : identifier w p = .error f) :
    f.Rejects w.index ∨ Derails w position p f := by
  have checked : p.kind.isChecked = true := by rcases kind with kind | kind <;> rw [kind] <;> rfl
  unfold identifier at failed
  split at failed
  · rename_i claimed
    rcases reference_error failed with rejected | ⟨n, oversized, rfl⟩
    · exact .inl rejected
    · obtain ⟨text, negative, digits, spells, value, long, rfl⟩ :=
        Reference.read_oversized_iff.mp ⟨claimed, oversized⟩
      exact .inr (.numeral text negative digits kind spells value long)
  · rename_i claimed
    have unclaimed : Reference.isClaimed p.value = false := Bool.eq_false_iff.mpr claimed
    split at failed
    · cases failed
    · rename_i noId
      rcases Outcome.bind_error.mp failed with textless | ⟨path, text, failed⟩
      · exact .inl (Scope.text_error checked textless)
      · rcases Outcome.bind_error.mp failed with unasked | ⟨found, _, failed⟩
        · obtain ⟨problem, noNul, leads, present, rfl⟩ := exists_error.mp unasked
          have blocked := Files.find_blocked leads present
          exact .inr (.path path problem kind unclaimed noId (Scope.text_ok.mp text) noNul blocked leads)
        · cases found <;> cases failed
          exact .inl ⟨_, rfl, rfl, Rejection.message_isWhole rfl⟩

theorem namedKey_error {position : Nat} {p : Parameter} {f : Failure} (kind : p.kind = .ed25519)
    (existing : ¬ (w.endpoint.settled = .key ∧ position = 0))
    (failed : namedKey c.storedKeys w p = .error f) :
    f.Rejects w.index ∨ Derails w position p f := by
  have checked : p.kind.isChecked = true := by rw [kind]; rfl
  rcases Outcome.bind_error.mp failed with textless | ⟨name, text, failed⟩
  · exact .inl (Scope.text_error checked textless)
  · rcases Outcome.bind_error.mp failed with corrupt | ⟨found, key, failed⟩
    · obtain ⟨rfl, seed, stored, length⟩ := Key.find_error.mp corrupt
      exact .inr (.seed name seed kind existing (Scope.text_ok.mp text) stored length)
    · cases found with
      | none =>
        simp only at failed
        split at failed <;> cases failed
        exact .inl ⟨_, rfl, rfl, Rejection.message_isWhole rfl⟩
      | some publicKey =>
        obtain ⟨b, rfl⟩ := Key.find_ok key
        simp only [Key.address_block] at failed
        cases failed

/-- A parameter of a checked kind is turned away with the index of its step or gets derailed. -/
theorem parameter_error {position : Nat} {p : Parameter} {f : Failure}
    (checked : p.kind.isChecked = true) (failed : parameter c.storedKeys w position p = .error f) :
    f.Rejects w.index ∨ Derails w position p f := by
  have settled := Kind.settled_of_isChecked checked
  unfold parameter at failed
  rw [settled] at failed
  cases kind : p.kind with
  | string =>
    rw [kind] at failed
    exact identifier_error (.inl kind) failed
  | id =>
    rw [kind] at failed
    exact identifier_error (.inr kind) failed
  | ed25519 =>
    simp only [kind] at failed
    split at failed
    · exact .inl (Scope.text_error checked (Outcome.map_error.mp failed))
    · rename_i existing
      exact namedKey_error kind existing failed
  | secp256k1 =>
    rw [kind] at failed
    cases failed
    exact .inl ⟨_, rfl, rfl, Rejection.message_isWhole rfl⟩
  | u64 | bool =>
    rw [kind] at failed
    cases failed
  | unchecked label =>
    rw [kind] at checked
    cases checked

theorem Derails.fails {position : Nat} {p : Parameter} {f : Failure} (derails : Derails w position p f) :
    parameter c.storedKeys w position p = .error f := by
  have identified : ∀ p : Parameter, p.kind = .string ∨ p.kind = .id →
      parameter c.storedKeys w position p = identifier w p := by
    rintro ⟨kind, value⟩ (rfl | rfl) <;> rfl
  cases derails with
  | numeral text negative digits kind spells value long =>
    obtain ⟨claimed, oversized⟩ := Reference.read_oversized_iff.mpr
      ⟨text, negative, digits, spells, value, long, rfl⟩
    rw [identified p kind, identifier, if_pos claimed, reference, oversized]
  | path path problem kind unclaimed noId text noNul blocked leads =>
    have present : problem.isAbsence = false := by rcases blocked with rfl | rfl <;> rfl
    have asked := exists_error.mpr ⟨problem, noNul, leads, present, rfl⟩
    rw [identified p kind, identifier, unclaimed, noId]
    simp [Scope.text_ok.mpr text, asked, bind, Except.bind]
  | seed name seed kind existing text stored length =>
    have corrupt := Key.find_error.mpr ⟨rfl, seed, stored, length⟩
    have settled : p.kind.settled = .ed25519 := by rw [kind]; rfl
    simp only [parameter, settled, existing, ↓reduceIte, namedKey, Scope.text_ok.mpr text, bind,
      Except.bind, Collaborators.storedKeys, corrupt]

end Resolve

end Rehearsal
