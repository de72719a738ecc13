import Rehearsal.Key.Ring
import Rehearsal.Proofs.Resolve.Derailment
import Rehearsal.Proofs.Store.Bindings

namespace Rehearsal

variable {σ : Type}

namespace State

def SameUnder (mark : UInt8) (s t : State σ) : Prop :=
  ∀ rest, t.store.get? (mark :: rest) = s.store.get? (mark :: rest)

def KeptUnder (mark : UInt8) (s t : State σ) : Prop :=
  ∀ rest value, s.store.get? (mark :: rest) = some value → t.store.get? (mark :: rest) = some value

theorem SameUnder.kept {mark : UInt8} {s t : State σ} (same : s.SameUnder mark t) :
    s.KeptUnder mark t := by
  intro rest value bound
  rw [same rest, bound]

end State

namespace Key

variable {name : String} {seed : Block} {s : State σ}

def addressOf (seed : Block) : Bytes := 0 :: (Ed25519.publicKey seed).bytes

theorem length_addressOf (seed : Block) : (addressOf seed).length = 33 := by
  simp [addressOf, (Ed25519.publicKey seed).length_bytes, blockLength]

theorem address_publicKey (seed : Block) :
    address (Ed25519.publicKey seed).bytes = .ok (addressOf seed) := address_block _

theorem find_absent {store : Store} (absent : store.get? (Store.seedKey name) = none) :
    find store name = .ok none := by
  simp only [find, absent]

theorem find_seed {store : Store} (bound : store.get? (Store.seedKey name) = some seed.bytes) :
    find store name = .ok (some (Ed25519.publicKey seed).bytes) := by
  simp only [find, bound, Block.ofBytes_bytes]

theorem create_absent (absent : s.store.get? (Store.seedKey name) = none) :
    create name s = (.ok (Ed25519.publicKey s.draws.next.1).bytes,
      { s with
        store := s.store.insert (Store.seedKey name) s.draws.next.1.bytes
        draws := s.draws.next.2 }) := by
  simp only [create, find_absent absent]

theorem create_seed (bound : s.store.get? (Store.seedKey name) = some seed.bytes) :
    create name s =
      (.error (.broken (.duplicateKey name (Ed25519.publicKey seed).bytes)), s) := by
  simp only [create, find_seed bound]

theorem create_cases (name : String) (s : State σ) :
    s.store.get? (Store.seedKey name) = none ∨
      (∃ seed : Block, s.store.get? (Store.seedKey name) = some seed.bytes) ∨
      create name s = (.error (.broken (.corruptKey name)), s) := by
  cases stored : s.store.get? (Store.seedKey name) with
  | none => exact .inl rfl
  | some bytes =>
    by_cases length : bytes.length = blockLength
    · exact .inr (.inl ⟨⟨bytes, length⟩, rfl⟩)
    · have corrupt : find s.store name = .error (.broken (.corruptKey name)) :=
        find_error.mpr ⟨rfl, bytes, stored, length⟩
      exact .inr (.inr (by simp only [create, corrupt]))

theorem create_store (name : String) (s : State σ) :
    (create name s).2.store = s.store ∨
      s.store.get? (Store.seedKey name) = none ∧
        ∃ value, (create name s).2.store = s.store.insert (Store.seedKey name) value := by
  rcases create_cases name s with absent | ⟨seed, bound⟩ | corrupt
  · exact .inr ⟨absent, _, by rw [create_absent absent]⟩
  · exact .inl (by rw [create_seed bound])
  · exact .inl (by rw [corrupt])

theorem create_keptUnder (mark : UInt8) (name : String) (s : State σ) :
    s.KeptUnder mark (create name s).2 := by
  intro rest bound present
  rcases create_store name s with same | ⟨absent, value, written⟩
  · rw [same, present]
  · rw [written, Store.get_insert_of_absent value absent present]

theorem create_sameUnder {mark : UInt8} (other : mark ≠ 0) (name : String) (s : State σ) :
    s.SameUnder mark (create name s).2 := by
  intro rest
  rcases create_store name s with same | ⟨_, value, written⟩
  · rw [same]
  · have ne : mark :: rest ≠ Store.seedKey name := fun same => other (List.cons.inj same).1
    rw [written, Store.get_insert_of_ne s.store value ne]

theorem create_otherName {other : String} (ne : other ≠ name) (s : State σ) :
    (create name s).2.store.get? (Store.seedKey other) = s.store.get? (Store.seedKey other) := by
  rcases create_store name s with same | ⟨_, value, written⟩
  · rw [same]
  · have keys : Store.seedKey other ≠ Store.seedKey name := fun same => ne (Store.seedKey_injective same)
    rw [written, Store.get_insert_of_ne s.store value keys]

end Key

namespace Draws

theorem firstFresh_absent {stream : Nat → Block} {store : Store} {fuel n m : Nat} {id : Block}
    (found : firstFresh? stream store fuel n = some (id, m)) :
    store.get? (Store.programKey id.bytes) = none := by
  induction fuel generalizing n with
  | zero => cases found
  | succ fuel ih =>
    cases taken : store.contains (Store.programKey (stream n).bytes) with
    | true =>
      rw [firstFresh?, if_pos taken] at found
      exact ih found
    | false =>
      rw [firstFresh?, if_neg (by simp [taken])] at found
      cases found
      exact Store.contains_eq_false.mp taken

theorem nextFresh_absent {d d' : Draws} {store : Store} {id : Block}
    (found : d.nextFresh? store = some (id, d')) : store.get? (Store.programKey id.bytes) = none := by
  obtain ⟨⟨block, n⟩, first, same⟩ := Option.map_eq_some_iff.mp found
  cases same
  exact firstFresh_absent first

end Draws

namespace Program

variable {files : Files} {path : String} {s : State σ}

theorem readModule_ok {code : Bytes} (done : readModule files path = .ok code) :
    files.read path = .ok code ∧ code ≠ [] := by
  unfold readModule at done
  split at done
  · cases done
  · cases found : files.read path with
    | error p =>
      rw [found] at done
      cases done
    | ok content =>
      rw [found] at done
      cases content with
      | nil => cases done
      | cons b rest =>
        cases done
        exact ⟨rfl, List.cons_ne_nil b rest⟩

/-- Creating a program fails and changes nothing, or it binds a fresh identifier to what was read. -/
theorem create_cases (files : Files) (path : String) (s : State σ) :
    (∃ f, create files path s = (.error f, s)) ∨
      ∃ (code : Bytes) (id : Block) (draws : Draws), readModule files path = .ok code ∧
        s.store.get? (Store.programKey id.bytes) = none ∧
        create files path s =
          (.ok id.bytes, { s with store := s.store.insert (Store.programKey id.bytes) code, draws }) := by
  unfold create
  cases read : readModule files path with
  | error f => exact .inl ⟨f, rfl⟩
  | ok code =>
    cases found : s.draws.nextFresh? s.store with
    | none => exact .inl ⟨_, rfl⟩
    | some fresh =>
      obtain ⟨id, draws⟩ := fresh
      exact .inr ⟨code, id, draws, rfl, Draws.nextFresh_absent found, rfl⟩

theorem create_keptUnder (mark : UInt8) (files : Files) (path : String) (s : State σ) :
    s.KeptUnder mark (create files path s).2 := by
  intro rest bound present
  rcases create_cases files path s with ⟨f, failed⟩ | ⟨code, id, draws, _, absent, made⟩
  · rw [failed, present]
  · rw [made]
    exact Store.get_insert_of_absent code absent present

theorem create_sameUnder {mark : UInt8} (other : mark ≠ 1) (files : Files) (path : String) (s : State σ) :
    s.SameUnder mark (create files path s).2 := by
  intro rest
  rcases create_cases files path s with ⟨f, failed⟩ | ⟨code, id, draws, _, _, made⟩
  · rw [failed]
  · have ne : mark :: rest ≠ Store.programKey id.bytes := fun same => other (List.cons.inj same).1
    rw [made]
    exact Store.get_insert_of_ne s.store code ne

end Program

end Rehearsal
