import Rehearsal.Proofs.Resolve.Derailment
import Rehearsal.Proofs.Resolve.Identifiers

namespace Rehearsal

theorem Kind.named_label : ∀ choice ∈ named, choice.2.label = choice.1 := by decide

theorem Kind.label_ofLabel (label : String) : (ofLabel label).label = label := by
  unfold ofLabel
  cases found : named.lookup label with
  | none => rfl
  | some kind =>
    obtain ⟨before, after, split, _⟩ := List.lookup_eq_some_iff.mp found
    exact named_label (label, kind) (by simp [split])

theorem Kind.label_settled (k : Kind) : k.settled.label = k.label := label_ofLabel k.label

namespace Resolve

variable {σ : Type} {c : Collaborators σ} {w : Scope σ} {position : Nat} {p q : Parameter}

/-- The ways in which a parameter is resolved, and what it is resolved to. -/
inductive Yields (c : Collaborators σ) (w : Scope σ) (position : Nat) (p : Parameter) : Parameter → Prop
  | reference (i : Int) (b : Block) (kind : p.kind.settled = .string ∨ p.kind.settled = .id)
      (claimed : Reference.isClaimed p.value = true) (read : Reference.read p.value = .index i)
      (recorded : w.ledger.lookup i = some b) : Yields c w position p (withValue p b.bytes)
  | identifier (bytes : Bytes) (kind : p.kind.settled = .string ∨ p.kind.settled = .id)
      (unclaimed : Reference.isClaimed p.value = false)
      (held : Identifier.ofValue? p.value = some bytes) : Yields c w position p (withValue p bytes)
  | path (path : String) (kind : p.kind.settled = .string ∨ p.kind.settled = .id)
      (unclaimed : Reference.isClaimed p.value = false) (noId : Identifier.ofValue? p.value = none)
      (text : Utf8.decode? p.value = some path) (present : exists? w.files path = .ok true) :
      Yields c w position p p
  /-- the name of the key that a key step creates -/
  | keyName (name : String) (kind : p.kind.settled = .ed25519)
      (first : w.endpoint.settled = .key ∧ position = 0) (text : Utf8.decode? p.value = some name) :
      Yields c w position p p
  | key (name : String) (publicKey address : Bytes) (kind : p.kind.settled = .ed25519)
      (existing : ¬ (w.endpoint.settled = .key ∧ position = 0))
      (text : Utf8.decode? p.value = some name)
      (found : c.publicKey w.state name = .ok (some publicKey))
      (addressed : Key.address publicKey = .ok address) : Yields c w position p (withValue p address)
  /-- a key step may name a key that there is not -/
  | noKey (name : String) (kind : p.kind.settled = .ed25519) (endpoint : w.endpoint.settled = .key)
      (later : position ≠ 0) (text : Utf8.decode? p.value = some name)
      (absent : c.publicKey w.state name = .ok none) : Yields c w position p p
  | plain (kind : p.kind.settled = .u64 ∨ p.kind.settled = .bool) : Yields c w position p p

theorem reference_ok :
    reference w p = .ok q ↔
      ∃ i b, Reference.read p.value = .index i ∧ w.ledger.lookup i = some b ∧
        q = withValue p b.bytes := by
  unfold reference
  cases Reference.read p.value with
  | malformed => simp [Scope.refuse]
  | oversized n => simp
  | index i =>
    cases found : w.ledger.lookup i with
    | none => simp [found, Scope.refuse]
    | some b => simp [found, eq_comm (b := q)]

theorem identifier_unclaimed_ok (unclaimed : Reference.isClaimed p.value = false) :
    identifier w p = .ok q ↔
      (∃ bytes, Identifier.ofValue? p.value = some bytes ∧ q = withValue p bytes) ∨
        Identifier.ofValue? p.value = none ∧
          ∃ path, Utf8.decode? p.value = some path ∧ exists? w.files path = .ok true ∧ q = p := by
  rw [identifier, unclaimed]
  cases Identifier.ofValue? p.value with
  | some bytes => simp [eq_comm]
  | none =>
    simp only [Bool.false_eq_true, ↓reduceIte, reduceCtorEq, false_and, exists_false, true_and, false_or]
    constructor
    · intro resolved
      obtain ⟨path, text, resolved⟩ := Outcome.bind_ok.mp resolved
      obtain ⟨present, asked, resolved⟩ := Outcome.bind_ok.mp resolved
      cases present with
      | false => cases resolved
      | true =>
        cases resolved
        exact ⟨path, Scope.text_ok.mp text, asked, rfl⟩
    · rintro ⟨path, text, asked, rfl⟩
      exact Outcome.bind_ok.mpr ⟨path, Scope.text_ok.mpr text, Outcome.bind_ok.mpr ⟨true, asked, rfl⟩⟩

theorem namedKey_ok :
    namedKey c w p = .ok q ↔
      ∃ name, Utf8.decode? p.value = some name ∧
        ((∃ publicKey address, c.publicKey w.state name = .ok (some publicKey) ∧
            Key.address publicKey = .ok address ∧ q = withValue p address) ∨
          c.publicKey w.state name = .ok none ∧ w.endpoint.settled = .key ∧ q = p) := by
  constructor
  · intro resolved
    obtain ⟨name, text, resolved⟩ := Outcome.bind_ok.mp resolved
    obtain ⟨found, asked, resolved⟩ := Outcome.bind_ok.mp resolved
    refine ⟨name, Scope.text_ok.mp text, ?_⟩
    cases found with
    | some publicKey =>
      obtain ⟨address, addressed, resolved⟩ := Outcome.bind_ok.mp resolved
      cases resolved
      exact .inl ⟨publicKey, address, asked, addressed, rfl⟩
    | none =>
      simp only at resolved
      split at resolved
      · rename_i endpoint
        cases resolved
        exact .inr ⟨asked, endpoint, rfl⟩
      · cases resolved
  · rintro ⟨name, text, ⟨publicKey, address, asked, addressed, rfl⟩ | ⟨asked, endpoint, rfl⟩⟩
    · exact Outcome.bind_ok.mpr ⟨name, Scope.text_ok.mpr text, Outcome.bind_ok.mpr
        ⟨some publicKey, asked, Outcome.bind_ok.mpr ⟨address, addressed, rfl⟩⟩⟩
    · refine Outcome.bind_ok.mpr ⟨name, Scope.text_ok.mpr text, Outcome.bind_ok.mpr ⟨none, asked, ?_⟩⟩
      simp only [endpoint, ↓reduceIte]
      rfl

theorem identifier_yields (kind : p.kind.settled = .string ∨ p.kind.settled = .id)
    (resolved : identifier w p = .ok q) : Yields c w position p q := by
  cases claimed : Reference.isClaimed p.value with
  | true =>
    rw [identifier, if_pos claimed] at resolved
    obtain ⟨i, b, read, recorded, rfl⟩ := reference_ok.mp resolved
    exact .reference i b kind claimed read recorded
  | false =>
    rcases (identifier_unclaimed_ok claimed).mp resolved with
      ⟨bytes, held, rfl⟩ | ⟨noId, path, text, present, rfl⟩
    · exact .identifier bytes kind claimed held
    · exact .path path kind claimed noId text present

theorem namedKey_yields (kind : p.kind.settled = .ed25519)
    (existing : ¬ (w.endpoint.settled = .key ∧ position = 0)) (resolved : namedKey c w p = .ok q) :
    Yields c w position p q := by
  obtain ⟨name, text, ⟨publicKey, address, asked, addressed, rfl⟩ | ⟨asked, endpoint, rfl⟩⟩ :=
    namedKey_ok.mp resolved
  · exact .key name publicKey address kind existing text asked addressed
  · exact .noKey name kind endpoint (fun first => existing ⟨endpoint, first⟩) text asked

theorem parameter_ok : parameter c w position p = .ok q ↔ Yields c w position p q := by
  constructor
  · intro resolved
    unfold parameter at resolved
    cases kind : p.kind.settled <;> simp only [kind] at resolved
    case string => exact identifier_yields (.inl kind) resolved
    case id => exact identifier_yields (.inr kind) resolved
    case ed25519 =>
      split at resolved
      · rename_i first
        obtain ⟨name, text, rfl⟩ := Outcome.map_ok.mp resolved
        exact .keyName name kind first (Scope.text_ok.mp text)
      · rename_i existing
        exact namedKey_yields kind existing resolved
    case secp256k1 => cases resolved
    case u64 =>
      cases resolved
      exact .plain (.inl kind)
    case bool =>
      cases resolved
      exact .plain (.inr kind)
    case unchecked => cases resolved
  · intro yields
    have keyed (kind : p.kind.settled = .ed25519)
        (existing : ¬ (w.endpoint.settled = .key ∧ position = 0)) :
        parameter c w position p = namedKey c w p := by
      simp only [parameter, kind, existing, ↓reduceIte]
    cases yields with
    | reference i b kind claimed read recorded =>
      rw [parameter_claimed w position kind claimed]
      exact reference_ok.mpr ⟨i, b, read, recorded, rfl⟩
    | identifier bytes kind unclaimed held =>
      rw [parameter_identifier w position kind]
      exact (identifier_unclaimed_ok unclaimed).mpr (.inl ⟨bytes, held, rfl⟩)
    | path path kind unclaimed noId text present =>
      rw [parameter_identifier w position kind]
      exact (identifier_unclaimed_ok unclaimed).mpr (.inr ⟨noId, path, text, present, rfl⟩)
    | keyName name kind first text =>
      simp only [parameter, kind, first, and_self, ↓reduceIte]
      exact Outcome.map_ok.mpr ⟨name, Scope.text_ok.mpr text, rfl⟩
    | key name publicKey address kind existing text found addressed =>
      rw [keyed kind existing]
      exact namedKey_ok.mpr ⟨name, text, .inl ⟨publicKey, address, found, addressed, rfl⟩⟩
    | noKey name kind endpoint later text absent =>
      rw [keyed kind fun first => later first.2]
      exact namedKey_ok.mpr ⟨name, text, .inr ⟨absent, endpoint, rfl⟩⟩
    | plain kind => rcases kind with settled | settled <;> simp only [parameter, settled]

namespace Yields

theorem label (yields : Yields c w position p q) : q.kind.label = p.kind.label := by
  cases yields with
  | reference | identifier | key => exact Kind.label_settled p.kind
  | path | keyName | noKey | plain => rfl

/-- What a parameter is resolved to it is also resolved to at another position and in another scope, if
that ledger has all entries of this one, and files, endpoint and keys are the same. -/
theorem carried {w' : Scope σ} {position' : Nat} (yields : Yields c w position p q)
    (kept : ∀ i b, w.ledger.lookup i = some b → w'.ledger.lookup i = some b)
    (files : w'.files = w.files) (endpoint : w'.endpoint = w.endpoint)
    (keys : ∀ name, c.publicKey w'.state name = c.publicKey w.state name)
    (first : position' = 0 ↔ position = 0) : Yields c w' position' p q := by
  cases yields with
  | reference i b kind claimed read recorded => exact .reference i b kind claimed read (kept i b recorded)
  | identifier bytes kind unclaimed held => exact .identifier bytes kind unclaimed held
  | path path kind unclaimed noId text present =>
    exact .path path kind unclaimed noId text (by rw [files]; exact present)
  | keyName name kind start text =>
    exact .keyName name kind (by rw [endpoint, first]; exact start) text
  | key name publicKey address kind existing text found addressed =>
    exact .key name publicKey address kind (by rw [endpoint, first]; exact existing) text
      (by rw [keys]; exact found) addressed
  | noKey name kind settled later text absent =>
    exact .noKey name kind (by rw [endpoint]; exact settled) (by rw [Ne, first]; exact later) text
      (by rw [keys]; exact absent)
  | plain kind => exact .plain kind

end Yields

end Resolve

end Rehearsal
