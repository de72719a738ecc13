import Rehearsal.Proofs.Resolve.Alone

namespace Rehearsal

namespace Reference

def isDigitByte (b : UInt8) : Bool := 0x30 ≤ b && b ≤ 0x39

/-- The integer that the bytes behind the opening denote: an optional sign and decimal digits. -/
def Denotes (tail : Bytes) (i : Int) : Prop :=
  ∃ text negative digits, Spells text negative digits ∧ tail = Utf8.encode (String.ofList text) ∧
    i = if negative then -(Nat.ofDigitChars 10 digits 0 : Int) else Nat.ofDigitChars 10 digits 0

section

variable {text digits : List Char} {negative : Bool} {tail : Bytes} {i j : Int}

theorem number_eq (spells : Spells text negative digits) :
    number negative digits =
      if negative then -(Nat.ofDigitChars 10 digits 0 : Int) else Nat.ofDigitChars 10 digits 0 := by
  rw [number, Decimal.value_eq_ofDigitChars spells.all]

theorem isDigitByte_digit {d : Char} (digit : Decimal.isDigit d = true) :
    isDigitByte (UInt8.ofNat d.toNat) = true := by
  have bounds := isDigit_bounds digit
  have byte : (UInt8.ofNat d.toNat).toNat = d.toNat := Utf8.toNat_byte (by omega)
  simp only [isDigitByte, UInt8.le_iff_toNat_le, byte, Bool.and_eq_true, decide_eq_true_eq]
  exact bounds

theorem Spells.length_le (spells : Spells text negative digits) :
    digits.length ≤ (Utf8.encode (String.ofList text)).countP isDigitByte := by
  have bytes : Utf8.encode (String.ofList text) = text.map fun c => UInt8.ofNat c.toNat := by
    have ascii : ∀ c ∈ (String.ofList text).toList, c.toNat < 0x80 := by
      rw [String.toList_ofList]
      exact fun c member => (Text.isPlain_bounds (spells.plain c member)).2
    rw [Utf8.encode_ascii ascii, String.toList_ofList]
  have counted : (digits.map fun c => UInt8.ofNat c.toNat).countP isDigitByte = digits.length := by
    rw [List.countP_eq_length.mpr, List.length_map]
    intro b member
    obtain ⟨d, among, rfl⟩ := List.mem_map.mp member
    exact isDigitByte_digit (spells.all d among)
  rw [bytes]
  rcases spells.signed with ⟨rfl, _⟩ | ⟨rfl, _⟩ | ⟨rfl, _⟩
  · exact Nat.le_of_eq counted.symm
  all_goals
    rw [List.map_cons, List.countP_cons, counted]
    omega

theorem Denotes.read (denotes : Denotes tail i) (short : tail.countP isDigitByte ≤ Decimal.maxDigits) :
    read (Utf8.encode opening ++ tail) = .index i := by
  obtain ⟨text, negative, digits, spells, rfl, rfl⟩ := denotes
  have few := spells.length_le
  rw [← written_eq, read_written spells, if_neg (by omega), number_eq spells]

theorem Denotes.unique (first : Denotes tail i) (second : Denotes tail j)
    (short : tail.countP isDigitByte ≤ Decimal.maxDigits) : i = j :=
  Reading.index.inj ((first.read short).symm.trans (second.read short))

theorem isClaimed_opening (tail : Bytes) : isClaimed (Utf8.encode opening ++ tail) = true :=
  isClaimed_iff.mpr ⟨tail, rfl⟩

theorem read_malformed (none : ¬ ∃ i, Denotes tail i) :
    read (Utf8.encode opening ++ tail) = .malformed := by
  rcases read_cases (isClaimed_opening tail) with malformed | ⟨text, negative, digits, spells, same⟩
  · exact malformed
  · rw [written_eq] at same
    exact absurd ⟨_, text, negative, digits, spells, List.append_cancel_left same, rfl⟩ none

end

end Reference

namespace Resolve

variable {σ : Type} {c : Collaborators σ} {w : Scope σ} {position : Nat} {p : Parameter} {tail : Bytes}
  {i : Int}

theorem parameter_opening (kind : p.kind.settled = .string ∨ p.kind.settled = .id)
    (value : p.value = Utf8.encode Reference.opening ++ tail) :
    parameter c w position p = reference w p :=
  parameter_claimed w position kind (by rw [value]; exact Reference.isClaimed_opening tail)

section

variable (kind : p.kind.settled = .string ∨ p.kind.settled = .id)
  (value : p.value = Utf8.encode Reference.opening ++ tail)
include kind value

theorem parameter_mapped {b : Block} (short : tail.countP Reference.isDigitByte ≤ Decimal.maxDigits)
    (denotes : Reference.Denotes tail i) (found : w.ledger.lookup i = some b) :
    parameter c w position p = .ok ⟨p.kind.settled, b.bytes⟩ := by
  have read : Reference.read p.value = .index i := by rw [value, denotes.read short]
  rw [parameter_opening kind value, reference, read]
  simp only [found]
  rfl

theorem parameter_unmapped (short : tail.countP Reference.isDigitByte ≤ Decimal.maxDigits)
    (denotes : Reference.Denotes tail i) (absent : w.ledger.lookup i = none) :
    parameter c w position p = .error (.rejected ⟨.unmapped (Reference.shown p.value), w.index⟩) := by
  have read : Reference.read p.value = .index i := by rw [value, denotes.read short]
  rw [parameter_opening kind value, reference, read]
  simp only [absent]
  rfl

theorem parameter_malformed (none : ¬ ∃ i, Reference.Denotes tail i) :
    parameter c w position p = .error (.rejected ⟨.badReference (Reference.shown p.value), w.index⟩) := by
  have read : Reference.read p.value = .malformed := by rw [value, Reference.read_malformed none]
  rw [parameter_opening kind value, reference, read]
  rfl

theorem parameter_mapped_iff (short : tail.countP Reference.isDigitByte ≤ Decimal.maxDigits)
    {q : Parameter} :
    parameter c w position p = .ok q ↔
      ∃ i b, Reference.Denotes tail i ∧ w.ledger.lookup i = some b ∧
        q = ⟨p.kind.settled, b.bytes⟩ ∧ q.kind.label = p.kind.label := by
  constructor
  · intro resolved
    by_cases denoted : ∃ i, Reference.Denotes tail i
    · obtain ⟨i, denotes⟩ := denoted
      cases found : w.ledger.lookup i with
      | none => cases (parameter_unmapped kind value short denotes found).symm.trans resolved
      | some b =>
        cases (parameter_mapped kind value short denotes found).symm.trans resolved
        exact ⟨i, b, denotes, found, rfl, Kind.label_settled p.kind⟩
    · cases (parameter_malformed kind value denoted).symm.trans resolved
  · rintro ⟨i, b, denotes, found, rfl, _⟩
    exact parameter_mapped kind value short denotes found

theorem parameter_unresolved_iff (short : tail.countP Reference.isDigitByte ≤ Decimal.maxDigits)
    {f : Failure} :
    parameter c w position p = .error f ↔
      (¬ ∃ i b, Reference.Denotes tail i ∧ w.ledger.lookup i = some b) ∧
        ∃ cause, f = .rejected ⟨cause, w.index⟩ ∧ cause.family = .unresolvedStepReference ∧
          ((∃ i, Reference.Denotes tail i) ∧ cause = .unmapped (Reference.shown p.value) ∨
            (¬ ∃ i, Reference.Denotes tail i) ∧ cause = .badReference (Reference.shown p.value)) := by
  constructor
  · intro failed
    by_cases denoted : ∃ i, Reference.Denotes tail i
    · obtain ⟨i, denotes⟩ := denoted
      cases found : w.ledger.lookup i with
      | some b => cases (parameter_mapped kind value short denotes found).symm.trans failed
      | none =>
        cases (parameter_unmapped kind value short denotes found).symm.trans failed
        refine ⟨?_, _, rfl, rfl, .inl ⟨⟨i, denotes⟩, rfl⟩⟩
        rintro ⟨j, b, again, present⟩
        rw [again.unique denotes short, found] at present
        cases present
    · cases (parameter_malformed kind value denoted).symm.trans failed
      exact ⟨fun ⟨i, _, denotes, _⟩ => denoted ⟨i, denotes⟩, _, rfl, rfl, .inr ⟨denoted, rfl⟩⟩
  · rintro ⟨absent, _, rfl, _, ⟨⟨i, denotes⟩, rfl⟩ | ⟨none, rfl⟩⟩
    · cases found : w.ledger.lookup i with
      | some b => exact absurd ⟨i, b, denotes, found⟩ absent
      | none => exact parameter_unmapped kind value short denotes found
    · exact parameter_malformed kind value none

end

/-- A string or an identifier that begins as a reference does, with no more digits than a numeral may
have, is resolved just if an optional sign and digits follow and the ledger holds the integer that they
denote. It is then resolved to that entry, in whichever way the integer is written; otherwise it is turned
away as an unresolved reference. What files there are does not matter. -/
theorem references_are_resolved_by_number (c : Collaborators σ) (w : Scope σ) (position : Nat)
    (p : Parameter) (tail : Bytes) (kind : p.kind.settled = .string ∨ p.kind.settled = .id)
    (value : p.value = Utf8.encode Reference.opening ++ tail)
    (short : tail.countP Reference.isDigitByte ≤ Decimal.maxDigits) :
    (∀ q, parameter c w position p = .ok q ↔
      ∃ i b, Reference.Denotes tail i ∧ w.ledger.lookup i = some b ∧
        q = ⟨p.kind.settled, b.bytes⟩ ∧ q.kind.label = p.kind.label) ∧
    (∀ f, parameter c w position p = .error f ↔
      (¬ ∃ i b, Reference.Denotes tail i ∧ w.ledger.lookup i = some b) ∧
        ∃ cause, f = .rejected ⟨cause, w.index⟩ ∧ cause.family = .unresolvedStepReference ∧
          ((∃ i, Reference.Denotes tail i) ∧ cause = .unmapped (Reference.shown p.value) ∨
            (¬ ∃ i, Reference.Denotes tail i) ∧ cause = .badReference (Reference.shown p.value))) ∧
    (∀ tail' i, tail'.countP Reference.isDigitByte ≤ Decimal.maxDigits → Reference.Denotes tail i →
      Reference.Denotes tail' i → ∀ q,
        parameter c w position { p with value := Utf8.encode Reference.opening ++ tail' } = .ok q ↔
          parameter c w position p = .ok q) ∧
    ∀ files, parameter c { w with files } position p = parameter c w position p := by
  refine ⟨fun q => parameter_mapped_iff kind value short, fun f => parameter_unresolved_iff kind value short,
    ?_, ?_⟩
  · intro tail' i short' denotes denotes' q
    cases found : w.ledger.lookup i with
    | some b =>
      rw [parameter_mapped kind value short denotes found,
        parameter_mapped (by exact kind) rfl short' denotes' found]
    | none =>
      rw [parameter_unmapped kind value short denotes found,
        parameter_unmapped (by exact kind) rfl short' denotes' found]
      simp only [reduceCtorEq]
  · intro files
    rw [parameter_opening kind value, parameter_opening kind value]
    rfl

theorem zero_is_resolved_though_as_long_as_an_identifier :
    let c := Run.collaborators Run.noInterpreter
    let tail : Bytes := 0x2b :: List.replicate 26 0x30
    let p : Parameter := ⟨.id, Utf8.encode Reference.opening ++ tail⟩
    p.value.length = blockLength ∧ tail.countP Reference.isDigitByte ≤ Decimal.maxDigits ∧
      parameter c stamped 0 p = .ok ⟨.id, List.replicate 32 7⟩ := by
  intro c tail p
  have short : tail.countP Reference.isDigitByte ≤ Decimal.maxDigits := by decide
  have spells : Reference.Spells ('+' :: List.replicate 26 '0') false (List.replicate 26 '0') :=
    ⟨.inr (.inl ⟨rfl, rfl⟩), by decide, fun d member => by rw [List.eq_of_mem_replicate member]; rfl⟩
  have denotes : Reference.Denotes tail 0 :=
    ⟨_, false, _, spells, by decide, by decide⟩
  refine ⟨by decide, short, ?_⟩
  obtain ⟨resolved, _⟩ := references_are_resolved_by_number c stamped 0 p tail (.inr rfl) rfl short
  exact (resolved _).mpr ⟨0, ⟨List.replicate 32 7, rfl⟩, denotes, rfl, rfl, rfl⟩

end Resolve

end Rehearsal
