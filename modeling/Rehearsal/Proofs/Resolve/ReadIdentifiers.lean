import Rehearsal.Proofs.Bytes.HexText
import Rehearsal.Proofs.Resolve.References
import Rehearsal.Proofs.Resolve.Yields

namespace Rehearsal

namespace Identifier

def digitBytes : Bytes := Utf8.encode "0123456789abcdefABCDEF"

theorem digit_codes : ∀ code < 0x100,
    UInt8.ofNat code ∈ digitBytes ↔ (Hex.value? (Char.ofNat code)).isSome = true := by decide +kernel

theorem mem_digitBytes {b : UInt8} :
    b ∈ digitBytes ↔ (Hex.value? (Char.ofNat b.toNat)).isSome = true := by
  have code := digit_codes b.toNat b.toNat_lt
  rwa [UInt8.ofNat_toNat] at code

theorem digitBytes_ascii : ∀ b ∈ digitBytes, b.toNat < 0x80 := by decide +kernel

variable {v r : Bytes} {t : String} {n : Nat}

theorem encode_spaced (spaced : Hex.Spaced t.toList r n) :
    Utf8.encode t = t.toList.map fun c => UInt8.ofNat c.toNat := by
  apply Utf8.encode_ascii
  intro c member
  have := spaced.codes c member
  omega

theorem length_spaced (spaced : Hex.Spaced t.toList r n) : (Utf8.encode t).length = 2 * r.length + n := by
  rw [encode_spaced spaced, List.length_map, spaced.length]

theorem chars_spaced (spaced : Hex.Spaced t.toList r n) :
    (Utf8.encode t).map (fun b => Char.ofNat b.toNat) = t.toList := by
  apply Utf8.chars_encode
  intro c member
  have := spaced.codes c member
  omega

theorem ofValue_long (length : v.length = 2 * blockLength) :
    ofValue? v =
      if v.all (· < 0x80) then Hex.decodeChars? (v.map fun b => Char.ofNat b.toNat) else none := by
  have longer : v.length ≠ blockLength := by
    rw [length]
    decide
  rw [ofValue?, if_neg longer, if_pos length]

/-- What is twice as long as an identifier is read just if it is text of digit pairs and blanks. -/
theorem ofValue_text (length : v.length = 2 * blockLength) :
    ofValue? v = some r ↔ ∃ t n, v = Utf8.encode t ∧ Hex.Spaced t.toList r n := by
  rw [ofValue_long length]
  constructor
  · intro read
    split at read
    · rename_i ascii
      have small : ∀ b ∈ v, b.toNat < 0x80 := by
        simpa [UInt8.lt_iff_toNat_lt] using ascii
      obtain ⟨n, spaced⟩ := Hex.decodeChars_iff.mp read
      have written := Utf8.encode_chars small
      refine ⟨_, n, written.symm, ?_⟩
      rwa [String.toList_ofList]
    · cases read
  · rintro ⟨t, n, rfl, spaced⟩
    have ascii : (Utf8.encode t).all (· < 0x80) = true := by
      rw [encode_spaced spaced, List.all_map, List.all_eq_true]
      intro c member
      have small := spaced.codes c member
      have byte := Utf8.toNat_byte (n := c.toNat) (by omega)
      simp only [Function.comp_apply, decide_eq_true_eq, UInt8.lt_iff_toNat_lt, byte]
      change c.toNat < 128
      omega
    rw [if_pos ascii, chars_spaced spaced]
    exact Hex.decodeChars_iff.mpr ⟨n, spaced⟩

theorem ofValue_iff :
    ofValue? v = some r ↔
      v.length = blockLength ∧ r = v ∨
        v.length = 2 * blockLength ∧ ∃ t n, v = Utf8.encode t ∧ Hex.Spaced t.toList r n := by
  have lengths : 2 * blockLength ≠ blockLength := by decide
  by_cases long : v.length = 2 * blockLength
  · simp only [ofValue_text long, long, lengths, false_and, true_and, false_or]
  by_cases short : v.length = blockLength
  · simp only [ofValue?, short, lengths.symm, ↓reduceIte, Option.some.injEq, true_and, false_and, or_false,
      eq_comm]
  · simp only [ofValue?, short, long, ↓reduceIte, reduceCtorEq, false_and, or_false]

theorem lengths (read : ofValue? v = some r) :
    v.length = blockLength ∧ r.length = blockLength ∨
      v.length = 2 * blockLength ∧ ∃ t n, v = Utf8.encode t ∧ Hex.Spaced t.toList r n ∧
        2 * r.length + n = 2 * blockLength := by
  rcases ofValue_iff.mp read with ⟨short, rfl⟩ | ⟨long, t, n, rfl, spaced⟩
  · exact .inl ⟨short, short⟩
  · exact .inr ⟨long, t, n, rfl, spaced, (length_spaced spaced).symm.trans long⟩

theorem ofValue_block :
    (∃ b : Block, ofValue? v = some b.bytes) ↔
      v.length = blockLength ∨ v.length = 2 * blockLength ∧ ∀ x ∈ v, x ∈ digitBytes := by
  constructor
  · rintro ⟨b, read⟩
    rcases lengths read with ⟨short, _⟩ | ⟨long, t, n, rfl, spaced, whole⟩
    · exact .inl short
    · rw [b.length_bytes] at whole
      obtain rfl : n = 0 := by omega
      refine .inr ⟨long, fun x member => mem_digitBytes.mpr ?_⟩
      apply Hex.digits_of_spaced spaced
      rw [← chars_spaced spaced]
      exact List.mem_map_of_mem member
  · rintro (short | ⟨long, digits⟩)
    · exact ⟨⟨v, short⟩, ofValue_iff.mpr (.inl ⟨short, rfl⟩)⟩
    · have each : ∀ c ∈ v.map (fun b => Char.ofNat b.toNat), (Hex.value? c).isSome = true := by
        intro c member
        obtain ⟨x, among, rfl⟩ := List.mem_map.mp member
        exact mem_digitBytes.mp (digits x among)
      have even : (v.map fun b => Char.ofNat b.toNat).length = 2 * blockLength := by
        rw [List.length_map, long]
      obtain ⟨bytes, spaced⟩ := Hex.spaced_of_digits even each
      have whole : bytes.length = blockLength := by
        have length := spaced.length
        rw [even] at length
        omega
      have written := Utf8.encode_chars fun x member => digitBytes_ascii x (digits x member)
      refine ⟨⟨bytes, whole⟩, ofValue_iff.mpr (.inr ⟨long, _, 0, written.symm, ?_⟩)⟩
      rwa [String.toList_ofList]

end Identifier

namespace Resolve

variable {σ : Type} {c : Collaborators σ} {w : Scope σ} {position : Nat} {p q : Parameter}

theorem parameter_spaced {t : String} {r : Bytes} {n : Nat}
    (kind : p.kind.settled = .string ∨ p.kind.settled = .id) (value : p.value = Utf8.encode t)
    (long : p.value.length = 2 * blockLength) (spaced : Hex.Spaced t.toList r n) :
    parameter c w position p = .ok ⟨p.kind.settled, r⟩ := by
  have unclaimed : Reference.isClaimed p.value = false := by
    rw [value]
    exact Reference.unclaimed_of_codes spaced.codes
  exact parameter_ok.mpr
    (.identifier r kind unclaimed ((Identifier.ofValue_text long).mpr ⟨t, n, value, spaced⟩))

theorem Yields.width (yields : Yields c w position p q)
    (kind : p.kind.settled = .string ∨ p.kind.settled = .id) :
    q.value.length = blockLength ∨
      (q = p ∧ Identifier.ofValue? p.value = none ∧
        ∃ path, Utf8.decode? p.value = some path ∧ exists? w.files path = .ok true) ∨
      ∃ t n, 0 < n ∧ p.value = Utf8.encode t ∧ Hex.Spaced t.toList q.value n ∧
        2 * q.value.length + n = 2 * blockLength := by
  cases yields with
  | reference i b => exact .inl b.length_bytes
  | identifier bytes _ _ held =>
    rcases Identifier.lengths held with ⟨_, whole⟩ | ⟨_, t, n, value, spaced, length⟩
    · exact .inl whole
    · rcases Nat.eq_zero_or_pos n with rfl | blanks
      · left
        show bytes.length = blockLength
        omega
      · exact .inr (.inr ⟨t, n, blanks, value, spaced, length⟩)
  | path path _ _ noId text present => exact .inr (.inl ⟨rfl, noId, path, text, present⟩)
  | keyName _ settled | key _ _ _ settled | noKey _ settled => rw [settled] at kind; simp at kind
  | plain settled => rcases settled with settled | settled <;> rw [settled] at kind <;> simp at kind

/-- A value is read as an identifier if it is 32 bytes long, or if it is 64 bytes of hexadecimal digits in
letters of either case, with or without blanks around the pairs. The first two kinds of values give 32
bytes, and they are all that do; blanks make for fewer. So it is with what a string or an identifier is
resolved to, unless it is kept as a path. -/
theorem identifiers_are_read_from_bytes_and_digits (c : Collaborators σ) (w : Scope σ) (position : Nat) :
    (∀ v, (∃ b : Block, Identifier.ofValue? v = some b.bytes) ↔
      v.length = 32 ∨ v.length = 64 ∧ ∀ x ∈ v, x ∈ Identifier.digitBytes) ∧
    (∀ v r, Identifier.ofValue? v = some r ↔
      v.length = 32 ∧ r = v ∨
      (v.length = 64 ∧ r.length = 32 ∧ ∃ t, v = Utf8.encode t ∧ t.toLower = Hex.encode r) ∨
      v.length = 64 ∧ ∃ t n, 0 < n ∧ v = Utf8.encode t ∧ Hex.Spaced t.toList r n ∧
        2 * r.length + n = 64) ∧
    (∀ b : Block, Identifier.ofValue? (Utf8.encode b.text) = some b.bytes) ∧
    (∀ p q, p.kind.settled = .string ∨ p.kind.settled = .id → parameter c w position p = .ok q →
      q.value.length = 32 ∨
      (q = p ∧ Identifier.ofValue? p.value = none ∧
        ∃ path, Utf8.decode? p.value = some path ∧ exists? w.files path = .ok true) ∨
      ∃ t n, 0 < n ∧ p.value = Utf8.encode t ∧ Hex.Spaced t.toList q.value n ∧
        2 * q.value.length + n = 64) ∧
    ∀ p t r n, p.kind.settled = .string ∨ p.kind.settled = .id → p.value = Utf8.encode t →
      p.value.length = 64 → Hex.Spaced t.toList r n →
        parameter c w position p = .ok ⟨p.kind.settled, r⟩ := by
  refine ⟨fun v => Identifier.ofValue_block, fun v r => ?_, fun b => ?_, ?_, ?_⟩
  · rw [Identifier.ofValue_iff]
    constructor
    · rintro (short | ⟨long, t, n, rfl, spaced⟩)
      · exact .inl short
      · have length : 2 * r.length + n = 64 := (Identifier.length_spaced spaced).symm.trans long
        rcases Nat.eq_zero_or_pos n with rfl | blanks
        · exact .inr (.inl ⟨long, by omega, t, rfl, Hex.spaced_lower.mp spaced⟩)
        · exact .inr (.inr ⟨long, t, n, blanks, rfl, spaced, length⟩)
    · rintro (short | ⟨long, _, t, value, lower⟩ | ⟨long, t, n, _, value, spaced, _⟩)
      · exact .inl short
      · exact .inr ⟨long, t, 0, value, Hex.spaced_lower.mpr lower⟩
      · exact .inr ⟨long, t, n, value, spaced⟩
  · exact Identifier.ofValue_of_toLower (Hex.spaced_lower.mp (Hex.spaced_encode b.bytes))
  · exact fun p q kind resolved => (parameter_ok.mp resolved).width kind
  · exact fun p t r n kind value long spaced => parameter_spaced kind value long spaced

theorem zeros_behind_blanks_are_resolved_to_fewer_bytes :
    let c := Run.collaborators Run.noInterpreter
    let t := String.ofList (' ' :: ' ' :: List.replicate 62 '0')
    let p : Parameter := ⟨.id, Utf8.encode t⟩
    p.value.length = 64 ∧ Hex.Spaced t.toList (List.replicate 31 0) 2 ∧
      parameter c stamped 0 p = .ok ⟨.id, List.replicate 31 0⟩ := by
  intro c t p
  have long : p.value.length = 64 := by decide
  have zeros : Hex.Spaced (List.replicate 62 '0') (List.replicate 31 0) 0 :=
    Hex.spaced_zero.mpr (by decide)
  have spaced : Hex.Spaced t.toList (List.replicate 31 0) 2 := by
    rw [String.toList_ofList]
    exact .blank rfl (.blank rfl zeros)
  obtain ⟨_, _, _, _, resolved⟩ := identifiers_are_read_from_bytes_and_digits c stamped 0
  exact ⟨long, spaced, resolved p t _ 2 (.inr rfl) rfl long spaced⟩

/-- Sixty-four blanks are read as an identifier of no bytes. -/
theorem not_every_value_read_is_an_identifier :
    ¬ ∀ v r, Identifier.ofValue? v = some r ↔
      v.length = 32 ∧ r = v ∨
        v.length = 64 ∧ (∀ x ∈ v, x ∈ Identifier.digitBytes) ∧
          Hex.decodeChars? (v.map fun b => Char.ofNat b.toNat) = some r := by
  intro claimed
  have read : Identifier.ofValue? (List.replicate 64 0x20) = some [] := by decide
  rcases (claimed _ _).mp read with ⟨short, _⟩ | ⟨_, digits, _⟩
  · cases short
  · exact absurd (digits 0x20 List.mem_cons_self) (by decide)

end Resolve

end Rehearsal
