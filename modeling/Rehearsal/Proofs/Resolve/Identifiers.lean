import Rehearsal.Proofs.Bytes.HexRoundTrip
import Rehearsal.Proofs.Bytes.TextRoundTrip
import Rehearsal.Proofs.Reference.Grammar
import Rehearsal.Resolve

namespace Rehearsal

namespace Reference

theorem unclaimed_of_codes {t : String} (codes : ∀ c ∈ t.toList, c.toNat < 0x67) :
    isClaimed (Utf8.encode t) = false := by
  have ascii : ∀ c ∈ t.toList, c.toNat < 0x80 := fun c member => Nat.lt_trans (codes c member) (by decide)
  rw [← Bool.not_eq_true, isClaimed_iff]
  rintro ⟨tail, same⟩
  rw [Utf8.encode_ascii ascii] at same
  have first : Utf8.encode opening = 115 :: Utf8.encode "tep_" := by decide
  obtain ⟨c, rest, chars, lead, _⟩ := List.map_eq_cons_iff.mp (same.trans (congrArg (· ++ tail) first))
  have small := codes c (by rw [chars]; exact List.mem_cons_self)
  have byte := Utf8.toNat_byte (n := c.toNat) (by omega)
  rw [lead] at byte
  change 115 = c.toNat at byte
  omega

end Reference

namespace Identifier

/-- The values that spell an identifier. -/
inductive Spells (b : Block) : Bytes → Prop
  | raw (free : Reference.isClaimed b.bytes = false) : Spells b b.bytes
  | text {t : String} (lower : t.toLower = b.text) : Spells b (Utf8.encode t)

section

variable {b : Block} {t : String} (lower : t.toLower = b.text)

include lower

theorem digits_of_toLower : t.toList.map Char.toLower = b.bytes.flatMap Hex.pair := by
  rw [← String.toList_map]
  show t.toLower.toList = _
  rw [lower, Block.text, Hex.encode, String.toList_ofList]

theorem below_of_toLower : ∀ c ∈ t.toList, c.toNat < 0x67 := by
  intro c member
  have lowered := List.mem_map_of_mem (f := Char.toLower) member
  rw [digits_of_toLower lower] at lowered
  obtain ⟨byte, _, digit⟩ := List.mem_flatMap.mp lowered
  have bound : byte.toNat < 256 := byte.toNat_lt
  rcases List.mem_pair.mp digit with high | low
  · exact Hex.code_of_value (Hex.value_of_toLower (by omega) high).1
  · exact Hex.code_of_value (Hex.value_of_toLower (by omega) low).1

theorem encode_of_toLower : Utf8.encode t = t.toList.map fun c => UInt8.ofNat c.toNat := by
  apply Utf8.encode_ascii
  intro c member
  have := below_of_toLower lower c member
  omega

theorem length_of_toLower : (Utf8.encode t).length = 2 * blockLength := by
  have written : (b.bytes.flatMap Hex.pair).length = 2 * b.bytes.length := by
    have length := Hex.length_encode b.bytes
    rwa [Hex.encode, String.toList_ofList] at length
  rw [encode_of_toLower lower, List.length_map, ← List.length_map Char.toLower,
    digits_of_toLower lower, written, b.length_bytes]

theorem unclaimed_of_toLower : Reference.isClaimed (Utf8.encode t) = false :=
  Reference.unclaimed_of_codes (below_of_toLower lower)

theorem decode_of_toLower :
    Hex.decodeChars? ((Utf8.encode t).map fun b => Char.ofNat b.toNat) = some b.bytes := by
  have same : (Utf8.encode t).map (fun b => Char.ofNat b.toNat) = t.toList := by
    apply Utf8.chars_encode
    intro c member
    have := below_of_toLower lower c member
    omega
  rw [same]
  exact Hex.decodeChars_of_toLower b.bytes (digits_of_toLower lower)

theorem ofValue_of_toLower : ofValue? (Utf8.encode t) = some b.bytes := by
  have length := length_of_toLower lower
  have longer : (Utf8.encode t).length ≠ blockLength := by
    rw [length]
    decide
  have ascii : (Utf8.encode t).all (· < 0x80) = true := by
    rw [encode_of_toLower lower, List.all_map, List.all_eq_true]
    intro c member
    have small := below_of_toLower lower c member
    have byte := Utf8.toNat_byte (n := c.toNat) (by omega)
    simp only [Function.comp_apply, decide_eq_true_eq, UInt8.lt_iff_toNat_lt, byte]
    change c.toNat < 128
    omega
  rw [ofValue?, if_neg longer, if_pos length, if_pos ascii]
  exact decode_of_toLower lower

end

namespace Spells

variable {b : Block} {value : Bytes}

theorem ofDigits {cs : List Char} (lower : cs.map Char.toLower = b.bytes.flatMap Hex.pair) :
    Spells b (Utf8.encode (String.ofList cs)) := by
  apply text
  apply String.toList_inj.mp
  show (String.map Char.toLower (String.ofList cs)).toList = b.text.toList
  rw [String.toList_map, String.toList_ofList, lower, Block.text, Hex.encode, String.toList_ofList]

theorem unclaimed (spells : Spells b value) : Reference.isClaimed value = false := by
  cases spells with
  | raw free => exact free
  | text lower => exact unclaimed_of_toLower lower

theorem ofValue (spells : Spells b value) : ofValue? value = some b.bytes := by
  cases spells with
  | raw free => rw [ofValue?, if_pos b.length_bytes]
  | text lower => exact ofValue_of_toLower lower

end Spells

end Identifier

namespace Resolve

variable {σ : Type} {c : Collaborators σ}

theorem parameter_identifier (w : Scope σ) (position : Nat) {p : Parameter}
    (kind : p.kind.settled = .string ∨ p.kind.settled = .id) :
    parameter c w position p = identifier w p := by
  rcases kind with settled | settled <;> simp only [parameter, settled]

theorem parameter_spells (w : Scope σ) (position : Nat) {p : Parameter} {b : Block}
    (kind : p.kind.settled = .string ∨ p.kind.settled = .id) (spells : Identifier.Spells b p.value) :
    parameter c w position p = .ok ⟨p.kind.settled, b.bytes⟩ := by
  rw [parameter_identifier w position kind, identifier, spells.unclaimed]
  simp only [Bool.false_eq_true, ↓reduceIte, spells.ofValue, withValue]

/-- What begins as a reference does is a reference, be it 32 bytes long or not. -/
theorem parameter_claimed (w : Scope σ) (position : Nat) {p : Parameter}
    (kind : p.kind.settled = .string ∨ p.kind.settled = .id)
    (claimed : Reference.isClaimed p.value = true) :
    parameter c w position p = reference w p := by
  rw [parameter_identifier w position kind, identifier, if_pos claimed]

end Resolve

end Rehearsal
